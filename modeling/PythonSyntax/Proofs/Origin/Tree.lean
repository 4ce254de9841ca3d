import PythonSyntax.Proofs.Origin.Stream
import PythonSyntax.Proofs.Tree.Derived

/-
Nodes that come from tokens.

`Explained root x` says where a node has from what is in it: its names are the normal forms of words of
the program, and if it is a comprehension of starred items then such an item stands in front of a clause.
A tree is `Shown` by the streams of the program if all of its nodes are explained.
-/

namespace PythonSyntax

open PythonSyntax.Parser

variable {root : List Token}

/-! ## Starred items in front of clauses -/

/-- A star and an operand, perhaps in parentheses of its own. -/
inductive IsStarItem : List Token → Prop where
  | star {t w} : t.isOp "*" = true → IsTight w → IsStarItem (t :: w)
  | group {t u w} : t.isOp "(" = true → IsStarItem w → u.isOp ")" = true → IsStarItem (t :: (w ++ [u]))

/-- In a stream a clause of a comprehension follows a starred item that stands right behind an opening
bracket. -/
def Unpacks (ts : List Token) : Prop :=
  ∃ t w us, t.opens = true ∧ IsStarItem w ∧ beginsClause us = true ∧ t :: (w ++ us) <:+ ts

namespace Node

/-! ## What is in a node -/

/-- The names in a node, apart from those of modules. -/
def identifiers : Node → List String
  | expr (.name id _) => [id]
  | expr (.attr _ name _) => [name]
  | arg a => [a.name]
  | keyword k => k.name.toList
  | handler h => h.name.toList
  | stmt (.functionDef _ name ..) | stmt (.classDef name ..) => [name]
  | stmt (.importing names) => names.flatMap fun a => a.asName.toList
  | stmt (.importFrom _ names _) =>
    (names.filter (· != ⟨"*", none⟩)).flatMap fun a => a.name :: a.asName.toList
  | stmt (.globals names) | stmt (.nonlocals names) => names
  | _ => []

/-- The names of modules in a node, with dots between their components. -/
def moduleNames : Node → List String
  | stmt (.importing names) => names.map (·.name)
  | stmt (.importFrom module? _ _) => module?.toList
  | _ => []

/-- Whether a node is a list, a set or a generator of starred items. -/
def isStarredComprehension : Node → Bool
  | expr (.listComp elt _) | expr (.setComp elt _) | expr (.generatorExp elt _) => isStarred elt
  | _ => false

/-- Whether nothing in a node needs to be explained. -/
def isClear (x : Node) : Bool := x.identifiers.isEmpty && x.moduleNames.isEmpty && !x.isStarredComprehension

/-- What is in a node comes from the streams of the program. -/
structure Explained (root : List Token) (x : Node) : Prop where
  identifiers : ∀ s ∈ x.identifiers, IsSpelled root s
  moduleNames : ∀ s ∈ x.moduleNames, IsDotted root s
  starred : x.isStarredComprehension = true → ∃ src, IsStreamOf root src ∧ Unpacks src

/-- Where a node stands in a tree does not depend on how the tree is used. -/
theorem Occurs.reuse {u v : Usage} {x y : Node} (h : Occurs u x v y) (u' : Usage) :
    ∃ v', Occurs u' x v' y := by
  induction h generalizing u' with
  | self => exact ⟨u', .self⟩
  | part hr _ ih =>
    obtain ⟨v', h⟩ := ih (Role.usage u' _)
    exact ⟨v', .part hr h⟩

/-- All nodes of a tree are explained. -/
def Shown (root : List Token) (x : Node) : Prop := ∀ u v y, Occurs u x v y → Explained root y

theorem shown_intro {x : Node} (hx : Explained root x) (hparts : ∀ p ∈ x.parts, Shown root p.2) :
    Shown root x := fun _ => every_intro (P := fun _ => Explained root) hx fun p hp => hparts p hp _

theorem Shown.explained {x : Node} (h : Shown root x) : Explained root x := h .load .load x .self

theorem Shown.part {x : Node} (h : Shown root x) {p : Role × Node} (hp : p ∈ x.parts) :
    Shown root p.2 := by
  intro u v y hy
  obtain ⟨v', hy⟩ := hy.reuse (p.1.usage .load)
  exact h .load v' y (.part hp hy)

/-- A node with names. -/
theorem shown_of_names {x : Node} (hmodules : x.moduleNames = []) (hstarred : x.isStarredComprehension = false)
    (hidentifiers : ∀ s ∈ x.identifiers, IsSpelled root s) (hparts : ∀ p ∈ x.parts, Shown root p.2) :
    Shown root x := shown_intro ⟨hidentifiers, by rw [hmodules]; nofun, by rw [hstarred]; nofun⟩ hparts

/-- A node in which there is nothing to explain. -/
theorem shown_of_parts {x : Node} (hclear : x.isClear = true) (hparts : ∀ p ∈ x.parts, Shown root p.2) :
    Shown root x := by
  simp only [isClear, Bool.and_eq_true, List.isEmpty_iff, Bool.not_eq_true'] at hclear
  exact shown_of_names hclear.1.2 hclear.2 (by rw [hclear.1.1]; nofun) hparts

/-! ## Expressions -/

variable {e t : Expr} {es : List Expr} {u : Usage}

/-- An expression of other ones, in which there is nothing else to explain. -/
theorem shown_expr {r : Role} (hparts : (expr e).parts = exprs r es) (hclear : (expr e).isClear = true)
    (hes : ∀ e ∈ es, Shown root (expr e)) : Shown root (expr e) :=
  shown_of_parts hclear (by rw [hparts]; exact forall_exprs.mpr hes)

theorem shown_constant {c : Constant} : Shown root (expr (.constant c)) := shown_of_parts rfl nofun

theorem shown_name {id : String} (h : IsSpelled root id) : Shown root (expr (.name id u)) :=
  shown_of_names rfl rfl (List.forall_mem_singleton.mpr h) nofun

theorem shown_attr {name : String} (he : Shown root (expr e)) (h : IsSpelled root name) :
    Shown root (expr (.attr e name u)) :=
  shown_of_names rfl rfl (List.forall_mem_singleton.mpr h) (forall_exprs.mpr (List.forall_mem_singleton.mpr he))

theorem shown_starred (he : Shown root (expr e)) : Shown root (expr (.starred e u)) :=
  shown_expr rfl rfl (List.forall_mem_singleton.mpr he)

theorem shown_tuple (h : ∀ e ∈ es, Shown root (expr e)) : Shown root (expr (.tuple es u)) :=
  shown_expr rfl rfl h

theorem shown_list (h : ∀ e ∈ es, Shown root (expr e)) : Shown root (expr (.list es u)) :=
  shown_expr rfl rfl h

theorem shown_pair {e e' : Expr} (he : Shown root (expr e)) (he' : Shown root (expr e')) :
    ∀ x ∈ [e, e'], Shown root (expr x) :=
  List.forall_mem_cons.mpr ⟨he, List.forall_mem_singleton.mpr he'⟩

theorem elts_of_shown {r : Role} (hparts : (expr e).parts = exprs r es) (he : Shown root (expr e)) :
    ∀ e ∈ es, Shown root (expr e) :=
  fun e' he' => he.part (p := (r, expr e')) (by rw [hparts]; exact List.mem_map_of_mem he')

/-- If two lists have a length, each entry of the second stands beside one of the first. -/
theorem exists_mem_zip {α β : Type} {as : List α} {bs : List β} {b : β} (hlen : as.length = bs.length)
    (hb : b ∈ bs) : ∃ a, (a, b) ∈ as.zip bs := by
  rw [← List.map_snd_zip hlen.ge] at hb
  obtain ⟨p, hp, rfl⟩ := List.mem_map.mp hb
  exact ⟨p.1, hp⟩

/-- A target is made of what it was. -/
theorem shown_of_retargets (h : Retargets u e t) (he : Shown root (expr e)) : Shown root (expr t) := by
  have hzip : ∀ {es ts : List Expr}, es.length = ts.length →
      (∀ p ∈ es.zip ts, Shown root (expr p.1) → Shown root (expr p.2)) →
      (∀ e ∈ es, Shown root (expr e)) → ∀ t ∈ ts, Shown root (expr t) := by
    intro es ts hlen hp hes t ht
    obtain ⟨e, he⟩ := exists_mem_zip hlen ht
    exact hp (e, t) he (hes e (List.of_mem_zip he).1)
  induction h with
  | name => exact shown_name (he.explained.identifiers _ List.mem_cons_self)
  | attr =>
    exact shown_attr (elts_of_shown rfl he _ List.mem_cons_self)
      (he.explained.identifiers _ List.mem_cons_self)
  | subscript => exact shown_of_parts rfl fun p hp => he.part hp
  | starred _ _ ih => exact shown_starred (ih (elts_of_shown rfl he _ List.mem_cons_self))
  | list hlen _ ih => exact shown_list (hzip hlen ih (elts_of_shown rfl he))
  | tuple hlen _ ih => exact shown_tuple (hzip hlen ih (elts_of_shown rfl he))

theorem shown_of_asTarget {span : Span} (h : e.asTarget u span = .ok t) (he : Shown root (expr e)) :
    Shown root (expr t) := shown_of_retargets (retargets_of_asTarget h) he

theorem shown_targets {α : Type} {f : α → Except SyntaxError Expr} {as : List α}
    (h : as.mapM f = .ok es) (hf : ∀ a ∈ as, ∀ t, f a = .ok t → Shown root (expr t)) :
    ∀ t ∈ es, Shown root (expr t) := by
  intro t ht
  obtain ⟨hlen, hall⟩ := mapM_ok h
  obtain ⟨a, ha⟩ := exists_mem_zip hlen ht
  exact hf a (List.of_mem_zip ha).1 t (hall (a, t) ha)

/-- A comprehension, of which the element is explained if it is starred. -/
theorem shown_comprehension {elts : List Expr} {generators : List Comprehension}
    (hparts : (expr e).parts = comprehensions elts generators) (hidentifiers : (expr e).identifiers = [])
    (hstarred : (expr e).isStarredComprehension = true → ∃ src, IsStreamOf root src ∧ Unpacks src)
    (helts : ∀ e ∈ elts, Shown root (expr e))
    (hgenerators : ∀ c ∈ generators, Shown root (comprehension c)) : Shown root (expr e) := by
  refine shown_intro ⟨by rw [hidentifiers]; nofun, nofun, hstarred⟩ ?_
  rw [hparts]
  exact forall_comprehensions.mpr ⟨helts, hgenerators⟩

/-- The values of a formatted string are its fields and texts. -/
theorem shown_joined {ps : List Piece} (h : ∀ e, .value e ∈ ps → Shown root (expr e)) :
    Shown root (expr (.joinedStr (merge ps))) := by
  refine shown_expr rfl rfl fun e he => ?_
  rcases mem_mergeAfter he with ⟨v, rfl, -⟩ | hp
  · exact shown_constant
  · exact h e hp

end Node

end PythonSyntax
