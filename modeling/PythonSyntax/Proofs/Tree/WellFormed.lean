import PythonSyntax.Proofs.Grammar.Statement
import PythonSyntax.Proofs.Tree.Node

/-
Well-formed nodes.

`Node.WellFormed` says what every node of the tree of a program satisfies: the lengths and kinds that
its constructor asks of its parts (`Node.Shape`), and the places of slices and replacement fields.
`Good u x` adds that every node in `x` says the usage of its place.  It is built from the parts of a
node by `good_intro`, and turning an expression into a target keeps it.
-/

namespace PythonSyntax

open PythonSyntax.Parser

/-! ## Kinds of expressions -/

namespace Expr

/-- Whether an expression is a slice. -/
def isSlice : Expr → Bool
  | slice .. => true
  | _ => false

/-- Whether an expression is a tuple with a slice in it. -/
def hasSlice : Expr → Bool
  | tuple elts _ => elts.any isSlice
  | _ => false

/-- Whether an expression is a replacement field. -/
def isField : Expr → Bool
  | formattedValue .. => true
  | _ => false

/-- Whether an expression is the constant of a text that is not empty. -/
def isText : Expr → Bool
  | constant (.str t) => !t.isEmpty
  | _ => false

end Expr

namespace Node

/-! ## Well-formed nodes -/

/-- What a constructor asks of its parts. -/
def Shape : Node → Prop
  | expr (.boolOp _ values) => 2 ≤ values.length
  | expr (.compare _ ops comparators) => ops.length = comparators.length ∧ 1 ≤ comparators.length
  | expr (.dict keys values) => keys.length = values.length
  | expr (.set elts) => elts ≠ []
  | expr (.listComp _ generators) | expr (.setComp _ generators)
  | expr (.dictComp _ _ generators) | expr (.generatorExp _ generators) => generators ≠ []
  | expr (.namedExpr target _) => isName target = true
  | expr (.constant (.bytes value)) => ∀ c ∈ value, c.toNat < 256
  | expr (.joinedStr values) => (∀ e ∈ values, e.isText = true ∨ e.isField = true) ∧
      values.IsChain fun e e' => ¬ (e.isText = true ∧ e'.isText = true)
  | expr (.formattedValue _ conversion formatSpec) => (∀ c ∈ conversion, isConversion c = true) ∧
      ∀ e ∈ formatSpec, ∃ values, e = .joinedStr values
  | arguments a => a.kwDefaults.length = a.kwOnly.length ∧
      a.defaults.length ≤ a.posOnly.length + a.args.length
  | stmt (.functionDef _ _ _ body _ _) | stmt (.classDef _ _ _ body _)
  | stmt (.forLoop _ _ _ body _) | stmt (.whileLoop _ body _) | stmt (.ifElse _ body _) => body ≠ []
  | stmt (.delete targets) | stmt (.assign targets _) => targets ≠ []
  | stmt (.augAssign target _ _) => target.isSingleTarget = true
  | stmt (.annAssign target _ _ simple) =>
    target.isSingleTarget = true ∧ (simple = true → isName target = true)
  | stmt (.withBlock _ items body) => items ≠ [] ∧ body ≠ []
  | stmt (.raising exc cause) => cause ≠ none → exc ≠ none
  | stmt (.tryBlock body handlers orelse finalbody) => body ≠ [] ∧
      (handlers ≠ [] ∨ finalbody ≠ []) ∧ (orelse ≠ [] → handlers ≠ []) ∧ BareLast handlers
  | stmt (.importing names) => names ≠ []
  | stmt (.importFrom module? names level) => names ≠ [] ∧ (module? = none → 1 ≤ level)
  | stmt (.globals names) | stmt (.nonlocals names) => names ≠ []
  | handler h => h.body ≠ []
  | _ => True

/-- Whether a node is a tuple. -/
def IsTuple (x : Node) : Prop := ∃ elts u, x = expr (.tuple elts u)

/-- What every node of the tree of a program satisfies. -/
structure WellFormed (x : Node) : Prop where
  shape : x.Shape
  /-- A slice is a subscript, or an element of a tuple. -/
  slice : ∀ r e, (r, expr e) ∈ x.parts → e.isSlice = true → r = .slice ∨ x.IsTuple
  /-- A tuple with a slice in it is a subscript. -/
  slices : ∀ r e, (r, expr e) ∈ x.parts → e.hasSlice = true → r = .slice
  /-- A replacement field stands in a formatted string. -/
  field : ∀ r e, (r, expr e) ∈ x.parts → e.isField = true → ∃ values, x = expr (.joinedStr values)

/-- What holds of a node and the usage of its place. -/
def Sound (u : Usage) (x : Node) : Prop := x.WellFormed ∧ ∀ v, x.usage? = some v → v = u

/-! ## Nodes that may stand anywhere -/

/-- Whether a node is none that only some places admit. -/
def Free (x : Node) : Prop :=
  ∀ e, x = expr e → e.isSlice = false ∧ e.hasSlice = false ∧ e.isField = false

/-- A node that may stand anywhere, and in which all nodes are sound. -/
def Good (u : Usage) (x : Node) : Prop := Every Sound u x ∧ x.Free

variable {u : Usage} {x : Node}

/-- A node with the right shape and good parts. -/
theorem every_of_parts (hshape : x.Shape) (husage : ∀ v, x.usage? = some v → v = u)
    (hparts : ∀ p ∈ x.parts, Good (p.1.usage u) p.2) : Every Sound u x := by
  refine every_intro ⟨⟨hshape, ?_, ?_, ?_⟩, husage⟩ fun p hp => (hparts p hp).1
  · intro r e he hs
    rw [((hparts _ he).2 e rfl).1] at hs
    exact nomatch hs
  · intro r e he hs
    rw [((hparts _ he).2 e rfl).2.1] at hs
    exact nomatch hs
  · intro r e he hs
    rw [((hparts _ he).2 e rfl).2.2] at hs
    exact nomatch hs

theorem good_intro (hfree : x.Free) (hshape : x.Shape) (husage : ∀ v, x.usage? = some v → v = u)
    (hparts : ∀ p ∈ x.parts, Good (p.1.usage u) p.2) : Good u x :=
  ⟨every_of_parts hshape husage hparts, hfree⟩

/-- A part is good unless its place admits more. -/
theorem Good.part (h : Good u x) {p : Role × Node} (hp : p ∈ x.parts) (hslice : p.1 ≠ .slice)
    (hjoined : ∀ values, x ≠ expr (.joinedStr values)) : Good (p.1.usage u) p.2 := by
  have hw := h.1.root.1
  refine ⟨h.1.part hp, fun e he => ?_⟩
  obtain ⟨r, y⟩ := p
  cases he
  refine ⟨?_, ?_, ?_⟩
  · by_contra hs
    have hs : e.isSlice = true := by simpa using hs
    rcases hw.slice r e hp hs with rfl | ⟨elts, v, rfl⟩
    · exact hslice rfl
    · have hfree := (h.2 _ rfl).2.1
      simp only [Expr.hasSlice, List.any_eq_false] at hfree
      obtain ⟨e', he', heq⟩ := List.mem_map.mp hp
      cases heq
      exact hfree e he' hs
  · by_contra hs
    exact hslice (hw.slices r e hp (by simpa using hs))
  · by_contra hs
    obtain ⟨values, hx⟩ := hw.field r e hp (by simpa using hs)
    exact hjoined values hx

theorem hasSlice_of_good {es : List Expr} {v : Usage} (h : ∀ e ∈ es, Good u (expr e)) :
    (Expr.tuple es v).hasSlice = false :=
  List.any_eq_false.mpr fun e he hs => by simp [((h e he).2 e rfl).1] at hs

/-! ## Targets -/

/-- What becomes of good expressions one by one is good. -/
theorem good_of_zip {es ts : List Expr} (hlen : es.length = ts.length)
    (h : ∀ p ∈ es.zip ts, Good .load (expr p.1) → Good u (expr p.2))
    (hes : ∀ e ∈ es, Good .load (expr e)) : ∀ t ∈ ts, Good u (expr t) := by
  intro t ht
  have hmap : (es.zip ts).map Prod.snd = ts := List.map_snd_zip (by omega)
  rw [← hmap] at ht
  obtain ⟨p, hp, rfl⟩ := List.mem_map.mp ht
  exact h p hp (hes p.1 (List.of_mem_zip hp).1)

/-- A target of a good expression is good in its new usage. -/
theorem good_of_retargets {e t : Expr} (h : Retargets u e t) (he : Good .load (expr e)) :
    Good u (expr t) := by
  have hfree : ∀ {e' : Expr}, e'.isSlice = false → e'.hasSlice = false → e'.isField = false →
      (expr e').Free := by
    rintro _ h₁ h₂ h₃ _ ⟨⟩
    exact ⟨h₁, h₂, h₃⟩
  have husage : ∀ {v}, some u = some v → v = u := fun h => (Option.some.inj h).symm
  induction h with
  | name => exact good_intro (hfree rfl rfl rfl) trivial (fun _ => husage) nofun
  | attr =>
    refine good_intro (hfree rfl rfl rfl) trivial (fun _ => husage) fun p hp => ?_
    have hrole := List.mem_singleton.mp hp
    have := he.part hp (by rw [hrole]; exact nofun) nofun
    rw [hrole] at this ⊢
    exact this
  | @subscript value slice v =>
    have hw := he.1.root.1
    refine ⟨every_intro ⟨⟨trivial, ?_, hw.slices, ?_⟩, fun _ => husage⟩ fun p hp => ?_,
      hfree rfl rfl rfl⟩
    · intro r e' he' hs
      rcases hw.slice r e' he' hs with hr | ⟨elts, w, hx⟩
      · exact .inl hr
      · exact nomatch hx
    · intro r e' he' hs
      obtain ⟨values, hx⟩ := hw.field r e' he' hs
      exact nomatch hx
    · have := he.1.part hp
      rcases List.mem_cons.mp hp with rfl | hp
      · exact this
      · rw [List.mem_singleton] at hp
        subst hp
        exact this
  | starred _ _ ih =>
    refine good_intro (hfree rfl rfl rfl) trivial (fun _ => husage) (forall_exprs.mpr ?_)
    refine List.forall_mem_singleton.mpr (ih ?_)
    exact he.part (p := (.element, _)) (List.mem_singleton.mpr rfl) nofun nofun
  | list hlen _ ih =>
    have helts := good_of_zip hlen ih fun e he' =>
      he.part (p := (.element, expr e)) (List.mem_map_of_mem he') nofun nofun
    exact good_intro (hfree rfl rfl rfl) trivial (fun _ => husage) (forall_exprs.mpr helts)
  | tuple hlen _ ih =>
    have helts := good_of_zip hlen ih fun e he' =>
      he.part (p := (.element, expr e)) (List.mem_map_of_mem he') nofun nofun
    refine good_intro (hfree rfl ?_ rfl) trivial (fun _ => husage) (forall_exprs.mpr helts)
    exact hasSlice_of_good helts

theorem good_of_retargetsAll {es ts : List Expr} (h : RetargetsAll u es ts)
    (hes : ∀ e ∈ es, Good .load (expr e)) : ∀ t ∈ ts, Good u (expr t) :=
  good_of_zip h.1 (fun p hp => good_of_retargets (h.2 p hp)) hes

theorem isSingleTarget_of_retargets {e t : Expr} (h : Retargets u e t)
    (he : e.isSingleTarget = true) : t.isSingleTarget = true := by
  cases h <;> first | rfl | exact nomatch he

theorem isName_of_retargets {e t : Expr} (h : Retargets u e t) (he : isName e = true) :
    isName t = true := by
  cases h <;> first | rfl | exact nomatch he

end Node

end PythonSyntax
