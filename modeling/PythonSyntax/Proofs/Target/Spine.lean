import PythonSyntax.Parser.Expression
import PythonSyntax.Proofs.Target
import PythonSyntax.Proofs.Tree.Node

/-
The spine of a target.

What an expression makes a target of lies on its spine: itself, and what is reached from it through
the elements of displays and the values of starred items.  `Expr.spine` lists it from left to right.
An expression is known from its spine's usages and from what is left when they are forgotten,
`bare`.  A usage goes along the spine as far as nothing refuses it: it changes the usages up to
there, and nothing else.  So an expression with nothing that refuses becomes a target in one way
only, whatever it was a target of before.
-/

namespace PythonSyntax

variable {u v : Usage} {span : Span} {e t s : Expr} {es ts : List Expr}

/-! ## Spines -/

mutual

/-- The nodes of the spine of an expression, a node in front of what is reached through it. -/
def Expr.spine : Expr → List Expr
  | .starred value u => .starred value u :: value.spine
  | .list elts u => .list elts u :: spines elts
  | .tuple elts u => .tuple elts u :: spines elts
  | e => [e]

/-- The spines of some expressions, one behind the other. -/
def spines : List Expr → List Expr
  | [] => []
  | e :: es => e.spine ++ spines es

end

mutual

/-- The expression with no usage on its spine: all of it is read. -/
def Expr.bare : Expr → Expr
  | .name id _ => .name id .load
  | .attr value name _ => .attr value name .load
  | .subscript value slice _ => .subscript value slice .load
  | .starred value _ => .starred value.bare .load
  | .list elts _ => .list (bares elts) .load
  | .tuple elts _ => .tuple (bares elts) .load
  | e => e

/-- `Expr.bare` of each expression. -/
def bares : List Expr → List Expr
  | [] => []
  | e :: es => e.bare :: bares es

end

/-- The usage of a node, if it has one. -/
abbrev Expr.usage? (e : Expr) : Option Usage := (Node.expr e).usage?

/-- Whether a node of a spine is no target of a usage. -/
def Usage.refuses (u : Usage) : Expr → Bool
  | .starred .. => u == .del
  | .name .. | .attr .. | .subscript .. | .list .. | .tuple .. => false
  | _ => true

/-- An expression that has no usage, and is no target of any. -/
structure Expr.Fixed (e : Expr) : Prop where
  usage : e.usage? = none
  bare : e.bare = e
  spine : e.spine = [e]
  isSingleTarget : e.isSingleTarget = false
  isStarred : Parser.isStarred e = false
  refuses (u : Usage) : u.refuses e = true
  retarget (u : Usage) : e.retarget u = (e, some (u.refusal e.describe))

/-- The forms of expressions that a usage passes, and all others. -/
@[elab_as_elim]
theorem Expr.spineCases {motive : Expr → Prop} (e : Expr)
    (name : ∀ id v, motive (.name id v)) (attr : ∀ value name v, motive (.attr value name v))
    (subscript : ∀ value slice v, motive (.subscript value slice v))
    (starred : ∀ value v, motive (.starred value v)) (list : ∀ elts v, motive (.list elts v))
    (tuple : ∀ elts v, motive (.tuple elts v)) (fixed : ∀ e : Expr, e.Fixed → motive e) :
    motive e := by
  cases e with
  | name id v => exact name id v
  | attr value id v => exact attr value id v
  | subscript value slice v => exact subscript value slice v
  | starred value v => exact starred value v
  | list elts v => exact list elts v
  | tuple elts v => exact tuple elts v
  | _ => exact fixed _ ⟨rfl, rfl, rfl, rfl, rfl, fun _ => rfl, fun _ => rfl⟩

/-- Induction along the spine of an expression. -/
theorem Expr.spineInduction (motive : Expr → Prop) (all : List Expr → Prop)
    (name : ∀ id v, motive (.name id v)) (attr : ∀ value name v, motive (.attr value name v))
    (subscript : ∀ value slice v, motive (.subscript value slice v))
    (starred : ∀ value v, motive value → motive (.starred value v))
    (list : ∀ elts v, all elts → motive (.list elts v))
    (tuple : ∀ elts v, all elts → motive (.tuple elts v))
    (fixed : ∀ e : Expr, e.Fixed → motive e) (nil : all [])
    (cons : ∀ e es, motive e → all es → all (e :: es)) (e : Expr) : motive e := by
  refine Expr.spine.induct motive all starred list tuple ?other nil cons e
  intro e hstarred hlist htuple
  cases e using Expr.spineCases with
  | name id v => exact name id v
  | attr value id v => exact attr value id v
  | subscript value slice v => exact subscript value slice v
  | starred value v => exact absurd rfl (hstarred value v)
  | list elts v => exact absurd rfl (hlist elts v)
  | tuple elts v => exact absurd rfl (htuple elts v)
  | fixed e h => exact fixed e h

theorem mem_spine_self (e : Expr) : e ∈ e.spine := by
  cases e using Expr.spineCases with
  | fixed e h => rw [h.spine]; exact List.mem_cons_self
  | _ => exact List.mem_cons_self

theorem spine_subset_spines (h : e ∈ es) : e.spine ⊆ spines es := by
  induction es with
  | nil => cases h
  | cons e' es ih =>
    rcases List.mem_cons.mp h with rfl | h
    · exact List.subset_append_left _ _
    · exact fun s hs => List.mem_append_right _ (ih h hs)

/-- The spine of a node of a spine is part of it. -/
theorem spine_subset (h : s ∈ e.spine) : s.spine ⊆ e.spine := by
  refine Expr.spineInduction (fun e => s ∈ e.spine → s.spine ⊆ e.spine)
    (fun es => s ∈ spines es → s.spine ⊆ spines es) ?name ?attr ?subscript ?starred ?list ?tuple
    ?fixed ?nil ?cons e h
  case name | attr | subscript =>
    intros
    next hs =>
    rw [List.mem_singleton.mp hs]
    exact List.Subset.refl _
  case starred | list | tuple =>
    intro _ _ ih hs
    rcases List.mem_cons.mp hs with rfl | hs
    · exact List.Subset.refl _
    · exact List.subset_cons_of_subset _ (ih hs)
  case fixed =>
    intro e he hs
    rw [he.spine, List.mem_singleton] at hs
    rw [hs]
    exact List.Subset.refl _
  case nil => exact nofun
  case cons =>
    intro e es ih ih' hs
    rcases List.mem_append.mp hs with hs | hs
    · exact List.subset_append_of_subset_left _ (ih hs)
    · exact List.subset_append_of_subset_right _ (ih' hs)

/-- What is reached from what is right below an expression is reached from it. -/
theorem Node.Spine.trans (h : Node.Spine e t) (hs : Node.Spine t s) : Node.Spine e s := by
  induction hs with
  | self => exact h
  | tuple _ he ih => exact .tuple ih he
  | list _ he ih => exact .list ih he
  | starred _ ih => exact .starred ih

/-- The nodes of a spine are those that are reached along it. -/
theorem mem_spine : s ∈ e.spine ↔ Node.Spine e s := by
  constructor
  · refine Expr.spineInduction (fun e => s ∈ e.spine → Node.Spine e s)
      (fun es => s ∈ spines es → ∃ e ∈ es, Node.Spine e s) ?name ?attr ?subscript ?starred ?list
      ?tuple ?fixed ?nil ?cons e
    case name | attr | subscript =>
      intros
      next hs =>
      rw [List.mem_singleton.mp hs]
      exact .self
    case starred =>
      intro value v ih hs
      rcases List.mem_cons.mp hs with rfl | hs
      · exact .self
      · exact (Node.Spine.starred .self).trans (ih hs)
    case list =>
      intro elts v ih hs
      rcases List.mem_cons.mp hs with rfl | hs
      · exact .self
      · obtain ⟨e, he, hs⟩ := ih hs
        exact (Node.Spine.list .self he).trans hs
    case tuple =>
      intro elts v ih hs
      rcases List.mem_cons.mp hs with rfl | hs
      · exact .self
      · obtain ⟨e, he, hs⟩ := ih hs
        exact (Node.Spine.tuple .self he).trans hs
    case fixed =>
      intro e he hs
      rw [he.spine, List.mem_singleton] at hs
      rw [hs]
      exact .self
    case nil => exact nofun
    case cons =>
      intro e es ih ih' hs
      rcases List.mem_append.mp hs with hs | hs
      · exact ⟨e, List.mem_cons_self, ih hs⟩
      · obtain ⟨e', he', hs⟩ := ih' hs
        exact ⟨e', List.mem_cons_of_mem _ he', hs⟩
  · intro h
    induction h with
    | self => exact mem_spine_self e
    | starred _ ih => exact spine_subset ih (List.mem_cons_of_mem _ (mem_spine_self _))
    | list _ he ih | tuple _ he ih =>
      exact spine_subset ih (List.mem_cons_of_mem _ (spine_subset_spines he (mem_spine_self _)))

/-! ## Usages forgotten -/

theorem spine_bare (e : Expr) : e.bare.spine = e.spine.map Expr.bare := by
  refine Expr.spineInduction (fun e => e.bare.spine = e.spine.map Expr.bare)
    (fun es => spines (bares es) = (spines es).map Expr.bare) ?name ?attr ?subscript ?starred ?list
    ?tuple ?fixed ?nil ?cons e
  case name | attr | subscript => intros; rfl
  case starred | list | tuple =>
    intro _ _ ih
    rw [Expr.bare, Expr.spine, Expr.spine, ih, List.map_cons, Expr.bare]
  case fixed =>
    intro e he
    rw [he.bare, he.spine, List.map_singleton, he.bare]
  case nil => rfl
  case cons =>
    intro e es ih ih'
    rw [bares, spines, spines, ih, ih', List.map_append]

/-- Forgetting usages keeps the number of nodes of a spine. -/
theorem length_spine_of_bare (h : e.bare = t.bare) : e.spine.length = t.spine.length := by
  rw [← List.length_map Expr.bare, ← spine_bare, h, spine_bare, List.length_map]

/-- What refuses a usage does so whatever its own usage is. -/
theorem refuses_bare (u : Usage) (s : Expr) : u.refuses s.bare = u.refuses s := by
  cases s using Expr.spineCases with
  | fixed s h => rw [h.bare]
  | _ => rfl

theorem refuses_of_bare (h : e.bare = t.bare) :
    (∀ s ∈ e.spine, u.refuses s = false) ↔ ∀ s ∈ t.spine, u.refuses s = false := by
  have hbare : ∀ e : Expr, (∀ s ∈ e.spine, u.refuses s = false) ↔
      ∀ s ∈ e.bare.spine, u.refuses s = false := by
    intro e
    rw [spine_bare, List.forall_mem_map]
    exact forall₂_congr fun s _ => by rw [refuses_bare]
  rw [hbare e, hbare t, h]

theorem usage?_bare (e : Expr) : e.bare.usage? = e.usage?.map fun _ => .load := by
  cases e using Expr.spineCases with
  | fixed e h => rw [h.bare, h.usage]; rfl
  | _ => rfl

/-- What has no usage is not left of an expression that has one. -/
theorem Expr.Fixed.bare_ne (h : t.Fixed) (he : e.usage? ≠ none) : e.bare ≠ t.bare := by
  intro heq
  rw [h.bare] at heq
  refine he (Option.map_eq_none_iff.mp ((usage?_bare e).symm.trans ?_))
  rw [heq, h.usage]

/-- An expression is known from its usages and from what is left without them. -/
theorem eq_of_bare (hbare : e.bare = t.bare)
    (husages : e.spine.map Expr.usage? = t.spine.map Expr.usage?) : e = t := by
  refine Expr.spineInduction
    (fun e => ∀ t : Expr, e.bare = t.bare →
      e.spine.map Expr.usage? = t.spine.map Expr.usage? → e = t)
    (fun es => ∀ ts, bares es = bares ts →
      (spines es).map Expr.usage? = (spines ts).map Expr.usage? → es = ts)
    ?name ?attr ?subscript ?starred ?list ?tuple ?fixed ?nil ?cons e t hbare husages
  case name | attr | subscript =>
    intros
    next t hbare husages =>
    cases t using Expr.spineCases with
    | fixed t ht => exact absurd hbare (ht.bare_ne nofun)
    | _ => cases hbare <;> (cases husages; rfl)
  case starred | list | tuple =>
    intro _ _ ih t hbare husages
    cases t using Expr.spineCases with
    | fixed t ht => exact absurd hbare (ht.bare_ne nofun)
    | _ =>
      first
      | cases hbare
      | injection hbare with hbelow
        obtain ⟨hu, hbelows⟩ := List.cons.inj husages
        cases hu
        rw [ih _ hbelow hbelows]
  case fixed =>
    intro e he t hbare husages
    cases t using Expr.spineCases with
    | fixed t ht => rwa [he.bare, ht.bare] at hbare
    | _ => exact absurd hbare.symm (he.bare_ne nofun)
  case nil =>
    intro ts hbare _
    cases ts with
    | nil => rfl
    | cons t ts => exact nomatch hbare
  case cons =>
    intro e es ih ih' ts hbare husages
    cases ts with
    | nil => exact nomatch hbare
    | cons t ts =>
      obtain ⟨hbare, hbares⟩ := List.cons.inj hbare
      have hlength : (e.spine.map Expr.usage?).length = (t.spine.map Expr.usage?).length := by
        rw [List.length_map, List.length_map, length_spine_of_bare hbare]
      rw [spines, spines, List.map_append, List.map_append] at husages
      obtain ⟨husage, husages⟩ := List.append_inj husages hlength
      rw [ih t hbare husage, ih' ts hbares husages]

/-! ## Usages that go along a spine -/

/-- The usages of some nodes after `u` has gone along them: up to the first that refuses it. -/
def Usage.along (u : Usage) (ss : List Expr) : List (Option Usage) :=
  (ss.takeWhile (!u.refuses ·)).map (fun _ => some u) ++
    (ss.dropWhile (!u.refuses ·)).map Expr.usage?

/-- The first of some nodes that refuses `u`, said as a refusal. -/
def Usage.refusal? (u : Usage) (ss : List Expr) : Option Cause :=
  (ss.find? u.refuses).map fun s => u.refusal s.describe

theorem along_of_refuses (h : u.refuses s = true) :
    u.along (s :: es) = (s :: es).map Expr.usage? := by
  simp [Usage.along, h]

theorem along_cons (h : u.refuses s = false) : u.along (s :: es) = some u :: u.along es := by
  simp [Usage.along, h]

theorem refusal?_cons (h : u.refuses s = false) : u.refusal? (s :: es) = u.refusal? es := by
  simp [Usage.refusal?, h]

/-- A usage goes on behind nodes none of which refuses it, and not behind others. -/
theorem along_append : u.along (es ++ ts) =
    if (u.refusal? es).isSome then u.along es ++ ts.map Expr.usage?
    else u.along es ++ u.along ts := by
  induction es with
  | nil => rfl
  | cons s es ih =>
    cases h : u.refuses s with
    | true => simp [along_of_refuses h, Usage.refusal?, h]
    | false =>
      rw [List.cons_append, along_cons h, along_cons h, refusal?_cons h, ih]
      split <;> rfl

theorem refusal?_append : u.refusal? (es ++ ts) = (u.refusal? es).or (u.refusal? ts) := by
  rw [Usage.refusal?, List.find?_append, Option.map_or]
  rfl

/-- What a usage makes of an expression. -/
structure Expr.Along (u : Usage) (e : Expr) (r : Expr × Option Cause) : Prop where
  bare : r.1.bare = e.bare
  usages : r.1.spine.map Expr.usage? = u.along e.spine
  refusal : r.2 = u.refusal? e.spine

/-- What a usage makes of some expressions. -/
structure AllAlong (u : Usage) (es : List Expr) (r : List Expr × Option Cause) : Prop where
  bare : bares r.1 = bares es
  usages : (spines r.1).map Expr.usage? = u.along (spines es)
  refusal : r.2 = u.refusal? (spines es)

theorem refusal?_of_refuses (h : u.refuses s = true) :
    u.refusal? (s :: es) = some (u.refusal s.describe) := by
  simp [Usage.refusal?, h]

/-- An expression goes along its spine, and changes nothing else. -/
theorem retarget_along (u : Usage) (e : Expr) : e.Along u (e.retarget u) := by
  refine Expr.spineInduction (fun e => e.Along u (e.retarget u))
    (fun es => AllAlong u es (retargetAll u es))
    ?name ?attr ?subscript ?starred ?list ?tuple ?fixed ?nil ?cons e
  case name | attr | subscript =>
    intros
    exact ⟨rfl, rfl, rfl⟩
  case starred =>
    intro value v ih
    rw [Expr.retarget]
    split
    · next hdel =>
      have hrefuses : u.refuses (.starred value v) = true := by rw [hdel]; rfl
      refine ⟨rfl, (along_of_refuses hrefuses).symm, ?_⟩
      rw [Expr.spine, refusal?_of_refuses hrefuses, hdel]
      rfl
    · next hdel =>
      have hrefuses : u.refuses (.starred value v) = false := beq_eq_false_iff_ne.mpr hdel
      refine ⟨congrArg (Expr.starred · .load) ih.bare, ?_, ?_⟩
      · rw [Expr.spine, Expr.spine, along_cons hrefuses, ← ih.usages]
        rfl
      · rw [Expr.spine, refusal?_cons hrefuses, ← ih.refusal]
  case list =>
    intro elts v ih
    refine ⟨congrArg (Expr.list · .load) ih.bare, ?_, ?_⟩
    · rw [Expr.spine, along_cons rfl, ← ih.usages]
      rfl
    · rw [Expr.spine, refusal?_cons rfl, ← ih.refusal]
      rfl
  case tuple =>
    intro elts v ih
    refine ⟨congrArg (Expr.tuple · .load) ih.bare, ?_, ?_⟩
    · rw [Expr.spine, along_cons rfl, ← ih.usages]
      rfl
    · rw [Expr.spine, refusal?_cons rfl, ← ih.refusal]
      rfl
  case fixed =>
    intro e he
    rw [he.retarget]
    refine ⟨rfl, ?_, ?_⟩
    · rw [he.spine, along_of_refuses (he.refuses u)]
    · rw [he.spine, refusal?_of_refuses (he.refuses u)]
  case nil => exact ⟨rfl, rfl, rfl⟩
  case cons =>
    intro e es ih ih'
    rw [retargetAll]
    generalize e.retarget u = r at ih
    obtain ⟨t, refusal?⟩ := r
    obtain ⟨hbare, husages, hrefusal⟩ := ih
    dsimp only at hbare husages hrefusal
    cases refusal? with
    | some refusal =>
      refine ⟨congrArg (· :: bares es) hbare, ?_, ?_⟩
      · rw [spines, spines, along_append, ← hrefusal, if_pos Option.isSome_some, List.map_append,
          husages]
      · rw [spines, refusal?_append, ← hrefusal]
        rfl
    | none =>
      refine ⟨congrArg₂ List.cons hbare ih'.bare, ?_, ?_⟩
      · rw [spines, spines, along_append, ← hrefusal, if_neg (by decide), ← husages, ← ih'.usages,
          ← List.map_append]
      · rw [spines, refusal?_append, ← hrefusal, ← ih'.refusal]
        rfl

/-! ## Targets -/

theorem refusal?_eq_none : u.refusal? es = none ↔ ∀ s ∈ es, u.refuses s = false := by
  rw [Usage.refusal?, Option.map_eq_none_iff, List.find?_eq_none]
  exact forall₂_congr fun s _ => by rw [Bool.not_eq_true]

theorem along_eq_of_accepts (h : ∀ s ∈ es, u.refuses s = false) :
    u.along es = es.map fun _ => some u := by
  induction es with
  | nil => rfl
  | cons s es ih =>
    rw [List.forall_mem_cons] at h
    rw [along_cons h.1, ih h.2, List.map_cons]

/-- The expression is a target if nothing on its spine refuses, and then it is the one that has the
usage all along and is the same without usages. -/
theorem asTarget_eq_ok : e.asTarget u span = .ok t ↔
    (∀ s ∈ e.spine, u.refuses s = false) ∧ t.bare = e.bare ∧ ∀ s ∈ t.spine, s.usage? = some u := by
  have halong := retarget_along u e
  unfold Expr.asTarget
  generalize e.retarget u = r at halong
  obtain ⟨t', refusal?⟩ := r
  obtain ⟨hbare, husages, hrefusal⟩ := halong
  dsimp only at hbare husages hrefusal
  cases refusal? with
  | some refusal =>
    refine iff_of_false nofun fun h => ?_
    rw [refusal?_eq_none.mpr h.1] at hrefusal
    cases hrefusal
  | none =>
    have haccepts := refusal?_eq_none.mp hrefusal.symm
    rw [along_eq_of_accepts haccepts] at husages
    constructor
    · rintro ⟨⟩
      refine ⟨haccepts, hbare, fun s hs => ?_⟩
      have hmem : s.usage? ∈ e.spine.map fun _ => some u := husages ▸ List.mem_map_of_mem hs
      obtain ⟨_, -, hs⟩ := List.mem_map.mp hmem
      exact hs.symm
    · rintro ⟨-, hbare', husages'⟩
      refine congrArg Except.ok (eq_of_bare (hbare.trans hbare'.symm) ?_)
      rw [husages, List.map_congr_left husages', List.map_const', List.map_const',
        length_spine_of_bare hbare']

theorem retarget_of_asTarget (h : e.asTarget u span = .ok t) : e.retarget u = (t, none) := by
  unfold Expr.asTarget at h
  split at h
  · next heq =>
    cases h
    exact heq
  · cases h

theorem exists_asTarget :
    (∃ t, e.asTarget u span = .ok t) ↔ ∀ s ∈ e.spine, u.refuses s = false := by
  refine ⟨fun ⟨t, ht⟩ => (asTarget_eq_ok.mp ht).1, fun h => ?_⟩
  have hnone : (e.retarget u).2 = none :=
    (retarget_along u e).refusal.trans (refusal?_eq_none.mpr h)
  unfold Expr.asTarget
  split
  · exact ⟨_, rfl⟩
  · next heq =>
    rw [heq] at hnone
    cases hnone

/-- What a usage passes: the targets of one name, displays, and starred items unless they are
deleted. -/
theorem refuses_eq_false : u.refuses s = false ↔
    (s.isSingleTarget = true ∨ (∃ elts v, s = .list elts v ∨ s = .tuple elts v) ∨
      Parser.isStarred s = true) ∧ (u = .del → Parser.isStarred s = false) := by
  cases s using Expr.spineCases with
  | starred value v =>
    refine beq_eq_false_iff_ne.trans ⟨fun h => ⟨.inr (.inr rfl), fun hu => absurd hu h⟩, ?_⟩
    exact fun h hu => nomatch h.2 hu
  | list elts v => exact iff_of_true rfl ⟨.inr (.inl ⟨elts, v, .inl rfl⟩), fun _ => rfl⟩
  | tuple elts v => exact iff_of_true rfl ⟨.inr (.inl ⟨elts, v, .inr rfl⟩), fun _ => rfl⟩
  | fixed s h =>
    refine iff_of_false (by rw [h.refuses]; exact Bool.noConfusion) ?_
    rw [h.isSingleTarget, h.isStarred]
    rintro ⟨hs | ⟨elts, v, rfl | rfl⟩ | hs, -⟩
    · cases hs
    · exact nomatch h.usage
    · exact nomatch h.usage
    · cases hs
  | _ => exact iff_of_true rfl ⟨.inl rfl, fun _ => rfl⟩

theorem message_refusal (u : Usage) (what : String) : (u.refusal what).message =
    (if u = .del then "cannot delete " else "cannot assign to ") ++ what := by
  cases u <;> rfl

/-- A usage is refused for the first node of the spine that refuses it.  What is in front of this
node has the usage then, and nothing else is changed. -/
theorem asTarget_eq_error {err : SyntaxError} (h : e.asTarget u span = .error err) :
    ∃ before s after, e.spine = before ++ s :: after ∧ (∀ x ∈ before, u.refuses x = false) ∧
      u.refuses s = true ∧ err.span = span ∧
      err.cause.message =
        (if u = .del then "cannot delete " else "cannot assign to ") ++ s.describe ∧
      (e.retarget u).1.bare = e.bare ∧
      (e.retarget u).1.spine.map Expr.usage? =
        before.map (fun _ => some u) ++ (s :: after).map Expr.usage? := by
  obtain ⟨hbare, husages, hrefusal⟩ := retarget_along u e
  unfold Expr.asTarget at h
  split at h
  · cases h
  · next t refusal heq =>
    cases h
    rw [heq] at hbare husages hrefusal ⊢
    obtain ⟨s, hfind, rfl⟩ := Option.map_eq_some_iff.mp hrefusal.symm
    obtain ⟨hs, before, after, hspine, hbefore⟩ := List.find?_eq_some_iff_append.mp hfind
    have hpasses : ∀ x ∈ before, u.refuses x = false :=
      fun x hx => (Bool.not_eq_true' _).mp (hbefore x hx)
    refine ⟨before, s, after, hspine, hpasses, hs, rfl, message_refusal u _, hbare, ?_⟩
    rw [husages, hspine, along_append, refusal?_eq_none.mpr hpasses, along_of_refuses hs,
      along_eq_of_accepts hpasses]
    rfl

/-- A usage makes a target of an expression just if nothing on its spine refuses it.  The target is
the expression with this usage on its spine and nothing else changed, so what is made of it is what
is made of the expression itself.  Where something refuses, the first on the spine is named, and
what is in front of it has the usage already. -/
theorem asTarget_spine (u : Usage) (span : Span) (e : Expr) :
    ((∃ t, e.asTarget u span = .ok t) ↔
        (∀ s, Node.Spine e s → s.isSingleTarget = true ∨
          (∃ elts v, s = .list elts v ∨ s = .tuple elts v) ∨ Parser.isStarred s = true) ∧
        (u = .del → ∀ s, Node.Spine e s → Parser.isStarred s = false)) ∧
      (∀ t, e.asTarget u span = .ok t →
        e.retarget u = (t, none) ∧ t.bare = e.bare ∧ (∀ s ∈ t.spine, s.usage? = some u) ∧
          t.asTarget u span = .ok t ∧
          ∀ v span' t', t.asTarget v span' = .ok t' → e.asTarget v span' = .ok t') ∧
      ∀ err, e.asTarget u span = .error err →
        ∃ before s after, e.spine = before ++ s :: after ∧ (∀ x ∈ before, u.refuses x = false) ∧
          u.refuses s = true ∧ err.span = span ∧
          err.cause.message =
            (if u = .del then "cannot delete " else "cannot assign to ") ++ s.describe ∧
          (e.retarget u).1.bare = e.bare ∧
          (e.retarget u).1.spine.map Expr.usage? =
            before.map (fun _ => some u) ++ (s :: after).map Expr.usage? := by
  refine ⟨?_, fun t ht => ?_, fun err herr => asTarget_eq_error herr⟩
  · rw [exists_asTarget]
    simp only [refuses_eq_false, mem_spine, forall_and]
    exact and_congr_right fun _ => ⟨fun h hu s hs => h s hs hu, fun h s hs hu => h hu s hs⟩
  · obtain ⟨haccepts, hbare, husages⟩ := asTarget_eq_ok.mp ht
    refine ⟨retarget_of_asTarget ht, hbare, husages, ?_, fun v span' t' ht' => ?_⟩
    · exact asTarget_eq_ok.mpr ⟨(refuses_of_bare hbare).mpr haccepts, rfl, husages⟩
    · obtain ⟨haccepts', hbare', husages'⟩ := asTarget_eq_ok.mp ht'
      exact asTarget_eq_ok.mpr
        ⟨(refuses_of_bare hbare).mp haccepts', hbare'.trans hbare, husages'⟩

/-- A tuple with a starred display in it can be assigned to, and not deleted. -/
theorem asTarget_spine_starred :
    let item (u : Usage) : Expr := .attr (.name "b" .load) "c" u
    let e (u : Usage) : Expr := .tuple [.name "a" u, .starred (.list [item u] u) u] u
    ((e .load).asTarget .store ⟨0, 5⟩ = .ok (e .store) ∧ (e .store).bare = (e .load).bare ∧
      ∀ s ∈ (e .store).spine, s.usage? = some .store) ∧
    ∃ err s, (e .load).asTarget .del ⟨0, 5⟩ = .error err ∧ s ∈ (e .load).spine ∧
      err.cause.message = "cannot delete " ++ s.describe := by
  intro item e
  have hok : (e .load).asTarget .store ⟨0, 5⟩ = .ok (e .store) := rfl
  have herror : ∃ err, (e .load).asTarget .del ⟨0, 5⟩ = .error err := ⟨_, rfl⟩
  obtain ⟨err, herr⟩ := herror
  obtain ⟨-, hbare, husages, -⟩ := (asTarget_spine .store ⟨0, 5⟩ (e .load)).2.1 _ hok
  obtain ⟨before, s, after, hspine, -, -, -, hmessage, -⟩ :=
    (asTarget_spine .del ⟨0, 5⟩ (e .load)).2.2 _ herr
  refine ⟨⟨hok, hbare, husages⟩, err, s, herr, ?_, hmessage⟩
  rw [hspine]
  exact List.mem_append_right before List.mem_cons_self

end PythonSyntax
