import PythonSyntax.Proofs.Result
import PythonSyntax.Target

/-
Making targets of expressions.

`Retargets u e t` says that `t` is `e` with the usage `u` on it and on all that it makes a target
of: the elements of displays and the values of starred items.  It is what `Expr.retarget` answers
with if nothing stops it, and whatever stops it is named in the refusal.
-/

namespace PythonSyntax

/-- `t` is `e` as a target of the usage `u`. -/
inductive Retargets (u : Usage) : Expr → Expr → Prop where
  | name {id v} : Retargets u (.name id v) (.name id u)
  | attr {value name v} : Retargets u (.attr value name v) (.attr value name u)
  | subscript {value slice v} : Retargets u (.subscript value slice v) (.subscript value slice u)
  | starred {e t v} : u ≠ .del → Retargets u e t → Retargets u (.starred e v) (.starred t u)
  | list {es ts v} : es.length = ts.length → (∀ p ∈ es.zip ts, Retargets u p.1 p.2) →
      Retargets u (.list es v) (.list ts u)
  | tuple {es ts v} : es.length = ts.length → (∀ p ∈ es.zip ts, Retargets u p.1 p.2) →
      Retargets u (.tuple es v) (.tuple ts u)

/-- What `Expr.retarget` answers with: a target, or a refusal of the usage. -/
def IsRetarget (u : Usage) (e : Expr) : Expr × Option Cause → Prop
  | (t, none) => Retargets u e t
  | (_, some cause) => ∃ what, cause = u.refusal what

/-- What `retargetAll` answers with: as many targets as expressions, or a refusal. -/
def AreRetargets (u : Usage) (es : List Expr) : List Expr × Option Cause → Prop
  | (ts, none) => es.length = ts.length ∧ ∀ p ∈ es.zip ts, Retargets u p.1 p.2
  | (_, some cause) => ∃ what, cause = u.refusal what

theorem retarget_spec (u : Usage) (e : Expr) : IsRetarget u e (e.retarget u) := by
  refine Expr.retarget.induct u (fun e => IsRetarget u e (e.retarget u))
    (fun es => AreRetargets u es (retargetAll u es)) ?name ?attr ?subscript ?starredDel ?starred
    ?list ?tuple ?other ?nil ?refused ?cons e
  case name => intro id v; exact .name
  case attr => intro value name v; exact .attr
  case subscript => intro value slice v; exact .subscript
  case starredDel =>
    rintro value v rfl
    exact ⟨"starred", rfl⟩
  case starred =>
    intro value v hu t refusal? ht ih
    rw [Expr.retarget, if_neg hu, ht]
    rw [ht] at ih
    cases refusal? with
    | none => exact .starred hu ih
    | some cause => exact ih
  case list =>
    intro es v ts refusal? hts ih
    rw [Expr.retarget, hts]
    rw [hts] at ih
    cases refusal? with
    | none => exact .list ih.1 ih.2
    | some cause => exact ih
  case tuple =>
    intro es v ts refusal? hts ih
    rw [Expr.retarget, hts]
    rw [hts] at ih
    cases refusal? with
    | none => exact .tuple ih.1 ih.2
    | some cause => exact ih
  case other =>
    intro e h₁ h₂ h₃ h₄ h₅ h₆
    rw [Expr.retarget.eq_7 u e h₁ h₂ h₃ h₄ h₅ h₆]
    exact ⟨e.describe, rfl⟩
  case nil => exact ⟨rfl, nofun⟩
  case refused =>
    intro e es t cause ht ih
    rw [retargetAll, ht]
    rw [ht] at ih
    exact ih
  case cons =>
    intro e es t ht ts refusal? hts ih₁ ih₂
    rw [retargetAll, ht]
    dsimp only
    rw [hts]
    rw [ht] at ih₁
    rw [hts] at ih₂
    cases refusal? with
    | none => exact ⟨congrArg (· + 1) ih₂.1, List.forall_mem_cons.mpr ⟨ih₁, ih₂.2⟩⟩
    | some cause => exact ih₂

theorem retargets_of_asTarget {u : Usage} {span : Span} {e t : Expr}
    (h : e.asTarget u span = .ok t) : Retargets u e t := by
  have hspec := retarget_spec u e
  unfold Expr.asTarget at h
  split at h
  · next ht =>
    cases h
    rw [ht] at hspec
    exact hspec
  · exact nomatch h

theorem fueled_asTarget (u : Usage) (span : Span) (e : Expr) : Fueled (e.asTarget u span) := by
  have hspec := retarget_spec u e
  unfold Expr.asTarget
  split
  · exact .ok
  · next ht =>
    rw [ht] at hspec
    obtain ⟨what, rfl⟩ := hspec
    refine .error ?_
    cases u <;> exact nofun

end PythonSyntax
