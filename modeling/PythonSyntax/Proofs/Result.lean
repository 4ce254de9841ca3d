import Mathlib.Tactic.Common
import PythonSyntax.SyntaxError

/-
Results of steps that may fail.

A result made of several steps is a value only if each step has one.  `Fueled` says of a result that
it is no want of fuel; no step of the language but the counting of fuel itself breaks it.
-/

namespace PythonSyntax

variable {ε α β : Type}

theorem bind_ok {x : Except ε α} {f : α → Except ε β} {b : β} (h : x >>= f = .ok b) :
    ∃ a, x = .ok a ∧ f a = .ok b := by
  cases x with
  | error e => exact nomatch h
  | ok a => exact ⟨a, rfl, h⟩

theorem map_ok {x : Except ε α} {f : α → β} {b : β} (h : x.map f = .ok b) :
    ∃ a, x = .ok a ∧ f a = b := by
  cases x with
  | error e => exact nomatch h
  | ok a => exact ⟨a, rfl, by cases h; rfl⟩

/-- A result that passes a test is a value. -/
theorem exists_of_any {x : Except ε α} {p : α → Bool} (h : x.toOption.any p = true) :
    ∃ a, x = .ok a ∧ p a = true := by
  cases x with
  | error e => exact nomatch h
  | ok a => exact ⟨a, rfl, h⟩

/-- A result that passes a test which no value does is an error. -/
theorem exists_rejection {x : Except ε α} {p : ε → Bool}
    (h : (match x with | .error e => p e | .ok _ => false) = true) :
    ∃ e, x = .error e ∧ p e = true := by
  cases x with
  | error e => exact ⟨e, rfl, h⟩
  | ok a => exact nomatch h

/-- Each entry of a list has the value at its place in the list of the values. -/
theorem mapM_ok {f : α → Except ε β} {as : List α} {bs : List β} (h : as.mapM f = .ok bs) :
    as.length = bs.length ∧ ∀ p ∈ as.zip bs, f p.1 = .ok p.2 := by
  induction as generalizing bs with
  | nil =>
    cases h
    exact ⟨rfl, nofun⟩
  | cons a as ih =>
    rw [List.mapM_cons] at h
    obtain ⟨b, hb, h⟩ := bind_ok h
    obtain ⟨bs, hbs, h⟩ := bind_ok h
    cases h
    obtain ⟨hlen, hall⟩ := ih hbs
    exact ⟨congrArg (· + 1) hlen, List.forall_mem_cons.mpr ⟨hb, hall⟩⟩

/-- Whether a result is none that speaks of fuel. -/
def Fueled (r : Except SyntaxError α) : Prop := ∀ e, r = .error e → e.cause ≠ .outOfFuel

namespace Fueled

theorem ok {a : α} : Fueled (.ok a) := nofun

theorem error {cause : Cause} {span : Span} (h : cause ≠ .outOfFuel) :
    Fueled (.error ⟨cause, span⟩ : Except SyntaxError α) := by
  rintro _ ⟨⟩
  exact h

theorem bind {r : Except SyntaxError α} {f : α → Except SyntaxError β} (hr : Fueled r)
    (hf : ∀ a, r = .ok a → Fueled (f a)) : Fueled (r >>= f) := by
  cases r with
  | error e => exact fun e' h => hr e' (by cases h; rfl)
  | ok a => exact hf a rfl

theorem map {r : Except SyntaxError α} {f : α → β} (hr : Fueled r) : Fueled (r.map f) := by
  cases r with
  | error e => exact fun e' h => hr e' (by cases h; rfl)
  | ok a => exact ok

theorem ite {c : Prop} [Decidable c] {r q : Except SyntaxError α} (hr : c → Fueled r)
    (hq : ¬ c → Fueled q) : Fueled (if c then r else q) := by
  split
  · next h => exact hr h
  · next h => exact hq h

theorem mapM {f : β → Except SyntaxError α} (bs : List β) (h : ∀ b ∈ bs, Fueled (f b)) :
    Fueled (bs.mapM f) := by
  induction bs with
  | nil => exact ok
  | cons b bs ih =>
    rw [List.mapM_cons]
    rw [List.forall_mem_cons] at h
    exact bind h.1 fun _ _ => bind (ih h.2) fun _ _ => ok

end Fueled

end PythonSyntax
