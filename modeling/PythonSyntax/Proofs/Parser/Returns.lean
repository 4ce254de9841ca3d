import PythonSyntax.Proofs.Parser.Outcome
import PythonSyntax.Proofs.Result

/-
What parsers return.

`Returns P p` says of every value of the parser `p`, whatever stream it reads, that it satisfies
`P`.  Nothing is said of the streams, and the rules that `p` refers to may be any parsers at all.
Items that are read one after the other are told apart from the streams between them.
-/

namespace PythonSyntax.Parser

variable {α β σ : Type} {P : α → Prop}

/-- All values of a parser satisfy a property. -/
def Returns (P : α → Prop) (p : Parser α) : Prop :=
  ∀ n ts a us, outcome p n ts = .ok (a, us) → P a

namespace Returns

variable {p q : Parser α}

theorem pure {a : α} (h : P a) : Returns P (pure a) := by
  intro n ts b us hb
  cases hb
  exact h

/-- The values of two parsers, one after the other, are those of the second. -/
theorem bind {P : β → Prop} {f : α → Parser β} (h : ∀ a, Returns P (f a)) :
    Returns P (p >>= f) := by
  intro n ts b us hb
  rw [outcome_bind] at hb
  obtain ⟨⟨a, vs⟩, -, hb⟩ := bind_ok hb
  exact h a n vs b us hb

/-- Like `bind`, with what is known of the values of the first parser. -/
theorem bind_of {Q : β → Prop} {f : α → Parser β} (hp : Returns P p)
    (h : ∀ a, P a → Returns Q (f a)) : Returns Q (p >>= f) := by
  intro n ts b us hb
  rw [outcome_bind] at hb
  obtain ⟨⟨a, vs⟩, ha, hb⟩ := bind_ok hb
  exact h a (hp n ts a vs ha) n vs b us hb

theorem ite {c : Prop} [Decidable c] (hp : Returns P p) (hq : Returns P q) :
    Returns P (if c then p else q) := by
  split
  · exact hp
  · exact hq

/-- Like `ite`, where the second parser runs only if the condition is false. -/
theorem ite_of_not {c : Prop} [Decidable c] (hp : Returns P p) (hq : ¬ c → Returns P q) :
    Returns P (if c then p else q) := by
  split
  · exact hp
  · next hc => exact hq hc

theorem unexpected : Returns P (unexpected : Parser α) := by
  intro n ts a us h
  rw [outcome_unexpected] at h
  cases h

theorem failAt {span : Span} {cause : Cause} : Returns P (failAt span cause : Parser α) :=
  fun _ _ _ _ h => (by cases h)

theorem fail {cause : Cause} : Returns P (fail cause : Parser α) :=
  fun _ _ _ _ h => (by cases h)

/-- What every step preserves holds of the last state. -/
theorem iterateUpTo {I : σ → Prop} {step : σ → Parser (σ × Bool)} {s : σ} (hs : I s)
    (h : ∀ s, I s → Returns (fun r => I r.1) (step s)) (bound : List Token) :
    Returns I (iterateUpTo step bound s) := by
  induction bound generalizing s with
  | nil => exact .fail
  | cons t bound ih => exact (h s hs).bind_of fun r hr => .ite (ih hr) (.pure hr)

theorem iterate {I : σ → Prop} {step : σ → Parser (σ × Bool)} {s : σ} (hs : I s)
    (h : ∀ s, I s → Returns (fun r => I r.1) (step s)) : Returns I (iterate step s) :=
  .bind fun _ => .iterateUpTo hs h _

end Returns

variable {n : Nesting} {ts us : List Token}

/-- Items that were read are none at all, or one and then further ones. -/
theorem manyUpTo_ok {item : Parser (Option α)} {bound : List Token} {xs : List α}
    (h : outcome (manyUpTo item bound) n ts = .ok (xs, us)) :
    xs = [] ∧ outcome item n ts = .ok (none, us) ∨
      ∃ x rest vs bound', xs = x :: rest ∧ outcome item n ts = .ok (some x, vs) ∧
        outcome (manyUpTo item bound') n vs = .ok (rest, us) := by
  cases bound with
  | nil => cases h
  | cons t bound =>
    rw [manyUpTo, outcome_bind] at h
    obtain ⟨⟨o, vs⟩, hitem, h⟩ := bind_ok h
    cases o with
    | none =>
      cases h
      exact .inl ⟨rfl, hitem⟩
    | some x =>
      obtain ⟨⟨rest, ws⟩, hrest, h⟩ := bind_ok h
      cases h
      exact .inr ⟨x, rest, vs, bound, rfl, hitem, hrest⟩

end PythonSyntax.Parser
