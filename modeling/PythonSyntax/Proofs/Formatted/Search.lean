import PythonSyntax.Proofs.Enclosed.Scan
import PythonSyntax.Proofs.LineEnding.Field

/-
Where a field ends.

The search for the end of a field stops only outside brackets and literals, and then at a brace, a
colon, or an equals or exclamation mark that is no part of an operator.  It looks ahead no further than
a run of quotes or the second character of an operator; so what it passes over does not depend on what
follows, and a text that it passes over to the end holds no field.
-/

namespace PythonSyntax.Parser

open Lexeme (startsTriple)

variable {s s' : FieldScan} {c : Char} {r text rest source : List Char} {start offset : Nat}

namespace FieldScan

/-! ## One character -/

/-- Outside literals brackets are counted, and operators are passed over. -/
theorem pass_outside (hslash : c ≠ '\\') (hq : Quoted.isQuote c = false) (d : Nat) (r : List Char) :
    FieldScan.pass ⟨d, none, 0⟩ c r =
      if c = '#' then .error .fieldComment
      else if c = '(' ∨ c = '[' ∨ c = '{' then .ok (some ⟨d + 1, none, 0⟩)
      else if c = ')' ∨ c = ']' ∨ (c = '}' ∧ 0 < d) then .ok (some ⟨d - 1, none, 0⟩)
      else if (c = '=' ∨ c = '!' ∨ c = '<' ∨ c = '>') ∧ r.head? = some '=' then
        .ok (some ⟨d, none, 1⟩)
      else if (c = '}' ∨ c = '!' ∨ c = ':' ∨ c = '=') ∧ d = 0 then .ok none
      else .ok (some ⟨d, none, 0⟩) := by
  rw [pass, if_neg hslash, hq, if_neg Bool.false_ne_true]

/-- No backslash is passed over. -/
theorem pass_slash (d : Nat) (quote : Option (Char × Nat)) (r : List Char) :
    FieldScan.pass ⟨d, quote, 0⟩ '\\' r = .error .fieldBackslash := rfl

/-- Where the search stops. -/
theorem pass_eq_none : s.pass c r = .ok none ↔
    s = ⟨0, none, 0⟩ ∧ (c = '}' ∨ c = ':' ∨ (c = '!' ∨ c = '=') ∧ r.head? ≠ some '=') := by
  constructor
  · intro h
    have hpasses := s.passes_pass c r
    rw [h] at hpasses
    cases hpasses with
    | stop hs hc => exact ⟨hs, hc⟩
  · rintro ⟨rfl, hc⟩
    have hslash : c ≠ '\\' := by rcases hc with rfl | rfl | ⟨rfl | rfl, -⟩ <;> decide
    have hq : Quoted.isQuote c = false := by rcases hc with rfl | rfl | ⟨rfl | rfl, -⟩ <;> rfl
    rw [pass_outside hslash hq]
    rcases hc with rfl | rfl | ⟨rfl | rfl, hhead⟩
    · rfl
    · rfl
    · simp [hhead]
    · simp [hhead]

/-! ## What follows -/

theorem sound_start (text : List Char) : Sound ⟨0, none, 0⟩ text := ⟨nofun, nofun⟩

/-- Nothing that is passed over is a backslash. -/
theorem Sound.passAll (h : s.Sound (text ++ rest)) (hp : passAll rest s text = some s') :
    s'.Sound rest ∧ ∀ c ∈ text, c ≠ '\\' := by
  induction text generalizing s with
  | nil =>
    cases hp
    exact ⟨h, nofun⟩
  | cons c r ih =>
    obtain ⟨s₁, hpass, hp⟩ := passAll_cons_inv hp
    obtain ⟨h₁, hc⟩ := h.pass_some hpass
    obtain ⟨h', hr⟩ := ih h₁ hp
    exact ⟨h', List.forall_mem_cons.mpr ⟨hc, hr⟩⟩

theorem quoteRun_append {q : Char} (hrest : ∀ c ∈ rest.head?, c ≠ q) :
    quoteRun q (text ++ rest) = quoteRun q text := by
  have hnone : ∀ k, (rest.take k).takeWhile (· == q) = [] := by
    intro k
    cases rest with
    | nil => rw [List.take_nil, List.takeWhile_nil]
    | cons d r =>
      cases k with
      | zero => rfl
      | succ k => exact List.takeWhile_cons_of_neg (by simpa using hrest d rfl)
  unfold quoteRun
  rw [List.take_append, List.takeWhile_append, hnone, List.append_nil]
  split
  · next h => rw [(List.takeWhile_prefix _).eq_of_length h]
  · rfl

/-- What is passed over does not depend on what follows, if that is no quote and does not complete an
operator. -/
theorem Sound.pass_append (h : s.Sound (c :: (r ++ rest)))
    (hrest : ∀ d ∈ rest.head?, Quoted.isQuote d = false)
    (hequals : r ≠ [] ∨ rest.head? ≠ some '=') : s.pass c (r ++ rest) = s.pass c r := by
  have hrun : ∀ q, Quoted.isQuote q = true → quoteRun q (c :: (r ++ rest)) = quoteRun q (c :: r) := by
    intro q hq
    refine @quoteRun_append (c :: r) _ _ fun d hd => ?_
    rintro rfl
    cases hq.symm.trans (hrest d hd)
  have hhead : (r ++ rest).head? = some '=' ↔ r.head? = some '=' := by
    cases r with
    | nil =>
      have hne := hequals.resolve_left fun hne => hne rfl
      exact ⟨fun heq => absurd heq hne, nofun⟩
    | cons => rfl
  obtain ⟨d, _ | ⟨q, n⟩, _ | k⟩ := s
  · by_cases hslash : c = '\\'
    · rw [hslash, pass_slash, pass_slash]
    cases hq : Quoted.isQuote c with
    | true =>
      have htriple : startsTriple c (c :: (r ++ rest)) = true ↔ startsTriple c (c :: r) = true := by
        rw [← three_le_quoteRun_iff, ← three_le_quoteRun_iff, hrun c hq]
      rw [pass_quote hq, pass_quote hq]
      simp only [htriple]
    | false =>
      rw [pass_outside hslash hq, pass_outside hslash hq]
      simp only [hhead]
  · rfl
  · by_cases hslash : c = '\\'
    · rw [hslash, pass_slash, pass_slash]
    · rw [pass_literal hslash, pass_literal hslash, hrun q (h.quote q n rfl)]
  · rfl

/-- The same for a text. -/
theorem Sound.passAll_append (h : s.Sound (text ++ rest))
    (hrest : ∀ d ∈ rest.head?, Quoted.isQuote d = false) (hequals : rest.head? ≠ some '=') :
    FieldScan.passAll rest s text = FieldScan.passAll [] s text := by
  induction text generalizing s with
  | nil => rfl
  | cons c r ih =>
    rw [passAll_step, passAll_step, List.append_nil, h.pass_append hrest (.inr hequals)]
    cases hpass : s.pass c r with
    | error => rfl
    | ok next =>
      cases next with
      | none => rfl
      | some s₁ =>
        rw [← h.pass_append hrest (.inr hequals)] at hpass
        exact ih (h.pass_some hpass).1

/-- A text that is passed over to its end holds no field. -/
theorem splitField_ne_ok (h : passAll rest ⟨0, none, 0⟩ text = some s')
    (hrest : ∀ d ∈ rest.head?, Quoted.isQuote d = false) (hequals : rest.head? ≠ some '=')
    {r : List Char × List Char} : splitField start ⟨0, none, 0⟩ offset text ≠ .ok r := by
  intro hr
  obtain ⟨source, tail⟩ := r
  obtain rfl := splitField_append hr
  obtain ⟨c, r, s₁, rfl, hall, hstop⟩ := splitField_iff.mp hr
  rw [(sound_start _).passAll_append hrest hequals, passAll_append, List.append_nil, hall] at h
  have hnone : passAll [] s₁ (c :: r) = none := by
    rw [passAll_step, List.append_nil, hstop]
  cases hnone.symm.trans h

end FieldScan

/-! ## Expressions of fields -/

/-- All of this text is the expression of a field, if a closing brace follows it. -/
def FillsField (e : List Char) : Prop := splitField 0 ⟨0, none, 0⟩ 0 (e ++ ['}']) = .ok (e, ['}'])

namespace FillsField

open FieldScan

variable {e x y : List Char}

theorem passAll (h : FillsField e) : FieldScan.passAll [] ⟨0, none, 0⟩ e = some ⟨0, none, 0⟩ := by
  obtain ⟨c, r, s', heq, hall, hstop⟩ := splitField_iff.mp h
  obtain rfl := (pass_eq_none.mp hstop).1
  rwa [(sound_start _).passAll_append (by rintro _ ⟨⟩; rfl) (by decide)] at hall

/-- There is no backslash in the expression of a field. -/
theorem ne_slash (h : FillsField e) : ∀ c ∈ e, c ≠ '\\' :=
  ((sound_start _).passAll h.passAll).2

/-- What else may end the expression, ends it at the same place. -/
theorem splitField_eq (h : FillsField e) (hc : c = '}' ∨ c = ':' ∨ c = '!' ∧ r.head? ≠ some '=')
    (start offset : Nat) :
    splitField start ⟨0, none, 0⟩ offset (e ++ c :: r) = .ok (e, c :: r) := by
  have hstop : FieldScan.pass ⟨0, none, 0⟩ c r = .ok none :=
    pass_eq_none.mpr ⟨rfl, hc.imp_right (.imp_right fun hc => ⟨.inl hc.1, hc.2⟩)⟩
  refine splitField_iff.mpr ⟨c, r, _, rfl, ?_, hstop⟩
  rw [(sound_start _).passAll_append, h.passAll]
  · rintro _ ⟨⟩
    rcases hc with rfl | rfl | ⟨rfl, -⟩ <;> rfl
  · rintro ⟨⟩
    rcases hc with hc | hc | ⟨hc, -⟩ <;> exact absurd hc (by decide)

/-- The search does not stop at a brace within the expression, and so a text that is cut there holds no
field. -/
theorem splitField_ne_ok (h : FillsField e) (heq : e ++ '}' :: x = source ++ '}' :: y)
    (hle : source.length ≤ e.length) {p : List Char × List Char} :
    splitField start ⟨0, none, 0⟩ offset source ≠ .ok p := by
  obtain ⟨z, rfl, hz⟩ : ∃ z, e = source ++ z ∧ ('}' :: y = z ++ '}' :: x) := by
    rcases List.append_eq_append_iff.mp heq with ⟨z, rfl, hz⟩ | ⟨z, rfl, hz⟩
    · obtain rfl : z = [] := List.eq_nil_of_length_eq_zero (by rw [List.length_append] at hle; omega)
      exact ⟨[], by simp, by simpa using hz.symm⟩
    · exact ⟨z, rfl, hz⟩
  have hall := h.passAll
  rw [passAll_append, List.append_nil] at hall
  obtain ⟨s', hall, -⟩ := Option.bind_eq_some_iff.mp hall
  have hhead : ∀ d ∈ z.head?, d = '}' := by
    intro d hd
    obtain ⟨z', rfl⟩ := List.head?_eq_some_iff.mp hd
    exact (List.cons.inj hz).1.symm
  refine FieldScan.splitField_ne_ok hall (fun d hd => ?_) fun hequals => ?_
  · rw [hhead d hd]
    rfl
  · exact absurd (hhead _ hequals) (by decide)

end FillsField

end PythonSyntax.Parser
