import Mathlib.Data.List.TakeWhile
import PythonSyntax.Source

/-
Line endings of a text.

`LineEnding.spell` writes every line feed of a text as a line ending.  What looks at a text only
through classes of characters that do not tell a carriage return from a line feed sees the same in
both; the lemmas below say so of the functions on lists that the language is made of.
-/

namespace PythonSyntax

/-- How the lines of a text end. -/
inductive LineEnding where
  | lf
  | crlf
deriving DecidableEq, Repr

namespace LineEnding

/-- The characters at the end of a line. -/
def text : LineEnding → List Char
  | lf => ['\n']
  | crlf => ['\r', '\n']

/-- A text with every line feed written as the ending. -/
def spell (e : LineEnding) (s : List Char) : List Char :=
  s.flatMap fun c => if c = '\n' then e.text else [c]

variable {e : LineEnding} {a b s w : List Char} {c : Char} {p : Char → Bool}

@[simp] theorem spell_nil : e.spell [] = [] := rfl

@[simp] theorem spell_break (s : List Char) : e.spell ('\n' :: s) = e.text ++ e.spell s := rfl

theorem spell_cons (hc : c ≠ '\n') (s : List Char) : e.spell (c :: s) = c :: e.spell s := by
  simp [spell, hc]

theorem spell_append (a b : List Char) : e.spell (a ++ b) = e.spell a ++ e.spell b :=
  List.flatMap_append

/-- A text of one line is the same under every ending. -/
theorem spell_eq_self (h : '\n' ∉ s) : e.spell s = s := by
  induction s with
  | nil => rfl
  | cons c s ih =>
    rw [List.mem_cons, not_or] at h
    rw [spell_cons (Ne.symm h.1), ih h.2]

theorem spell_lf (s : List Char) : lf.spell s = s := by
  induction s with
  | nil => rfl
  | cons c s ih =>
    by_cases hc : c = '\n'
    · subst hc
      rw [spell_break, ih]
      rfl
    · rw [spell_cons hc, ih]

theorem length_le_spell (s : List Char) : s.length ≤ (e.spell s).length := by
  induction s with
  | nil => exact Nat.le_refl _
  | cons c s ih =>
    by_cases hc : c = '\n'
    · subst hc
      have htext : 1 ≤ e.text.length := by cases e <;> decide
      rw [spell_break, List.length_append, List.length_cons]
      omega
    · rw [spell_cons hc, List.length_cons, List.length_cons]
      omega

/-- A character that belongs to no line break stands in both texts or in neither. -/
theorem mem_spell (hn : c ≠ '\n') (hr : c ≠ '\r') : c ∈ e.spell s ↔ c ∈ s := by
  have htext : c ∉ e.text := by
    cases e with
    | lf => simpa [text] using hn
    | crlf => simpa [text] using ⟨hr, hn⟩
  induction s with
  | nil => exact Iff.rfl
  | cons d s ih =>
    by_cases hd : d = '\n'
    · subst hd
      simp [spell_break, ih, htext, hn]
    · simp [spell_cons hd, ih]

theorem spell_eq_nil : e.spell s = [] ↔ s = [] := by
  constructor
  · intro h
    have := length_le_spell (e := e) s
    rw [h] at this
    exact List.length_eq_zero_iff.mp (Nat.le_zero.mp this)
  · rintro rfl
    rfl

/-- The part of a spelled text that a part of the text becomes. -/
theorem take_spell (n : Nat) (s : List Char) :
    (e.spell s).take (e.spell (s.take n)).length = e.spell (s.take n) := by
  have hsplit : e.spell s = e.spell (s.take n) ++ e.spell (s.drop n) := by
    rw [← spell_append, List.take_append_drop]
  rw [hsplit, List.take_left]

theorem drop_spell (n : Nat) (s : List Char) :
    (e.spell s).drop (e.spell (s.take n)).length = e.spell (s.drop n) := by
  have hsplit : e.spell s = e.spell (s.take n) ++ e.spell (s.drop n) := by
    rw [← spell_append, List.take_append_drop]
  rw [hsplit, List.drop_left]

/-- A part that ends before the first line break is the same. -/
theorem take_spell_of_line {n : Nat} (h : '\n' ∉ s.take n) : (e.spell s).take n = s.take n := by
  induction n generalizing s with
  | zero => rfl
  | succ n ih =>
    cases s with
    | nil => rfl
    | cons c s =>
      rw [List.take_succ_cons, List.mem_cons, not_or] at h
      rw [spell_cons (Ne.symm h.1), List.take_succ_cons, List.take_succ_cons, ih h.2]

theorem drop_spell_of_line {n : Nat} (h : '\n' ∉ s.take n) :
    (e.spell s).drop n = e.spell (s.drop n) := by
  induction n generalizing s with
  | zero => rfl
  | succ n ih =>
    cases s with
    | nil => rfl
    | cons c s =>
      rw [List.take_succ_cons, List.mem_cons, not_or] at h
      rw [spell_cons (Ne.symm h.1), List.drop_succ_cons, List.drop_succ_cons, ih h.2]

/-- A part with a line break is one with a line break. -/
theorem break_mem_take {n : Nat} (h : '\n' ∈ s.take n) :
    ∃ c ∈ (e.spell s).take n, c = '\n' ∨ c = '\r' := by
  induction n generalizing s with
  | zero => exact nomatch h
  | succ n ih =>
    cases s with
    | nil => exact nomatch h
    | cons c s =>
      by_cases hc : c = '\n'
      · subst hc
        cases e with
        | lf => exact ⟨'\n', List.mem_cons_self, .inl rfl⟩
        | crlf => exact ⟨'\r', List.mem_cons_self, .inr rfl⟩
      · rw [List.take_succ_cons, List.mem_cons] at h
        obtain ⟨d, hd, hbreak⟩ := ih (h.resolve_left (Ne.symm hc))
        rw [spell_cons hc]
        exact ⟨d, List.mem_cons_of_mem _ hd, hbreak⟩

/-- The first character of a line that is not empty stays. -/
theorem head?_spell (hn : c ≠ '\n') (hr : c ≠ '\r') :
    (e.spell s).head? = some c ↔ s.head? = some c := by
  cases s with
  | nil => rfl
  | cons d s =>
    by_cases hd : d = '\n'
    · subst hd
      have hne : ('\n' : Char) ≠ c := Ne.symm hn
      have hre : ('\r' : Char) ≠ c := Ne.symm hr
      cases e <;> simp [spell_break, text, hne, hre]
    · rw [spell_cons hd]
      rfl

/-- A word of one line begins a text if it begins the spelled one. -/
theorem isPrefixOf_spell (hn : '\n' ∉ w) (hr : '\r' ∉ w) (s : List Char) :
    w.isPrefixOf (e.spell s) = w.isPrefixOf s := by
  induction w generalizing s with
  | nil => rfl
  | cons c w ih =>
    rw [List.mem_cons, not_or] at hn hr
    cases s with
    | nil => rfl
    | cons d s =>
      by_cases hd : d = '\n'
      · subst hd
        have hcn : (c == '\n') = false := beq_false_of_ne (Ne.symm hn.1)
        have hcr : (c == '\r') = false := beq_false_of_ne (Ne.symm hr.1)
        cases e <;> simp [spell_break, text, List.isPrefixOf, hcn, hcr]
      · rw [spell_cons hd, List.isPrefixOf, List.isPrefixOf, ih hn.2 hr.2]

/-! ## Classes of characters -/

/-- A class that does not tell the characters of line breaks apart holds of all of a text if it
holds of all of the spelled one. -/
theorem all_spell (hp : p '\r' = p '\n') (s : List Char) : (e.spell s).all p = s.all p := by
  have htext : e.text.all p = p '\n' := by cases e <;> simp [text, hp]
  induction s with
  | nil => rfl
  | cons c s ih =>
    by_cases hc : c = '\n'
    · subst hc
      rw [spell_break, List.all_append, List.all_cons, ih, htext]
    · rw [spell_cons hc, List.all_cons, List.all_cons, ih]

theorem takeWhile_spell (hp : p '\r' = p '\n') (s : List Char) :
    (e.spell s).takeWhile p = e.spell (s.takeWhile p) := by
  induction s with
  | nil => rfl
  | cons c s ih =>
    by_cases hc : c = '\n'
    · subst hc
      rw [spell_break, List.takeWhile_cons]
      cases hn : p '\n' <;> cases e <;> simp [text, hp, hn, ih]
    · rw [spell_cons hc, List.takeWhile_cons, List.takeWhile_cons]
      cases p c
      · rfl
      · simp [spell_cons hc, ih]

/-- A class that no line break belongs to stops before it. -/
theorem takeWhile_spell_of_line (hn : p '\n' = false) (hr : p '\r' = false) (s : List Char) :
    (e.spell s).takeWhile p = s.takeWhile p := by
  rw [takeWhile_spell (hr.trans hn.symm), spell_eq_self]
  intro hmem
  have := List.mem_takeWhile_imp hmem
  rw [hn] at this
  exact nomatch this

theorem drop_takeWhile_spell (hp : p '\r' = p '\n') (s : List Char) :
    (e.spell s).drop ((e.spell s).takeWhile p).length =
      e.spell (s.drop (s.takeWhile p).length) := by
  have htake : s.take (s.takeWhile p).length = s.takeWhile p :=
    (List.prefix_iff_eq_take.mp (List.takeWhile_prefix p)).symm
  rw [takeWhile_spell hp, ← htake, drop_spell, htake]

end LineEnding

end PythonSyntax
