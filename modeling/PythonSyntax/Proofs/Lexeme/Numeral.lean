import Mathlib.Computability.Language
import PythonSyntax.Proofs.Literal.Numeral
import PythonSyntax.Proofs.Lexeme.Bound

/-
The texts of numeric literals.

A numeric literal is read twice: the lexer measures it, underscores and all, and its value is taken
from the text without underscores and in lower case.  Here the second text is described from the
first.  `PlainIn L m` says that what `m` measures is in the language `L` once the underscores are
gone, and there is one rule for each way of combining measures, so that the languages follow the
grammar.  A language forgets where the underscores were, which is why the digits of a base are
described through `clean`, which also keeps their case.
-/

namespace PythonSyntax

namespace Number

variable {s t : List Char}

/-- A literal without its underscores and in lower case. -/
def plain (text : List Char) : List Char := (clean text).map Char.toLower

theorem clean_append (s t : List Char) : clean (s ++ t) = clean s ++ clean t :=
  List.filter_append ..

theorem plain_append (s t : List Char) : plain (s ++ t) = plain s ++ plain t := by
  rw [plain, clean_append, List.map_append]
  rfl

theorem clean_clean (text : List Char) : clean (clean text) = clean text := by
  simp [clean, List.filter_filter]

end Number

namespace Lexeme

open Number

/-- A text of characters of a class, at least one. -/
def IsRun (p : Char → Bool) (cs : List Char) : Prop := cs ≠ [] ∧ ∀ c ∈ cs, p c = true

/-- What a measure measures is in a language, without underscores and in lower case. -/
def PlainIn (L : Language Char) (m : Measure) : Prop := ∀ s n, m s = some n → plain (s.take n) ∈ L

variable {L M : Language Char} {a b : Measure} {p : Char → Bool} {c mark : Char} {s : List Char}
  {n : Nat}

/-! ## Combining shapes -/

theorem one_eq_some : one p s = some n ↔ ∃ c r, s = c :: r ∧ p c = true ∧ n = 1 := by
  constructor
  · intro h
    cases s with
    | nil => cases h
    | cons c r =>
      rw [one] at h
      split at h
      · next hc =>
        cases h
        exact ⟨c, r, rfl, hc, rfl⟩
      · cases h
  · rintro ⟨c, r, rfl, hc, rfl⟩
    exact if_pos hc

theorem PlainIn.andThen (ha : PlainIn L a) (hb : PlainIn M b) : PlainIn (L * M) (andThen a b) := by
  intro s n h
  obtain ⟨i, j, hi, hj, rfl⟩ := andThen_eq_some.mp h
  rw [List.take_add, plain_append]
  exact Language.append_mem_mul (ha s i hi) (hb _ j hj)

theorem PlainIn.orElse (ha : PlainIn L a) (hb : PlainIn M b) : PlainIn (L + M) (orElse a b) := by
  intro s n h
  rw [Lexeme.orElse, Option.or_eq_some_iff] at h
  rcases h with h | ⟨-, h⟩
  · exact .inl (ha s n h)
  · exact .inr (hb s n h)

theorem PlainIn.optional (ha : PlainIn L a) : PlainIn (1 + L) (optional a) := by
  intro s n h
  cases hs : a s with
  | none =>
    rw [Lexeme.optional, hs] at h
    cases h
    exact .inl rfl
  | some i =>
    rw [Lexeme.optional, hs] at h
    cases h
    exact .inr (ha s i hs)

/-- One character that stands for itself without underscores and in lower case. -/
theorem plainIn_one (h : ∀ d, p d = true → plain [d] ∈ L) : PlainIn L (one p) := by
  intro s n hs
  obtain ⟨d, r, rfl, hd, rfl⟩ := one_eq_some.mp hs
  exact h d hd

theorem plainIn_letter (hc : c ≠ '_') : PlainIn {[c]} (letter c) := by
  refine plainIn_one fun d hd => ?_
  have hd : d.toLower = c := eq_of_beq hd
  have hne : d ≠ '_' := by
    rintro rfl
    exact hc hd.symm
  have hclean : clean [d] = [d] := List.filter_eq_self.mpr (by simpa using hne)
  rw [plain, hclean, List.map_singleton, hd]
  rfl

/-! ## Digits -/

/-- What is measured of digits consists of digits, once the underscores are gone. -/
theorem isRun_of_digitsAfter (hu : p '_' = false) (h : digitsAfter p s = n + 1) :
    IsRun p (clean (s.take (n + 1))) := by
  have hclass : ∀ c ∈ s.take (n + 1), '_' = c ∨ p c = true :=
    within_digitsAfter (fun _ => .inr) (.inl rfl) s (n + 1) (congrArg some h)
  refine ⟨?_, fun c hc => ?_⟩
  · -- the first digit is the first character, or the one behind an underscore
    obtain ⟨c, hc, hp⟩ : ∃ c ∈ s.take (n + 1), p c = true := by
      rw [digitsAfter.eq_def] at h
      split at h
      · cases h
      · next c r =>
        split at h
        · next hc => exact ⟨c, List.mem_cons_self, hc⟩
        · split at h
          · split at h
            · cases h
            · next d r =>
              split at h
              · next hd =>
                obtain rfl : n = digitsAfter p r + 1 := by omega
                exact ⟨d, .tail _ List.mem_cons_self, hd⟩
              · cases h
          · cases h
    have hne : c ≠ '_' := by
      rintro rfl
      rw [hu] at hp
      cases hp
    exact List.ne_nil_of_mem (List.mem_filter.mpr ⟨hc, by simpa using hne⟩)
  · obtain ⟨hc, hne⟩ := List.mem_filter.mp hc
    exact (hclass c hc).resolve_left (fun h => of_decide_eq_true hne h.symm)

/-- Digits that are cut off where their measure ends are measured alike. -/
theorem digitsAfter_take (p : Char → Bool) (s : List Char) :
    digitsAfter p (s.take (digitsAfter p s)) = digitsAfter p s := by
  induction s using digitsAfter.induct p with
  | case1 => rfl
  | case2 c r hc ih => rw [digitsAfter_digit hc, List.take_succ_cons, digitsAfter_digit hc, ih]
  | case3 hu =>
    rw [digitsAfter_last hu]
    rfl
  | case4 d r hd hu ih =>
    rw [digitsAfter_joined hu, if_pos hd, List.take_succ_cons, List.take_succ_cons,
      digitsAfter_joined hu, if_pos hd, ih]
  | case5 d r hd hu =>
    rw [digitsAfter_joined hu, if_neg hd]
    rfl
  | case6 c r hc hu =>
    rw [digitsAfter_other hc hu]
    rfl

/-- A decimal numeral is measured like other digits, but begins with one of them. -/
theorem digits_eq_some : digits s = some n ↔
    (∃ c r, s = c :: r ∧ c.isDigit = true) ∧ digitsAfter Char.isDigit s = n := by
  constructor
  · intro h
    obtain ⟨i, j, hi, hj, rfl⟩ := andThen_eq_some.mp h
    obtain ⟨c, r, rfl, hc, rfl⟩ := one_eq_some.mp hi
    cases hj
    exact ⟨⟨c, r, rfl, hc⟩, (digitsAfter_digit hc).trans (Nat.add_comm ..)⟩
  · rintro ⟨⟨c, r, rfl, hc⟩, rfl⟩
    refine andThen_eq_some.mpr ⟨1, _, if_pos hc, rfl, ?_⟩
    exact (Nat.add_comm ..).trans (digitsAfter_digit hc).symm

/-- A decimal numeral consists of digits. -/
theorem isRun_of_digits (h : digits s = some n) : IsRun Char.isDigit (clean (s.take n)) := by
  obtain ⟨⟨c, r, rfl, hc⟩, rfl⟩ := digits_eq_some.mp h
  rw [digitsAfter_digit hc]
  exact isRun_of_digitsAfter (by decide) (digitsAfter_digit hc)

/-- A decimal numeral that is cut off where it ends is still one. -/
theorem digits_take (h : digits s = some n) : digits (s.take n) = some n := by
  obtain ⟨⟨c, r, rfl, hc⟩, rfl⟩ := digits_eq_some.mp h
  refine digits_eq_some.mpr ⟨⟨c, r.take (digitsAfter Char.isDigit r), ?_, hc⟩, digitsAfter_take _ _⟩
  rw [digitsAfter_digit hc, List.take_succ_cons]

/-- An integer in a base is a zero, the mark of the base, and digits. -/
theorem based_eq_some : based mark p s = some n ↔
    ∃ d r k, s = '0' :: d :: r ∧ d.toLower = mark ∧ digitsAfter p r = k + 1 ∧ n = k + 3 := by
  constructor
  · intro h
    obtain ⟨i, j, hi, hrest, rfl⟩ := andThen_eq_some.mp h
    obtain ⟨c, s, rfl, hc, rfl⟩ := one_eq_some.mp hi
    obtain ⟨j, k, hj, hk, rfl⟩ := andThen_eq_some.mp hrest
    obtain ⟨d, r, hs, hd, rfl⟩ := one_eq_some.mp hj
    obtain rfl : s = d :: r := hs
    obtain rfl : c = '0' := eq_of_beq hc
    split at hk
    · cases hk
    · next m hm =>
      cases hk
      exact ⟨d, r, m, rfl, eq_of_beq hd, hm, by omega⟩
  · rintro ⟨d, r, k, rfl, hd, hk, rfl⟩
    refine andThen_eq_some.mpr ⟨1, k + 2, rfl, andThen_eq_some.mpr ⟨1, k + 1, ?_, ?_, ?_⟩, ?_⟩
    · exact if_pos (beq_iff_eq.mpr hd)
    · simp only [List.drop_succ_cons, List.drop_zero, hk]
    · omega
    · omega

/-- Without underscores too, an integer in a base is a zero, the mark and digits. -/
theorem clean_based (hmark : mark ≠ '_') (hu : p '_' = false) (h : based mark p s = some n) :
    ∃ d ds, clean (s.take n) = '0' :: d :: ds ∧ d.toLower = mark ∧ IsRun p ds := by
  obtain ⟨d, r, k, rfl, hd, hk, rfl⟩ := based_eq_some.mp h
  have hne : d ≠ '_' := by
    rintro rfl
    exact hmark hd.symm
  refine ⟨d, clean (r.take (k + 1)), ?_, hd, isRun_of_digitsAfter hu hk⟩
  simp [clean, hne]

/-- An integer in a base that is cut off where it ends is still one. -/
theorem based_take (h : based mark p s = some n) : based mark p (s.take n) = some n := by
  obtain ⟨d, r, k, rfl, hd, hk, rfl⟩ := based_eq_some.mp h
  refine based_eq_some.mpr ⟨d, r.take (k + 1), k, rfl, hd, ?_, rfl⟩
  rw [← hk, digitsAfter_take]

/-! ## Numbers with a point or an exponent -/

/-- The texts that consist of decimal digits. -/
def Decimal : Language Char := {cs | IsRun Char.isDigit cs}

/-- The texts of exponents: `e`, an optional sign, and digits. -/
def Exponent : Language Char := {['e']} * ((1 + {['+'], ['-']}) * Decimal)

/-- The texts with a point and digits on one side of it or on both. -/
def Pointed : Language Char := (1 + Decimal) * ({['.']} * Decimal) + Decimal * {['.']}

/-- The texts with a point, an exponent, or both. -/
def Floating : Language Char := Pointed * (1 + Exponent) + Decimal * Exponent

/-- The texts of numerals in base ten. -/
def Numeral : Language Char := Floating + Decimal

theorem plainIn_digits : PlainIn Decimal digits := by
  intro s n h
  have hrun := isRun_of_digits h
  rw [plain, map_toLower_of_isDigit hrun.2]
  exact hrun

theorem plainIn_exponent : PlainIn Exponent exponent := by
  have hsign : PlainIn {['+'], ['-']} (one fun c => c == '+' || c == '-') := by
    refine plainIn_one fun d hd => ?_
    rcases (by simpa using hd : d = '+' ∨ d = '-') with rfl | rfl
    · exact .inl rfl
    · exact .inr rfl
  exact (plainIn_letter (by decide)).andThen (hsign.optional.andThen plainIn_digits)

theorem plainIn_float : PlainIn Floating float := by
  have hpoint : PlainIn {['.']} (one (· == '.')) := by
    refine plainIn_one fun d hd => ?_
    obtain rfl : d = '.' := eq_of_beq hd
    rfl
  have hpointed : PlainIn Pointed pointed :=
    (plainIn_digits.optional.andThen (hpoint.andThen plainIn_digits)).orElse
      (plainIn_digits.andThen hpoint)
  exact (hpointed.andThen plainIn_exponent.optional).orElse
    (plainIn_digits.andThen plainIn_exponent)

end Lexeme

end PythonSyntax
