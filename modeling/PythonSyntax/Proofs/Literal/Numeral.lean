import Mathlib.Tactic.IntervalCases
import PythonSyntax.Literal.Number

/-
Decimal numerals.

A literal of digits alone is an integer in base ten.  The shortest numeral of a number has no
leading zero, so the number is the value of the literal.
-/

namespace PythonSyntax

variable {ds : List Char}

/-- The value of the numeral of a digit. -/
theorem digitValue?_digitChar {d : Nat} (h : d < 10) : digitValue? 10 d.digitChar = some d := by
  interval_cases d <;> rfl

/-- The numeral of a number denotes it. -/
theorem natOfDigits?_toDigits (n : Nat) : natOfDigits? 10 (Nat.toDigits 10 n) = some n := by
  have hfold : (Nat.toDigits 10 n).foldlM
      (fun n c => (digitValue? 10 c).map (n * 10 + ·)) 0 = some n := by
    induction n using Nat.strongRecOn with
    | ind n ih =>
      rw [Nat.toDigits_eq_if (by decide)]
      split
      · next hlt => simp [digitValue?_digitChar hlt]
      · next hge =>
        rw [List.foldlM_append, ih (n / 10) (by omega)]
        simp only [Option.bind_eq_bind, Option.bind_some, List.foldlM_cons, List.foldlM_nil,
          digitValue?_digitChar (Nat.mod_lt n (by decide : 0 < 10)), Option.map_some,
          Option.pure_def]
        rw [Nat.div_add_mod']
  rw [natOfDigits?, if_neg (by simp), hfold]

/-- No numeral but that of zero begins with a zero. -/
theorem head?_toDigits {n : Nat} (h : n ≠ 0) : (Nat.toDigits 10 n).head? ≠ some '0' := by
  induction n using Nat.strongRecOn with
  | ind n ih =>
    rw [Nat.toDigits_eq_if (by decide)]
    split
    · simpa using h
    · rw [List.head?_append, Option.or_of_isSome (by simp)]
      exact ih (n / 10) (by omega) (by omega)

namespace Number

/-- A class of characters that no digit belongs to. -/
theorem ne_of_isDigit {c d : Char} (hc : c.isDigit = true) (hd : d.isDigit = false) : c ≠ d := by
  rintro rfl
  rw [hd] at hc
  cases hc

theorem toLower_of_isDigit {c : Char} (h : c.isDigit = true) : c.toLower = c := by
  rw [Char.isDigit, Bool.and_eq_true, decide_eq_true_eq, decide_eq_true_eq] at h
  refine dif_neg ?_
  rintro ⟨hupper, -⟩
  exact absurd (Nat.le_trans (UInt32.le_iff_toNat_le.mp hupper) (UInt32.le_iff_toNat_le.mp h.2))
    (by decide)

theorem map_toLower_of_isDigit {cs : List Char} (h : ∀ c ∈ cs, c.isDigit = true) :
    cs.map Char.toLower = cs := by
  rw [List.map_congr_left fun c hc => toLower_of_isDigit (h c hc), List.map_id']

theorem imaginary?_eq_none {cs : List Char} (h : 'j' ∉ cs) : imaginary? cs = none := by
  unfold imaginary?
  split
  · next r hr => exact absurd (List.mem_reverse.mp (hr ▸ List.mem_cons_self)) h
  · rfl

theorem splitBase?_eq_none {cs : List Char} (hx : 'x' ∉ cs) (ho : 'o' ∉ cs) (hb : 'b' ∉ cs) :
    splitBase? cs = none := by
  unfold splitBase?
  split
  · exact absurd (by simp) hx
  · exact absurd (by simp) ho
  · exact absurd (by simp) hb
  · rfl

/-- A literal of digits is an integer in base ten, unless it has a zero in front. -/
theorem parse_digits (h : ∀ c ∈ ds, c.isDigit = true) :
    parse ds = if hasLeadingZero ds then .error .leadingZeros
      else .ok (.ofNat? (natOfDigits? 10 ds) (String.ofList ds)) := by
  have hne : ∀ d, d.isDigit = false → d ∉ ds :=
    fun d hd hmem => ne_of_isDigit (h d hmem) hd rfl
  have hclean : clean ds = ds :=
    List.filter_eq_self.mpr fun c hc => by simpa using ne_of_isDigit (h c hc) (d := '_') (by decide)
  have himaginary : imaginary? ds = none := imaginary?_eq_none (hne _ (by decide))
  have hbase : splitBase? ds = none :=
    splitBase?_eq_none (hne _ (by decide)) (hne _ (by decide)) (hne _ (by decide))
  have hpoint : (ds.any fun c => c == '.' || c == 'e') = false := by
    rw [List.any_eq_false]
    intro c hc
    have hnot : ∀ d, d.isDigit = false → c ≠ d := fun d => ne_of_isDigit (h c hc)
    simp [hnot '.' (by decide), hnot 'e' (by decide)]
  have hsign : natOfText? 10 ds = natOfDigits? 10 ds := by
    unfold natOfText?
    split
    · exact absurd List.mem_cons_self (hne '+' (by decide))
    · rfl
  unfold parse
  simp only [hclean, map_toLower_of_isDigit h, himaginary, hbase, hpoint, hsign]
  rfl

/-- The value of the numeral of an integer below 2^64. -/
theorem parse_repr (value : UInt64) :
    parse (Nat.repr value.toNat).toList = .ok (.int value) := by
  have hdigits : ∀ c ∈ Nat.toDigits 10 value.toNat, c.isDigit = true :=
    fun c hc => Nat.isDigit_of_mem_toDigits (by decide) (by decide) hc
  have hzero : hasLeadingZero (Nat.toDigits 10 value.toNat) = false := by
    by_cases hvalue : value.toNat = 0
    · rw [hvalue]
      decide
    · simp [hasLeadingZero, head?_toDigits hvalue]
  rw [Nat.toList_repr, parse_digits hdigits, hzero, natOfDigits?_toDigits, Constant.ofNat?,
    if_pos value.toNat_lt_size]
  simp

end Number

end PythonSyntax
