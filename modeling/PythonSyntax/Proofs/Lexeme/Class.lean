import Mathlib.Data.List.TakeWhile
import PythonSyntax.Proofs.Lexeme.Split

/-
The characters of pieces.

`Within p m` says that a measure takes only characters of a class.  Numbers, names and blanks hold no
line break, no quote, no bracket and nothing else that stops them, and operators and comments stay
within their line.
-/

namespace PythonSyntax.Lexeme

/-- All characters of the pieces that a measure measures are of a class. -/
def Within (p : Char → Prop) (m : Measure) : Prop := ∀ s n, m s = some n → ∀ c ∈ s.take n, p c

variable {p : Char → Prop} {a b : Measure}

theorem Within.mono {q : Char → Prop} (h : Within p a) (hpq : ∀ c, p c → q c) : Within q a :=
  fun s n hs c hc => hpq c (h s n hs c hc)

theorem within_one {q : Char → Bool} (h : ∀ c, q c = true → p c) : Within p (one q) := by
  intro s n hs
  cases s with
  | nil => cases hs
  | cons c r =>
    rw [one] at hs
    split at hs
    · next hc =>
      cases hs
      simpa using h c hc
    · cases hs

theorem Within.andThen (ha : Within p a) (hb : Within p b) : Within p (andThen a b) := by
  intro s n hs
  obtain ⟨i, j, hi, hj, rfl⟩ := andThen_eq_some.mp hs
  rw [List.take_add]
  exact List.forall_mem_append.mpr ⟨ha s i hi, hb _ j hj⟩

theorem Within.orElse (ha : Within p a) (hb : Within p b) : Within p (orElse a b) := by
  intro s n hs
  rw [Lexeme.orElse, Option.or_eq_some_iff] at hs
  rcases hs with hs | ⟨-, hs⟩
  · exact ha s n hs
  · exact hb s n hs

theorem Within.optional (ha : Within p a) : Within p (optional a) := by
  intro s n hs
  cases h : a s with
  | none =>
    rw [Lexeme.optional, h] at hs
    cases hs
    exact nofun
  | some i =>
    rw [Lexeme.optional, h] at hs
    cases hs
    exact ha s i h

theorem within_run {q : Char → Bool} (h : ∀ c, q c = true → p c) : Within p (run q) := by
  intro s n hs
  have htake : s.take (s.takeWhile q).length = s.takeWhile q :=
    (List.prefix_iff_eq_take.mp (List.takeWhile_prefix q)).symm
  unfold run at hs
  split at hs
  · exact nomatch hs
  · next m hm =>
    cases hs
    rw [Nat.succ_eq_add_one] at hm
    rw [← hm, htake]
    exact fun c hc => h c (List.mem_takeWhile_imp hc)

theorem within_exactly {w : List Char} (h : ∀ c ∈ w, p c) : Within p (exactly w) := by
  intro s n hs
  unfold exactly at hs
  split at hs
  · next hw =>
    cases hs
    rw [← List.prefix_iff_eq_take.mp (List.isPrefixOf_iff_prefix.mp hw)]
    exact h
  · exact nomatch hs

/-! ## Digits and underscores -/

section

variable {q : Char → Bool} {c d : Char} {r : List Char}

/-- Digits go on with a digit, or with an underscore before one. -/
theorem digitsAfter_cons : digitsAfter q (c :: r) =
    if q c = true then digitsAfter q r + 1
    else if c = '_' then
      match r with
      | [] => 0
      | d :: r => if q d = true then digitsAfter q r + 2 else 0
    else 0 :=
  digitsAfter.eq_def q (c :: r)

theorem digitsAfter_digit (hc : q c = true) : digitsAfter q (c :: r) = digitsAfter q r + 1 := by
  rw [digitsAfter_cons, if_pos hc]

theorem digitsAfter_last (hu : ¬ q '_' = true) : digitsAfter q ['_'] = 0 := by
  rw [digitsAfter_cons, if_neg hu, if_pos rfl]

theorem digitsAfter_joined (hu : ¬ q '_' = true) :
    digitsAfter q ('_' :: d :: r) = if q d = true then digitsAfter q r + 2 else 0 := by
  rw [digitsAfter_cons, if_neg hu, if_pos rfl]

theorem digitsAfter_other (hc : ¬ q c = true) (hu : c ≠ '_') : digitsAfter q (c :: r) = 0 := by
  rw [digitsAfter_cons, if_neg hc, if_neg hu]

end

theorem within_digitsAfter {q : Char → Bool} (h : ∀ c, q c = true → p c) (hu : p '_') :
    Within p fun s => some (digitsAfter q s) := by
  intro s n hs
  cases hs
  induction s using digitsAfter.induct q with
  | case1 => exact nofun
  | case2 c r hc ih =>
    rw [digitsAfter_digit hc, List.take_succ_cons, List.forall_mem_cons]
    exact ⟨h c hc, ih⟩
  | case3 hn =>
    rw [digitsAfter_last hn]
    exact nofun
  | case4 d r hd hn ih =>
    rw [digitsAfter_joined hn, if_pos hd]
    simp only [List.take_succ_cons, List.forall_mem_cons]
    exact ⟨hu, h d hd, ih⟩
  | case5 d r hd hn =>
    rw [digitsAfter_joined hn, if_neg hd]
    exact nofun
  | case6 c r hc hn =>
    rw [digitsAfter_other hc hn]
    exact nofun

/-! ## Stops -/

/-- Whether a character does not break a line. -/
def InLine (c : Char) : Prop := c ≠ '\n' ∧ c ≠ '\r'

instance : DecidablePred InLine := fun _ => inferInstanceAs (Decidable (_ ∧ _))

/-- The characters that stop every number, name and blank: line breaks, quotes, brackets, angle brackets
among them, and those before a comment or a hidden line break. -/
def stops : List Char := ['\n', '\r', '\\', '#', '"', '\'', '(', ')', '[', ']', '{', '}', '<', '>']

/-- Whether a character is no stop. -/
def Clear (c : Char) : Prop := c ∉ stops

instance : DecidablePred Clear := fun _ => inferInstanceAs (Decidable (¬ _))

theorem Clear.inLine {c : Char} (h : Clear c) : InLine c := by
  constructor <;> rintro rfl <;> exact h (by decide)

theorem Within.inLine (h : Within Clear a) : Within InLine a := h.mono fun _ => Clear.inLine

/-- No stop belongs to a class of characters. -/
theorem clear_of_class {q : Char → Bool} (h : stops.all (fun c => !q c) = true) (c : Char)
    (hc : q c = true) : Clear c := by
  intro hmem
  have hq := List.all_eq_true.mp h c hmem
  rw [hc] at hq
  exact nomatch hq

theorem eq_false_of_mem_stops {q : Char → Bool} (h : stops.all (fun c => !q c) = true) {c : Char}
    (hc : c ∈ stops) : q c = false :=
  (Bool.not_eq_true' _).mp (List.all_eq_true.mp h c hc)

/-- No line break belongs to a class of characters. -/
theorem inLine_of_class {q : Char → Bool} (hn : q '\n' = false) (hr : q '\r' = false) (c : Char)
    (h : q c = true) : InLine c := by
  constructor
  · rintro rfl
    rw [hn] at h
    exact nomatch h
  · rintro rfl
    rw [hr] at h
    exact nomatch h

/-! ## Numbers, names and blanks -/

/-- A class of characters without stops that decision can tell. -/
theorem within_class {q : Char → Bool} (h : stops.all (fun c => !q c) = true) :
    Within Clear (one q) :=
  within_one (clear_of_class h)

theorem within_digits : Within Clear digits :=
  (within_class (by decide)).andThen
    (within_digitsAfter (clear_of_class (by decide)) (by decide))

theorem within_based {mark : Char} {q : Char → Bool} (hm : Within Clear (letter mark))
    (hq : stops.all (fun c => !q c) = true) : Within Clear (based mark q) := by
  refine (within_class (by decide)).andThen (hm.andThen fun s n hs => ?_)
  refine within_digitsAfter (clear_of_class hq) (by decide) s n ?_
  split at hs
  · exact nomatch hs
  · next hd =>
    cases hs
    exact congrArg some hd

theorem within_exponent : Within Clear exponent :=
  (within_class (by decide)).andThen <|
    (within_class (by decide)).optional.andThen within_digits

theorem within_pointed : Within Clear pointed := by
  have hpoint : Within Clear (one (· == '.')) := within_class (by decide)
  exact (within_digits.optional.andThen (hpoint.andThen within_digits)).orElse
    (within_digits.andThen hpoint)

theorem within_float : Within Clear float :=
  (within_pointed.andThen within_exponent.optional).orElse (within_digits.andThen within_exponent)

theorem within_number : Within Clear number := by
  have hj : Within Clear (letter 'j') := within_class (by decide)
  have hx : Within Clear (letter 'x') := within_class (by decide)
  have ho : Within Clear (letter 'o') := within_class (by decide)
  have hb : Within Clear (letter 'b') := within_class (by decide)
  exact ((within_float.orElse within_digits).andThen hj).orElse <|
    (within_based hx (by decide)).orElse <| (within_based ho (by decide)).orElse <|
    (within_based hb (by decide)).orElse <| within_float.orElse within_digits

theorem isIdentifierContinue_stops :
    stops.all (fun c => !Unicode.isIdentifierContinue c) = true := by
  decide +kernel

theorem isIdentifierStart_stops :
    stops.all (fun c => !(Unicode.isIdentifierStart c || c == '_')) = true := by
  decide +kernel

theorem within_name : Within Clear name := by
  intro s n hs
  cases s with
  | nil => exact nomatch hs
  | cons c r =>
    rw [name] at hs
    split at hs
    · next hc =>
      cases hs
      have htake : r.take (r.takeWhile Unicode.isIdentifierContinue).length =
          r.takeWhile Unicode.isIdentifierContinue :=
        (List.prefix_iff_eq_take.mp (List.takeWhile_prefix _)).symm
      rw [List.take_succ_cons, htake, List.forall_mem_cons]
      refine ⟨clear_of_class isIdentifierStart_stops c hc, fun d hd => ?_⟩
      exact clear_of_class isIdentifierContinue_stops d (List.mem_takeWhile_imp hd)
    · exact nomatch hs

theorem within_blank : Within Clear blank := within_run (clear_of_class (by decide))

/-! ## Operators and comments -/

theorem inLine_operators : ∀ w ∈ operators, ∀ c ∈ w, InLine c := by
  simp [operators, InLine]

theorem op_eq_some {s : List Char} {n : Nat} (h : op s = some n) : s.take n ∈ operators := by
  obtain ⟨w, hw, rfl⟩ := Option.map_eq_some_iff.mp h
  have hlead := List.find?_some hw
  rw [← List.prefix_iff_eq_take.mp (List.isPrefixOf_iff_prefix.mp hlead)]
  exact List.mem_of_find?_eq_some hw

theorem within_op : Within InLine op :=
  fun _ _ hs => inLine_operators _ (op_eq_some hs)

theorem within_comment : Within InLine comment := by
  intro s n hs
  unfold comment at hs
  split at hs
  · next r =>
    cases hs
    have htake : r.take (r.takeWhile fun c => c != '\n' && c != '\r').length =
        r.takeWhile fun c => c != '\n' && c != '\r' :=
      (List.prefix_iff_eq_take.mp (List.takeWhile_prefix _)).symm
    rw [List.take_succ_cons, htake, List.forall_mem_cons]
    refine ⟨by unfold InLine; decide, fun d hd => ?_⟩
    exact inLine_of_class (by decide) (by decide) d (List.mem_takeWhile_imp hd)
  · exact nomatch hs

/-! ## Strings -/

/-- The letters that may stand before a string, in either case. -/
def IsMark (c : Char) : Prop := c.toLower ∈ ['r', 'u', 'b', 'f']

theorem clear_of_isMark {c : Char} (h : IsMark c) : Clear c :=
  clear_of_class (q := fun d => ['r', 'u', 'b', 'f'].contains d.toLower) (by decide) c
    (List.contains_iff_mem.mpr h)

theorem within_stringMark : Within IsMark stringMark := by
  have hletter : ∀ d ∈ ['r', 'u', 'b', 'f'], Within IsMark (letter d) := by
    intro d hd
    refine within_one fun c hc => ?_
    rw [IsMark, beq_iff_eq.mp hc]
    exact hd
  have hr := hletter 'r' (by decide)
  have hb := hletter 'b' (by decide)
  have hf := hletter 'f' (by decide)
  refine (hr.andThen hb).orElse <| (hb.andThen hr).orElse <| (hf.andThen hr).orElse <|
    (hr.andThen hf).orElse <| within_one fun c hc => ?_
  simpa [IsMark, or_assoc] using hc

theorem within_marks : Within IsMark (optional stringMark) := within_stringMark.optional

theorem inLine_of_isMark {c : Char} (h : IsMark c) : InLine c := (clear_of_isMark h).inLine

theorem within_openQuote : Within InLine openQuote := by
  have hquotes : ∀ w ∈ [['"', '"', '"'], ['\'', '\'', '\'']], ∀ c ∈ w, InLine c := by
    simp [InLine]
  refine (within_marks.mono fun _ => inLine_of_isMark).andThen <|
    (within_exactly (hquotes _ ?_)).orElse <| (within_exactly (hquotes _ ?_)).orElse <|
      within_one (inLine_of_class (by decide) (by decide))
  · exact List.mem_cons_self
  · exact List.mem_cons_of_mem _ List.mem_cons_self

end PythonSyntax.Lexeme
