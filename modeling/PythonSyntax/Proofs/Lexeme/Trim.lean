import PythonSyntax.Proofs.Lexeme.Sealed
import PythonSyntax.Proofs.Literal.Numeral

/-
A text that is cut off between two pieces.

What is measured before the cut is there without what comes after it.  A measure of two parts might
have taken a longer first part in the whole text, and then no second one; but where a second part
begins the first one ends, and so this does not happen in numbers, names and strings.
-/

namespace PythonSyntax.Lexeme

variable {a b m : Measure} {x y : List Char}

/-! ## Measures of a text that is cut off -/

/-- A measure takes a piece of a text if it takes that of the text with more behind it, and if it takes
a piece of the former it takes one of the latter. -/
structure Trims (m : Measure) : Prop where
  none : ∀ x y, m (x ++ y) = none → m x = none
  some : ∀ x y n, m (x ++ y) = some n → n ≤ x.length → m x = some n

/-- Where the second part begins, the first part ends, whatever follows. -/
def Seam (a b : Measure) : Prop :=
  ∀ x y i, a x = some i → b (x.drop i) ≠ none → a (x ++ y) = some i

theorem seam_one (p : Char → Bool) (b : Measure) : Seam (one p) b := by
  intro x y i hi _
  cases x with
  | nil => cases hi
  | cons c r => exact hi

/-- The pieces that a measure measures begin with a character of a class. -/
def Starts (p : Char → Bool) (m : Measure) : Prop := ∀ s, m s ≠ none → ∃ c r, s = c :: r ∧ p c = true

theorem starts_one (p : Char → Bool) : Starts p (one p) := by
  intro s h
  cases s with
  | nil => exact absurd rfl h
  | cons c r =>
    refine ⟨c, r, rfl, ?_⟩
    by_contra hc
    rw [one, if_neg hc] at h
    exact h rfl

theorem Starts.andThen {p : Char → Bool} (h : Starts p a) (b : Measure) :
    Starts p (andThen a b) := by
  intro s hs
  refine h s fun hnone => hs ?_
  rw [Lexeme.andThen, hnone]
  rfl

theorem Starts.orElse {p : Char → Bool} (ha : Starts p a) (hb : Starts p b) :
    Starts p (orElse a b) := by
  intro s hs
  cases h : a s with
  | none => exact hb s fun hnone => hs (by rw [Lexeme.orElse, h, hnone]; rfl)
  | some n => exact ha s (by rw [h]; exact Option.some_ne_none n)

theorem starts_exactly {p : Char → Bool} {c : Char} {w : List Char} (hc : p c = true) :
    Starts p (exactly (c :: w)) := by
  intro s hs
  have hw : (c :: w).isPrefixOf s = true := by
    by_contra hw
    exact hs (if_neg hw)
  obtain ⟨r, rfl⟩ := List.isPrefixOf_iff_prefix.mp hw
  exact ⟨c, w ++ r, rfl, hc⟩

/-- The first part ends before the characters with which the second one begins. -/
theorem seam_of_sealed {p : Char → Bool} (hb : Starts p b) (ha : ∀ c, p c = true → Sealed c a) :
    Seam a b := by
  intro x y i hi hne
  obtain ⟨c, r, hdrop, hc⟩ := hb _ hne
  have hx : x.take i ++ c :: r = x := by rw [← hdrop, List.take_append_drop]
  rw [← hx, ha c hc] at hi
  rw [← hx, List.append_assoc, List.cons_append, ha c hc, hi]

/-- Of an optional character it is known whether it is there, if anything is. -/
theorem seam_optional_one (p : Char → Bool) {q : Char → Bool} (hb : Starts q b) :
    Seam (optional (one p)) b := by
  intro x y i hi hne
  obtain ⟨c, r, hdrop, -⟩ := hb _ hne
  cases x with
  | nil => cases hdrop.symm.trans List.drop_nil
  | cons d x => exact hi

theorem trims_one (p : Char → Bool) : Trims (one p) where
  none x y h := by
    cases x with
    | nil => rfl
    | cons c r => exact h
  some x y n h hle := by
    cases x with
    | nil =>
      have hpos := positive_one p _ n h
      exact absurd hle (Nat.not_le_of_lt hpos)
    | cons c r => exact h

theorem Trims.andThen_some (ha : Trims a) (hb : Trims b) {n : Nat}
    (h : andThen a b (x ++ y) = Option.some n) (hle : n ≤ x.length) :
    andThen a b x = Option.some n := by
  obtain ⟨i, j, hi, hj, rfl⟩ := andThen_eq_some.mp h
  have hix : i ≤ x.length := Nat.le_trans (Nat.le_add_right i j) hle
  rw [List.drop_append_of_le_length hix] at hj
  have hjx : j ≤ (x.drop i).length := by
    rw [List.length_drop]
    omega
  exact andThen_eq_some.mpr ⟨i, j, ha.some x y i hi hix, hb.some _ y j hj hjx, rfl⟩

theorem Trims.andThen (hle : Bounded a) (ha : Trims a) (hb : Trims b) (h : Seam a b) :
    Trims (andThen a b) where
  none x y hnone := by
    rw [Option.eq_none_iff_forall_ne_some] at hnone ⊢
    intro n hn
    obtain ⟨i, j, hi, hj, rfl⟩ := andThen_eq_some.mp hn
    have hi' := h x y i hi (by rw [hj]; exact Option.some_ne_none j)
    cases hj' : b ((x ++ y).drop i) with
    | none =>
      rw [List.drop_append_of_le_length (hle x i hi)] at hj'
      rw [hb.none _ y hj'] at hj
      cases hj
    | some k => exact hnone _ (andThen_eq_some.mpr ⟨i, k, hi', hj', rfl⟩)
  some _ _ _ := ha.andThen_some hb

theorem Trims.orElse (ha : Trims a) (hb : Trims b) : Trims (orElse a b) where
  none x y h := by
    rw [Lexeme.orElse, Option.or_eq_none_iff] at h ⊢
    exact ⟨ha.none x y h.1, hb.none x y h.2⟩
  some x y n h hle := by
    rw [Lexeme.orElse, Option.or_eq_some_iff] at h ⊢
    exact h.imp (fun h => ha.some x y n h hle) fun h => ⟨ha.none x y h.1, hb.some x y n h.2 hle⟩

theorem Trims.optional (ha : Trims a) : Trims (optional a) where
  none x y h := by cases h
  some x y n h hle := by
    cases hi : a (x ++ y) with
    | none =>
      rw [Lexeme.optional, hi] at h
      rwa [Lexeme.optional, ha.none x y hi]
    | some i =>
      rw [Lexeme.optional, hi] at h
      cases h
      exact congrArg (fun o => Option.some (o.getD 0)) (ha.some x y i hi hle)

/-- A second part that may be missing takes nothing from the first. -/
theorem Trims.andThen_optional (ha : Trims a) (hb : Trims b) :
    Trims (Lexeme.andThen a (Lexeme.optional b)) where
  none x y h := by
    cases hi : a (x ++ y) with
    | none => rw [Lexeme.andThen, ha.none x y hi]; rfl
    | some i =>
      rw [Lexeme.andThen, hi] at h
      cases h
  some _ _ _ := ha.andThen_some hb.optional

theorem takeWhile_trimmed {p : Char → Bool} (h : ((x ++ y).takeWhile p).length ≤ x.length) :
    (x ++ y).takeWhile p = x.takeWhile p := by
  rw [List.takeWhile_append] at h ⊢
  split
  · next hall =>
    rw [if_pos hall, List.length_append] at h
    have hnil : y.takeWhile p = [] := List.length_eq_zero_iff.mp (by omega)
    rw [hnil, List.append_nil, (List.takeWhile_prefix p).eq_of_length hall]
  · rfl

theorem trims_run (p : Char → Bool) : Trims (run p) where
  none x y h := by
    have hle : ((x ++ y).takeWhile p).length ≤ x.length := by
      unfold run at h
      split at h
      · next hzero =>
        rw [hzero]
        exact Nat.zero_le _
      · cases h
    unfold run at h ⊢
    rwa [takeWhile_trimmed hle] at h
  some x y n h hle := by
    have hle : ((x ++ y).takeWhile p).length ≤ x.length := by
      unfold run at h
      split at h <;> cases h
      next hk => rwa [hk]
    unfold run at h ⊢
    rwa [takeWhile_trimmed hle] at h

theorem trims_exactly (w : List Char) : Trims (exactly w) where
  none x y h := by
    unfold exactly at h ⊢
    split at h
    · cases h
    · next hw =>
      refine if_neg fun hx => hw (List.isPrefixOf_iff_prefix.mpr ?_)
      exact (List.isPrefixOf_iff_prefix.mp hx).trans (List.prefix_append x y)
  some x y n h hle := by
    unfold exactly at h ⊢
    split at h
    · next hw =>
      cases h
      refine if_pos (List.isPrefixOf_iff_prefix.mpr ?_)
      exact List.prefix_of_prefix_length_le (List.isPrefixOf_iff_prefix.mp hw)
        (List.prefix_append x y) hle
    · cases h

/-! ## Numbers -/

theorem digitsAfter_trimmed {p : Char → Bool} (h : digitsAfter p (x ++ y) ≤ x.length) :
    digitsAfter p x = digitsAfter p (x ++ y) := by
  induction x using digitsAfter.induct p with
  | case1 => exact (Nat.le_zero.mp h).symm
  | case2 c r hc ih =>
    rw [List.cons_append, digitsAfter_digit hc] at h
    rw [List.cons_append, digitsAfter_digit hc, digitsAfter_digit hc, ih (Nat.le_of_succ_le_succ h)]
  | case3 hu =>
    rw [digitsAfter_last hu]
    cases y with
    | nil => exact (digitsAfter_last hu).symm
    | cons d r =>
      rw [List.singleton_append, digitsAfter_joined hu] at h ⊢
      split
      · next hd =>
        rw [if_pos hd] at h
        exact absurd h (by simp)
      · rfl
  | case4 d r hd hu ih =>
    rw [List.cons_append, List.cons_append, digitsAfter_joined hu, if_pos hd] at h
    rw [List.cons_append, List.cons_append, digitsAfter_joined hu, digitsAfter_joined hu,
      if_pos hd, if_pos hd, ih (Nat.le_of_succ_le_succ (Nat.le_of_succ_le_succ h))]
  | case5 d r hd hu =>
    rw [List.cons_append, List.cons_append, digitsAfter_joined hu, digitsAfter_joined hu,
      if_neg hd, if_neg hd]
  | case6 c r hc hu =>
    rw [List.cons_append, digitsAfter_other hc hu, digitsAfter_other hc hu]

theorem trims_digits : Trims digits := by
  refine Trims.andThen (bounded_one _) (trims_one _) ⟨fun x y h => ?_, fun x y n h hle => ?_⟩
    (seam_one _ _)
  · cases h
  · cases h
    exact congrArg some (digitsAfter_trimmed hle)

theorem trims_based (mark : Char) (p : Char → Bool) : Trims (based mark p) := by
  refine Trims.andThen (bounded_one _) (trims_one _) (Trims.andThen (bounded_one _) (trims_one _)
    ⟨fun x y h => ?_, fun x y n h hle => ?_⟩ (seam_one _ _)) (seam_one _ _)
  · have hzero : digitsAfter p (x ++ y) = 0 := by
      split at h
      · assumption
      · cases h
    rw [digitsAfter_trimmed (by rw [hzero]; exact Nat.zero_le _), hzero]
  · have hn : digitsAfter p (x ++ y) = n := by
      split at h
      · cases h
      · next hk =>
        cases h
        exact hk
    rw [digitsAfter_trimmed (by rw [hn]; exact hle)]
    exact h

theorem isDigit_of_letter {mark c : Char} (hmark : mark.isDigit = false)
    (h : (c.toLower == mark) = true) : c.isDigit = false := by
  rw [← Bool.not_eq_true]
  intro hc
  rw [Number.toLower_of_isDigit hc, beq_iff_eq] at h
  rw [h, hmark] at hc
  cases hc

/-- A letter is none of the characters that it is known not to be. -/
theorem ne_of_letter {mark c d : Char} (hd : (d.toLower == mark) = false)
    (h : (c.toLower == mark) = true) : c ≠ d := by
  rintro rfl
  rw [hd] at h
  cases h

theorem trims_exponent : Trims exponent := by
  have hsign : Trims (andThen (optional (one fun c => c == '+' || c == '-')) digits) :=
    trims_one _ |>.optional.andThen (bounded_one _).optional trims_digits
      (seam_optional_one _ ((starts_one _).andThen _))
  exact (trims_one _).andThen (bounded_one _) hsign (seam_one _ _)

theorem trims_pointed : Trims pointed := by
  have hpoint : ∀ c : Char, (c == '.') = true → Sealed c digits := fun c hc => by
    rw [beq_iff_eq.mp hc]
    exact sealed_digits (by decide) (by decide)
  have hafter : Trims (andThen (one (· == '.')) digits) :=
    (trims_one _).andThen (bounded_one _) trims_digits (seam_one _ _)
  exact (trims_digits.optional.andThen bounded_digits.optional hafter
    (seam_of_sealed ((starts_one _).andThen _) fun c hc => (hpoint c hc).optional)).orElse
    (trims_digits.andThen bounded_digits (trims_one _) (seam_of_sealed (starts_one _) hpoint))

theorem trims_float : Trims float := by
  refine (trims_pointed.andThen_optional trims_exponent).orElse
    (trims_digits.andThen bounded_digits trims_exponent
      (seam_of_sealed ((starts_one _).andThen _) fun c hc => ?_))
  exact sealed_digits (isDigit_of_letter (by decide) hc) (ne_of_letter (by decide) hc)

theorem trims_number : Trims number := by
  have hfloat : ∀ c : Char, (c.toLower == 'j') = true → inFloat c = false := by
    intro c hc
    have hne : ∀ d : Char, (d.toLower == 'j') = false → (c == d) = false := fun d hd =>
      beq_false_of_ne (ne_of_letter hd hc)
    rw [inFloat, isDigit_of_letter (by decide) hc, hne '_' (by decide), hne '.' (by decide),
      hne '+' (by decide), hne '-' (by decide), beq_iff_eq.mp hc]
    rfl
  have hletter : ∀ c : Char, (c.toLower == 'j') = true → Sealed c (orElse float digits) :=
    fun c hc => (sealed_float (hfloat c hc)).orElse
      (sealed_digits (isDigit_of_letter (by decide) hc) (ne_of_letter (by decide) hc))
  have hnumber : Trims (orElse float digits) := trims_float.orElse trims_digits
  exact (hnumber.andThen (bounded_float.orElse bounded_digits) (trims_one _)
      (seam_of_sealed (starts_one _) hletter)).orElse <|
    (trims_based _ _).orElse <| (trims_based _ _).orElse <| (trims_based _ _).orElse hnumber

/-! ## Names, operators, lines and comments -/

theorem trims_name : Trims name where
  none x y h := by
    cases x with
    | nil => rfl
    | cons c r =>
      rw [List.cons_append, name] at h
      split at h
      · cases h
      · next hc => exact if_neg hc
  some x y n h hle := by
    cases x with
    | nil => exact absurd hle (Nat.not_le_of_lt (positive_name _ n h))
    | cons c r =>
      rw [List.cons_append, name] at h
      split at h <;> cases h
      next hc =>
        rw [takeWhile_trimmed (Nat.le_of_succ_le_succ hle)]
        exact if_pos hc

theorem trims_op : Trims op where
  none x y h := by
    rw [op, Option.map_eq_none_iff, List.find?_eq_none] at h ⊢
    intro w hw hx
    refine h w hw (List.isPrefixOf_iff_prefix.mpr ?_)
    exact (List.isPrefixOf_iff_prefix.mp hx).trans (List.prefix_append x y)
  some x y n h hle := by
    obtain ⟨w, hw, rfl⟩ := Option.map_eq_some_iff.mp h
    obtain ⟨hlead, before, after, hops, hbefore⟩ := List.find?_eq_some_iff_append.mp hw
    refine Option.map_eq_some_iff.mpr ⟨w, List.find?_eq_some_iff_append.mpr ⟨?_, before, after,
      hops, fun v hv => ?_⟩, rfl⟩
    · exact List.isPrefixOf_iff_prefix.mpr (List.prefix_of_prefix_length_le
        (List.isPrefixOf_iff_prefix.mp hlead) (List.prefix_append x y) hle)
    · have hv := hbefore v hv
      rw [Bool.not_eq_true', ← Bool.not_eq_true, List.isPrefixOf_iff_prefix] at hv ⊢
      exact fun hx => hv (hx.trans (List.prefix_append x y))

theorem trims_lineBreak : Trims lineBreak where
  none x y h := by
    cases x with
    | nil => rfl
    | cons c r =>
      refine lineBreak_other ?_ r
      constructor
      · rintro rfl
        cases h
      · rintro rfl
        cases hry : r ++ y with
        | nil =>
          rw [List.cons_append, hry] at h
          cases h
        | cons d s =>
          rw [List.cons_append, hry] at h
          by_cases hd : d = '\n'
          · rw [hd] at h
            cases h
          · rw [lineBreak_carriageReturn hd] at h
            cases h
  some x y n h hle := by
    cases x with
    | nil => exact absurd hle (Nat.not_le_of_lt (positive_lineBreak _ n h))
    | cons c r =>
      by_cases hc : InLine c
      · rw [List.cons_append, lineBreak_other hc] at h
        cases h
      · obtain rfl | rfl : c = '\n' ∨ c = '\r' := by
          unfold InLine at hc
          tauto
        · exact h
        · cases r with
          | nil =>
            have hpos := positive_lineBreak _ n h
            obtain rfl : n = 1 := Nat.le_antisymm hle hpos
            rfl
          | cons d r =>
            by_cases hd : d = '\n'
            · rw [hd] at h ⊢
              exact h
            · rw [lineBreak_carriageReturn hd]
              rw [List.cons_append, List.cons_append, lineBreak_carriageReturn hd] at h
              exact h

theorem trims_continuation : Trims continuation :=
  (trims_one _).andThen (bounded_one _) trims_lineBreak (seam_one _ _)

theorem trims_comment : Trims comment where
  none x y h := by
    cases x with
    | nil => rfl
    | cons c r =>
      by_cases hc : c = '#'
      · rw [hc] at h
        cases h
      · simp [comment, hc]
  some x y n h hle := by
    cases x with
    | nil => exact absurd hle (Nat.not_le_of_lt (positive_comment _ n h))
    | cons c r =>
      by_cases hc : c = '#'
      · subst hc
        cases h
        have htrim := takeWhile_trimmed (Nat.le_of_succ_le_succ hle)
        exact congrArg (fun l : List Char => Option.some (l.length + 1)) htrim.symm
      · simp [comment, hc] at h

/-! ## Strings -/

theorem trims_stringMark : Trims stringMark := by
  have htwo : ∀ c d, Trims (andThen (letter c) (letter d)) := fun c d =>
    (trims_one _).andThen (bounded_one _) (trims_one _) (seam_one _ _)
  exact (htwo _ _).orElse <| (htwo _ _).orElse <| (htwo _ _).orElse <| (htwo _ _).orElse (trims_one _)

theorem closeTriple_trimmed {q : Char} {n : Nat} (h : closeTriple q (x ++ y) = some n)
    (hle : n ≤ x.length) : closeTriple q x = some n := by
  have hthree := (three_le_of_closeTriple h).1
  induction x using closeTriple.induct q generalizing n with
  | case1 => exact absurd (Nat.le_trans hthree hle) (by decide)
  | case2 => exact absurd (Nat.le_trans hthree hle) (by decide)
  | case3 d r ih =>
    rw [List.cons_append, List.cons_append, closeTriple_escape] at h
    obtain ⟨k, hk, rfl⟩ := Option.map_eq_some_iff.mp h
    rw [closeTriple_escape, ih hk (Nat.le_of_succ_le_succ (Nat.le_of_succ_le_succ hle))
      (three_le_of_closeTriple hk).1]
    rfl
  | case4 c r hc hstart =>
    have hstart' : startsTriple q (c :: (r ++ y)) = true :=
      List.isPrefixOf_iff_prefix.mpr
        ((List.isPrefixOf_iff_prefix.mp hstart).trans (List.prefix_append (c :: r) y))
    rw [List.cons_append, closeTriple_start hc hstart'] at h
    rw [closeTriple_start hc hstart, h]
  | case5 c r hc hstart ih =>
    have hstart' : ¬ startsTriple q (c :: (r ++ y)) = true := by
      rwa [← List.cons_append, startsTriple_append y (Nat.le_trans hthree hle)]
    rw [List.cons_append, closeTriple_cons hc hstart'] at h
    obtain ⟨k, hk, rfl⟩ := Option.map_eq_some_iff.mp h
    rw [closeTriple_cons hc hstart, ih hk (Nat.le_of_succ_le_succ hle) (three_le_of_closeTriple hk).1]
    rfl

theorem positive_closeSingle (q : Char) : Positive (closeSingle q) := by
  intro s n h
  obtain ⟨body, hbody, -⟩ := closeSingle_shape h
  cases n with
  | zero => simp at hbody
  | succ n => exact Nat.succ_pos n

theorem closeSingle_trimmed {q : Char} {n : Nat} (h : closeSingle q (x ++ y) = some n)
    (hle : n ≤ x.length) : closeSingle q x = some n := by
  induction x using closeSingle.induct q generalizing n with
  | case1 => exact absurd hle (Nat.not_le_of_lt (positive_closeSingle q _ n h))
  | case2 =>
    cases y with
    | nil => exact h
    | cons d r =>
      rw [List.singleton_append, closeSingle_escape] at h
      obtain ⟨k, hk, rfl⟩ := Option.map_eq_some_iff.mp h
      exact absurd hle (by simp)
  | case3 d r ih =>
    rw [List.cons_append, List.cons_append, closeSingle_escape] at h
    obtain ⟨k, hk, rfl⟩ := Option.map_eq_some_iff.mp h
    rw [closeSingle_escape, ih hk (Nat.le_of_succ_le_succ (Nat.le_of_succ_le_succ hle))]
    rfl
  | case4 r hne =>
    rw [List.cons_append, closeSingle_quote hne] at h
    rw [closeSingle_quote hne, h]
  | case5 c r hc hne hbreak =>
    rw [List.cons_append, closeSingle_break hc hne hbreak] at h
    cases h
  | case6 c r hc hne hbreak ih =>
    rw [List.cons_append, closeSingle_cons hc hne hbreak] at h
    obtain ⟨k, hk, rfl⟩ := Option.map_eq_some_iff.mp h
    rw [closeSingle_cons hc hne hbreak, ih hk (Nat.le_of_succ_le_succ hle)]
    rfl

theorem quoted_trimmed {n : Nat} (h : quoted (x ++ y) = some n) (hle : n ≤ x.length) :
    quoted x = some n := by
  have hpos := positive_quoted _ n h
  have hstart : ∀ q, startsTriple q x = true → startsTriple q (x ++ y) = true := fun q hq =>
    List.isPrefixOf_iff_prefix.mpr
      ((List.isPrefixOf_iff_prefix.mp hq).trans (List.prefix_append x y))
  -- a text in triple quotes, of which there are three characters at least
  have htriple : ∀ q, startsTriple q (x ++ y) = true →
      (closeTriple q ((x ++ y).drop 3)).map (· + 3) = some n →
      startsTriple q x = true ∧ (closeTriple q (x.drop 3)).map (· + 3) = some n := by
    intro q hq h
    obtain ⟨k, hk, rfl⟩ := Option.map_eq_some_iff.mp h
    have hlength : 3 ≤ x.length := Nat.le_trans (Nat.le_add_left 3 k) hle
    rw [startsTriple_append y hlength] at hq
    rw [List.drop_append_of_le_length hlength] at hk
    refine ⟨hq, ?_⟩
    rw [closeTriple_trimmed hk (by rw [List.length_drop]; omega)]
    rfl
  unfold quoted at h ⊢
  split at h
  · next hq =>
    obtain ⟨hq, hclose⟩ := htriple _ hq h
    rw [if_pos hq, hclose]
  · next hdouble =>
    rw [if_neg fun hq => hdouble (hstart _ hq)]
    split at h
    · next hq =>
      obtain ⟨hq, hclose⟩ := htriple _ hq h
      rw [if_pos hq, hclose]
    · next hsingle =>
      rw [if_neg fun hq => hsingle (hstart _ hq)]
      obtain ⟨c, r, rfl⟩ := List.exists_cons_of_length_pos (Nat.lt_of_lt_of_le hpos hle)
      have hclose : ∀ q, (closeSingle q (r ++ y)).map (· + 1) = some n →
          (closeSingle q r).map (· + 1) = some n := by
        intro q h
        obtain ⟨k, hk, rfl⟩ := Option.map_eq_some_iff.mp h
        rw [closeSingle_trimmed hk (Nat.le_of_succ_le_succ hle)]
        rfl
      by_cases hd : c = '"'
      · subst hd
        exact hclose _ h
      by_cases hs : c = '\''
      · subst hs
        exact hclose _ h
      · simp [hd, hs] at h

theorem string_trimmed {n : Nat} (h : Lexeme.string (x ++ y) = some n) (hle : n ≤ x.length) :
    Lexeme.string x = some n := by
  obtain ⟨i, j, hi, hj, rfl⟩ := andThen_eq_some.mp h
  have hix : i ≤ x.length := Nat.le_trans (Nat.le_add_right i j) hle
  rw [List.drop_append_of_le_length hix] at hj
  refine andThen_eq_some.mpr ⟨i, j, trims_stringMark.optional.some x y i hi hix, ?_, rfl⟩
  exact quoted_trimmed hj (by rw [List.length_drop]; omega)

theorem trims_openQuote : Trims openQuote := by
  have hquotes : Starts Quoted.isQuote (orElse (exactly ['"', '"', '"']) <|
      orElse (exactly ['\'', '\'', '\'']) (one fun c => c == '"' || c == '\'')) := by
    refine (starts_exactly rfl).orElse ((starts_exactly rfl).orElse fun s hs => ?_)
    obtain ⟨c, r, rfl, hc⟩ := starts_one _ s hs
    exact ⟨c, r, rfl, (Bool.or_comm _ _).trans hc⟩
  refine trims_stringMark.optional.andThen bounded_marks ?_ (seam_of_sealed hquotes fun c hc =>
    sealed_marks fun hmark => ?_)
  · exact (trims_exactly _).orElse ((trims_exactly _).orElse (trims_one _))
  · rw [isQuote_of_isMark hmark] at hc
    cases hc

/-! ## The piece at the front -/

theorem Trims.carries {m : Measure} (h : Trims m) (x y : List Char) :
    Carries (· ≤ x.length) m (x ++ y) x :=
  ⟨h.none x y, h.some x y⟩

theorem trims_before : ∀ km ∈ kindsBefore, Trims km.2 := by
  simp only [kindsBefore, List.forall_mem_cons, List.not_mem_nil, false_imp_iff, implies_true,
    and_true]
  exact ⟨trims_continuation, trims_lineBreak, trims_run _, trims_comment⟩

theorem trims_after : ∀ km ∈ kindsAfter, Trims km.2 := by
  simp only [kindsAfter, List.forall_mem_cons, List.not_mem_nil, false_imp_iff, implies_true,
    and_true]
  exact ⟨trims_openQuote, trims_number, trims_name, trims_op, trims_one _⟩

/-- The piece at the front of a text is there when the text is cut off behind it. -/
theorem front?_trimmed {kind : LexemeKind} {n : Nat} (h : front? (x ++ y) = some (kind, n))
    (hkind : kind ≠ .openQuote) (hn : n ≤ x.length) : front? x = some (kind, n) :=
  front?_carries (P := fun _ k => k ≤ x.length) (fun km hkm => (trims_before km hkm).carries x y)
    (fun _ hk hle => string_trimmed hk hle) (fun km hkm => (trims_after km hkm).carries x y)
    h hkind hn

/-! ## Texts -/

/-- A text that is cut off between two lexemes keeps those before. -/
theorem lexemes_trimmed {pre post : List Lexeme} (h : lexemes (x ++ y) = pre ++ post)
    (hx : (pre.map Lexeme.text).flatten = x) (hpre : ∀ l ∈ pre, l.kind ≠ .openQuote) :
    lexemes x = pre := by
  induction pre generalizing x with
  | nil =>
    rw [← hx]
    rfl
  | cons l pre ih =>
    obtain ⟨n, hfront, htext, hrest⟩ := front_of_lexemes h
    have hlength : l.text.length = n := by
      rw [htext, List.length_take, Nat.min_eq_left (front_le hfront)]
    rw [List.forall_mem_cons] at hpre
    rw [List.map_cons, List.flatten_cons] at hx
    have hle : n ≤ x.length := by
      rw [← hx, List.length_append, hlength]
      exact Nat.le_add_right _ _
    have htake : x.take n = l.text := by rw [htext, List.take_append_of_le_length hle]
    have hdrop : x.drop n = (pre.map Lexeme.text).flatten := by
      rw [← hx, ← hlength, List.drop_left]
    rw [lexemes_of_front (front?_trimmed hfront hpre.1 hle), htake,
      ih (by rw [← List.drop_append_of_le_length hle]; exact hrest.symm) hdrop.symm hpre.2]

end PythonSyntax.Lexeme
