import PythonSyntax.Proofs.Literal.Shape

/-
No piece is longer than what is left of the text.
-/

namespace PythonSyntax.Lexeme

/-- A measure that measures only what is there. -/
def Bounded (m : Measure) : Prop := ∀ s n, m s = some n → n ≤ s.length

variable {a b : Measure}

/-! ## Combining measures -/

theorem bounded_one (p : Char → Bool) : Bounded (one p) := by
  intro s n h
  cases s with
  | nil => cases h
  | cons c r =>
    rw [one] at h
    split at h <;> cases h
    exact Nat.succ_le_succ (Nat.zero_le _)

theorem Bounded.andThen (ha : Bounded a) (hb : Bounded b) : Bounded (andThen a b) := by
  intro s n h
  obtain ⟨i, j, hi, hj, rfl⟩ := andThen_eq_some.mp h
  have hle := ha s i hi
  have hrest := hb _ j hj
  rw [List.length_drop] at hrest
  omega

theorem Bounded.orElse (ha : Bounded a) (hb : Bounded b) : Bounded (orElse a b) := by
  intro s n h
  rw [Lexeme.orElse, Option.or_eq_some_iff] at h
  rcases h with h | ⟨-, h⟩
  · exact ha s n h
  · exact hb s n h

theorem Bounded.optional (ha : Bounded a) : Bounded (optional a) := by
  intro s n h
  cases hi : a s with
  | none =>
    rw [Lexeme.optional, hi] at h
    cases h
    exact Nat.zero_le _
  | some i =>
    rw [Lexeme.optional, hi] at h
    cases h
    exact ha s i hi

theorem bounded_run (p : Char → Bool) : Bounded (run p) := by
  intro s n h
  have hle := (List.takeWhile_prefix (l := s) p).length_le
  unfold run at h
  split at h
  · cases h
  · next k hk =>
    cases h
    rwa [hk] at hle

theorem bounded_exactly (w : List Char) : Bounded (exactly w) := by
  intro s n h
  unfold exactly at h
  split at h
  · next hw =>
    cases h
    exact (List.isPrefixOf_iff_prefix.mp hw).length_le
  · cases h

/-! ## Numbers, names and operators -/

theorem digitsAfter_le (p : Char → Bool) (s : List Char) : digitsAfter p s ≤ s.length := by
  induction s using digitsAfter.induct p with
  | case1 => exact Nat.le_refl _
  | case2 c r hc ih =>
    rw [digitsAfter_digit hc]
    exact Nat.succ_le_succ ih
  | case3 hu =>
    rw [digitsAfter_last hu]
    exact Nat.zero_le _
  | case4 d r hd hu ih =>
    rw [digitsAfter_joined hu, if_pos hd]
    exact Nat.succ_le_succ (Nat.succ_le_succ ih)
  | case5 d r hd hu =>
    rw [digitsAfter_joined hu, if_neg hd]
    exact Nat.zero_le _
  | case6 c r hc hu =>
    rw [digitsAfter_other hc hu]
    exact Nat.zero_le _

theorem bounded_digits : Bounded digits := by
  refine (bounded_one _).andThen fun s n h => ?_
  cases h
  exact digitsAfter_le _ s

theorem bounded_based (mark : Char) (p : Char → Bool) : Bounded (based mark p) := by
  refine (bounded_one _).andThen ((bounded_one _).andThen fun s n h => ?_)
  have hle := digitsAfter_le p s
  split at h
  · cases h
  · next k hk =>
    cases h
    rwa [hk] at hle

theorem bounded_pointed : Bounded pointed :=
  (bounded_digits.optional.andThen ((bounded_one _).andThen bounded_digits)).orElse
    (bounded_digits.andThen (bounded_one _))

theorem bounded_float : Bounded float := by
  have hexponent : Bounded exponent :=
    (bounded_one _).andThen ((bounded_one _).optional.andThen bounded_digits)
  exact (bounded_pointed.andThen hexponent.optional).orElse (bounded_digits.andThen hexponent)

theorem bounded_number : Bounded number :=
  ((bounded_float.orElse bounded_digits).andThen (bounded_one _)).orElse <|
    (bounded_based _ _).orElse <| (bounded_based _ _).orElse <| (bounded_based _ _).orElse <|
      bounded_float.orElse bounded_digits

theorem bounded_name : Bounded name := by
  intro s n h
  cases s with
  | nil => cases h
  | cons c r =>
    rw [name] at h
    split at h <;> cases h
    exact Nat.succ_le_succ (List.takeWhile_prefix _).length_le

theorem bounded_op : Bounded op := by
  intro s n h
  obtain ⟨w, hw, rfl⟩ := Option.map_eq_some_iff.mp h
  have hlead := List.find?_some hw
  exact (List.isPrefixOf_iff_prefix.mp hlead).length_le

/-! ## Lines, comments and strings -/

theorem bounded_lineBreak : Bounded lineBreak := by
  intro s n h
  unfold lineBreak at h
  split at h <;> cases h <;> simp

theorem bounded_comment : Bounded comment := by
  intro s n h
  unfold comment at h
  split at h <;> cases h
  exact Nat.succ_le_succ (List.takeWhile_prefix _).length_le

theorem bounded_closeTriple (q : Char) : Bounded (closeTriple q) := by
  intro s n h
  induction s using closeTriple.induct q generalizing n with
  | case1 => cases h
  | case2 => cases h
  | case3 d r ih =>
    rw [closeTriple_escape] at h
    obtain ⟨k, hk, rfl⟩ := Option.map_eq_some_iff.mp h
    exact Nat.succ_le_succ (Nat.succ_le_succ (ih k hk))
  | case4 c r hc hstart =>
    rw [closeTriple_start hc hstart] at h
    cases h
    exact (List.isPrefixOf_iff_prefix.mp hstart).length_le
  | case5 c r hc hstart ih =>
    rw [closeTriple_cons hc hstart] at h
    obtain ⟨k, hk, rfl⟩ := Option.map_eq_some_iff.mp h
    exact Nat.succ_le_succ (ih k hk)

theorem bounded_closeSingle (q : Char) : Bounded (closeSingle q) := by
  intro s n h
  induction s using closeSingle.induct q generalizing n with
  | case1 => cases h
  | case2 => cases h
  | case3 d r ih =>
    rw [closeSingle_escape] at h
    obtain ⟨k, hk, rfl⟩ := Option.map_eq_some_iff.mp h
    exact Nat.succ_le_succ (Nat.succ_le_succ (ih k hk))
  | case4 r hne =>
    rw [closeSingle_quote hne] at h
    cases h
    exact Nat.succ_le_succ (Nat.zero_le _)
  | case5 c r hc hne hbreak =>
    rw [closeSingle_break hc hne hbreak] at h
    cases h
  | case6 c r hc hne hbreak ih =>
    rw [closeSingle_cons hc hne hbreak] at h
    obtain ⟨k, hk, rfl⟩ := Option.map_eq_some_iff.mp h
    exact Nat.succ_le_succ (ih k hk)

theorem bounded_quoted : Bounded quoted := by
  have htriple : ∀ {q : Char} {s : List Char} {n : Nat}, startsTriple q s = true →
      (closeTriple q (s.drop 3)).map (· + 3) = some n → n ≤ s.length := by
    intro q s n hstart h
    obtain ⟨k, hk, rfl⟩ := Option.map_eq_some_iff.mp h
    have hle := bounded_closeTriple q _ k hk
    have hthree : 3 ≤ s.length := (List.isPrefixOf_iff_prefix.mp hstart).length_le
    rw [List.length_drop] at hle
    omega
  have hsingle : ∀ {q : Char} {r : List Char} {n : Nat},
      (closeSingle q r).map (· + 1) = some n → n ≤ r.length + 1 := by
    intro q r n h
    obtain ⟨k, hk, rfl⟩ := Option.map_eq_some_iff.mp h
    exact Nat.succ_le_succ (bounded_closeSingle q r k hk)
  intro s n h
  unfold quoted at h
  split at h
  · next hstart => exact htriple hstart h
  · split at h
    · next hstart => exact htriple hstart h
    · split at h
      · exact hsingle h
      · exact hsingle h
      · cases h

theorem bounded_marks : Bounded (optional stringMark) :=
  Bounded.optional <| ((bounded_one _).andThen (bounded_one _)).orElse <|
    ((bounded_one _).andThen (bounded_one _)).orElse <|
    ((bounded_one _).andThen (bounded_one _)).orElse <|
    ((bounded_one _).andThen (bounded_one _)).orElse (bounded_one _)

/-! ## The piece at the front -/

theorem bounded_kinds : ∀ km ∈ kinds, Bounded km.2 := by
  have hopen : Bounded openQuote :=
    bounded_marks.andThen <| (bounded_exactly _).orElse <| (bounded_exactly _).orElse (bounded_one _)
  simp only [kinds, List.forall_mem_cons, List.not_mem_nil, false_imp_iff, implies_true, and_true]
  exact ⟨(bounded_one _).andThen bounded_lineBreak, bounded_lineBreak, bounded_run _,
    bounded_comment, bounded_marks.andThen bounded_quoted, hopen, bounded_number, bounded_name,
    bounded_op, bounded_one _⟩

theorem front_le {s : List Char} {kind : LexemeKind} {n : Nat} (h : front? s = some (kind, n)) :
    n ≤ s.length := by
  obtain ⟨km, hkm, hm⟩ := List.exists_of_findSome?_eq_some h
  obtain ⟨k, hk, heq⟩ := Option.map_eq_some_iff.mp hm
  cases heq
  exact bounded_kinds km hkm s n hk

end PythonSyntax.Lexeme
