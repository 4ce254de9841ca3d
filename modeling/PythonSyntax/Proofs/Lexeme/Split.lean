import Mathlib.Tactic.Common
import PythonSyntax.Lexeme

/-
A text falls into its lexemes.

No measure is zero, so each lexeme has a character, and the last kind fits any character, so the
lexemes of a text are the text.
-/

namespace PythonSyntax.Lexeme

/-! ## Measures are positive -/

/-- A measure that never measures an empty piece. -/
def Positive (m : Measure) : Prop := ∀ s n, m s = some n → 0 < n

theorem positive_one (p : Char → Bool) : Positive (one p) := by
  intro s n h
  cases s with
  | nil => exact nomatch h
  | cons c r =>
    rw [one] at h
    split at h
    · cases h; exact Nat.one_pos
    · exact nomatch h

theorem andThen_eq_some {a b : Measure} {s : List Char} {n : Nat} :
    andThen a b s = some n ↔ ∃ i j, a s = some i ∧ b (s.drop i) = some j ∧ i + j = n := by
  simp [andThen, Option.bind_eq_some_iff]

theorem Positive.andThen_left {a : Measure} (b : Measure) (ha : Positive a) :
    Positive (andThen a b) := by
  intro s n h
  obtain ⟨i, j, hi, -, rfl⟩ := andThen_eq_some.mp h
  have := ha s i hi
  omega

theorem Positive.andThen_right (a : Measure) {b : Measure} (hb : Positive b) :
    Positive (andThen a b) := by
  intro s n h
  obtain ⟨i, j, -, hj, rfl⟩ := andThen_eq_some.mp h
  have := hb _ j hj
  omega

theorem Positive.orElse {a b : Measure} (ha : Positive a) (hb : Positive b) :
    Positive (orElse a b) := by
  intro s n h
  rw [Lexeme.orElse, Option.or_eq_some_iff] at h
  rcases h with h | ⟨-, h⟩
  · exact ha s n h
  · exact hb s n h

theorem positive_run (p : Char → Bool) : Positive (run p) := by
  intro s n h
  unfold run at h
  split at h
  · exact nomatch h
  · cases h; exact Nat.succ_pos _

theorem positive_exactly (c : Char) (word : List Char) : Positive (exactly (c :: word)) := by
  intro s n h
  unfold exactly at h
  split at h
  · cases h; exact Nat.succ_pos _
  · exact nomatch h

theorem positive_lineBreak : Positive lineBreak := by
  intro s n h
  unfold lineBreak at h
  split at h <;> cases h <;> decide

theorem positive_comment : Positive comment := by
  intro s n h
  unfold comment at h
  split at h
  · cases h; exact Nat.succ_pos _
  · exact nomatch h

/-- What a measure plus a constant comes from. -/
theorem map_add_pos {o : Option Nat} {k n : Nat} (h : o.map (· + (k + 1)) = some n) : 0 < n := by
  obtain ⟨m, -, rfl⟩ := Option.map_eq_some_iff.mp h
  exact Nat.succ_pos _

theorem positive_quoted : Positive quoted := by
  intro s n h
  unfold quoted at h
  split at h
  · exact map_add_pos h
  · split at h
    · exact map_add_pos h
    · split at h
      · exact map_add_pos h
      · exact map_add_pos h
      · exact nomatch h

theorem positive_based (mark : Char) (p : Char → Bool) : Positive (based mark p) :=
  (positive_one _).andThen_left _

theorem positive_digits : Positive digits := (positive_one _).andThen_left _

theorem positive_float : Positive float := by
  have hpointed : Positive pointed :=
    (((positive_one _).andThen_left _).andThen_right _).orElse (positive_digits.andThen_left _)
  exact (hpointed.andThen_left _).orElse (positive_digits.andThen_left _)

theorem positive_number : Positive number :=
  ((positive_float.orElse positive_digits).andThen_left _).orElse <|
    (positive_based _ _).orElse <| (positive_based _ _).orElse <| (positive_based _ _).orElse <|
      positive_float.orElse positive_digits

theorem positive_name : Positive name := by
  intro s n h
  unfold name at h
  split at h
  · split at h
    · cases h; exact Nat.succ_pos _
    · exact nomatch h
  · exact nomatch h

theorem positive_op : Positive op := by
  have hne : ∀ w ∈ operators, 0 < w.length := by decide
  intro s n h
  obtain ⟨w, hw, rfl⟩ := Option.map_eq_some_iff.mp h
  exact hne w (List.mem_of_find?_eq_some hw)

theorem positive_kinds : ∀ km ∈ kinds, Positive km.2 := by
  have hopen : Positive openQuote :=
    (((positive_exactly _ _).orElse ((positive_exactly _ _).orElse (positive_one _)))).andThen_right _
  simp only [kinds, List.forall_mem_cons, List.not_mem_nil, false_imp_iff, implies_true, and_true]
  exact ⟨(positive_one _).andThen_left _, positive_lineBreak, positive_run _, positive_comment,
    positive_quoted.andThen_right _, hopen, positive_number, positive_name, positive_op,
    positive_one _⟩

/-! ## The order of the kinds -/

/-- The kinds that are tried before strings. -/
def kindsBefore : List (LexemeKind × Measure) := [
  (.continuation, continuation), (.lineBreak, lineBreak), (.blank, blank), (.comment, comment)]

/-- The kinds that are tried after strings. -/
def kindsAfter : List (LexemeKind × Measure) := [
  (.openQuote, openQuote), (.number, number), (.name, name), (.op, op), (.stray, one fun _ => true)]

/-- The first kind that fits: one before strings, a string, or one after. -/
theorem front?_eq (s : List Char) :
    front? s = (kindsBefore.findSome? fun km => (km.2 s).map fun n => (km.1, n)).or
      (((Lexeme.string s).map fun n => (.string, n)).or
        (kindsAfter.findSome? fun km => (km.2 s).map fun n => (km.1, n))) := by
  have hcut : ∀ (f : LexemeKind × Measure → Option (LexemeKind × Nat)) (as bs) (km),
      (as ++ km :: bs).findSome? f = (as.findSome? f).or ((f km).or (bs.findSome? f)) := by
    intro f as bs km
    rw [List.findSome?_append, List.findSome?_cons]
    cases f km <;> rfl
  exact hcut _ kindsBefore kindsAfter (.string, Lexeme.string)

/-! ## Pieces -/

/-- The piece at the front is of one of the kinds, and has a character. -/
theorem front_pos {s : List Char} {kind : LexemeKind} {n : Nat} (h : front? s = some (kind, n)) :
    0 < n := by
  obtain ⟨km, hkm, hm⟩ := List.exists_of_findSome?_eq_some h
  obtain ⟨m, hm, heq⟩ := Option.map_eq_some_iff.mp hm
  cases heq
  exact positive_kinds km hkm s n hm

/-- Every character begins some piece. -/
theorem front_ne_none (c : Char) (r : List Char) : front? (c :: r) ≠ none := by
  intro h
  have := List.findSome?_eq_none_iff.mp h (.stray, one fun _ => true) (by simp [kinds])
  simp [one] at this

/-- The pieces of a text, in order, are the text. -/
theorem flatten_split (fuel : Nat) (s : List Char) (h : s.length ≤ fuel) :
    ((split fuel s).map Lexeme.text).flatten = s := by
  induction fuel generalizing s with
  | zero => simp_all [split]
  | succ fuel ih =>
    unfold split
    split
    · next hnone =>
      cases s with
      | nil => rfl
      | cons c r => exact absurd hnone (front_ne_none c r)
    · next kind n hfront =>
      have hn := front_pos hfront
      rw [List.map_cons, List.flatten_cons, ih _ (by rw [List.length_drop]; omega)]
      exact List.take_append_drop n s

theorem text_ne_nil_of_split (fuel : Nat) (s : List Char) (h : s.length ≤ fuel) :
    ∀ l ∈ split fuel s, l.text ≠ [] := by
  induction fuel generalizing s with
  | zero => simp [split]
  | succ fuel ih =>
    unfold split
    split
    · simp
    · next kind n hfront =>
      have hn := front_pos hfront
      have hs : s ≠ [] := by
        rintro rfl
        have hnil : front? [] = none := by rfl
        exact nomatch hnil.symm.trans hfront
      rw [List.forall_mem_cons]
      refine ⟨fun hnil => ?_, ih _ (by rw [List.length_drop]; omega)⟩
      have := List.length_pos_iff.mpr hs
      have := congrArg List.length hnil
      simp only [List.length_take, List.length_nil] at this
      omega

/-- The pieces of a text are all there if there may be as many as characters. -/
theorem split_eq_lexemes (fuel : Nat) (s : List Char) (h : s.length ≤ fuel) :
    split fuel s = lexemes s := by
  unfold lexemes
  induction fuel using Nat.strongRecOn generalizing s with
  | ind fuel ih =>
    cases s with
    | nil =>
      cases fuel with
      | zero => rfl
      | succ fuel => rfl
    | cons c r =>
      cases fuel with
      | zero => exact absurd h (Nat.not_succ_le_zero _)
      | succ fuel =>
        rw [List.length_cons, split, split]
        cases hfront : front? (c :: r) with
        | none => rfl
        | some kn =>
          obtain ⟨kind, n⟩ := kn
          have hn := front_pos hfront
          have hlen : ((c :: r).drop n).length ≤ r.length := by
            rw [List.length_drop, List.length_cons]
            omega
          rw [List.length_cons] at h
          exact congrArg (_ :: ·) ((ih fuel (by omega) _ (by omega)).trans
            (ih r.length (by omega) _ hlen).symm)

theorem lexemes_nil : lexemes [] = [] := rfl

/-- The first lexeme of a text, and those of the rest. -/
theorem lexemes_of_front {s : List Char} {kind : LexemeKind} {n : Nat}
    (h : front? s = some (kind, n)) : lexemes s = ⟨kind, s.take n⟩ :: lexemes (s.drop n) := by
  have hn := front_pos h
  cases s with
  | nil => exact nomatch h
  | cons c r =>
    have hlen : ((c :: r).drop n).length ≤ r.length := by
      rw [List.length_drop, List.length_cons]
      omega
    unfold lexemes
    rw [List.length_cons, split, h]
    exact congrArg (_ :: ·) (split_eq_lexemes _ _ hlen)

/-- The lexemes of a text, in order, are the text. -/
theorem flatten_lexemes (s : List Char) : ((lexemes s).map Lexeme.text).flatten = s :=
  flatten_split s.length s (Nat.le_refl _)

/-- What is left of a text after some lexemes has the others. -/
theorem lexemes_of_append {s : List Char} {pre post : List Lexeme} (h : lexemes s = pre ++ post) :
    lexemes (post.map Lexeme.text).flatten = post := by
  induction pre generalizing s with
  | nil => rw [← List.nil_append post, ← h, flatten_lexemes]
  | cons l pre ih =>
    cases s with
    | nil => exact nomatch h
    | cons c r =>
      cases hfront : front? (c :: r) with
      | none => exact absurd hfront (front_ne_none c r)
      | some kn =>
        rw [lexemes_of_front hfront] at h
        exact ih (List.cons.inj h).2

theorem text_ne_nil {s : List Char} {l : Lexeme} (h : l ∈ lexemes s) : l.text ≠ [] :=
  text_ne_nil_of_split s.length s (Nat.le_refl _) l h

/-! ## The first lexeme -/

/-- The first lexeme is the piece at the front of a text, and the others are those of the rest. -/
theorem front_of_lexemes {text : List Char} {l : Lexeme} {ls : List Lexeme}
    (h : lexemes text = l :: ls) :
    ∃ n, front? text = some (l.kind, n) ∧ l.text = text.take n ∧ ls = lexemes (text.drop n) := by
  cases hfront : front? text with
  | none =>
    cases text with
    | nil => exact nomatch h
    | cons c r => exact absurd hfront (front_ne_none c r)
  | some kn =>
    obtain ⟨kind, n⟩ := kn
    rw [lexemes_of_front hfront] at h
    cases h
    exact ⟨n, rfl, rfl, rfl⟩

/-- The first lexeme is what its measure takes. -/
theorem measured {text : List Char} {l : Lexeme} {ls : List Lexeme}
    (h : lexemes text = l :: ls) : ∃ m n, (l.kind, m) ∈ kinds ∧ m text = some n ∧
      l.text = text.take n ∧ ls = lexemes (text.drop n) := by
  obtain ⟨n, hfront, hrest⟩ := front_of_lexemes h
  obtain ⟨⟨kind, m⟩, hkm, hm⟩ := List.exists_of_findSome?_eq_some hfront
  obtain ⟨k, hk, heq⟩ := Option.map_eq_some_iff.mp hm
  obtain ⟨rfl, rfl⟩ := Prod.mk.inj heq
  exact ⟨m, k, hkm, hk, hrest⟩

/-- The kinds of lexemes have one measure each. -/
theorem measured_kind {text : List Char} {l : Lexeme} {ls : List Lexeme} {kind : LexemeKind}
    {m : Measure} (h : lexemes text = l :: ls) (hkind : l.kind = kind)
    (hm : ∀ m', (kind, m') ∈ kinds → m' = m) :
    ∃ n, m text = some n ∧ l.text = text.take n := by
  obtain ⟨m', n, hm', hn, htext, -⟩ := measured h
  rw [hkind] at hm'
  rw [hm m' hm'] at hn
  exact ⟨n, hn, htext⟩

end PythonSyntax.Lexeme
