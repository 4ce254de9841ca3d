import Mathlib.Data.List.Find
import PythonSyntax.Proofs.Lexeme.Class
import PythonSyntax.Proofs.LineEnding.Text

/-
Measures under another line ending.

`Follows e m` says that a measure measures in a spelled text what the piece of the text becomes.
Every measure that stays on its line does so, since no class of characters that it reads by has a
line break in it; strings are another matter.
-/

namespace PythonSyntax.Lexeme

variable {e : LineEnding} {a b : Measure} {p : Char → Bool}

/-- A measure that measures the same piece in a text under the ending `e`. -/
def Follows (e : LineEnding) (m : Measure) : Prop :=
  ∀ s, '\r' ∉ s → m (e.spell s) = (m s).map fun n => (e.spell (s.take n)).length

theorem not_mem_drop {c : Char} {s : List Char} (h : c ∉ s) (n : Nat) : c ∉ s.drop n :=
  fun hmem => h (List.mem_of_mem_drop hmem)

/-! ## Combining measures -/

theorem follows_one (hn : p '\n' = false) (hr : p '\r' = false) : Follows e (one p) := by
  intro s _
  cases s with
  | nil => rfl
  | cons c r =>
    by_cases hc : c = '\n'
    · subst hc
      cases e <;> simp [LineEnding.text, one, hn, hr]
    · rw [e.spell_cons hc, one, one]
      cases p c
      · rfl
      · simp [e.spell_cons hc]

theorem Follows.andThen (ha : Follows e a) (hb : Follows e b) : Follows e (andThen a b) := by
  intro s hs
  unfold Lexeme.andThen
  rw [ha s hs]
  cases hn : a s with
  | none => rfl
  | some n =>
    show (b ((e.spell s).drop (e.spell (s.take n)).length) >>= fun m => _) = _
    rw [LineEnding.drop_spell, hb _ (not_mem_drop hs n)]
    cases hm : b (s.drop n) with
    | none => simp [hm]
    | some m => simp [hm, List.take_add, LineEnding.spell_append]

theorem Follows.orElse (ha : Follows e a) (hb : Follows e b) : Follows e (orElse a b) := by
  intro s hs
  rw [Lexeme.orElse, Lexeme.orElse, ha s hs, hb s hs]
  cases a s <;> rfl

theorem Follows.optional (ha : Follows e a) : Follows e (optional a) := by
  intro s hs
  rw [Lexeme.optional, Lexeme.optional, ha s hs]
  cases a s <;> rfl

theorem follows_exactly {w : List Char} (hn : '\n' ∉ w) (hr : '\r' ∉ w) : Follows e (exactly w) := by
  intro s _
  rw [exactly, exactly, LineEnding.isPrefixOf_spell hn hr]
  split
  · next h =>
    rw [Option.map_some, ← List.prefix_iff_eq_take.mp (List.isPrefixOf_iff_prefix.mp h),
      LineEnding.spell_eq_self hn]
  · rfl

/-- The part of a text that stays within a class that no line break belongs to. -/
theorem length_spell_takeWhile (hn : p '\n' = false) (s : List Char) :
    (e.spell (s.take (s.takeWhile p).length)).length = (s.takeWhile p).length := by
  have hline : '\n' ∉ s.takeWhile p := fun hmem => by
    have := List.mem_takeWhile_imp hmem
    rw [hn] at this
    exact nomatch this
  rw [← List.prefix_iff_eq_take.mp (List.takeWhile_prefix p), LineEnding.spell_eq_self hline]

theorem follows_run (hn : p '\n' = false) (hr : p '\r' = false) : Follows e (run p) := by
  intro s _
  have hlen := length_spell_takeWhile (e := e) hn s
  rw [run, run, LineEnding.takeWhile_spell_of_line hn hr]
  cases hk : (s.takeWhile p).length with
  | zero => rfl
  | succ n =>
    rw [hk] at hlen
    exact congrArg some hlen.symm

/-! ## Digits -/

theorem follows_digitsAfter (hn : p '\n' = false) (hr : p '\r' = false) :
    Follows e fun s => some (digitsAfter p s) := by
  intro s hs
  refine congrArg some ?_
  show digitsAfter p (e.spell s) = (e.spell (s.take (digitsAfter p s))).length
  -- the first character of a spelled text that does not go on with the line
  have hbreak : ∀ r, digitsAfter p (e.spell ('\n' :: r)) = 0 := by
    intro r
    cases e with
    | lf => exact digitsAfter_other (by simp [hn]) (by decide)
    | crlf => exact digitsAfter_other (by simp [hr]) (by decide)
  induction s using digitsAfter.induct p with
  | case1 => rfl
  | case2 c r hc ih =>
    have hcn : c ≠ '\n' := by
      rintro rfl
      rw [hn] at hc
      cases hc
    rw [e.spell_cons hcn, digitsAfter_digit hc, digitsAfter_digit hc, List.take_succ_cons,
      e.spell_cons hcn, List.length_cons, ih fun h => hs (List.mem_cons_of_mem _ h)]
  | case3 hu => rw [e.spell_cons (by decide), LineEnding.spell_nil, digitsAfter_last hu]; rfl
  | case4 d r hd hu ih =>
    have hdn : d ≠ '\n' := by
      rintro rfl
      rw [hn] at hd
      cases hd
    rw [e.spell_cons (by decide), e.spell_cons hdn, digitsAfter_joined hu, digitsAfter_joined hu,
      if_pos hd, if_pos hd, ih fun h => hs (List.mem_cons_of_mem _ (List.mem_cons_of_mem _ h))]
    simp [e.spell_cons hdn, e.spell_cons (show '_' ≠ '\n' by decide)]
  | case5 d r hd hu =>
    rw [digitsAfter_joined hu, if_neg hd, e.spell_cons (by decide)]
    by_cases hdn : d = '\n'
    · subst hdn
      cases e with
      | lf => exact (digitsAfter_joined hu).trans (if_neg (by simp [hn]))
      | crlf => exact (digitsAfter_joined hu).trans (if_neg (by simp [hr]))
    · rw [e.spell_cons hdn, digitsAfter_joined hu, if_neg hd]
      rfl
  | case6 c r hc hu =>
    rw [digitsAfter_other hc hu]
    by_cases hcn : c = '\n'
    · subst hcn
      exact hbreak r
    · rw [e.spell_cons hcn, digitsAfter_other hc hu]
      rfl

theorem follows_digits : Follows e digits :=
  (follows_one (by decide) (by decide)).andThen (follows_digitsAfter (by decide) (by decide))

theorem follows_based {mark : Char} (hm : Follows e (letter mark)) (hn : p '\n' = false)
    (hr : p '\r' = false) : Follows e (based mark p) := by
  refine (follows_one (by decide) (by decide)).andThen (hm.andThen fun s hs => ?_)
  have hdigits : digitsAfter p (e.spell s) = (e.spell (s.take (digitsAfter p s))).length :=
    Option.some.inj (follows_digitsAfter hn hr s hs)
  cases hk : digitsAfter p s with
  | zero =>
    rw [hk] at hdigits
    rw [hdigits]
    rfl
  | succ n =>
    rw [hk] at hdigits
    cases hk' : digitsAfter p (e.spell s) with
    | zero =>
      rw [hk'] at hdigits
      have hnil := LineEnding.spell_eq_nil.mp (List.length_eq_zero_iff.mp hdigits.symm)
      cases s with
      | nil => exact nomatch hk
      | cons _ _ => exact nomatch hnil
    | succ n' => exact congrArg some (hk'.symm.trans hdigits)

theorem follows_exponent : Follows e exponent :=
  (follows_one (by decide) (by decide)).andThen <|
    (follows_one (by decide) (by decide)).optional.andThen follows_digits

theorem follows_float : Follows e float := by
  have hpoint : Follows e (one (· == '.')) := follows_one (by decide) (by decide)
  have hpointed : Follows e pointed :=
    (follows_digits.optional.andThen (hpoint.andThen follows_digits)).orElse
      (follows_digits.andThen hpoint)
  exact (hpointed.andThen follows_exponent.optional).orElse (follows_digits.andThen follows_exponent)

theorem follows_number : Follows e number := by
  have hj : Follows e (letter 'j') := follows_one (by decide) (by decide)
  have hx : Follows e (letter 'x') := follows_one (by decide) (by decide)
  have ho : Follows e (letter 'o') := follows_one (by decide) (by decide)
  have hb : Follows e (letter 'b') := follows_one (by decide) (by decide)
  exact ((follows_float.orElse follows_digits).andThen hj).orElse <|
    (follows_based hx (by decide) (by decide)).orElse <|
    (follows_based ho (by decide) (by decide)).orElse <|
    (follows_based hb (by decide) (by decide)).orElse <| follows_float.orElse follows_digits

/-! ## Names, operators and blanks -/

theorem follows_name : Follows e name := by
  intro s _
  cases s with
  | nil => rfl
  | cons c r =>
    by_cases hc : c = '\n'
    · subst hc
      have hn : Unicode.isIdentifierStart '\n' = false :=
        (Bool.or_eq_false_iff.mp (eq_false_of_mem_stops isIdentifierStart_stops (by decide))).1
      have hr : Unicode.isIdentifierStart '\r' = false :=
        (Bool.or_eq_false_iff.mp (eq_false_of_mem_stops isIdentifierStart_stops (by decide))).1
      cases e <;> simp [LineEnding.text, name, hn, hr]
    · have hn : Unicode.isIdentifierContinue '\n' = false :=
        eq_false_of_mem_stops isIdentifierContinue_stops (by decide)
      have hr : Unicode.isIdentifierContinue '\r' = false :=
        eq_false_of_mem_stops isIdentifierContinue_stops (by decide)
      rw [e.spell_cons hc, name, name, LineEnding.takeWhile_spell_of_line hn hr]
      split
      · rw [Option.map_some, List.take_succ_cons, e.spell_cons hc, List.length_cons,
          length_spell_takeWhile hn]
      · rfl

theorem follows_op : Follows e op := by
  intro s _
  have hline : ∀ w ∈ operators, w.isPrefixOf (e.spell s) = w.isPrefixOf s := fun w hw =>
    LineEnding.isPrefixOf_spell (fun h => (inLine_operators w hw _ h).1 rfl)
      (fun h => (inLine_operators w hw _ h).2 rfl) s
  rw [op, op, List.find?_congr hline]
  cases hw : operators.find? (·.isPrefixOf s) with
  | none => rfl
  | some w =>
    have hw' := List.find?_some hw
    have hlead := List.prefix_iff_eq_take.mp (List.isPrefixOf_iff_prefix.mp hw')
    have hmem : '\n' ∉ w := fun h =>
      (inLine_operators w (List.mem_of_find?_eq_some hw) _ h).1 rfl
    rw [Option.map_some, Option.map_some, ← hlead, LineEnding.spell_eq_self hmem]

theorem follows_lineBreak : Follows e lineBreak := by
  intro s hs
  cases s with
  | nil => rfl
  | cons c r =>
    by_cases hc : c = '\n'
    · subst hc
      cases e <;> rfl
    · have hr : c ≠ '\r' := fun h => hs (h ▸ List.mem_cons_self)
      have hnone : ∀ x, lineBreak (c :: x) = none := by
        intro x
        unfold lineBreak
        split
        · next h => cases h; exact absurd rfl hr
        · next h => cases h; exact absurd rfl hc
        · next h => cases h; exact absurd rfl hr
        · rfl
      rw [e.spell_cons hc, hnone, hnone]
      rfl

theorem follows_continuation : Follows e continuation :=
  (follows_one (by decide) (by decide)).andThen follows_lineBreak

theorem follows_blank : Follows e blank := follows_run (by decide) (by decide)

theorem follows_comment : Follows e comment := by
  intro s _
  cases s with
  | nil => rfl
  | cons c r =>
    by_cases hc : c = '#'
    · subst hc
      rw [e.spell_cons (by decide), comment, comment,
        LineEnding.takeWhile_spell_of_line (by decide) (by decide), Option.map_some,
        List.take_succ_cons, e.spell_cons (by decide), List.length_cons,
        length_spell_takeWhile (by decide)]
    · have hnone : ∀ d x, d ≠ '#' → comment (d :: x) = none := by
        intro d x hd
        unfold comment
        split
        · next h => cases h; exact absurd rfl hd
        · rfl
      rw [hnone c r hc]
      by_cases hn : c = '\n'
      · subst hn
        cases e with
        | lf => exact hnone _ _ (by decide)
        | crlf => exact hnone _ _ (by decide)
      · rw [e.spell_cons hn, hnone c _ hc]
        rfl

theorem follows_stringMark : Follows e stringMark := by
  have hr : Follows e (letter 'r') := follows_one (by decide) (by decide)
  have hb : Follows e (letter 'b') := follows_one (by decide) (by decide)
  have hf : Follows e (letter 'f') := follows_one (by decide) (by decide)
  exact (hr.andThen hb).orElse <| (hb.andThen hr).orElse <| (hf.andThen hr).orElse <|
    (hr.andThen hf).orElse (follows_one (by decide) (by decide))

theorem follows_openQuote : Follows e openQuote :=
  follows_stringMark.optional.andThen <| (follows_exactly (by decide) (by decide)).orElse <|
    (follows_exactly (by decide) (by decide)).orElse (follows_one (by decide) (by decide))

end PythonSyntax.Lexeme
