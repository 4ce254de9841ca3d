import PythonSyntax.Layout

/-
Words of brackets.

`Balanced` says which words of brackets match up to a depth, and `Leaves` which brackets are open after
a word, as the grammar of such words has it: the innermost of them is the last one with a balanced word
behind it.  The stack of open brackets follows the words step by step, so no word leaves two lists of
brackets open, and a balanced word is never refused.
-/

namespace PythonSyntax.Layout

/-- A closing bracket and no opening one. -/
theorem isOpening_of_isClosing {op : String} (h : isClosing op = true) : isOpening op = false := by
  unfold isClosing at h
  rw [Bool.or_eq_true, Bool.or_eq_true, beq_iff_eq, beq_iff_eq, beq_iff_eq] at h
  rcases h with (rfl | rfl) | rfl <;> rfl

theorem isClosing_closing (o : String) : isClosing (closing o) = true := by
  unfold closing
  split
  · rfl
  · split <;> rfl

/-! ## Words -/

/-- Words in which each bracket has its match, at most `depth` deep. -/
inductive Balanced : Nat → List String → Prop where
  | nil {depth} : Balanced depth []
  | group {depth o inner c rest} : isOpening o = true → Balanced depth inner → c = closing o →
      Balanced (depth + 1) rest → Balanced (depth + 1) (o :: (inner ++ c :: rest))

/-- A word leaves brackets open, of which the innermost stands first: behind each there is a balanced
word, and no more than `limit` are open at once. -/
inductive Leaves (limit : Nat) : List String → List String → Prop where
  | balanced {word} : Balanced limit word → Leaves limit word []
  | bracket {word o inner os} : Leaves limit word os → os.length < limit → isOpening o = true →
      Balanced (limit - (os.length + 1)) inner → Leaves limit (word ++ o :: inner) (o :: os)

variable {limit depth : Nat} {os os' : List String} {word more : List String} {o c : String}
  {span : Span}

theorem Balanced.append (h : Balanced depth word) (hmore : Balanced depth more) :
    Balanced depth (word ++ more) := by
  induction h with
  | nil => exact hmore
  | group hopen hinner hclose _ _ ih =>
    rw [List.cons_append, List.append_assoc, List.cons_append]
    exact .group hopen hinner hclose (ih hmore)

theorem Leaves.open (h : Leaves limit word os) (hroom : os.length < limit)
    (ho : isOpening o = true) : Leaves limit (word ++ [o]) (o :: os) :=
  .bracket h hroom ho .nil

/-- The bracket that closes the innermost one makes a group of what stands between them, which goes
to the balanced word before it. -/
theorem Leaves.close (h : Leaves limit word (o :: os)) (hc : closing o = c) :
    Leaves limit (word ++ [c]) os := by
  obtain _ | @⟨before, _, inner, _, hbefore, hroom, ho, hinner⟩ := h
  have hgroup : ∀ {d}, limit - os.length = d + 1 → Balanced (d + 1) (o :: (inner ++ [c])) := by
    intro d hd
    have hdepth : limit - (os.length + 1) = d := by omega
    exact .group ho (hdepth ▸ hinner) hc.symm .nil
  rw [List.append_assoc, List.cons_append]
  cases hbefore with
  | balanced hword =>
    obtain ⟨d, rfl⟩ : ∃ d, limit = d + 1 := ⟨limit - 1, by simp at hroom; omega⟩
    exact .balanced (hword.append (hgroup rfl))
  | @bracket first o' inner' os' hfirst hroom' ho' hinner' =>
    rw [List.length_cons] at hroom hgroup
    obtain ⟨d, hd⟩ : ∃ d, limit - (os'.length + 1) = d + 1 :=
      ⟨limit - (os'.length + 1) - 1, by omega⟩
    rw [List.append_assoc, List.cons_append]
    exact .bracket hfirst hroom' ho' (hd ▸ (hd ▸ hinner').append (hgroup hd))

/-! ## The stack -/

/-- The open brackets after a word, where some are open before it, unless a bracket is refused. -/
def trackWord (limit : Nat) : List String → List String → Option (List String)
  | os, [] => some os
  | os, b :: word => (trackBracket limit os b ⟨0, 0⟩).toOption.bind (trackWord limit · word)

theorem trackWord_append (os word more : List String) :
    trackWord limit os (word ++ more) = (trackWord limit os word).bind (trackWord limit · more) := by
  induction word generalizing os with
  | nil => rfl
  | cons b word ih =>
    rw [List.cons_append, trackWord, trackWord, Option.bind_assoc]
    congr 1
    funext os
    exact ih os

theorem trackBracket_open (ho : isOpening o = true) (hroom : os.length < limit) :
    trackBracket limit os o span = .ok (o :: os) := by
  unfold trackBracket
  rw [if_pos ho, if_neg (Nat.not_le.mpr hroom)]

theorem trackBracket_close (hc : c = closing o) : trackBracket limit (o :: os) c span = .ok os := by
  subst hc
  unfold trackBracket
  have hclose := isClosing_closing o
  rw [isOpening_of_isClosing hclose, hclose, if_neg Bool.false_ne_true, if_pos rfl]
  exact if_pos rfl

/-- A balanced word leaves the stack as it is. -/
theorem trackWord_of_balanced (h : Balanced depth word) (hroom : os.length + depth ≤ limit) :
    trackWord limit os word = some os := by
  induction h generalizing os with
  | nil => rfl
  | @group depth o inner c rest ho _ hc _ ihinner ihrest =>
    rw [trackWord, trackBracket_open ho (by omega)]
    show trackWord limit (o :: os) (inner ++ c :: rest) = _
    rw [trackWord_append, ihinner (by rw [List.length_cons]; omega)]
    show trackWord limit (o :: os) (c :: rest) = _
    rw [trackWord, trackBracket_close hc]
    exact ihrest (by omega)

/-- What a word leaves open is on the stack after it. -/
theorem trackWord_of_leaves (h : Leaves limit word os) : trackWord limit [] word = some os := by
  induction h with
  | balanced h => exact trackWord_of_balanced h (by rw [List.length_nil]; omega)
  | @bracket word o inner os _ hroom ho hinner ih =>
    rw [trackWord_append, ih]
    show trackWord limit os (o :: inner) = _
    rw [trackWord, trackBracket_open ho hroom]
    exact trackWord_of_balanced hinner (by rw [List.length_cons]; omega)

theorem Leaves.unique (h : Leaves limit word os) (h' : Leaves limit word os') : os = os' := by
  have htrack := trackWord_of_leaves h
  rw [trackWord_of_leaves h'] at htrack
  exact (Option.some.inj htrack).symm

/-! ## Brackets that are refused -/

/-- A bracket is refused behind a word. -/
inductive Refuses (limit : Nat) (word : List String) (b : String) : Cause → Prop where
  | tooMany {os : List String} : Leaves limit word os → isOpening b = true → limit ≤ os.length →
      Refuses limit word b .tooManyBrackets
  | unmatched : Leaves limit word [] → isClosing b = true →
      Refuses limit word b (.unmatchedClosing b)
  | mismatched {o : String} {os : List String} : Leaves limit word (o :: os) → isClosing b = true → closing o ≠ b →
      Refuses limit word b (.mismatchedClosing o b)

/-- The stack refuses just what is refused behind the word. -/
theorem trackBracket_error {b : String} {e : SyntaxError} (h : Leaves limit word os) :
    trackBracket limit os b span = .error e ↔ ∃ cause, Refuses limit word b cause ∧ e = ⟨cause, span⟩ := by
  constructor
  · intro he
    unfold trackBracket at he
    split at he
    · next hopen =>
      split at he
      · next hfull =>
        cases he
        exact ⟨_, .tooMany h hopen hfull, rfl⟩
      · cases he
    · split at he
      · next hclose =>
        cases os with
        | nil =>
          cases he
          exact ⟨_, .unmatched h hclose, rfl⟩
        | cons o os =>
          dsimp only at he
          split at he
          · cases he
          · next hne =>
            cases he
            exact ⟨_, .mismatched h hclose hne, rfl⟩
      · cases he
  · rintro ⟨cause, hrefuses, rfl⟩
    unfold trackBracket
    cases hrefuses with
    | tooMany h' hopen hfull =>
      rw [if_pos hopen, if_pos (h.unique h' ▸ hfull)]
    | unmatched h' hclose =>
      rw [isOpening_of_isClosing hclose, if_neg Bool.false_ne_true, if_pos hclose, h.unique h']
    | mismatched h' hclose hne =>
      rw [isOpening_of_isClosing hclose, if_neg Bool.false_ne_true, if_pos hclose, h.unique h']
      exact if_neg hne

/-- What the stack holds after a bracket is what the word with the bracket leaves open. -/
theorem Leaves.track {b : String} (h : Leaves limit word os)
    (hok : trackBracket limit os b span = .ok os') :
    Leaves limit (if isOpening b || isClosing b then word ++ [b] else word) os' := by
  unfold trackBracket at hok
  cases hopen : isOpening b with
  | true =>
    rw [if_pos hopen] at hok
    split at hok
    · cases hok
    · next hroom =>
      cases hok
      exact h.open (Nat.lt_of_not_le hroom) hopen
  | false =>
    rw [hopen, if_neg Bool.false_ne_true] at hok
    cases hclose : isClosing b with
    | true =>
      rw [if_pos hclose] at hok
      cases os with
      | nil => cases hok
      | cons o os =>
        dsimp only at hok
        split at hok
        · next hmatch =>
          cases hok
          exact h.close hmatch
        · cases hok
    | false =>
      rw [hclose, if_neg Bool.false_ne_true] at hok
      cases hok
      exact h

/-- No bracket of a balanced word is refused behind those before it. -/
theorem Balanced.not_refused {cause : Cause} (h : Balanced limit (word ++ c :: more)) :
    ¬ Refuses limit word c cause := by
  intro hrefuses
  obtain ⟨os, hword⟩ : ∃ os, Leaves limit word os := by
    cases hrefuses <;> exact ⟨_, by assumption⟩
  have htrack : trackWord limit [] (word ++ c :: more) = some [] :=
    trackWord_of_balanced h (by rw [List.length_nil]; omega)
  have herror : trackBracket limit os c ⟨0, 0⟩ = .error ⟨cause, ⟨0, 0⟩⟩ :=
    (trackBracket_error hword).mpr ⟨cause, hrefuses, rfl⟩
  rw [trackWord_append, trackWord_of_leaves hword] at htrack
  have htrack : (trackBracket limit os c ⟨0, 0⟩).toOption.bind (trackWord limit · more) = some [] :=
    htrack
  rw [herror] at htrack
  cases htrack

/-- A balanced word leaves nothing open. -/
theorem leaves_nil : Leaves limit word [] ↔ Balanced limit word :=
  ⟨fun h => (by cases h; assumption), .balanced⟩

end PythonSyntax.Layout
