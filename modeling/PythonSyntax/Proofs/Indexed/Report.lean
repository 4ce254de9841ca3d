import PythonSyntax.Proofs.Indexed.Slice
import PythonSyntax.Proofs.LineEnding.Position

/-
Where an error is reported, over byte offsets.

The offset of an error may lie behind the source or inside a character.  It is moved down to the
next boundary, which is never below zero, and the line and the column are counted in the slices in
front of it.  The label of an error is the part of its span inside the source.
-/

namespace PythonSyntax.Indexed

variable {source text pre r : List Char} {top offset n : Nat} {c : Char}

/-! ## Positions -/

/-- The nearest boundary of a text that is not above an offset, in at most `fuel` steps down. -/
def boundary? (source : List Char) : Nat → Nat → Option Nat
  | 0, _ => none
  | fuel + 1, offset =>
    if (after? source offset).isSome then some offset
    else do
      let offset ← minus? offset 1
      boundary? source fuel offset

/-- The offset of the last line feed of a text. -/
def lastBreak? : List Char → Option Nat
  | [] => none
  | c :: r =>
    match lastBreak? r with
    | some n => some (c.utf8Size + n)
    | none => if c = '\n' then some 0 else none

/-- The offset behind the last line feed of a text. -/
def lineStart? (top : Nat) (text : List Char) : Option Nat :=
  match lastBreak? text with
  | some n => fits? top (n + 1)
  | none => some 0

/-- The position of a byte offset. -/
def position? (top : Nat) (source : List Char) (offset : Nat) : Option Position := do
  let offset ← boundary? source (offset + 1) (min offset (byteLength source))
  let before ← before? source offset
  let line ← after? before (← lineStart? top before)
  return ⟨← fits? top (before.count '\n' + 1), ← fits? top (line.length + 1)⟩

theorem takeBytes_append (n : Nat) (source : List Char) : ∃ r, source = takeBytes n source ++ r := by
  induction source generalizing n with
  | nil => exact ⟨[], rfl⟩
  | cons c source ih =>
    rw [takeBytes]
    split
    · obtain ⟨r, hr⟩ := ih (n - c.utf8Size)
      exact ⟨r, congrArg (c :: ·) hr⟩
    · exact ⟨c :: source, rfl⟩

/-- Inside a character there is no more of the text than one byte before. -/
theorem takeBytes_succ (h : after? source (n + 1) = none) :
    takeBytes (n + 1) source = takeBytes n source := by
  induction source generalizing n with
  | nil => rfl
  | cons c source ih =>
    rw [after?] at h
    rw [takeBytes, takeBytes]
    split at h
    · next hsize =>
      rw [if_pos hsize]
      cases hrest : n + 1 - c.utf8Size with
      | zero =>
        rw [hrest] at h
        cases source <;> cases h
      | succ m =>
        rw [hrest] at h
        have hm : n - c.utf8Size = m := by omega
        rw [if_pos (by omega), hm, ih h]
    · next hsize => rw [if_neg hsize, if_neg (by omega)]

/-- The part of a text in front of the nearest boundary is the longest that takes so many bytes. -/
theorem boundary?_eq {fuel : Nat} (hfuel : offset < fuel) (source : List Char) :
    boundary? source fuel offset = some (byteLength (takeBytes offset source)) := by
  induction fuel generalizing offset with
  | zero => omega
  | succ fuel ih =>
    rw [boundary?]
    cases hafter : after? source offset with
    | some r =>
      obtain ⟨pre, rfl, rfl⟩ := exists_of_after? hafter
      rw [takeBytes_byteLength]
      rfl
    | none =>
      cases offset with
      | zero => cases source <;> cases hafter
      | succ n =>
        rw [takeBytes_succ hafter, minus?, if_pos (show 1 ≤ n + 1 from Nat.succ_pos n), Nat.add_sub_cancel]
        exact ih (Nat.lt_of_succ_lt_succ hfuel)

theorem takeBytes_min (offset : Nat) (source : List Char) :
    takeBytes (min offset (byteLength source)) source = takeBytes offset source := by
  induction source generalizing offset with
  | nil => rfl
  | cons c source ih =>
    rw [byteLength_cons, takeBytes, takeBytes]
    by_cases hsize : c.utf8Size ≤ offset
    · have hmin : min offset (c.utf8Size + byteLength source) - c.utf8Size =
          min (offset - c.utf8Size) (byteLength source) := by omega
      rw [if_pos hsize, if_pos (by omega), hmin, ih]
    · rw [if_neg hsize, if_neg (by omega)]

/-- The last line feed of a text, if there is one, is where its last line begins. -/
theorem lastBreak?_cases (text : List Char) :
    (lastBreak? text = none ∧ '\n' ∉ text) ∨
      ∃ a line, text = a ++ ('\n' :: line) ∧ '\n' ∉ line ∧ lastBreak? text = some (byteLength a) := by
  induction text with
  | nil => exact .inl ⟨rfl, List.not_mem_nil⟩
  | cons c r ih =>
    rw [lastBreak?]
    obtain ⟨hnone, hr⟩ | ⟨a, line, rfl, hline, hsome⟩ := ih
    · rw [hnone]
      by_cases hc : c = '\n'
      · exact .inr ⟨[], r, by rw [hc]; rfl, hr, if_pos hc⟩
      · exact .inl ⟨if_neg hc, by simp [Ne.symm hc, hr]⟩
    · exact .inr ⟨c :: a, line, rfl, hline, by rw [hsome]; rfl⟩

/-- The last line of a text begins where it is looked for. -/
theorem lineStart?_eq (h : byteLength text ≤ top) :
    ∃ start, lineStart? top text = some start ∧ after? text start = some (lastLine text) := by
  unfold lineStart?
  obtain ⟨hnone, hline⟩ | ⟨a, line, rfl, hline, hsome⟩ := lastBreak?_cases text
  · have hlast := lastLine_append_of_line hline []
    rw [List.nil_append] at hlast
    rw [hnone, hlast]
    exact ⟨0, rfl, by cases text <;> rfl⟩
  · have hlength : byteLength (a ++ ['\n']) = byteLength a + 1 := byteLength_append a ['\n']
    have hsplit : a ++ ('\n' :: line) = (a ++ ['\n']) ++ line := by rw [List.append_assoc]; rfl
    rw [hsplit, byteLength_append, hlength] at h
    rw [hsome, hsplit, lastLine_append_of_line hline, lastLine_break]
    refine ⟨byteLength a + 1, fits?_eq (by omega), ?_⟩
    rw [← hlength, after?_append]
    rfl

/-- The position of every offset can be read off slices, and its numbers fit. -/
theorem position?_eq (htop : byteLength source + 1 ≤ top) (offset : Nat) :
    position? top source offset = some (Position.ofOffset source offset) := by
  obtain ⟨r, hr⟩ := takeBytes_append offset source
  have hbefore : before? source (byteLength (takeBytes offset source)) = some (takeBytes offset source) := by
    have hcut := before?_append (takeBytes offset source) r
    rwa [← hr] at hcut
  have hsize := congrArg byteLength hr
  rw [byteLength_append] at hsize
  have hchars := length_le_byteLength (takeBytes offset source)
  have hfeeds : (takeBytes offset source).count '\n' ≤ _ := List.count_le_length
  obtain ⟨start, hstart, hline⟩ := lineStart?_eq (show byteLength (takeBytes offset source) ≤ top by omega)
  have hcolumn : (lastLine (takeBytes offset source)).length ≤ (takeBytes offset source).length := by
    obtain ⟨a, ha, -⟩ := exists_of_after? hline
    have hlength := congrArg List.length ha
    rw [List.length_append] at hlength
    omega
  rw [position?, boundary?_eq (by omega), takeBytes_min]
  simp only [Option.bind_eq_bind, Option.bind_some, hbefore, hstart, hline]
  rw [fits?_eq (by omega), Option.bind_some, fits?_eq (by omega)]
  rfl

/-! ## Labels -/

/-- A number between two bounds, of which the first is not the greater one. -/
def clamp? (n low high : Nat) : Option Nat := if low ≤ high then some (max low (min n high)) else none

/-- The start and the length of the part of a span inside a text of `size` bytes. -/
def label? (span : Span) (size : Nat) : Option (Nat × Nat) := do
  let start := min span.start size
  let stop ← clamp? span.stop start size
  let length ← minus? stop start
  return (start, length)

/-- Every span has a part inside a text. -/
theorem label?_eq (span : Span) (size : Nat) :
    label? span size = some ((span.clamp size).start, (span.clamp size).length) := by
  unfold label? clamp? minus?
  dsimp only
  rw [if_pos (Nat.min_le_right _ _), Option.bind_eq_bind, Option.bind_some,
    if_pos (Nat.le_max_left _ _)]
  rfl

end PythonSyntax.Indexed
