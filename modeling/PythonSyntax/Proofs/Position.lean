import Mathlib.Algebra.GroupWithZero.Nat
import Mathlib.Order.Bounds.Defs
import PythonSyntax.Failure
import PythonSyntax.Proofs.Indexed.Report

/-
Lines and columns as coordinates.

A position names a line and a number of characters of it.  In front of it stand the lines above, each
with its line feed, and these characters.  So the position of a place tells how many bytes are in front
of the place, and a later place has a later position.
-/

namespace PythonSyntax

variable {source a b : List Char} {n : Nat}

/-! ## Boundaries -/

/-- A byte offset that is neither inside of a character nor behind the text. -/
def IsBoundary (source : List Char) (o : Nat) : Prop :=
  ∃ before, before <+: source ∧ o = byteLength before

theorem byteLength_le_of_prefix (h : a <+: b) : byteLength a ≤ byteLength b := by
  obtain ⟨r, rfl⟩ := h
  rw [byteLength_append]
  omega

theorem isBoundary_takeBytes (n : Nat) (source : List Char) :
    IsBoundary source (byteLength (takeBytes n source)) := by
  obtain ⟨r, hr⟩ := Indexed.takeBytes_append n source
  exact ⟨takeBytes n source, ⟨r, hr.symm⟩, rfl⟩

theorem byteLength_takeBytes_le (n : Nat) (source : List Char) :
    byteLength (takeBytes n source) ≤ n := by
  induction source generalizing n with
  | nil => exact Nat.zero_le n
  | cons c source ih =>
    rw [takeBytes]
    split
    · have := ih (n - c.utf8Size)
      rw [byteLength_cons]
      omega
    · exact Nat.zero_le n

/-- What takes at most so many bytes is part of the longest text that does. -/
theorem prefix_takeBytes (h : a <+: source) (hn : byteLength a ≤ n) : a <+: takeBytes n source := by
  induction source generalizing a n with
  | nil => exact h
  | cons c source ih =>
    cases a with
    | nil => exact List.nil_prefix
    | cons d a =>
      obtain ⟨rfl, hrest⟩ := List.cons_prefix_cons.mp h
      rw [byteLength_cons] at hn
      rw [takeBytes, if_pos (by omega), List.cons_prefix_cons]
      exact ⟨rfl, ih hrest (by omega)⟩

/-- The greatest boundary that is not above an offset. -/
theorem isGreatest_takeBytes (n : Nat) (source : List Char) :
    IsGreatest {o | IsBoundary source o ∧ o ≤ min n (byteLength source)}
      (byteLength (takeBytes n source)) := by
  constructor
  · refine ⟨isBoundary_takeBytes n source, Nat.le_min.mpr ⟨byteLength_takeBytes_le n source, ?_⟩⟩
    obtain ⟨r, hr⟩ := Indexed.takeBytes_append n source
    exact byteLength_le_of_prefix ⟨r, hr.symm⟩
  · rintro _ ⟨⟨a, ha, rfl⟩, hle⟩
    exact byteLength_le_of_prefix (prefix_takeBytes ha (Nat.le_min.mp hle).1)

/-! ## Lines -/

theorem lastLine_append_break (a b : List Char) : lastLine (a ++ '\n' :: b) = lastLine b := by
  induction b using List.reverseRecOn with
  | nil => rw [lastLine_break]; rfl
  | append_singleton b c ih =>
    have hsnoc : a ++ '\n' :: (b ++ [c]) = (a ++ '\n' :: b) ++ [c] := by simp
    rw [hsnoc]
    by_cases hc : c = '\n'
    · rw [hc, lastLine_break, lastLine_break]
    · rw [lastLine_snoc hc, lastLine_snoc hc, ih]

/-- The lines of a text around a place: those above take, with their line feeds and the part of the line
in front of the place, all the bytes before it. -/
theorem splitOn_place (before after : List Char) :
    ∃ above line below, (before ++ after).splitOn '\n' = above ++ (lastLine before ++ line) :: below ∧
      above.length = before.count '\n' ∧
      (above.map fun line => byteLength line + 1).sum + byteLength (lastLine before) =
        byteLength before := by
  induction before with
  | nil =>
    obtain ⟨line, below, hlines⟩ := List.exists_cons_of_ne_nil (List.splitOn_ne_nil '\n' after)
    exact ⟨[], line, below, hlines, rfl, rfl⟩
  | cons c before ih =>
    obtain ⟨above, line, below, hlines, hcount, hsum⟩ := ih
    rw [List.cons_append, List.splitOn_cons_eq_if_modifyHead, hlines, List.count_cons, byteLength_cons]
    by_cases hc : c = '\n'
    · subst hc
      have hlast : lastLine ('\n' :: before) = lastLine before := lastLine_append_break [] before
      have hsize : '\n'.utf8Size = 1 := rfl
      refine ⟨[] :: above, line, below, ?_, ?_, ?_⟩
      · rw [hlast]; rfl
      · simp [hcount]
      · rw [hlast, List.map_cons, List.sum_cons, byteLength_nil]
        omega
    · have hne : (c == '\n') = false := beq_false_of_ne hc
      cases above with
      | nil =>
        have hline : '\n' ∉ before := List.count_eq_zero.mp hcount.symm
        have hlast : lastLine (c :: before) = c :: lastLine before := by
          have hfirst := lastLine_append_of_line hline [c]
          have hrest := lastLine_append_of_line hline []
          rw [List.nil_append] at hrest
          rw [hrest]
          refine hfirst.trans ?_
          rw [← List.nil_append [c], lastLine_snoc hc]
          rfl
        refine ⟨[], line, below, ?_, ?_, ?_⟩
        · rw [hlast]; simp [hne]
        · simpa [hne] using hcount
        · rw [hlast, byteLength_cons]
          simp at hsum ⊢
          omega
      | cons first above =>
        have hbreak : '\n' ∈ before := List.count_pos_iff.mp (by rw [← hcount]; exact Nat.succ_pos _)
        have hlast : lastLine (c :: before) = lastLine before := by
          obtain ⟨x, y, rfl⟩ := List.append_of_mem hbreak
          rw [← List.cons_append, lastLine_append_break, lastLine_append_break]
        refine ⟨(c :: first) :: above, line, below, ?_, ?_, ?_⟩
        · rw [hlast]; simp [hne]
        · simpa [hne] using hcount
        · rw [hlast, List.map_cons, List.sum_cons, byteLength_cons]
          rw [List.map_cons, List.sum_cons] at hsum
          omega

/-! ## Positions in a text -/

namespace Position

/-- The line of a position, without its line feed, if the text has so many lines. -/
def line? (p : Position) (source : List Char) : Option (List Char) :=
  (source.splitOn '\n')[p.line - 1]?

/-- A line of the text, and a column that is at most right behind it. -/
structure Inside (p : Position) (source : List Char) : Prop where
  line_pos : 1 ≤ p.line
  column_pos : 1 ≤ p.column
  column_le : ∃ line ∈ p.line? source, p.column - 1 ≤ line.length

/-- The number of bytes in front of a position: of all lines above it, each with its line feed, and of the
characters of its line that are in front of it. -/
def bytesBefore (p : Position) (source : List Char) : Nat :=
  (((source.splitOn '\n').take (p.line - 1)).map fun line => byteLength line + 1).sum +
    byteLength (((p.line? source).getD []).take (p.column - 1))

/-- On an earlier line, or in an earlier column of the same line. -/
def Precedes (p q : Position) : Prop := p.line < q.line ∨ p.line = q.line ∧ p.column < q.column

theorem Precedes.ne {p q : Position} (h : p.Precedes q) : p ≠ q := by
  rintro rfl
  unfold Precedes at h
  omega

/-- A place in a text is recovered from its position. -/
theorem bytesBefore_after (before after : List Char) :
    (Position.after before).Inside (before ++ after) ∧
      (Position.after before).bytesBefore (before ++ after) = byteLength before := by
  obtain ⟨above, line, below, hlines, hcount, hsum⟩ := splitOn_place before after
  have hline : (Position.after before).line? (before ++ after) = some (lastLine before ++ line) := by
    show ((before ++ after).splitOn '\n')[before.count '\n']? = _
    rw [hlines, ← hcount, List.getElem?_append_right (Nat.le_refl _), Nat.sub_self]
    rfl
  refine ⟨⟨Nat.succ_pos _, Nat.succ_pos _, _, hline, ?_⟩, ?_⟩
  · show (lastLine before).length ≤ _
    rw [List.length_append]
    omega
  · unfold bytesBefore
    rw [hline, hlines]
    show ((List.take (before.count '\n') _).map _).sum +
      byteLength (List.take (lastLine before).length (lastLine before ++ line)) = _
    rw [← hcount, List.take_left, List.take_left, hsum]

/-- A place behind another one has a later position. -/
theorem precedes_after (h : a <+: b) (hne : a ≠ b) :
    (Position.after a).Precedes (Position.after b) := by
  obtain ⟨x, rfl⟩ := h
  have hx : 0 < x.length := List.length_pos_iff.mpr fun hnil => hne (by rw [hnil, List.append_nil])
  have hcount : (a ++ x).count '\n' = a.count '\n' + x.count '\n' := List.count_append
  unfold Precedes Position.after
  by_cases hbreak : '\n' ∈ x
  · have := List.count_pos_iff.mpr hbreak
    dsimp only
    omega
  · have := List.count_eq_zero.mpr hbreak
    rw [lastLine_append_of_line hbreak, List.length_append]
    dsimp only
    omega

end Position

/-- Lines and columns are coordinates of a text.  At a boundary the position lies in the text, as many
bytes stand in front of it as the offset says, and positions are in the order of their offsets; at any other
offset it is the position of the greatest boundary not above.  And every error has a position, of numbers no
greater than the length of the text and one, and a label in the text, whatever its span is. -/
theorem ofOffset_coordinates (source : List Char) :
    (∀ o, IsBoundary source o → (Position.ofOffset source o).Inside source ∧
      (Position.ofOffset source o).bytesBefore source = o) ∧
    (∀ o p, IsBoundary source o → IsBoundary source p →
      (o < p → (Position.ofOffset source o).Precedes (Position.ofOffset source p)) ∧
      (Position.ofOffset source o = Position.ofOffset source p → o = p)) ∧
    (∀ o, ∃ b, IsGreatest {b | IsBoundary source b ∧ b ≤ min o (byteLength source)} b ∧
      Position.ofOffset source o = Position.ofOffset source b) ∧
    ∀ (e : SyntaxError) (name : String),
      Indexed.position? (byteLength source + 1) source e.span.start =
        some (Position.ofOffset source e.span.start) ∧
      ∃ label, (e.inSource name source).label? = some label ∧
        Indexed.label? e.span (byteLength source) = some (label.start, label.length) ∧
        label.start + label.length ≤ byteLength source := by
  have hprecedes : ∀ o p, IsBoundary source o → IsBoundary source p → o < p →
      (Position.ofOffset source o).Precedes (Position.ofOffset source p) := by
    rintro _ _ ⟨a, ha, rfl⟩ ⟨b, hb, rfl⟩ hlt
    rw [ofOffset_byteLength ha, ofOffset_byteLength hb]
    have hle : a.length ≤ b.length := by
      rcases List.prefix_or_prefix_of_prefix ha hb with hab | hba
      · exact hab.length_le
      · have := byteLength_le_of_prefix hba
        omega
    refine Position.precedes_after (List.prefix_of_prefix_length_le ha hb hle) ?_
    rintro rfl
    omega
  refine ⟨?_, fun o p ho hp => ⟨hprecedes o p ho hp, fun heq => ?_⟩, fun o => ?_, fun e name => ?_⟩
  · rintro _ ⟨before, ⟨after, rfl⟩, rfl⟩
    rw [ofOffset_byteLength (List.prefix_append before after)]
    exact Position.bytesBefore_after before after
  · rcases Nat.lt_trichotomy o p with hlt | rfl | hlt
    · exact absurd heq (hprecedes o p ho hp hlt).ne
    · rfl
    · exact absurd heq.symm (hprecedes p o hp ho hlt).ne
  · refine ⟨_, isGreatest_takeBytes o source, ?_⟩
    obtain ⟨r, hr⟩ := Indexed.takeBytes_append o source
    rw [ofOffset_byteLength ⟨r, hr.symm⟩]
    rfl
  · refine ⟨Indexed.position?_eq (Nat.le_refl _) e.span.start, _, rfl, Indexed.label?_eq e.span _, ?_⟩
    show min e.span.start _ + (max (min e.span.start _) (min e.span.stop _) - min e.span.start _) ≤ _
    omega

/-- Behind a character of two bytes and a line feed the second line begins. -/
theorem ofOffset_coordinates_accented :
    IsBoundary ['é', '\n', 'x'] 2 ∧ IsBoundary ['é', '\n', 'x'] 3 ∧
      Position.ofOffset ['é', '\n', 'x'] 3 = ⟨2, 1⟩ ∧
      (⟨2, 1⟩ : Position).bytesBefore ['é', '\n', 'x'] = 3 ∧
      (Position.ofOffset ['é', '\n', 'x'] 2).Precedes ⟨2, 1⟩ := by
  have htwo : IsBoundary ['é', '\n', 'x'] 2 := ⟨['é'], by simp, rfl⟩
  have hthree : IsBoundary ['é', '\n', 'x'] 3 := ⟨['é', '\n'], by simp, rfl⟩
  have hcoordinates := ofOffset_coordinates ['é', '\n', 'x']
  exact ⟨htwo, hthree, rfl, (hcoordinates.1 3 hthree).2, (hcoordinates.2.1 2 3 htwo hthree).1 (by decide)⟩

end PythonSyntax
