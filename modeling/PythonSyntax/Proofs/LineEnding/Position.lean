import Mathlib.Data.List.Infix
import PythonSyntax.Proofs.LineEnding.Text

/-
Places in a text and in its spelling.

A place in a text is the part of it before that place, so the spelling of that part is the place in
the spelled text.  The byte offsets of the two differ, their lines and columns do not, and no two
places in a text have the same line and column.
-/

namespace PythonSyntax

/-! ## Positions -/

theorem takeBytes_byteLength (before after : List Char) :
    takeBytes (byteLength before) (before ++ after) = before := by
  induction before with
  | nil =>
    cases after with
    | nil => rfl
    | cons c after =>
      have hpos := Char.utf8Size_pos c
      rw [List.nil_append, byteLength_nil, takeBytes, if_neg (by omega)]
  | cons c before ih =>
    rw [List.cons_append, byteLength_cons, takeBytes, if_pos (Nat.le_add_right _ _),
      Nat.add_sub_cancel_left, ih]

/-- The position of the place right after a part of a text. -/
theorem ofOffset_byteLength {s before : List Char} (h : before <+: s) :
    Position.ofOffset s (byteLength before) = .after before := by
  obtain ⟨after, rfl⟩ := h
  rw [Position.ofOffset, takeBytes_byteLength]

theorem lastLine_break (s : List Char) : lastLine (s ++ ['\n']) = [] := by
  rw [lastLine, List.reverse_append]
  rfl

theorem lastLine_snoc {c : Char} (hc : c ≠ '\n') (s : List Char) :
    lastLine (s ++ [c]) = lastLine s ++ [c] := by
  simp [lastLine, hc]

theorem lastLine_append_of_line {line : List Char} (h : '\n' ∉ line) (s : List Char) :
    lastLine (s ++ line) = lastLine s ++ line := by
  induction line using List.reverseRecOn with
  | nil => rw [List.append_nil, List.append_nil]
  | append_singleton line c ih =>
    rw [List.mem_append, not_or, List.mem_singleton] at h
    rw [← List.append_assoc, lastLine_snoc (Ne.symm h.2), ih h.1, List.append_assoc]

/-- The line and the column of a place under any ending. -/
theorem after_spell (e : LineEnding) (s : List Char) :
    Position.after (e.spell s) = Position.after s := by
  have hboth : (e.spell s).count '\n' = s.count '\n' ∧ lastLine (e.spell s) = lastLine s := by
    induction s using List.reverseRecOn with
    | nil => exact ⟨rfl, rfl⟩
    | append_singleton s c ih =>
      rw [e.spell_append, List.count_append, List.count_append, ih.1]
      by_cases hc : c = '\n'
      · subst hc
        rw [lastLine_break]
        cases e with
        | lf => exact ⟨rfl, lastLine_break _⟩
        | crlf =>
          refine ⟨rfl, ?_⟩
          show lastLine (_ ++ ['\r', '\n']) = []
          rw [show ['\r', '\n'] = ['\r'] ++ ['\n'] from rfl, ← List.append_assoc, lastLine_break]
      · rw [e.spell_cons hc, LineEnding.spell_nil, lastLine_snoc hc, lastLine_snoc hc, ih.2]
        exact ⟨rfl, rfl⟩
  rw [Position.after, Position.after, hboth.1, hboth.2]

/-- Places with the same line and column are the same. -/
theorem after_injective {s a b : List Char} (ha : a <+: s) (hb : b <+: s)
    (h : Position.after a = Position.after b) : a = b := by
  have hlonger : ∀ a x : List Char, Position.after (a ++ x) = Position.after a → x = [] := by
    intro a x hx
    rw [Position.after, Position.after, Position.mk.injEq, List.count_append] at hx
    have hline : '\n' ∉ x := List.count_eq_zero.mp (by omega)
    rw [lastLine_append_of_line hline, List.length_append] at hx
    exact List.length_eq_zero_iff.mp (by omega)
  rcases List.prefix_or_prefix_of_prefix ha hb with ⟨x, rfl⟩ | ⟨x, rfl⟩
  · rw [hlonger a x h.symm, List.append_nil]
  · rw [hlonger b x h, List.append_nil]

namespace LineEnding

/-! ## Offsets -/

/-- A part of the text `s` begins at the offset `x`, and its spelling at `y` in the spelled text. -/
def Located (e : LineEnding) (s text : List Char) (x y : Nat) : Prop :=
  ∃ before, before ++ text <+: s ∧ x = byteLength before ∧ y = byteLength (e.spell before)

/-- Offsets of the same place. -/
def Twin (e : LineEnding) (s : List Char) (x y : Nat) : Prop := Located e s [] x y

variable {e : LineEnding} {s a b : List Char} {x y x' y' : Nat}

theorem located_self : Located e s s 0 0 := ⟨[], List.prefix_refl s, rfl, rfl⟩

namespace Located

theorem left (h : Located e s (a ++ b) x y) : Located e s a x y := by
  obtain ⟨before, hlead, hx, hy⟩ := h
  rw [← List.append_assoc] at hlead
  exact ⟨before, (List.prefix_append _ b).trans hlead, hx, hy⟩

theorem right (h : Located e s (a ++ b) x y) :
    Located e s b (x + byteLength a) (y + byteLength (e.spell a)) := by
  obtain ⟨before, hlead, rfl, rfl⟩ := h
  refine ⟨before ++ a, by rwa [List.append_assoc], (byteLength_append _ _).symm, ?_⟩
  rw [spell_append, byteLength_append]

theorem twin (h : Located e s a x y) : Twin e s x y := left (b := a) h

theorem subset (h : Located e s a x y) {c : Char} (hc : c ∈ a) : c ∈ s := by
  obtain ⟨before, hlead, -⟩ := h
  exact hlead.subset (List.mem_append_right before hc)

end Located

namespace Twin

/-- The first of two places. -/
theorem min (h : Twin e s x y) (h' : Twin e s x' y') : Twin e s (min x x') (min y y') := by
  obtain ⟨p, hp, rfl, rfl⟩ := h
  obtain ⟨p', hp', rfl, rfl⟩ := h'
  rw [List.append_nil] at hp hp'
  have hle : ∀ a b : List Char, a <+: b →
      byteLength a ≤ byteLength b ∧ byteLength (e.spell a) ≤ byteLength (e.spell b) := by
    rintro a _ ⟨r, rfl⟩
    rw [spell_append, byteLength_append, byteLength_append]
    exact ⟨Nat.le_add_right _ _, Nat.le_add_right _ _⟩
  rcases List.prefix_or_prefix_of_prefix hp hp' with hpp | hpp
  · rw [Nat.min_eq_left (hle _ _ hpp).1, Nat.min_eq_left (hle _ _ hpp).2]
    exact ⟨p, by rwa [List.append_nil], rfl, rfl⟩
  · rw [Nat.min_eq_right (hle _ _ hpp).1, Nat.min_eq_right (hle _ _ hpp).2]
    exact ⟨p', by rwa [List.append_nil], rfl, rfl⟩

/-- Offsets of the same place are on the same line and in the same column. -/
theorem ofOffset_eq (h : Twin e s x y) :
    Position.ofOffset s x = Position.ofOffset (e.spell s) y := by
  obtain ⟨p, ⟨r, rfl⟩, rfl, rfl⟩ := h
  have hlead : e.spell p <+: e.spell (p ++ [] ++ r) := by
    rw [List.append_nil, spell_append]
    exact List.prefix_append _ _
  rw [ofOffset_byteLength hlead, after_spell, ofOffset_byteLength]
  rw [List.append_nil]
  exact List.prefix_append _ _

end Twin

end LineEnding

end PythonSyntax
