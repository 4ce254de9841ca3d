import PythonSyntax.Proofs.Layout.Step
import PythonSyntax.Proofs.Enclosed.Scan
import PythonSyntax.Proofs.Lexeme.Sealed

/-
Logical lines, and the blocks that they stand in.

What has been read of a text is a list of lexemes here, the latest one first.  A logical line begins
with the first token behind a line break outside brackets; the blanks before that token are its margin.
The blocks around a line are told from the widths of the lines before it: a line is in the block of
each earlier line that is no wider than it and all lines between them.  `Blocks` says that the stack of
widths holds just these, and each line leaves it so.
-/

namespace PythonSyntax

namespace Lexeme

variable {l : Lexeme} {past : List Lexeme}

/-- How many brackets are open after some lexemes. -/
def openAfter : List Lexeme → Nat
  | [] => 0
  | l :: past => l.depthAfter (openAfter past)

/-- The width of the margin so far, if the logical line has no token yet. -/
def margin? : List Lexeme → Option Nat
  | [] => some 0
  | l :: past =>
    if l.kind = .lineBreak ∧ openAfter past = 0 then some 0
    else if l.kind.isContent then none
    else (margin? past).map (l.text.foldl Layout.widen ·)

/-- The widths of the logical lines that have begun, the latest one first. -/
def lineWidths : List Lexeme → List Nat
  | [] => []
  | l :: past => if l.kind.isContent then (margin? past).toList ++ lineWidths past else lineWidths past

end Lexeme

namespace Layout

variable {ws indents : List Nat} {w v : Nat}

/-- A block that the last of some lines is in has this width: it is that of the whole text, or it was
begun by a line and no later line is narrower. -/
def Enclosing (ws : List Nat) (w : Nat) : Prop :=
  w = 0 ∨ ∃ later earlier, ws = later ++ w :: earlier ∧ ∀ v ∈ later, w ≤ v

/-- A line of a width is narrower than the line before it, and matches no block that this is in. -/
def Unindents (ws : List Nat) (w : Nat) : Prop := w < ws.headD 0 ∧ ¬ Enclosing ws w

theorem enclosing_nil : Enclosing [] w ↔ w = 0 :=
  ⟨fun h => h.resolve_right fun ⟨_, _, heq, _⟩ => by simp at heq, .inl⟩

/-- A line is in a block of its own width, and in those around the line before it that are no wider. -/
theorem enclosing_cons : Enclosing (w :: ws) v ↔ v = w ∨ v ≤ w ∧ Enclosing ws v := by
  constructor
  · rintro (rfl | ⟨later, earlier, heq, hlater⟩)
    · exact .inr ⟨Nat.zero_le w, .inl rfl⟩
    · cases later with
      | nil =>
        cases heq
        exact .inl rfl
      | cons u later =>
        cases heq
        rw [List.forall_mem_cons] at hlater
        exact .inr ⟨hlater.1, .inr ⟨later, earlier, rfl, hlater.2⟩⟩
  · rintro (rfl | ⟨hle, rfl | ⟨later, earlier, rfl, hlater⟩⟩)
    · exact .inr ⟨[], ws, rfl, nofun⟩
    · exact .inl rfl
    · exact .inr ⟨w :: later, earlier, rfl, List.forall_mem_cons.mpr ⟨hle, hlater⟩⟩

theorem Enclosing.le_head (h : Enclosing ws w) : w ≤ ws.headD 0 := by
  cases ws with
  | nil => rw [enclosing_nil.mp h]; exact Nat.le_refl 0
  | cons v ws =>
    rcases enclosing_cons.mp h with rfl | ⟨hle, -⟩
    · exact Nat.le_refl _
    · exact hle

theorem enclosing_head (ws : List Nat) : Enclosing ws (ws.headD 0) := by
  cases ws with
  | nil => exact .inl rfl
  | cons v ws => exact enclosing_cons.mpr (.inl rfl)

/-- The stack of open widths after lines of some widths: the blocks that the last line is in, the
innermost one first. -/
structure Blocks (ws indents : List Nat) : Prop where
  decreasing : indents.Pairwise (· > ·)
  mem : ∀ w, w ∈ indents ↔ Enclosing ws w

theorem blocks_start : Blocks [] [0] :=
  ⟨List.pairwise_singleton .., fun w => by rw [List.mem_singleton, enclosing_nil]⟩

theorem Blocks.ne_nil (h : Blocks ws indents) : indents ≠ [] :=
  List.ne_nil_of_mem ((h.mem 0).mpr (.inl rfl))

/-- The innermost block is that of the last line. -/
theorem Blocks.head (h : Blocks ws indents) : indents.headD 0 = ws.headD 0 := by
  obtain ⟨v, vs, rfl⟩ := List.exists_cons_of_ne_nil h.ne_nil
  have hle : v ≤ ws.headD 0 := ((h.mem v).mp List.mem_cons_self).le_head
  rw [List.headD_cons]
  rcases List.mem_cons.mp ((h.mem _).mpr (enclosing_head ws)) with heq | hlater
  · exact heq.symm
  · have hlt := (List.pairwise_cons.mp h.decreasing).1 _ hlater
    omega

/-- The blocks that a line leaves open are those that it is in, if its width is on the stack. -/
theorem Blocks.line {popped rest : List Nat} (h : Blocks ws (popped ++ rest))
    (hpopped : ∀ x ∈ popped, w < x) (hrest : rest.head? = some w) : Blocks (w :: ws) rest := by
  obtain ⟨vs, rfl⟩ : ∃ vs, rest = w :: vs := by
    cases rest with
    | nil => cases hrest
    | cons v vs => cases hrest; exact ⟨vs, rfl⟩
  obtain ⟨-, hdecreasing, -⟩ := List.pairwise_append.mp h.decreasing
  refine ⟨hdecreasing, fun v => ?_⟩
  rw [enclosing_cons, ← h.mem v, List.mem_append, List.mem_cons]
  have hlt := (List.pairwise_cons.mp hdecreasing).1
  constructor
  · rintro (rfl | hv)
    · exact .inl rfl
    · exact .inr ⟨Nat.le_of_lt (hlt v hv), .inr (.inr hv)⟩
  · rintro (rfl | ⟨hle, hv | hv⟩)
    · exact .inl rfl
    · exact absurd (hpopped v hv) (Nat.not_lt.mpr hle)
    · exact hv

theorem Blocks.indent (h : Blocks ws indents) (hlt : indents.headD 0 < w) :
    Blocks (w :: ws) (w :: indents) := by
  have hle : ∀ v ∈ indents, v < w := fun v hv =>
    Nat.lt_of_le_of_lt (h.head ▸ ((h.mem v).mp hv).le_head) hlt
  refine ⟨List.pairwise_cons.mpr ⟨hle, h.decreasing⟩, fun v => ?_⟩
  rw [enclosing_cons, List.mem_cons, h.mem v]
  constructor
  · rintro (rfl | hv)
    · exact .inl rfl
    · exact .inr ⟨Nat.le_of_lt (hle v ((h.mem v).mpr hv)), hv⟩
  · rintro (rfl | ⟨-, hv⟩)
    · exact .inl rfl
    · exact .inr hv

/-- The marks before a line are found, and leave open the blocks that it is in; only for a line that
unindents there are none. -/
theorem indentTo_exact {s : Layout} (here : Span) (h : Blocks ws s.indents) :
    (Unindents ws s.width ∧ s.indentTo here = .error ⟨.inconsistentDedent, here⟩) ∨
      ¬ Unindents ws s.width ∧ ∃ marks indents, s.indentTo here = .ok (marks, indents) ∧
        Blocks (s.width :: ws) indents := by
  obtain ⟨popped, hindents, -, hpopped, hhead⟩ := dedent_spec s.width s.indents
  generalize hdedent : (dedent s.width s.indents).2 = rest at hindents hhead
  have hcurrent := h.head
  unfold Unindents
  rw [← hcurrent, ← h.mem]
  unfold indentTo
  dsimp only
  by_cases hlt : s.indents.headD 0 < s.width
  · rw [if_pos hlt]
    exact .inr ⟨fun hun => absurd hun.1 (Nat.lt_asymm hlt), _, _, rfl, h.indent hlt⟩
  rw [if_neg hlt]
  -- the width is on the stack just if it is the first that stays there
  have hmem : s.width ∈ s.indents ↔ rest.head? = some s.width := by
    constructor
    · intro hw
      rw [hindents, List.mem_append] at hw
      rcases hw with hw | hw
      · exact absurd (hpopped _ hw) (Nat.lt_irrefl _)
      · cases rest with
        | nil => cases hw
        | cons v vs =>
          have hle : v ≤ s.width := hhead v rfl
          have hdecreasing := (List.pairwise_append.mp (hindents ▸ h.decreasing)).2.1
          rcases List.mem_cons.mp hw with heq | hlater
          · rw [heq]; rfl
          · exact absurd ((List.pairwise_cons.mp hdecreasing).1 _ hlater) (Nat.not_lt.mpr hle)
    · intro hw
      rw [hindents]
      exact List.mem_append_right _ (List.mem_of_head? hw)
  rw [hdedent, hmem]
  split
  · next hbad => exact .inl ⟨hbad, rfl⟩
  · next hgood =>
    refine .inr ⟨hgood, _, _, rfl, ?_⟩
    have hrest : rest.head? = some s.width := by
      by_cases hnarrow : s.width < s.indents.headD 0
      · exact not_not.mp fun hne => hgood ⟨hnarrow, hne⟩
      · obtain ⟨v, vs, hvs⟩ := List.exists_cons_of_ne_nil h.ne_nil
        rw [hvs, List.headD_cons] at hlt hnarrow
        refine hmem.mp ?_
        rw [hvs, show s.width = v by omega]
        exact List.mem_cons_self
    rw [hindents] at h
    exact h.line hpopped hrest

end Layout

end PythonSyntax
