import Mathlib.Order.Monotone.Basic
import PythonSyntax.Proofs.Enclosed.Layout
import PythonSyntax.Proofs.Layout.Shown
import PythonSyntax.Proofs.Lexeme.SameLine
import PythonSyntax.Proofs.Parser.Input

/-
Margins of other widths.

Of the widths of margins only their order counts.  `Reindented` says what comes of a text when the margin
of each logical line is replaced by spaces and tabs whose width is that of the margin under a map.  If
the map keeps the order and zero, then a run on the new text has the stack of the old one under the map:
a step commutes with the map where a token is read (`step_remap`), and elsewhere the widths do not count.
So it shows the same tokens, or fails for the same cause.
-/

namespace PythonSyntax.Layout

open PythonSyntax.Lexeme PythonSyntax.Parser

/-! ## Texts with other margins -/

/-- The width of the blanks that a line begins with. -/
def widthOf (blanks : List Char) : Nat := blanks.foldl widen 0

/-- What may stand in front of the piece `next`, which is the first one of a logical line that is no
blank, in place of the margin `gap`. -/
inductive Margin (φ : Nat → Nat) (gap : List Char) (next : Option Lexeme) : List Char → Prop where
  | indented {white} : (∀ c ∈ white, c = ' ' ∨ c = '\t') → widthOf white = φ (widthOf gap) →
      Margin φ gap next white
  /-- A line without a token may begin with any spaces and tabs. -/
  | empty {white} : (∀ l ∈ next, l.kind = .lineBreak ∨ l.kind = .comment) →
      (∀ c ∈ white, c = ' ' ∨ c = '\t') → Margin φ gap next white
  /-- It may also stay as it is. -/
  | kept : (∀ l ∈ next, l.kind = .lineBreak ∨ l.kind = .comment) → Margin φ gap next gap

/-- What may stand behind an open quote in place of the text `rest`: the literal that it opens stays,
which goes on to the end of the text, unless it is a short one that breaks off at the end of a line. -/
inductive Unclosed (quote rest : List Char) : List Char → Prop where
  | kept : Unclosed quote rest rest
  | brokenOff {marks q kept a b} : quote = marks ++ [q] → q ∉ marks → rest = kept ++ a →
      BreaksOff q kept → Unclosed quote rest (kept ++ b)

/-- What may come of the pieces of a text when the margins of its logical lines are replaced by those
whose widths are theirs under `φ`.  The pieces begin at the start of a logical line, or inside one where a
number of brackets are open. -/
inductive Reindented (φ : Nat → Nat) : Option Nat → List Lexeme → List Char → Prop where
  | done {d} : Reindented φ (some d) [] []
  | margin {gap ls white text} : (∀ l ∈ gap, l.kind = .blank ∨ l.kind = .continuation) →
      (∀ l ∈ ls.head?, l.kind ≠ .blank ∧ l.kind ≠ .continuation) →
      Margin φ (textOf gap) ls.head? white → Reindented φ (some 0) ls text →
      Reindented φ none (gap ++ ls) (white ++ text)
  | lineEnd {b ls text} : b.kind = .lineBreak → Reindented φ none ls text →
      Reindented φ (some 0) (b :: ls) (b.text ++ text)
  | piece {d l ls text} : l.kind ≠ .openQuote → (l.kind = .lineBreak → d ≠ 0) →
      Reindented φ (some (l.depthAfter d)) ls text → Reindented φ (some d) (l :: ls) (l.text ++ text)
  | unclosed {d l ls text} : l.kind = .openQuote → Unclosed l.text (textOf ls) text →
      Reindented φ (some d) (l :: ls) (l.text ++ text)

/-- What a result shows: kinds and texts of tokens, or a cause. -/
def showResult (r : Except SyntaxError (List Token)) : Except Cause (List (TokenKind × String)) :=
  (r.map shown).mapError SyntaxError.cause

variable {φ : Nat → Nat} {cfg : LayoutConfig} {a b s t : Layout} {l : Lexeme} {gap ls : List Lexeme}
  {ts : List Token} {e : SyntaxError} {white text source source' : List Char} {d : Nat}

/-! ## Runs that show the same -/

theorem showResult_cons (h : step cfg s l = .ok (ts, t)) :
    showResult (run cfg s (l :: ls)) = (showResult (run cfg t ls)).map (shown ts ++ ·) := by
  rw [run_cons_eq h]
  cases run cfg t ls with
  | error e => rfl
  | ok rest => exact congrArg Except.ok (shown_append ts rest)

theorem showResult_quiet (h : step cfg s l = .ok ([], t)) :
    showResult (run cfg s (l :: ls)) = showResult (run cfg t ls) :=
  congrArg showResult (run_cons_quiet h)

theorem run_cons_error (h : step cfg s l = .error e) : run cfg s (l :: ls) = .error e := by
  rw [run, h]
  rfl

/-- Alike states show the same. -/
theorem showResult_alike (hab : Alike a b) (ls : List Lexeme) :
    showResult (run cfg b ls) = showResult (run cfg a ls) := by
  have hresults : (sameText False False False).Results (List.Forall₂ (Same False)) (run cfg a ls)
      (run cfg b ls) := run_same (Nat.le_refl cfg.maxBrackets) (.inr rfl) hab False.elim ls
  have hfueled := fueled_run cfg a ls
  generalize run cfg a ls = r at hresults hfueled ⊢
  generalize run cfg b ls = r' at hresults ⊢
  cases hresults with
  | ok hsame => exact congrArg Except.ok (shown_of_same hsame)
  | error he => exact congrArg Except.error he.1.symm
  | @excused e _ he =>
    rcases he with ⟨hfalse, -⟩ | hout | hfalse
    · exact hfalse.elim
    · exact absurd hout (hfueled e rfl)
    · exact hfalse.elim

/-! ## Steps under a map of widths -/

/-- A state with other widths. -/
def remap (φ : Nat → Nat) (s : Layout) : Layout :=
  { s with indents := s.indents.map φ, width := φ s.width }

theorem dedent_map (hφ : StrictMono φ) (w : Nat) (ws : List Nat) :
    dedent (φ w) (ws.map φ) = ((dedent w ws).1, (dedent w ws).2.map φ) := by
  induction ws with
  | nil => rfl
  | cons v ws ih =>
    rw [List.map_cons, dedent, dedent]
    by_cases hlt : w < v
    · rw [if_pos hlt, if_pos (hφ hlt), ih]
    · rw [if_neg hlt, if_neg fun h => hlt (hφ.lt_iff_lt.mp h)]
      rfl

theorem indentTo_remap (hφ : StrictMono φ) (hzero : φ 0 = 0) (s : Layout) (here : Span) :
    (s.remap φ).indentTo here = (s.indentTo here).map fun r => (r.1, r.2.map φ) := by
  have hcurrent : (s.indents.map φ).headD 0 = φ (s.indents.headD 0) := by
    cases s.indents with
    | nil => exact hzero.symm
    | cons v vs => rfl
  have hhead : ∀ ws : List Nat, (ws.map φ).head? = some (φ s.width) ↔ ws.head? = some s.width := by
    intro ws
    rw [List.head?_map, ← Option.map_some, (Option.map_injective hφ.injective).eq_iff]
  unfold indentTo remap
  dsimp only
  rw [hcurrent, dedent_map hφ]
  by_cases hlt : s.indents.headD 0 < s.width
  · rw [if_pos hlt, if_pos (hφ hlt)]
    rfl
  rw [if_neg hlt, if_neg fun h => hlt (hφ.lt_iff_lt.mp h)]
  by_cases hbad : s.width < s.indents.headD 0 ∧ (dedent s.width s.indents).2.head? ≠ some s.width
  · rw [if_pos hbad, if_pos ⟨hφ hbad.1, fun h => hbad.2 ((hhead _).mp h)⟩]
    rfl
  · rw [if_neg hbad, if_neg fun h => hbad ⟨hφ.lt_iff_lt.mp h.1, fun h' => h.2 ((hhead _).mpr h')⟩]
    rfl

theorem lineMarks_remap (hφ : StrictMono φ) (hzero : φ 0 = 0) (s : Layout) (here : Span) :
    lineMarks cfg (s.remap φ) here = (lineMarks cfg s here).map fun r => (r.1, r.2.map φ) := by
  unfold lineMarks
  show (if s.atLineStart = true ∧ cfg.mode = .file then _ else _) = _
  split
  · exact indentTo_remap hφ hzero s here
  · rfl

theorem content_remap (hφ : StrictMono φ) (hzero : φ 0 = 0) (s : Layout) (kind : TokenKind)
    (span : Span) : content cfg (s.remap φ) kind text span =
      (content cfg s kind text span).map fun r => (r.1, r.2.remap φ) := by
  unfold content
  rw [lineMarks_remap hφ hzero]
  cases lineMarks cfg s ⟨span.start, span.start⟩ with
  | error e => rfl
  | ok m =>
    show (bracketsAfter cfg s kind _ span >>= _) = Except.map _ (bracketsAfter cfg s kind _ span >>= _)
    cases bracketsAfter cfg s kind (String.ofList text) span <;> rfl

/-- A step on a token is the same under the map, and so is one that fails. -/
theorem step_remap (hφ : StrictMono φ) (hzero : φ 0 = 0)
    (hl : l.kind.isContent = true ∨ l.kind = .openQuote ∨ l.kind = .stray) (s : Layout) :
    step cfg (s.remap φ) l = (step cfg s l).map fun r => (r.1, r.2.remap φ) := by
  rcases hl with hl | hl | hl
  · obtain ⟨kind, hk⟩ := isContent_iff.mp hl
    have hoffset : (s.remap φ).offset = s.offset := rfl
    unfold step
    dsimp only
    rw [feed_content hk, feed_content hk, hoffset, content_remap hφ hzero]
    cases content cfg s kind l.text _ <;> rfl
  · unfold step feed
    rw [hl]
    rfl
  · unfold step feed
    rw [hl]
    rfl

theorem finish_remap (s : Layout) : finish cfg (s.remap φ) = finish cfg s := by
  unfold finish remap
  dsimp only
  rw [List.length_map]

/-! ## Margins -/

theorem run_gap (hgap : ∀ l ∈ gap, l.kind = .blank ∨ l.kind = .continuation) (s : Layout) :
    showResult (run cfg s (gap ++ ls)) = showResult (run cfg { s with
      offset := s.offset + byteLength (textOf gap), width := (textOf gap).foldl widen s.width } ls) := by
  induction gap generalizing s with
  | nil => rfl
  | cons l gap ih =>
    rw [List.forall_mem_cons] at hgap
    rw [List.cons_append, showResult_quiet (step_blank s (hgap.1.imp_right .inr)), ih hgap.2,
      textOf_cons, byteLength_append, List.foldl_append, Nat.add_assoc]

/-- Where a line ends without a token, its width does not count. -/
theorem run_lineEnd_width (hfile : cfg.mode = .file) (h : ∀ l ∈ ls.head?, l.kind = .lineBreak)
    (x v w : Nat) (indents : List Nat) :
    run cfg ⟨x, indents, [], true, v⟩ ls = run cfg ⟨x, indents, [], true, w⟩ ls := by
  cases ls with
  | nil => rfl
  | cons l ls =>
    have hl : l.kind = .lineBreak := h l rfl
    rw [run_cons_quiet (step_emptyLine hfile hl _ _ _), run_cons_quiet (step_emptyLine hfile hl _ _ _)]

/-- The width of a line without a token does not count. -/
theorem run_empty_width (hfile : cfg.mode = .file)
    (h : ∀ l ∈ (lexemes text).head?, l.kind = .lineBreak ∨ l.kind = .comment) (x v w : Nat)
    (indents : List Nat) : run cfg ⟨x, indents, [], true, v⟩ (lexemes text) =
      run cfg ⟨x, indents, [], true, w⟩ (lexemes text) := by
  cases hls : lexemes text with
  | nil => rfl
  | cons l ls =>
    rw [hls] at h
    rcases h l rfl with hl | hl
    · exact run_lineEnd_width hfile (fun m hm => by cases hm; exact hl) x v w indents
    · have hnext : ∀ m ∈ ls.head?, m.kind = .lineBreak := by
        intro m hm
        cases ls with
        | nil => cases hm
        | cons k ls =>
          cases hm
          exact kind_after_comment hls hl
      have hstep : ∀ u, step cfg ⟨x, indents, [], true, u⟩ l =
          .ok ([], ⟨x + byteLength l.text, indents, [], true, l.text.foldl widen u⟩) :=
        fun u => step_blank _ (.inr (.inl hl))
      rw [run_cons_quiet (hstep v), run_cons_quiet (hstep w)]
      exact run_lineEnd_width hfile hnext _ _ _ _

/-- What replaces a margin has the width that it should have, unless the line has no token. -/
theorem Margin.width (h : Margin φ (textOf gap) ls.head? white) :
    widthOf white = φ (widthOf (textOf gap)) ∨ ∀ l ∈ ls.head?, l.kind = .lineBreak ∨ l.kind = .comment := by
  cases h with
  | indented _ hwidth => exact .inl hwidth
  | empty hnone => exact .inr hnone
  | kept hnone => exact .inr hnone

/-- What replaces a margin falls into pieces that leave no token. -/
theorem Margin.lexemes_append (h : Margin φ (textOf gap) ls.head? white)
    (hls : lexemes (textOf (gap ++ ls)) = gap ++ ls)
    (hgap : ∀ l ∈ gap, l.kind = .blank ∨ l.kind = .continuation)
    (hnext : ∀ l ∈ ls.head?, l.kind ≠ .blank ∧ l.kind ≠ .continuation)
    (hline : SameLine (textOf ls) text) :
    ∃ noise, lexemes (white ++ text) = noise ++ lexemes text ∧
      (∀ l ∈ noise, l.kind = .blank ∨ l.kind = .continuation) ∧ textOf noise = white := by
  have hspaces : (∀ c ∈ white, c = ' ' ∨ c = '\t') → ∃ noise, lexemes (white ++ text) =
      noise ++ lexemes text ∧ (∀ l ∈ noise, l.kind = .blank ∨ l.kind = .continuation) ∧
        textOf noise = white := by
    intro hwhite
    have hblank : ∀ c ∈ white, isBlank c = true := by
      intro c hc
      rcases hwhite c hc with rfl | rfl <;> rfl
    have hhead : ∀ c ∈ text.head?, isBlank c = false := by
      rw [hline.head?]
      have hrest : lexemes (textOf ls) = ls := lexemes_of_append hls
      exact isBlank_head? fun l hl => (hnext l (hrest ▸ hl)).1
    exact ⟨marginPieces white, lexemes_margin hblank hhead, fun l hl => .inl (kind_of_marginPieces l hl),
      textOf_marginPieces white⟩
  cases h with
  | indented hwhite => exact hspaces hwhite
  | empty _ hwhite => exact hspaces hwhite
  | kept =>
    rw [textOf_append] at hls
    refine ⟨gap, lexemes_append_sameLine hls (fun l hl hopen => ?_) hline, hgap, rfl⟩
    rcases hgap l hl with hk | hk <;> rw [hopen] at hk <;> cases hk

/-! ## Runs on a text with other margins -/

/-- A state inside a logical line, behind its margin. -/
structure Inside (d : Nat) (ls : List Lexeme) (s : Layout) : Prop where
  depth : s.brackets.length = d
  outside : s.atLineStart = true → s.brackets = []
  first : s.atLineStart = true → ∀ l ∈ ls.head?, l.kind ≠ .blank ∧ l.kind ≠ .continuation

/-- What is known of pieces inside a logical line and a text that comes of them. -/
structure Mirrors (φ : Nat → Nat) (cfg : LayoutConfig) (d : Nat) (ls : List Lexeme)
    (text : List Char) : Prop where
  sameLine : SameLine (textOf ls) text
  first : (lexemes text).head?.map Lexeme.kind = ls.head?.map Lexeme.kind
  run : ∀ s, Inside d ls s → showResult (run cfg (s.remap φ) (lexemes text)) = showResult (run cfg s ls)

theorem Mirrors.head {p : LexemeKind → Prop} (h : Mirrors φ cfg d ls text) (hls : ∀ l ∈ ls.head?, p l.kind) :
    ∀ l ∈ (lexemes text).head?, p l.kind := by
  intro l hl
  have hfirst := h.first
  rw [hl, Option.map_some] at hfirst
  obtain ⟨m, hm, hkind⟩ := Option.map_eq_some_iff.mp hfirst.symm
  exact hkind ▸ hls m hm

/-- What is known of pieces at the start of a logical line and a text that comes of them. -/
def MirrorsLines (φ : Nat → Nat) (cfg : LayoutConfig) (ls : List Lexeme) (text : List Char) : Prop :=
  ∀ x y indents, showResult (run cfg ⟨y, indents.map φ, [], true, 0⟩ (lexemes text)) =
    showResult (run cfg ⟨x, indents, [], true, 0⟩ ls)

theorem mirrors_done : Mirrors φ cfg d [] [] where
  sameLine := .same
  first := rfl
  run s _ := congrArg showResult (finish_remap s)

theorem mirrors_margin (hfile : cfg.mode = .file) (hls : lexemes (textOf (gap ++ ls)) = gap ++ ls)
    (hgap : ∀ l ∈ gap, l.kind = .blank ∨ l.kind = .continuation)
    (hnext : ∀ l ∈ ls.head?, l.kind ≠ .blank ∧ l.kind ≠ .continuation)
    (hmargin : Margin φ (textOf gap) ls.head? white) (h : Mirrors φ cfg 0 ls text) :
    MirrorsLines φ cfg (gap ++ ls) (white ++ text) := by
  intro x y indents
  obtain ⟨noise, hnoise, hkinds, htext⟩ := hmargin.lexemes_append hls hgap hnext h.sameLine
  rw [hnoise, run_gap hkinds, run_gap hgap, htext]
  rw [← h.run _ ⟨rfl, fun _ => rfl, fun _ => hnext⟩]
  -- the new width is the old one under the map, or it does not count
  have hwidth : run cfg ⟨y + byteLength white, indents.map φ, [], true, widthOf white⟩ (lexemes text) =
      run cfg ⟨y + byteLength white, indents.map φ, [], true, φ (widthOf (textOf gap))⟩
        (lexemes text) := by
    rcases hmargin.width with hwidth | hnone
    · rw [hwidth]
    · exact run_empty_width hfile (h.head (p := fun k => k = .lineBreak ∨ k = .comment) hnone) _ _ _ _
  show showResult (run cfg ⟨_, _, _, _, widthOf white⟩ _) = _
  rw [hwidth]
  exact showResult_alike
    (alike_at ⟨x + byteLength (textOf gap), indents.map φ, [], true, φ (widthOf (textOf gap))⟩ _) _

/-- The end of a line is shown as such, whatever line break it is. -/
theorem step_lineEnd (hfile : cfg.mode = .file) (hs : s.brackets = []) (hl : l.kind = .lineBreak) :
    ∃ ts, step cfg s l = .ok (ts, ⟨s.offset + byteLength l.text, s.indents, [], true, 0⟩) ∧
      shown ts = if s.atLineStart then [] else [(.newline, "")] := by
  refine ⟨_, step_outside hfile hs hl, ?_⟩
  cases s.atLineStart <;> rfl

theorem mirrors_lineEnd (hfile : cfg.mode = .file) (hls : lexemes (textOf (l :: ls)) = l :: ls)
    (hl : l.kind = .lineBreak) (h : MirrorsLines φ cfg ls text) :
    Mirrors φ cfg 0 (l :: ls) (l.text ++ text) := by
  have htext : l.text ∈ lineBreaks := by
    have hmem : l ∈ lexemes (textOf (l :: ls)) := by
      rw [hls]
      exact List.mem_cons_self
    rcases text_of_lineBreak hmem hl with htext | htext | htext <;> rw [htext] <;> decide
  obtain ⟨b, skipped, ls', -, hskipped, hrest, happend⟩ :=
    @lexemes_continued l.text l.text [] (lexemes_lineBreak htext) nofun text
  rw [List.nil_append] at happend
  refine ⟨?_, ?_, fun s hs => ?_⟩
  · obtain ⟨c, r, hc, hbreak⟩ := beginsBreak_of_mem htext []
    rw [List.append_nil] at hc
    exact .upTo ⟨c, hc ▸ List.mem_cons_self, hbreak⟩
  · rw [happend]
    exact congrArg some hl.symm
  · have hnil : s.brackets = [] := List.eq_nil_of_length_eq_zero hs.depth
    obtain ⟨ts, hstep, hts⟩ := step_lineEnd hfile hnil hl
    obtain ⟨us, hstep', hus⟩ := step_lineEnd (s := s.remap φ) (l := ⟨.lineBreak, b⟩) hfile hnil rfl
    obtain ⟨offset, hempty⟩ : ∃ offset, run cfg ⟨0, s.indents.map φ, [], true, 0⟩ (skipped ++ ls') =
        run cfg ⟨offset, s.indents.map φ, [], true, 0⟩ ls' := run_emptyLines hfile hskipped 0 _
    have hlines := h (s.offset + byteLength l.text) 0 s.indents
    rw [hrest, hempty] at hlines
    rw [happend, showResult_cons hstep, showResult_cons hstep', hts, hus, ← hlines]
    refine congrArg (Except.map _) ?_
    exact showResult_alike (alike_at ⟨offset, s.indents.map φ, [], true, 0⟩ _) ls'

/-- A step on a token goes on inside the line. -/
theorem Inside.step (hs : Inside d (l :: ls) s) (hl : l.kind.isContent = true)
    (hstep : step cfg s l = .ok (ts, t)) : Inside (l.depthAfter d) ls t := by
  obtain ⟨kind, hk⟩ := isContent_iff.mp hl
  obtain ⟨marks, indents, brackets, span, -, -, hbrackets, -, rfl⟩ := content_of_step hk hstep
  refine ⟨?_, nofun, nofun⟩
  rw [← hs.depth]
  exact length_bracketsAfter hk hbrackets

/-- Blanks and comments only widen the margin, which does not count behind the first token, and no more
behind a comment. -/
theorem run_blank (hfile : cfg.mode = .file) (hls : lexemes (textOf (l :: ls)) = l :: ls)
    (hl : l.kind = .blank ∨ l.kind = .comment ∨ l.kind = .continuation) (hs : Inside d (l :: ls) s)
    (h : Mirrors φ cfg d ls text) :
    showResult (run cfg (s.remap φ) (l :: lexemes text)) = showResult (run cfg s (l :: ls)) := by
  have hnext : s.atLineStart = true → ∀ m ∈ ls.head?, m.kind = .lineBreak := by
    intro hstart m hm
    have hcomment : l.kind = .comment := by
      obtain ⟨hblank, hjoined⟩ := hs.first hstart l rfl
      rcases hl with hl | hl | hl
      · exact absurd hl hblank
      · exact hl
      · exact absurd hl hjoined
    cases ls with
    | nil => cases hm
    | cons k ls =>
      cases hm
      exact kind_after_comment hls hcomment
  have hinside : Inside d ls { s with
      offset := s.offset + byteLength l.text, width := l.text.foldl widen s.width } := by
    refine ⟨hs.depth, hs.outside, fun hstart m hm => ?_⟩
    rw [hnext hstart m hm]
    exact ⟨nofun, nofun⟩
  rw [showResult_quiet (step_blank s hl), showResult_quiet (step_blank (s.remap φ) hl), ← h.run _ hinside]
  obtain ⟨x, indents, brackets, start, w⟩ := s
  cases start with
  | false =>
    have halike : Alike
        (remap φ ⟨x + byteLength l.text, indents, brackets, false, l.text.foldl widen w⟩)
        ⟨x + byteLength l.text, indents.map φ, brackets, false, l.text.foldl widen (φ w)⟩ :=
      ⟨_, _, fun hstart => (by cases hstart), rfl⟩
    exact showResult_alike halike _
  | true =>
    obtain rfl : brackets = [] := hs.outside rfl
    exact congrArg showResult (run_lineEnd_width hfile (h.head (p := (· = .lineBreak)) (hnext rfl)) _ _ _ _)

/-- A token is read as before, or is refused as before. -/
theorem run_token (hφ : StrictMono φ) (hzero : φ 0 = 0)
    (hl : l.kind.isContent = true ∨ l.kind = .openQuote ∨ l.kind = .stray)
    {ms : List Lexeme} (h : ∀ ts t, l.kind.isContent = true → step cfg s l = .ok (ts, t) →
      showResult (run cfg (t.remap φ) ms) = showResult (run cfg t ls)) :
    showResult (run cfg (s.remap φ) (l :: ms)) = showResult (run cfg s (l :: ls)) := by
  have hcommutes : step cfg (s.remap φ) l = _ := step_remap hφ hzero hl s
  cases hstep : step cfg s l with
  | error e =>
    rw [hstep] at hcommutes
    rw [run_cons_error hcommutes, run_cons_error hstep]
  | ok r =>
    obtain ⟨ts, t⟩ := r
    have hcontent : l.kind.isContent = true := by
      refine hl.resolve_right fun hrefused => ?_
      unfold step feed at hstep
      rcases hrefused with hk | hk <;> rw [hk] at hstep <;> cases hstep
    rw [hstep] at hcommutes
    rw [showResult_cons hstep, showResult_cons hcommutes, h ts t hcontent hstep]

theorem mirrors_piece (hφ : StrictMono φ) (hzero : φ 0 = 0) (hfile : cfg.mode = .file)
    (hls : lexemes (textOf (l :: ls)) = l :: ls) (hl : l.kind ≠ .openQuote)
    (hbreak : l.kind = .lineBreak → d ≠ 0) (h : Mirrors φ cfg (l.depthAfter d) ls text) :
    Mirrors φ cfg d (l :: ls) (l.text ++ text) := by
  have hlexemes : lexemes (l.text ++ text) = l :: lexemes text := lexemes_sameLine hls hl h.sameLine
  refine ⟨h.sameLine.append l.text, by rw [hlexemes]; rfl, fun s hs => ?_⟩
  rw [hlexemes]
  have hsame : l.kind ≠ .op → Mirrors φ cfg d ls text := fun hop => depthAfter_of_ne_op hop d ▸ h
  have htoken : l.kind.isContent = true ∨ l.kind = .openQuote ∨ l.kind = .stray →
      showResult (run cfg (s.remap φ) (l :: lexemes text)) = showResult (run cfg s (l :: ls)) :=
    fun hk => run_token hφ hzero hk fun ts t hcontent hstep => h.run t (hs.step hcontent hstep)
  cases hkind : l.kind with
  | blank => exact run_blank hfile hls (.inl hkind) hs (hsame (by rw [hkind]; exact nofun))
  | comment => exact run_blank hfile hls (.inr (.inl hkind)) hs (hsame (by rw [hkind]; exact nofun))
  | continuation =>
    exact run_blank hfile hls (.inr (.inr hkind)) hs (hsame (by rw [hkind]; exact nofun))
  | lineBreak =>
    have hne : s.brackets ≠ [] := fun hnil => hbreak hkind (by rw [← hs.depth, hnil]; rfl)
    rw [showResult_quiet (step_joined hkind (.inr hne)),
      showResult_quiet (step_joined (s := s.remap φ) hkind (.inr hne))]
    exact (hsame (by rw [hkind]; exact nofun)).run { s with offset := s.offset + byteLength l.text }
      ⟨hs.depth, hs.outside, fun hstart => absurd (hs.outside hstart) hne⟩
  | openQuote => exact absurd hkind hl
  | stray => exact htoken (.inr (.inr hkind))
  | string | number | name | op => exact htoken (.inl (by rw [hkind]; rfl))

/-- A literal that was not closed is not closed now. -/
theorem Unclosed.lexemes_append (h : Unclosed l.text (textOf ls) text)
    (hls : lexemes (textOf (l :: ls)) = l :: ls) (hl : l.kind = .openQuote) :
    SameLine (textOf (l :: ls)) (l.text ++ text) ∧ ∃ rest, lexemes (l.text ++ text) = l :: rest := by
  cases h with
  | kept => exact ⟨.same, ls, hls⟩
  | @brokenOff marks q kept a b htext hmarks hrest hkept =>
    rw [textOf_cons, hrest] at hls ⊢
    refine ⟨.append _ (.upTo hkept.breaks), _, lexemes_of_front?_text ?_⟩
    have happend : ∀ y, l.text ++ (kept ++ y) = marks ++ q :: (kept ++ y) := fun y => by
      rw [htext, List.append_assoc, List.singleton_append]
    have hlength : l.text.length = marks.length + 1 := by rw [htext, List.length_append]; rfl
    have hfront := (front?_of_lexemes hls).1
    rw [happend, hlength, hl] at hfront ⊢
    exact front?_breaksOff hmarks hfront hkept b

theorem mirrors_unclosed (hφ : StrictMono φ) (hzero : φ 0 = 0)
    (hls : lexemes (textOf (l :: ls)) = l :: ls) (hl : l.kind = .openQuote)
    (h : Unclosed l.text (textOf ls) text) : Mirrors φ cfg d (l :: ls) (l.text ++ text) := by
  obtain ⟨hline, rest, hlexemes⟩ := h.lexemes_append hls hl
  have hcontent : l.kind.isContent ≠ true := by
    rw [hl]
    exact nofun
  refine ⟨hline, by rw [hlexemes]; rfl, fun s hs => ?_⟩
  rw [hlexemes]
  exact run_token hφ hzero (.inr (.inl hl)) fun _ _ h => absurd h hcontent

/-- What is known of pieces that begin at a place. -/
def MirrorsAt (φ : Nat → Nat) (cfg : LayoutConfig) : Option Nat → List Lexeme → List Char → Prop
  | none => MirrorsLines φ cfg
  | some d => Mirrors φ cfg d

theorem mirrorsAt_of_reindented (hφ : StrictMono φ) (hzero : φ 0 = 0) (hfile : cfg.mode = .file)
    {place : Option Nat} (h : Reindented φ place ls text) (hls : lexemes (textOf ls) = ls) :
    MirrorsAt φ cfg place ls text := by
  have htail : ∀ {l : Lexeme} {ls : List Lexeme}, lexemes (textOf (l :: ls)) = l :: ls →
      lexemes (textOf ls) = ls := fun {l} _ h => @lexemes_of_append _ [l] _ h
  induction h with
  | done => exact mirrors_done
  | margin hgap hnext hmargin _ ih =>
    exact mirrors_margin hfile hls hgap hnext hmargin (ih (lexemes_of_append hls))
  | lineEnd hl _ ih => exact mirrors_lineEnd hfile hls hl (ih (htail hls))
  | piece hl hbreak _ ih => exact mirrors_piece hφ hzero hfile hls hl hbreak (ih (htail hls))
  | unclosed hl htext => exact mirrors_unclosed hφ hzero hls hl htext

/-! ## Programs -/

/-- A program whose margins are replaced by those of widths in the same order has the same tokens, but for
their places, or is refused for the same cause. -/
theorem tokenize_reindented (hφ : StrictMono φ) (hzero : φ 0 = 0)
    (h : Reindented φ none (lexemes source) source') (n : Nat) :
    showResult (tokenize source' n) = showResult (tokenize source n) := by
  have hls : lexemes (textOf (lexemes source)) = lexemes source := by rw [textOf_lexemes]
  have hlines : MirrorsLines φ ⟨.file, n, 0⟩ (lexemes source) source' :=
    mirrorsAt_of_reindented hφ hzero rfl h hls
  have hrun := hlines 0 0 [0]
  rw [List.map_singleton, hzero] at hrun
  exact hrun

/-- The line of the name `b` is moved from a width of eight to one of sixteen. -/
theorem tokenize_reindented_block :
    StrictMono (2 * · : Nat → Nat) ∧ 2 * 0 = 0 ∧
      Reindented (2 * ·) none (lexemes ['a', '\n', '\t', 'b', '\n']) ['a', '\n', '\t', '\t', 'b', '\n'] ∧
      showResult (tokenize ['a', '\n', '\t', '\t', 'b', '\n'] 0) =
        showResult (tokenize ['a', '\n', '\t', 'b', '\n'] 0) := by
  have hφ : StrictMono (2 * · : Nat → Nat) := fun v w h => by dsimp only; omega
  have hlexemes : lexemes ['a', '\n', '\t', 'b', '\n'] = [⟨.name, ['a']⟩, ⟨.lineBreak, ['\n']⟩,
      ⟨.blank, ['\t']⟩, ⟨.name, ['b']⟩, ⟨.lineBreak, ['\n']⟩] := by decide +kernel
  have hend : Reindented (2 * ·) (some 0) [⟨.lineBreak, ['\n']⟩] ['\n'] :=
    .lineEnd rfl (@Reindented.margin _ [] [] [] [] nofun nofun (.indented nofun rfl) .done)
  have hblock : Reindented (2 * ·) none [⟨.blank, ['\t']⟩, ⟨.name, ['b']⟩, ⟨.lineBreak, ['\n']⟩]
      ['\t', '\t', 'b', '\n'] := by
    refine @Reindented.margin _ [⟨.blank, ['\t']⟩] _ ['\t', '\t'] ['b', '\n'] ?_ ?_ ?_
      (.piece nofun nofun hend)
    · exact List.forall_mem_singleton.mpr (.inl rfl)
    · rintro l ⟨⟩
      exact ⟨nofun, nofun⟩
    · exact .indented (by simp) rfl
  have hall : Reindented (2 * ·) none (lexemes ['a', '\n', '\t', 'b', '\n'])
      ['a', '\n', '\t', '\t', 'b', '\n'] := by
    rw [hlexemes]
    refine @Reindented.margin _ [] _ [] ['a', '\n', '\t', '\t', 'b', '\n'] nofun ?_ (.indented nofun rfl)
      (.piece nofun nofun (.lineEnd rfl hblock))
    rintro l ⟨⟩
    exact ⟨nofun, nofun⟩
  exact ⟨hφ, rfl, hall, tokenize_reindented hφ rfl hall 0⟩

/-- Every text can be given margins of other widths. -/
theorem exists_reindented (φ : Nat → Nat) (source : List Char) :
    ∃ source', Reindented φ none (lexemes source) source' := by
  suffices hall : ∀ ls, (∃ text, Reindented φ none ls text) ∧ ∀ d, ∃ text, Reindented φ (some d) ls text from
    (hall (lexemes source)).1
  intro ls
  induction hn : ls.length using Nat.strongRecOn generalizing ls with
  | ind n ih =>
    have hinside : ∀ ms : List Lexeme, ms.length ≤ n → ∀ d, ∃ text, Reindented φ (some d) ms text := by
      intro ms hms d
      cases ms with
      | nil => exact ⟨[], .done⟩
      | cons l ms =>
        obtain ⟨⟨lines, hlines⟩, hrest⟩ := ih ms.length hms ms rfl
        by_cases hopen : l.kind = .openQuote
        · exact ⟨_, .unclosed hopen .kept⟩
        by_cases hbreak : l.kind = .lineBreak ∧ d = 0
        · obtain ⟨hl, rfl⟩ := hbreak
          exact ⟨_, .lineEnd hl hlines⟩
        · obtain ⟨text, htext⟩ := hrest (l.depthAfter d)
          exact ⟨_, .piece hopen (fun hl hd => hbreak ⟨hl, hd⟩) htext⟩
    refine ⟨?_, hinside ls (Nat.le_of_eq hn)⟩
    -- the margin is what stands in front of the first piece of the line that is no blank
    let blank : Lexeme → Bool := fun l => l.kind == .blank || l.kind == .continuation
    obtain ⟨text, htext⟩ := hinside (ls.dropWhile blank) (hn ▸ (List.dropWhile_sublist _).length_le) 0
    rw [← List.takeWhile_append_dropWhile (p := blank) (l := ls)]
    refine ⟨_, @Reindented.margin φ _ _ (List.replicate (φ (widthOf (textOf (ls.takeWhile blank)))) ' ')
      text ?_ ?_ (.indented ?_ ?_) htext⟩
    · intro l hl
      have hblank : blank l = true := List.mem_takeWhile_imp hl
      simpa [blank] using hblank
    · intro l hl
      have hblank := List.head?_dropWhile_not blank ls
      rw [hl] at hblank
      simpa [blank] using hblank
    · exact fun c hc => .inl (List.eq_of_mem_replicate hc)
    · rw [widthOf, foldl_widen_spaces, Nat.zero_add]

end PythonSyntax.Layout
