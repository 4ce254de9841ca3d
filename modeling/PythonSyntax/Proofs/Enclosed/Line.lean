import PythonSyntax.Proofs.Enclosed.Grammar
import PythonSyntax.Proofs.Layout.Shown

/-
The tokens of a program in parentheses.

Where lines do not matter a program has its tokens with text and no others, so read as an expression it
is these tokens.  They do not change in parentheses, and neither does what stands behind the last of
them, for it leaves no token there: not even a comment does, if the line ends before the parenthesis
that closes.
-/

namespace PythonSyntax

open PythonSyntax.Lexeme PythonSyntax.Parser PythonSyntax.Parser.Likeness

/-- A program in parentheses, the second of which stands on a line of its own. -/
def inGroup (e : List Char) : List Char := '(' :: (e ++ ['\n', ')', '\n'])

/-- Pieces that leave no token may stand inside brackets if they are known, and a line break behind
them makes a filler of their text. -/
theorem Lexeme.filler_lineBreak {s : List Char} {ls : List Lexeme} (h : lexemes s = ls)
    (hls : ∀ l ∈ ls, l.kind.Fills True) : Filler True (textOf ls ++ ['\n']) := by
  have hbreak : ['\n'] ∈ lineBreaks := by decide
  induction ls generalizing s with
  | nil => exact Filler.lineBreak (b := ['\n']) trivial hbreak .nil
  | cons l ls ih =>
    rw [List.forall_mem_cons] at hls
    obtain ⟨n, -, -, hrest⟩ := front_of_lexemes h
    rw [textOf_cons, List.append_assoc]
    refine Filler.cons h hls.1 (ih hrest.symm hls.2) fun hl => ?_
    cases ls with
    | nil => exact beginsBreak_of_mem hbreak []
    | cons l' ls =>
      rw [textOf_cons, List.append_assoc]
      exact beginsBreak_after_comment h hl _

theorem Lexeme.fills_of_known {l : Lexeme} (hl : l.kind.isContent = false)
    (hknown : l.kind ≠ .openQuote ∧ l.kind ≠ .stray) : l.kind.Fills True := by
  cases hk : l.kind with
  | blank | continuation | lineBreak | comment => trivial
  | openQuote => exact absurd hk hknown.1
  | stray => exact absurd hk hknown.2
  | string | number | name | op =>
    rw [hk] at hl
    cases hl

namespace Layout

variable {cfg : LayoutConfig} {limit base : Nat} {a s s' : Layout} {l t : Lexeme}
  {ls pre post : List Lexeme} {ts us tokens as : List Token} {e : List Char}

/-! ## A program as an expression -/

theorem filter_marks (h : ∀ t ∈ ts, t.kind.isContent = false ∧ t.text = "") :
    ts.filter (·.kind.isContent) = [] :=
  List.filter_eq_nil_iff.mpr fun t ht hcontent => by
    rw [(h t ht).1] at hcontent
    cases hcontent

/-- A piece of a program leaves its tokens with text where lines do not matter. -/
theorem step_embedded (hoffset : a.offset = s.offset) (hbrackets : a.brackets = s.brackets)
    (h : step ⟨.file, limit, base⟩ s l = .ok (tokens, s')) :
    ∃ a', step ⟨.embedded, limit, base⟩ a l = .ok (tokens.filter (·.kind.isContent), a') ∧
      a'.offset = s'.offset ∧ a'.brackets = s'.brackets := by
  have hbreak : l.kind = .lineBreak → step ⟨.embedded, limit, base⟩ a l =
      .ok ([], { a with offset := a.offset + byteLength l.text }) := fun hl => step_joined hl (.inl rfl)
  have hnext : a.offset + byteLength l.text = s.offset + byteLength l.text := by rw [hoffset]
  cases step_cases h with
  | blank hl hs' => subst hs'; exact ⟨_, step_blank a hl, hnext, hbrackets⟩
  | joined hl _ hs' => subst hs'; exact ⟨_, hbreak hl, hnext, hbrackets⟩
  | emptyLine hl _ _ _ hs' => subst hs'; exact ⟨_, hbreak hl, hnext, hbrackets⟩
  | lineEnd hl _ _ _ hs' => subst hs'; exact ⟨_, hbreak hl, hnext, hbrackets⟩
  | @content _ kind _ _ _ _ hl =>
    obtain ⟨marks, indents, brackets, span, hspan, hmarks, hafter, htokens, hs'⟩ :=
      content_of_step hl h
    have hafter' : bracketsAfter ⟨.embedded, limit, base⟩ a kind (String.ofList l.text) span =
        .ok brackets := by
      unfold bracketsAfter at hafter ⊢
      rwa [hbrackets]
    have hstep : step ⟨.embedded, limit, base⟩ a l = .ok ([] ++ [⟨kind, String.ofList l.text, span⟩],
        ⟨a.offset + byteLength l.text, a.indents, brackets, false, a.width⟩) := by
      refine step_content hl ?_ (if_neg (by simp)) hafter'
      rw [hspan, hoffset]
    have hcontent : [(⟨kind, String.ofList l.text, span⟩ : Token)].filter (·.kind.isContent) =
        [⟨kind, String.ofList l.text, span⟩] :=
      List.filter_cons_of_pos (isContent_of_contentKind? hl)
    rw [htokens, List.filter_append, filter_marks (mark_of_lineMarks hmarks), hcontent]
    subst hs'
    exact ⟨_, hstep, hnext, rfl⟩

/-- Read as an expression, a program has its tokens with text and no others. -/
theorem run_embedded (hoffset : a.offset = s.offset) (hbrackets : a.brackets = s.brackets)
    (h : run ⟨.file, limit, base⟩ s ls = .ok ts) :
    ∃ eof, run ⟨.embedded, limit, base⟩ a ls = .ok (ts.filter (·.kind.isContent) ++ [eof]) ∧
      eof.kind = .endMarker := by
  induction ls generalizing a s ts with
  | nil =>
    obtain ⟨hs, hmarks⟩ := mark_of_finish h
    refine ⟨⟨.endMarker, "", ⟨base + a.offset, base + a.offset⟩⟩, ?_, rfl⟩
    rw [filter_marks hmarks]
    exact finish_embedded rfl (hbrackets.trans hs)
  | cons l ls ih =>
    obtain ⟨tokens, s', rest, hstep, hrest, rfl⟩ := run_cons_inv h
    obtain ⟨a', hstep', hoffset', hbrackets'⟩ := step_embedded hoffset hbrackets hstep
    obtain ⟨eof, hrun, heof⟩ := ih hoffset' hbrackets' hrest
    refine ⟨eof, ?_, heof⟩
    rw [List.filter_append, List.append_assoc]
    exact run_cons hstep' hrun

/-- Pieces without tokens leave an expression as it is. -/
theorem run_noise (limit base : Nat) (hls : ∀ l ∈ ls, l.kind.Fills True) (a : Layout) :
    ∃ a', a'.brackets = a.brackets ∧ run ⟨.embedded, limit, base⟩ a ls =
      finish ⟨.embedded, limit, base⟩ a' := by
  induction ls generalizing a with
  | nil => exact ⟨a, rfl, rfl⟩
  | cons l ls ih =>
    rw [List.forall_mem_cons] at hls
    obtain ⟨a₁, hstep, hbrackets⟩ : ∃ a₁, step ⟨.embedded, limit, base⟩ a l = .ok ([], a₁) ∧
        a₁.brackets = a.brackets := by
      have hfills := hls.1
      cases hl : l.kind with
      | blank => exact ⟨_, step_blank a (.inl hl), rfl⟩
      | comment => exact ⟨_, step_blank a (.inr (.inl hl)), rfl⟩
      | continuation => exact ⟨_, step_blank a (.inr (.inr hl)), rfl⟩
      | lineBreak => exact ⟨_, step_joined hl (.inl rfl), rfl⟩
      | string | openQuote | number | name | op | stray =>
        rw [hl] at hfills
        exact hfills.elim
    obtain ⟨a', ha', hrun⟩ := ih hls.2 a₁
    exact ⟨a', ha'.trans hbrackets, (run_cons_quiet hstep).trans hrun⟩

/-- Brackets are balanced in an expression that has tokens. -/
theorem balanced_of_run (h : run ⟨.embedded, limit, base⟩ a ls = .ok ts) :
    balanced a.brackets.length ls = true := by
  induction ls generalizing a ts with
  | nil =>
    rw [brackets_of_finish h]
    rfl
  | cons l ls ih =>
    obtain ⟨tokens, a', rest, hstep, hrest, -⟩ := run_cons_inv h
    have hgives := gives_of_step rfl hstep
    rw [balanced, ← hgives.depth, ih hrest, Bool.and_true, Bool.or_eq_true, Bool.not_eq_true',
      bne_iff_ne, or_iff_not_imp_left, Bool.not_eq_false]
    intro hc hempty
    have hnil := List.eq_nil_of_length_eq_zero hempty
    unfold closes at hc
    rw [Bool.and_eq_true, beq_iff_eq] at hc
    cases step_cases hstep with
    | blank hl => rcases hl with hl | hl | hl <;> cases hl.symm.trans hc.1
    | joined hl => cases hl.symm.trans hc.1
    | emptyLine hl => cases hl.symm.trans hc.1
    | lineEnd hl => cases hl.symm.trans hc.1
    | content hl _ hbrackets =>
      rw [hc.1] at hl
      cases hl
      unfold bracketsAfter trackBracket at hbrackets
      rw [if_pos rfl, isOpening_of_isClosing hc.2, hc.2, hnil] at hbrackets
      cases hbrackets

/-! ## A program in parentheses -/

/-- The pieces up to the last one that becomes a token, and those behind it. -/
theorem exists_last (ls : List Lexeme) : (∀ l ∈ ls, l.kind.isContent = false) ∨
    ∃ pre t post, ls = pre ++ t :: post ∧ t.kind.isContent = true ∧
      ∀ l ∈ post, l.kind.isContent = false := by
  cases h : ls.reverse.find? (·.kind.isContent) with
  | none =>
    rw [List.find?_eq_none] at h
    exact .inl fun l hl => Bool.eq_false_iff.mpr (h l (List.mem_reverse.mpr hl))
  | some t =>
    obtain ⟨ht, post, pre, hls, hpost⟩ := List.find?_eq_some_iff_append.mp h
    refine .inr ⟨pre.reverse, t, post.reverse, ?_, ht, fun l hl => ?_⟩
    · rw [← List.reverse_reverse ls, hls]
      simp
    · simpa using hpost l (List.mem_reverse.mp hl)

/-- Up to its last token a program keeps its pieces in parentheses. -/
theorem lexemes_inGroup (h : lexemes e = pre ++ t :: post)
    (hpre : ∀ l ∈ pre, l.kind ≠ .openQuote ∧ l.kind ≠ .stray) (ht : t.kind.isContent = true)
    (hpost : ∀ l ∈ post, l.kind.Fills True) :
    ∃ noise, (∀ l ∈ noise, l.kind.Fills True) ∧ lexemes (inGroup e) =
      ⟨.op, ['(']⟩ :: ((pre ++ [t] ++ noise) ++ ⟨.op, [')']⟩ :: [⟨.lineBreak, ['\n']⟩]) := by
  have hsplit : lexemes e = (pre ++ [t]) ++ post := by
    rw [h, List.append_assoc]
    rfl
  have hfront : front? (inGroup e) = some (.op, 1) := rfl
  have hclose : lexemes [')', '\n'] = [⟨.op, [')']⟩, ⟨.lineBreak, ['\n']⟩] := by decide +kernel
  have hz : BeginsToken [')', '\n'] := ⟨_, _, hclose, rfl⟩
  have hx : lexemes (textOf (pre ++ [t])) = pre ++ [t] := by
    refine lexemes_of_prefix hsplit (List.forall_mem_append.mpr ⟨fun l hl => (hpre l hl).1,
      List.forall_mem_singleton.mpr fun hk => ?_⟩)
    rw [hk] at ht
    cases ht
  have hfiller := filler_lineBreak (lexemes_of_append hsplit) hpost
  obtain ⟨c, g, hg⟩ : ∃ c g, textOf post ++ ['\n'] = c :: g := by
    cases textOf post <;> exact ⟨_, _, rfl⟩
  rw [hg] at hfiller
  obtain ⟨noise, hnoise, hlexemes⟩ := lexemes_before_filler hx hpre ht hfiller hz
  have hrest : e ++ ['\n', ')', '\n'] = textOf (pre ++ [t]) ++ (c :: g ++ [')', '\n']) := by
    rw [← hg, List.append_assoc, ← List.append_assoc, ← textOf_append, ← hsplit, textOf_lexemes]
    rfl
  refine ⟨noise, hnoise, ?_⟩
  rw [lexemes_of_front hfront]
  show ⟨.op, ['(']⟩ :: lexemes (e ++ ['\n', ')', '\n']) = _
  rw [hrest, hlexemes, hclose, List.append_assoc, List.append_assoc]
  rfl

/-- The tokens of a program of one line are the same in parentheses, with the first parenthesis before
them, and the other one and the end of its line behind them. -/
theorem tokenize_inGroup {newline eof : Token} (h : tokenize e limit = .ok (as ++ [newline, eof]))
    (has : ∀ t ∈ as, t.kind.isContent = true) (hne : as ≠ []) (hnewline : newline.kind = .newline)
    (heof : eof.kind = .endMarker) :
    ∃ t us newline' eof', tokenize (inGroup e) (limit + 1) = .ok (t :: us) ∧ t.isOp "(" = true ∧
      newline'.kind = .newline ∧ eof'.kind = .endMarker ∧
      Enclosed (Outside False) .newline [newline', eof'] 0 (as ++ [newline, eof]) us := by
  obtain ⟨eof₁, hrun, heof₁⟩ := run_embedded (a := start) rfl rfl h
  have hfilter : (as ++ [newline, eof]).filter (·.kind.isContent) = as := by
    rw [List.filter_append, List.filter_eq_self.mpr has]
    simp [hnewline, heof, TokenKind.isContent]
  rw [hfilter] at hrun
  have hknown : ∀ l ∈ lexemes e, l.kind ≠ .openQuote ∧ l.kind ≠ .stray := by
    rw [← List.append_nil (lexemes e)] at hrun
    obtain ⟨_, _, _, hsteps, -⟩ := run_append hrun
    exact known_of_steps hsteps
  rcases exists_last (lexemes e) with hnone | ⟨pre, t, post, hsplit, ht, hpost⟩
  · -- without a piece that becomes a token there is none with text
    obtain ⟨a, -, hnoise⟩ := run_noise limit 0
      (fun l hl => fills_of_known (hnone l hl) (hknown l hl)) start
    obtain ⟨t, ht⟩ := List.exists_mem_of_ne_nil as hne
    have hmark := (mark_of_finish (hnoise.symm.trans hrun)).2 t (List.mem_append_left _ ht)
    rw [has t ht] at hmark
    cases hmark.1
  · rw [hsplit] at hknown
    have hfills : ∀ l ∈ post, l.kind.Fills True := fun l hl => fills_of_known (hpost l hl)
      (hknown l (List.mem_append_right _ (List.mem_cons_of_mem _ hl)))
    obtain ⟨noise, hnoise, hlexemes⟩ := lexemes_inGroup hsplit
      (fun l hl => hknown l (List.mem_append_left _ hl)) ht hfills
    rw [hsplit, List.append_cons] at hrun
    obtain ⟨done, a, rest, hsteps, hrest, heq⟩ := run_append hrun
    obtain ⟨a₁, ha₁, hpost₁⟩ := run_noise limit 0 hfills a
    rw [hpost₁] at hrest
    have hclosed : a.brackets = [] := ha₁ ▸ brackets_of_finish hrest
    -- what stands behind the last token leaves the end marker only, in both texts
    rw [finish_embedded rfl (ha₁.trans hclosed)] at hrest
    cases hrest
    obtain rfl : as = done := List.append_inj_left' heq rfl
    obtain ⟨a₂, ha₂, hnoise₂⟩ := run_noise limit 0 hnoise a
    rw [finish_embedded rfl (ha₂.trans hclosed)] at hnoise₂
    have hsame := run_of_steps hsteps hnoise₂
    obtain ⟨open', s, hopen, hisOpen, hs⟩ := step_open limit
    have halike : (enclosed False).Results (RunsAlike (Outside False) start.brackets.length _)
        (run ⟨.embedded, limit, 0⟩ start _)
        (run ⟨.file, limit + 1, 0⟩ s (_ ++ ⟨.op, [')']⟩ :: [⟨.lineBreak, ['\n']⟩])) :=
      run_surrounded hs (balanced_of_run hsame) (fun _ _ _ _ _ _ => ⟨False.elim, False.elim⟩)
        (List.forall_mem_singleton.mpr rfl)
    rw [hsame] at halike
    obtain ⟨us, hus, hstreams, -, -⟩ := halike.of_ok
    obtain ⟨newline', eof', hnewline', heof', henclosed⟩ := hstreams
    refine ⟨open', us, newline', eof', ?_, hisOpen, hnewline', heof',
      henclosed.at_newline has hnewline (Nat.le_succ 1)⟩
    rw [tokenize, hlexemes]
    exact run_cons hopen hus

end Layout

end PythonSyntax
