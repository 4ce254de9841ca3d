import PythonSyntax.Proofs.Agreement.Verbatim
import PythonSyntax.Proofs.Layout.Stream
import PythonSyntax.Proofs.Lexeme.Local

/-
The tokens of a program in front of another one.

If the first program ends in a line break, the layout stands at the start of a line after it, where
blocks may still be open.  They are closed before the first token of the second program instead of at
the end of the first one, and the rest is the second program's own tokens.  So the stream of both is
the stream of the first, without its end marker, and then the stream of the second.
-/

namespace PythonSyntax.Layout

open PythonSyntax.Lexeme PythonSyntax.Parser PythonSyntax.Parser.TokenLikeness

variable {cfg : LayoutConfig} {ls : List Lexeme} {ts : List Token}

/-! ## Lexemes at the start of a line -/

theorem step_emptyLine (hfile : cfg.mode = .file) {l : Lexeme} (hl : l.kind = .lineBreak)
    (offset width : Nat) (indents : List Nat) :
    step cfg ⟨offset, indents, [], true, width⟩ l =
      .ok ([], ⟨offset + byteLength l.text, indents, [], true, 0⟩) :=
  step_outside hfile rfl hl

/-- Line breaks at the start of a line only move the offset. -/
theorem run_emptyLines (hfile : cfg.mode = .file) {skipped : List Lexeme}
    (h : ∀ l ∈ skipped, l.kind = .lineBreak) (offset : Nat) (indents : List Nat) :
    ∃ offset', run cfg ⟨offset, indents, [], true, 0⟩ (skipped ++ ls) =
      run cfg ⟨offset', indents, [], true, 0⟩ ls := by
  induction skipped generalizing offset with
  | nil => exact ⟨offset, rfl⟩
  | cons l skipped ih =>
    rw [List.forall_mem_cons] at h
    obtain ⟨offset', hrun⟩ := ih h.2 (offset + byteLength l.text)
    exact ⟨offset', (run_cons_quiet (step_emptyLine hfile h.1 _ _ _)).trans hrun⟩

/-! ## Blocks closed by the next program -/

/-- A line of width zero closes all blocks. -/
theorem dedent_zero {popped : List Nat} (h : ∀ w ∈ popped, 0 < w) :
    dedent 0 (popped ++ [0]) = (popped.length, [0]) := by
  induction popped with
  | nil => rfl
  | cons w popped ih =>
    rw [List.forall_mem_cons] at h
    rw [List.cons_append, dedent, if_pos h.1, ih h.2]
    rfl

theorem indentTo_zero {popped : List Nat} (h : ∀ w ∈ popped, 0 < w) (s : Layout)
    (hindents : s.indents = popped ++ [0]) (hwidth : s.width = 0) (here : Span) :
    s.indentTo here = .ok (List.replicate popped.length ⟨.dedent, "", here⟩, [0]) := by
  unfold indentTo
  rw [hindents, hwidth, dedent_zero h]
  simp

/-- The first line of a program has width zero, if it opens no block. -/
theorem width_of_marks {s : Layout} {here : Span} {marks : List Token} {indents : List Nat}
    (hs : s.indents = [0]) (h : s.indentTo here = .ok (marks, indents))
    (hindent : ∀ t ∈ marks.head?, t.kind ≠ .indent) :
    s.width = 0 ∧ marks = [] ∧ indents = [0] := by
  have hm := marks_of_indentTo (by rw [hs]; exact nofun) h
  rw [hs] at hm
  generalize hws : [0] = ws at hm
  cases hm with
  | same hhead =>
    subst hws
    exact ⟨(Option.some.inj hhead).symm, rfl, rfl⟩
  | indent => exact absurd rfl (hindent _ rfl)
  | @dedent popped ws hne _ hhead =>
    obtain ⟨w, popped, rfl⟩ := List.exists_cons_of_ne_nil hne
    have hnil := (List.append_eq_nil_iff.mp (List.cons.inj hws).2.symm).2
    rw [hnil] at hhead
    exact nomatch hhead

/-- Brackets are opened and closed alike wherever they stand. -/
theorem bracketsAfter_same {cfg' : LayoutConfig} {s s' : Layout} (hle : cfg.maxBrackets ≤ cfg'.maxBrackets)
    (hs : s.brackets = s'.brackets) {kind : TokenKind} {text : String} {span brackets}
    (h : bracketsAfter cfg s kind text span = .ok brackets) (span' : Span) :
    bracketsAfter cfg' s' kind text span' = .ok brackets := by
  unfold bracketsAfter at h ⊢
  rw [← hs]
  split
  · next hop =>
    rw [if_pos hop] at h
    have halike : (verbatim False True).Results Eq
        (trackBracket cfg.maxBrackets s.brackets text span)
        (trackBracket cfg'.maxBrackets s.brackets text span') :=
      trackBracket_alike (limits_of_le hle (.inl trivial)) _ _ fun _ => ⟨rfl, nofun⟩
    rw [h] at halike
    obtain ⟨_, heq, rfl⟩ := halike.of_ok
    exact heq
  · next hop => rwa [if_neg hop] at h

/-- The first token of a program where blocks are open, after the dedents that close them. -/
theorem step_in_blocks (hfile : cfg.mode = .file) {popped : List Nat} (hpos : ∀ w ∈ popped, 0 < w)
    {l : Lexeme} {kind : TokenKind} (hl : contentKind? l.kind = some kind) {s : Layout}
    {brackets : List String} {span : Span} (hs : s.brackets = [])
    (hbrackets : bracketsAfter cfg s kind (String.ofList l.text) span = .ok brackets) (y : Nat) :
    step cfg ⟨y, popped ++ [0], [], true, 0⟩ l =
      .ok (List.replicate popped.length ⟨.dedent, "", ⟨cfg.base + y, cfg.base + y⟩⟩ ++
          [⟨kind, String.ofList l.text, ⟨cfg.base + y, cfg.base + (y + byteLength l.text)⟩⟩],
        ⟨y + byteLength l.text, [0], brackets, false, 0⟩) := by
  have hmarks : lineMarks cfg ⟨y, popped ++ [0], [], true, 0⟩ ⟨cfg.base + y, cfg.base + y⟩ =
      .ok (List.replicate popped.length ⟨.dedent, "", ⟨cfg.base + y, cfg.base + y⟩⟩, [0]) := by
    rw [lineMarks, if_pos ⟨rfl, hfile⟩]
    exact indentTo_zero hpos _ rfl rfl _
  exact step_content hl rfl hmarks (bracketsAfter_same (Nat.le_refl _) hs hbrackets _)

/-- The tokens of a program where blocks are still open are its own, after a dedent for each
block. -/
theorem run_in_blocks (hfile : cfg.mode = .file) {popped : List Nat} (hpos : ∀ w ∈ popped, 0 < w)
    {x y width : Nat} (h : run cfg ⟨x, [0], [], true, width⟩ ls = .ok ts)
    (hindent : ∀ t ∈ ts.head?, t.kind ≠ .indent) :
    ∃ here us, run cfg ⟨y, popped ++ [0], [], true, width⟩ ls =
        .ok (List.replicate popped.length ⟨.dedent, "", here⟩ ++ us) ∧
      List.Forall₂ (Same False) ts us := by
  induction ls generalizing x y width ts with
  | nil =>
    unfold run finish at h ⊢
    rw [hfile] at h ⊢
    cases h
    refine ⟨⟨cfg.base + y, cfg.base + y⟩, [⟨.endMarker, "", ⟨cfg.base + y, cfg.base + y⟩⟩], ?_, ?_⟩
    · simp
    · exact .cons (same_self _ _ False.elim) .nil
  | cons l ls ih =>
    obtain ⟨tokens, s₁, rest, hstep, hrest, rfl⟩ := run_cons_inv h
    cases step_cases hstep with
    | blank hl hs₁ =>
      subst hs₁
      obtain ⟨here, us, hrun, hus⟩ := ih (y := y + byteLength l.text) hrest hindent
      exact ⟨here, us, (run_cons_quiet (step_blank _ hl)).trans hrun, hus⟩
    | joined _ hjoined =>
      rcases hjoined with hembedded | hbrackets
      · rw [hfile] at hembedded
        cases hembedded
      · exact absurd rfl hbrackets
    | emptyLine hl _ _ _ hs₁ =>
      subst hs₁
      obtain ⟨here, us, hrun, hus⟩ := ih (y := y + byteLength l.text) hrest hindent
      exact ⟨here, us, (run_cons_quiet (step_emptyLine hfile hl _ _ _)).trans hrun, hus⟩
    | lineEnd _ _ _ hstart => cases hstart
    | @content _ kind span marks indents brackets hl hmarks hbrackets hs₁ =>
      subst hs₁
      rw [lineMarks, if_pos ⟨rfl, hfile⟩] at hmarks
      obtain ⟨hwidth, rfl, rfl⟩ := width_of_marks rfl hmarks fun t ht => by
        cases marks with
        | nil => cases ht
        | cons m marks => exact hindent t ht
      obtain rfl : width = 0 := hwidth
      have hstep' := step_in_blocks hfile hpos hl rfl hbrackets y
      have hlater : (verbatim False True).Results (List.Forall₂ (Same False))
          (run cfg ⟨x + byteLength l.text, [0], brackets, false, 0⟩ ls)
          (run cfg ⟨y + byteLength l.text, [0], brackets, false, 0⟩ ls) :=
        run_same (Nat.le_refl _) (.inl trivial) (alike_at _ _) False.elim ls
      rw [hrest] at hlater
      obtain ⟨us, hus, hsame⟩ := hlater.of_ok
      refine ⟨⟨cfg.base + y, cfg.base + y⟩,
        ⟨kind, String.ofList l.text, ⟨cfg.base + y, cfg.base + (y + byteLength l.text)⟩⟩ :: us, ?_,
        .cons (same_self _ _ False.elim) hsame⟩
      rw [run_cons hstep' hus, List.append_assoc]
      rfl

/-! ## The seam -/

/-- What holds after the last lexeme of a program that ends in a line break. -/
structure LineEnded (s : Layout) (ts : List Token) : Prop where
  brackets : s.brackets = []
  atLineStart : s.atLineStart = true
  width : s.width = 0
  /-- The blocks that are still open lie inside the program. -/
  indents : ∃ popped, s.indents = popped ++ [0] ∧ ∀ w ∈ popped, 0 < w
  blocks : blocksAfter 0 ts = some (s.indents.length - 1)
  last : ∀ t ∈ ts.getLast?, t.kind = .newline

theorem lineEnded_of_steps (hfile : cfg.mode = .file) {pre : List Lexeme} {text : List Char}
    {s : Layout} (h : steps cfg start (pre ++ [⟨.lineBreak, text⟩]) = .ok (ts, s))
    (hbrackets : s.brackets = []) : LineEnded s ts := by
  obtain ⟨hsound, hblocks, -⟩ := steps_sound hfile h
  obtain ⟨-, hfollows⟩ : s.Sound ∧ Follows (lastKind none ts) s := by
    refine steps_induction (P := fun _ ts s => s.Sound ∧ Follows (lastKind none ts) s)
      ⟨sound_start, .inl rfl⟩ ?_ h
    rintro _ ts s l tokens s' ⟨hs, hprev⟩ hstep
    rw [lastKind_append]
    exact ⟨sound_step hs hstep, (chained_step hs.indents_ne_nil hprev hstep).2⟩
  obtain ⟨hstart, hwidth⟩ : s.atLineStart = true ∧ s.width = 0 := by
    obtain ⟨_, s₁, _, -, hstep, -⟩ := steps_snoc h
    cases step_cases hstep with
    | blank hl => rcases hl with hl | hl | hl <;> exact nomatch hl
    | joined _ hjoined hs =>
      subst hs
      rcases hjoined with hembedded | hopen
      · rw [hfile] at hembedded
        exact nomatch hembedded
      · exact absurd hbrackets hopen
    | emptyLine _ _ _ hstart hs => subst hs; exact ⟨hstart, rfl⟩
    | lineEnd _ _ _ _ hs => subst hs; exact ⟨rfl, rfl⟩
    | content hl => exact nomatch hl
  refine ⟨hbrackets, hstart, hwidth, ?_, hblocks, fun t ht => ?_⟩
  · obtain ⟨popped, hpopped⟩ := List.getLast?_eq_some_iff.mp hsound.bottom
    have hdecreasing := hsound.decreasing
    rw [hpopped] at hdecreasing
    exact ⟨popped, hpopped, fun w hw =>
      (List.pairwise_append.mp hdecreasing).2.2 w hw 0 List.mem_cons_self⟩
  · unfold Follows at hfollows
    rw [if_pos hstart, lastKind, ht] at hfollows
    simpa using hfollows

/-- No lexeme of a text with tokens is an open quote or a character that begins nothing. -/
theorem known_of_steps {s s' : Layout} (h : steps cfg s ls = .ok (ts, s')) :
    ∀ l ∈ ls, l.kind ≠ .openQuote ∧ l.kind ≠ .stray := by
  refine steps_induction (P := fun ls _ _ => ∀ l ∈ ls, l.kind ≠ .openQuote ∧ l.kind ≠ .stray)
    nofun ?_ h
  intro ls ts s l tokens s' hls hstep
  refine List.forall_mem_append.mpr ⟨hls, List.forall_mem_singleton.mpr ?_⟩
  cases hstep with
  | blank hl => rcases hl with hl | hl | hl <;> rw [hl] <;> exact ⟨nofun, nofun⟩
  | joined hl => rw [hl]; exact ⟨nofun, nofun⟩
  | emptyLine hl => rw [hl]; exact ⟨nofun, nofun⟩
  | lineEnd hl => rw [hl]; exact ⟨nofun, nofun⟩
  | content hl => constructor <;> intro hkind <;> rw [hkind] at hl <;> exact nomatch hl

/-- Two line breaks are fed to the layout alike. -/
theorem fed_lineBreak {text text' : List Char} (h : ⟨.lineBreak, text⟩ ∈ lexemes x)
    (h' : ⟨.lineBreak, text'⟩ ∈ lexemes x') (hle : text.length ≤ text'.length)
    (span span' : Span) :
    Fed (verbatim False True) ⟨.lineBreak, text⟩ ⟨.lineBreak, text'⟩ span span' where
  kind := rfl
  spot := spot_self nofun
  width hblank := by rcases hblank with h | h | h <;> exact nomatch h
  newline _ := by
    have hopening : ∀ {x text}, ⟨.lineBreak, text⟩ ∈ lexemes x →
        isOpening (String.ofList text) = false := by
      intro x text hmem
      obtain h | h | h : text = _ ∨ text = _ ∨ text = _ := text_of_lineBreak hmem rfl
      all_goals rw [h]; decide
    refine ⟨rfl, .inr ⟨⟨rfl, ?_⟩, hopening h, hopening h'⟩, nofun⟩
    rwa [String.length_ofList, String.length_ofList]
  content hcontent := nomatch hcontent
  refused hrefused := by rcases hrefused with h | h <;> exact nomatch h
  error _ := ⟨rfl, nofun⟩

/-- A line break that is spelled with more characters does the same. -/
theorem step_lineBreak {text text' x x' : List Char} (h : ⟨.lineBreak, text⟩ ∈ lexemes x)
    (h' : ⟨.lineBreak, text'⟩ ∈ lexemes x') (hle : text.length ≤ text'.length) {s s₁ : Layout}
    {tokens : List Token} (hstep : step cfg s ⟨.lineBreak, text⟩ = .ok (tokens, s₁)) :
    ∃ tokens' s₁', step cfg s ⟨.lineBreak, text'⟩ = .ok (tokens', s₁') ∧
      List.Forall₂ (Same False) tokens tokens' ∧ Alike s₁ s₁' := by
  have hbreak : (verbatim False True).Results (AlikeSteps (verbatim False True))
      (step cfg s ⟨.lineBreak, text⟩) (step cfg s ⟨.lineBreak, text'⟩) :=
    (step_alike (limits_of_le (Nat.le_refl cfg.maxBrackets) (.inl trivial)) (alike_at _ _)
      (fed_lineBreak h h' hle _ _)).mono fun _ _ h => h.1
  rw [hstep] at hbreak
  obtain ⟨⟨tokens', s₁'⟩, hstep', htokens, hs₁'⟩ := hbreak.of_ok
  exact ⟨tokens', s₁', hstep', htokens, hs₁'⟩

/-- What the tokens of a program in front of another one are, from a place inside `depth` blocks
on. -/
structure Front (depth : Nat) (X : List Token) : Prop where
  blocks : blocksAfter depth X = some 0
  last : ∀ t ∈ X.getLast?, t.kind.isContent = false
  unmarked : ∀ t ∈ X, t.kind ≠ .endMarker

namespace Front

variable {depth depth' : Nat} {t : Token} {X : List Token}

/-- After the first token there are as many blocks as that leaves. -/
theorem tail (h : Front depth (t :: X)) (hblocks : blocksAfter depth' X = some 0) :
    Front depth' X where
  blocks := hblocks
  last u hu := by
    cases X with
    | nil => exact nomatch hu
    | cons v X => exact h.last u (by rw [List.getLast?_cons_cons]; exact hu)
  unmarked := (List.forall_mem_cons.mp h.unmarked).2

theorem tail_plain (h : Front depth (t :: X)) (hindent : t.kind ≠ .indent)
    (hdedent : t.kind ≠ .dedent) : Front depth X := by
  have hblocks := h.blocks
  unfold blocksAfter at hblocks
  rw [if_neg hindent, if_neg hdedent] at hblocks
  exact h.tail hblocks

theorem tail_indent (h : Front depth (t :: X)) (hindent : t.kind = .indent) :
    Front (depth + 1) X := by
  have hblocks := h.blocks
  unfold blocksAfter at hblocks
  rw [if_pos hindent] at hblocks
  exact h.tail hblocks

theorem tail_dedent (h : Front (depth + 1) (t :: X)) (hdedent : t.kind = .dedent) :
    Front depth X := by
  have hblocks := h.blocks
  unfold blocksAfter at hblocks
  rw [if_neg (by rw [hdedent]; decide), if_pos hdedent] at hblocks
  exact h.tail hblocks

/-- After a token with text there is another one. -/
theorem tail_ne_nil (h : Front depth (t :: X)) (hcontent : t.kind.isContent = true) : X ≠ [] := by
  rintro rfl
  have hlast := h.last t rfl
  rw [hcontent] at hlast
  exact nomatch hlast

end Front

/-- The end of a text that ends in a line break closes the blocks that are open. -/
theorem finish_eq_ok (hfile : cfg.mode = .file) {s : Layout} (h : finish cfg s = .ok ts)
    (hstart : s.brackets = [] → s.atLineStart = true) :
    s.brackets = [] ∧ ∃ here, ts =
      List.replicate (s.indents.length - 1) ⟨.dedent, "", here⟩ ++ [⟨.endMarker, "", here⟩] := by
  have hbrackets := brackets_of_finish h
  rw [finish, if_neg (not_not.mpr hbrackets), hfile, hstart hbrackets] at h
  cases h
  exact ⟨hbrackets, _, rfl⟩

/-- The tokens up to the end of a line, and dedents for the blocks that are open there. -/
theorem LineEnded.front {s : Layout} {popped : List Nat} (h : LineEnded s ts)
    (hpopped : s.indents = popped ++ [0]) {here : Span}
    (hunmarked : ∀ t ∈ ts ++ List.replicate popped.length ⟨.dedent, "", here⟩,
      t.kind ≠ .endMarker) :
    Front 0 (ts ++ List.replicate popped.length ⟨.dedent, "", here⟩) where
  blocks := by
    rw [blocksAfter_append, h.blocks, hpopped, List.length_append]
    exact blocksAfter_replicate_dedent here 0 _
  last t ht := by
    rw [List.getLast?_append, List.getLast?_replicate] at ht
    split at ht
    · rw [h.last t ht]
      rfl
    · cases ht
      rfl
  unmarked := hunmarked

/-- The tokens of the next program after the end of a line: dedents for the blocks that are open
there, and its own tokens. -/
theorem LineEnded.run_next {s s' : Layout} {popped : List Nat} {b : List Char} {n : Nat}
    {us : List Token} {skipped : List Lexeme} (h : LineEnded s ts) (hs' : Alike s s')
    (hpopped : s.indents = popped ++ [0]) (hpos : ∀ w ∈ popped, 0 < w)
    (hb : tokenize b n = .ok us) (hlexemes : lexemes b = skipped ++ ls)
    (hskipped : ∀ l ∈ skipped, l.kind = .lineBreak) (hindent : ∀ t ∈ us.head?, t.kind ≠ .indent) :
    ∃ here Y, run ⟨.file, n, 0⟩ s' ls =
        .ok (List.replicate popped.length ⟨.dedent, "", here⟩ ++ Y) ∧
      List.Forall₂ (Same False) us Y := by
  obtain ⟨offset, width, hwidth, hs'⟩ := hs'
  have hstate : s' = ⟨offset, popped ++ [0], [], true, 0⟩ := by
    rw [hs', ← hpopped, ← h.brackets, ← h.atLineStart, ← h.width, hwidth h.atLineStart]
  obtain ⟨x, hx⟩ : ∃ x, run ⟨.file, n, 0⟩ ⟨0, [0], [], true, 0⟩ (skipped ++ ls) =
      run ⟨.file, n, 0⟩ ⟨x, [0], [], true, 0⟩ ls := run_emptyLines rfl hskipped 0 [0]
  rw [tokenize, hlexemes, start, hx] at hb
  rw [hstate]
  exact run_in_blocks rfl hpos hb hindent

/-- The stream of two programs is that of the first, without its end marker, and that of the
second. -/
theorem tokenize_append {a b : List Char} {n : Nat} {ts us : List Token}
    (ha : tokenize a n = .ok ts) (hb : tokenize b n = .ok us)
    (hend : ∃ pre text, lexemes a = pre ++ [⟨.lineBreak, text⟩])
    (hindent : ∀ t ∈ us.head?, t.kind ≠ .indent) :
    ∃ X X' Y here, ts = X ++ [⟨.endMarker, "", here⟩] ∧ Front 0 X ∧
      tokenize (a ++ b) n = .ok (X' ++ Y) ∧
      List.Forall₂ (Same False) X X' ∧ List.Forall₂ (Same False) us Y := by
  obtain ⟨pre, text, hlexemes⟩ := hend
  unfold tokenize at ha ⊢
  obtain ⟨body, e, hbody, -, hunmarked⟩ := (rest_run rfl sound_start ha).endMarker
  rw [hlexemes, ← List.append_nil (pre ++ _)] at ha
  obtain ⟨done, s, rest, hsteps, hfinish, rfl⟩ := run_append ha
  obtain ⟨text', skipped, ls, hle, hskipped, hls, happend⟩ := lexemes_continued hlexemes
    (fun l hl => (known_of_steps hsteps l (List.mem_append_left _ hl)).1) b
  obtain ⟨hbrackets, there, rfl⟩ := finish_eq_ok rfl hfinish fun hb =>
    (lineEnded_of_steps rfl hsteps hb).atLineStart
  have hended := lineEnded_of_steps rfl hsteps hbrackets
  obtain ⟨popped, hpopped, hpos⟩ := hended.indents
  rw [show s.indents.length - 1 = popped.length by rw [hpopped, List.length_append]; rfl,
    ← List.append_assoc] at hbody ⊢
  -- the line break, in the first program and before the second one
  obtain ⟨d₀, s₀, tokens, hpre, hstep, rfl⟩ := steps_snoc hsteps
  have hmem : ⟨.lineBreak, text⟩ ∈ lexemes a := by
    rw [hlexemes]
    exact List.mem_append_right _ List.mem_cons_self
  have hmem' : ⟨.lineBreak, text'⟩ ∈ lexemes (a ++ b) := by
    rw [happend]
    exact List.mem_append_right _ List.mem_cons_self
  obtain ⟨tokens', s', hstep', htokens, hs'⟩ := step_lineBreak hmem hmem' hle hstep
  obtain ⟨here, Y, hY, hsame⟩ :=
    hended.run_next hs' hpopped hpos hb hls hskipped hindent
  refine ⟨d₀ ++ tokens ++ List.replicate popped.length ⟨.dedent, "", there⟩,
    d₀ ++ tokens' ++ List.replicate popped.length ⟨.dedent, "", here⟩, Y, there, rfl,
    hended.front hpopped ?_, ?_, ?_, hsame⟩
  · rw [(List.append_inj' hbody rfl).1]
    exact hunmarked
  · rw [happend, run_append_eq, hpre]
    show (run _ s₀ (_ :: ls)).map _ = _
    rw [run_cons hstep' hY]
    show Except.ok (d₀ ++ (tokens' ++ (_ ++ Y))) = _
    simp only [List.append_assoc]
  · refine List.rel_append (List.rel_append ?_ htokens) (forall₂_replicate ?_ _)
    · exact List.forall₂_same.mpr fun t _ => same_self _ _ False.elim
    · exact same_self _ _ False.elim

end PythonSyntax.Layout
