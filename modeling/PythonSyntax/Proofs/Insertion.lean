import PythonSyntax.Proofs.Concat.Parser
import PythonSyntax.Proofs.Layout.Shown
import PythonSyntax.Proofs.Parser.Progress

/-
Layout that does not matter.

Blanks and hidden line breaks between two tokens of a line, line breaks and comments between two tokens
in brackets, and empty lines between logical lines may be put into a program that is accepted: its
tokens keep their kinds, and those that hold text keep it.  A program is read from nothing else of its
tokens, so it is read as before.
-/

namespace PythonSyntax

open PythonSyntax.Lexeme PythonSyntax.Layout PythonSyntax.Parser PythonSyntax.Parser.TokenLikeness

variable {source before after w : List Char} {n : Nat} {ts us : List Token}

/-! ## Programs that show the same -/

theorem readable_of_same (h : List.Forall₂ (Same False) ts us) (hus : Readable us) : Readable ts := by
  have hcurrent : ∀ {ts us}, List.Forall₂ (Same False) ts us → (current ts).kind = (current us).kind :=
    fun h => by
      cases h with
      | nil => rfl
      | cons htu _ => exact htu.kind
  induction h with
  | nil => exact hus
  | cons htu htus ih =>
    cases hus with
    | last hlast =>
      cases htus
      exact .last (htu.kind.trans hlast)
    | cons hne hindent htail =>
      refine .cons (fun h => hne (htu.kind.symm.trans h)) (fun h => ?_) (ih htail)
      rw [hcurrent htus]
      exact hindent (htu.kind.symm.trans h)

/-- What a program is read as depends only on what its tokens show. -/
theorem mapError_parseModule (h : tokenize source n = .ok ts) :
    (parseModule source n).mapError SyntaxError.cause =
      ((outcome (file (StmtRule.run id (parseFuel ((shown ts).map ofShown)))) ⟨n, 0⟩
        ((shown ts).map ofShown)).map Prod.fst).mapError SyntaxError.cause := by
  have hsame := same_ofShown h
  generalize (shown ts).map ofShown = vs at hsame ⊢
  have hvs : Readable vs := readable_of_same hsame (readable_of_tokenize h)
  have hfuel : parseFuel vs ≤ parseFuel ts := by
    have hweight := weight_le_of_same hsame
    rw [parseFuel_eq, parseFuel_eq]
    omega
  have hfile : Reads vs (file (StmtRule.run id (parseFuel vs))) _ :=
    reads_file (belowStmt_run id (parseFuel vs)) (by rw [parseFuel_eq]; omega)
  have hagrees : ((sameText False False False).throughout same_eof).Agrees
      (file (StmtRule.run id (parseFuel vs))) (file (StmtRule.run id (parseFuel ts))) Eq :=
    file_throughout same_eof (fun hle => rules_same _ hle) hfuel
  have hresults := hagrees 0 vs ts ⟨n, 0⟩ ⟨n, 0⟩ hsame ⟨Nat.le_refl _, .inr rfl⟩
  have hfueled := hfile.fueled hvs ⟨n, 0⟩
  rw [parseModule, parseSpelled_eq, h]
  show ((outcome _ _ ts).map Prod.fst).mapError _ = _
  generalize outcome (file (StmtRule.run id (parseFuel vs))) ⟨n, 0⟩ vs = r at hresults hfueled ⊢
  generalize outcome (file (StmtRule.run id (parseFuel ts))) ⟨n, 0⟩ ts = r' at hresults ⊢
  cases hresults with
  | ok hr => exact congrArg Except.ok hr.1.symm
  | error he => exact congrArg Except.error he.1.symm
  | @excused e _ he =>
    rcases he with ⟨hfalse, -⟩ | hout | hfalse
    · exact hfalse.elim
    · exact absurd hout (hfueled e rfl)
    · exact hfalse.elim

/-! ## Places for text that does not matter -/

/-- Where a text `w` may be put into a program that is accepted under the limit `n`: behind the pieces
of `before`, and in front of those of `after`. -/
inductive Insertion (source : List Char) (n : Nat) : List Char → List Char → List Char → Prop where
  /-- Between the tokens `t` and `u`, of which the second follows the first with no end of a line
  between them: blanks and hidden line breaks, and in brackets also line breaks and comments. -/
  | within {pre t gap gap' u post done s s'} {w : List Char} :
      lexemes source = pre ++ t :: (gap ++ (gap' ++ u :: post)) →
      t.kind.isContent = true → u.kind.isContent = true →
      steps ⟨.file, n, 0⟩ .start (pre ++ [t]) = .ok (done, s) →
      steps ⟨.file, n, 0⟩ s (gap ++ gap') = .ok ([], s') →
      Filler (s.brackets ≠ []) w →
      Insertion source n (textOf (pre ++ t :: gap)) w (textOf (gap' ++ u :: post))
  /-- At the start: an empty line. -/
  | atStart {w : List Char} : IsEmptyLine w → Insertion source n [] w source
  /-- Behind a line break outside brackets, which is not hidden: an empty line. -/
  | afterLine {pre text post done s} {w : List Char} :
      lexemes source = pre ++ ⟨.lineBreak, text⟩ :: post →
      steps ⟨.file, n, 0⟩ .start (pre ++ [⟨.lineBreak, text⟩]) = .ok (done, s) →
      s.brackets = [] → IsEmptyLine w →
      Insertion source n (textOf (pre ++ [⟨.lineBreak, text⟩])) w (textOf post)

/-- Nothing is taken away. -/
theorem Insertion.append_eq (h : Insertion source n before w after) : before ++ after = source := by
  cases h with
  | within hsource =>
    rw [← textOf_append, List.append_assoc, List.cons_append, ← hsource, textOf_lexemes]
  | atStart => rfl
  | afterLine hsource =>
    rw [← textOf_append, List.append_assoc, List.cons_append, List.nil_append, ← hsource,
      textOf_lexemes]

theorem tokenize_within {pre gap gap' post : List Lexeme} {t u : Lexeme} {s s' : Layout}
    {done : List Token} (h : tokenize source n = .ok ts)
    (hsource : lexemes source = pre ++ t :: (gap ++ (gap' ++ u :: post)))
    (ht : t.kind.isContent = true) (hu : u.kind.isContent = true)
    (hsteps : steps ⟨.file, n, 0⟩ .start (pre ++ [t]) = .ok (done, s))
    (hgap : steps ⟨.file, n, 0⟩ s (gap ++ gap') = .ok ([], s')) (hw : Filler (s.brackets ≠ []) w) :
    ∃ us, tokenize (textOf (pre ++ t :: gap) ++ (w ++ textOf (gap' ++ u :: post))) n = .ok us ∧
      shown us = shown ts := by
  have hknown := known_of_steps hsteps
  have hstart : s.atLineStart = false := by
    obtain ⟨_, s₀, _, -, hstep, -⟩ := steps_snoc hsteps
    cases step_cases hstep with
    | blank hl => rcases hl with hl | hl | hl <;> rw [hl] at ht <;> cases ht
    | joined hl => rw [hl] at ht; cases ht
    | emptyLine hl => rw [hl] at ht; cases ht
    | lineEnd hl => rw [hl] at ht; cases ht
    | content _ _ _ hs => subst hs; rfl
  have hsplit : lexemes source = (pre ++ [t]) ++ ((gap ++ gap') ++ u :: post) := by
    rw [hsource]
    simp
  have hlater := lexemes_of_append hsplit
  have hfills := fills_of_steps rfl hstart hlater hu hgap
  rw [List.forall_mem_append] at hfills
  obtain ⟨noise, hnoise, hlexemes⟩ := lexemes_insert hsource
    (fun l hl => hknown l (List.mem_append_left _ hl)) ht hu hfills.1 hfills.2 hw
  rw [tokenize, hsplit] at h
  obtain ⟨done', s₁, rest, hdone, hrest, rfl⟩ := run_append h
  rw [hsteps] at hdone
  obtain ⟨rfl, rfl⟩ := Prod.mk.inj (Except.ok.inj hdone)
  obtain ⟨us, hus, hshown⟩ := run_fills rfl hstart hlater hu hgap hnoise hrest
  refine ⟨done ++ us, ?_, by rw [shown_append, shown_append, hshown]⟩
  have hline : pre ++ t :: (noise ++ u :: post) = (pre ++ [t]) ++ (noise ++ u :: post) :=
    List.append_cons pre t _
  rw [tokenize, hlexemes, hline]
  exact run_of_steps hsteps hus

theorem tokenize_atStart (h : tokenize source n = .ok ts) (hw : IsEmptyLine w) :
    ∃ us, tokenize (w ++ source) n = .ok us ∧ shown us = shown ts :=
  run_emptyLine rfl hw h 0

theorem tokenize_afterLine {pre post : List Lexeme} {text : List Char} {s : Layout}
    {done : List Token} (h : tokenize source n = .ok ts)
    (hsource : lexemes source = pre ++ ⟨.lineBreak, text⟩ :: post)
    (hsteps : steps ⟨.file, n, 0⟩ .start (pre ++ [⟨.lineBreak, text⟩]) = .ok (done, s))
    (hs : s.brackets = []) (hw : IsEmptyLine w) :
    ∃ us, tokenize (textOf (pre ++ [⟨.lineBreak, text⟩]) ++ (w ++ textOf post)) n = .ok us ∧
      shown us = shown ts := by
  have hsplit : lexemes source = (pre ++ [⟨.lineBreak, text⟩]) ++ post := by
    rw [hsource, List.append_assoc]
    rfl
  have hquote : ∀ l ∈ pre ++ [⟨.lineBreak, text⟩], l.kind ≠ .openQuote :=
    fun l hl => (known_of_steps hsteps l hl).1
  have hfirst := lexemes_of_prefix hsplit hquote
  have hpost : lexemes (textOf post) = post := lexemes_of_append hsplit
  obtain ⟨text', skipped, ls, hle, hskipped, hls, happend⟩ := lexemes_continued hfirst
    (fun l hl => hquote l (List.mem_append_left _ hl)) (w ++ textOf post)
  rw [tokenize, hsplit] at h
  obtain ⟨done', s₁, rest, hdone, hrest, rfl⟩ := run_append h
  rw [hsteps] at hdone
  obtain ⟨rfl, rfl⟩ := Prod.mk.inj (Except.ok.inj hdone)
  -- the line break, in the program and before the empty line
  obtain ⟨d₀, s₀, tokens, hpre, hstep, rfl⟩ := steps_snoc hsteps
  have hmem : ⟨.lineBreak, text⟩ ∈ lexemes source := by
    rw [hsource]
    exact List.mem_append_right _ List.mem_cons_self
  have hmem' : ⟨.lineBreak, text'⟩ ∈
      lexemes (textOf (pre ++ [⟨.lineBreak, text⟩]) ++ (w ++ textOf post)) := by
    rw [happend]
    exact List.mem_append_right _ List.mem_cons_self
  obtain ⟨tokens', s₁', hstep', htokens, hs₁'⟩ := step_lineBreak hmem hmem' hle hstep
  have hended := lineEnded_of_steps rfl hsteps hs
  have hstate : s = ⟨s.offset, s.indents, [], true, 0⟩ := by
    rw [← hended.brackets, ← hended.atLineStart, ← hended.width]
  rw [hstate, ← hpost] at hrest
  obtain ⟨us, hus, hshown⟩ := run_emptyLine rfl hw hrest s.offset
  obtain ⟨offset, hrun⟩ : ∃ offset,
      Layout.run ⟨.file, n, 0⟩ ⟨s.offset, s.indents, [], true, 0⟩ (skipped ++ ls) =
        Layout.run ⟨.file, n, 0⟩ ⟨offset, s.indents, [], true, 0⟩ ls :=
    run_emptyLines rfl hskipped s.offset s.indents
  rw [hls, hrun] at hus
  have halike : Layout.Alike ⟨offset, s.indents, [], true, 0⟩ s₁' := by
    refine Layout.Alike.trans ?_ hs₁'
    rw [hstate]
    exact alike_at _ _
  obtain ⟨vs, hvs, hshown'⟩ := run_elsewhere halike hus
  refine ⟨d₀ ++ (tokens' ++ vs), ?_, ?_⟩
  · rw [tokenize, happend]
    refine run_of_steps hpre ?_
    exact Layout.run_cons hstep' hvs
  · rw [shown_append, shown_append, shown_append, shown_append, shown_of_same htokens, hshown',
      hshown, List.append_assoc]

/-- The tokens of a program show the same after text is put in where it does not matter. -/
theorem Insertion.exists_tokenize (h : Insertion source n before w after)
    (hts : tokenize source n = .ok ts) :
    ∃ us, tokenize (before ++ (w ++ after)) n = .ok us ∧ shown us = shown ts := by
  cases h with
  | within hsource ht hu hsteps hgap hw => exact tokenize_within hts hsource ht hu hsteps hgap hw
  | atStart hw =>
    obtain ⟨us, hus, hshown⟩ := tokenize_atStart hts hw
    exact ⟨us, hus, hshown⟩
  | afterLine hsource hsteps hs hw => exact tokenize_afterLine hts hsource hsteps hs hw

/-- Text that is put into a program where it does not matter changes neither what the tokens show nor
what the program is read as, which depends only on what the tokens show. -/
theorem parseModule_inserted (h : tokenize source n = .ok ts) :
    (∀ before w after, Insertion source n before w after → before ++ after = source ∧
      (∃ us, tokenize (before ++ (w ++ after)) n = .ok us ∧ shown us = shown ts) ∧
      (parseModule (before ++ (w ++ after)) n).mapError SyntaxError.cause =
        (parseModule source n).mapError SyntaxError.cause) ∧
    ∀ other us, tokenize other n = .ok us → shown us = shown ts →
      (parseModule other n).mapError SyntaxError.cause =
        (parseModule source n).mapError SyntaxError.cause := by
  have hsame : ∀ other us, tokenize other n = .ok us → shown us = shown ts →
      (parseModule other n).mapError SyntaxError.cause =
        (parseModule source n).mapError SyntaxError.cause := fun other us hus hshown => by
    rw [mapError_parseModule hus, mapError_parseModule h, hshown]
  refine ⟨fun before w after hi => ?_, hsame⟩
  obtain ⟨us, hus, hshown⟩ := hi.exists_tokenize h
  exact ⟨hi.append_eq, ⟨us, hus, hshown⟩, hsame _ us hus hshown⟩

/-- A call. -/
def callSource : List Char := ['f', '(', 'x', ')', '\n']

/-- A comment and its line break are put in behind the opening bracket of the call. -/
theorem parseModule_inserted_comment :
    Insertion callSource 9 ['f', '('] ['#', '\n'] ['x', ')', '\n'] ∧
      (parseModule callSource 9).isOk = true ∧
      (parseModule ['f', '(', '#', '\n', 'x', ')', '\n'] 9).mapError SyntaxError.cause =
        (parseModule callSource 9).mapError SyntaxError.cause := by
  have hsource : lexemes callSource = [⟨.name, ['f']⟩] ++ ⟨.op, ['(']⟩ ::
      ([] ++ ([] ++ ⟨.name, ['x']⟩ :: [⟨.op, [')']⟩, ⟨.lineBreak, ['\n']⟩])) := by decide +kernel
  have hsteps : steps ⟨.file, 9, 0⟩ .start ([⟨.name, ['f']⟩] ++ [⟨.op, ['(']⟩]) =
      .ok ([⟨.name, "f", ⟨0, 1⟩⟩, ⟨.op, "(", ⟨1, 2⟩⟩], ⟨2, [0], ["("], false, 0⟩) := rfl
  have hfiller : Filler (["("] ≠ []) ['#', '\n'] :=
    @Filler.comment _ [] _ (List.cons_ne_nil _ _) (fun c hc => (by cases hc))
      ⟨'\n', [], rfl, by unfold InLine; decide⟩
      (.lineBreak (List.cons_ne_nil _ _) (b := ['\n']) (by decide) .nil)
  have hinsertion : Insertion callSource 9 ['f', '('] ['#', '\n'] ['x', ')', '\n'] :=
    .within hsource rfl rfl hsteps rfl hfiller
  obtain ⟨ts, hts, -⟩ := exists_of_any (x := tokenize callSource 9) (p := fun _ => true)
    (by decide +kernel)
  exact ⟨hinsertion, by decide +kernel, ((parseModule_inserted hts).1 _ _ _ hinsertion).2.2⟩

end PythonSyntax
