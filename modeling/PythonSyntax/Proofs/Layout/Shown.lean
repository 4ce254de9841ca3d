import PythonSyntax.Proofs.Concat.Layout
import PythonSyntax.Proofs.Lexeme.Filler

/-
Text that leaves no token.

What a token stream shows of a program is the kinds of its tokens, and the texts of those that hold
text.  The layout shows the same after a filler between two tokens of a line, because the state after
it is alike, and after an empty line between two logical lines.
-/

namespace PythonSyntax.Layout

open PythonSyntax.Lexeme PythonSyntax.Parser PythonSyntax.Parser.TokenLikeness

variable {cfg : LayoutConfig} {a b s s' : Layout} {ls : List Lexeme} {ts us : List Token}
  {w z : List Char}

/-! ## What a stream shows -/

/-- The kind of a token, and its text if it holds text of the program. -/
def showToken (t : Token) : TokenKind × String := (t.kind, if t.kind.isContent then t.text else "")

/-- The kinds of tokens, and the texts of those that hold text of the program. -/
def shown (ts : List Token) : List (TokenKind × String) := ts.map showToken

@[simp] theorem shown_append (ts us : List Token) : shown (ts ++ us) = shown ts ++ shown us :=
  List.map_append

theorem shown_of_same (h : List.Forall₂ (Same False) ts us) : shown us = shown ts := by
  refine (map_eq_map h fun t u htu => ?_).symm
  have htext : t.kind.isContent = true → t.text = u.text := fun hcontent =>
    htu.text.resolve_right fun hn => by
      rw [hn.1.1] at hcontent
      cases hcontent
  unfold showToken
  rw [← htu.kind]
  split
  · next hcontent => rw [htext hcontent]
  · rfl

/-- Alike states show the same of the same lexemes. -/
theorem run_elsewhere (hab : Alike a b) (h : run cfg a ls = .ok ts) :
    ∃ us, run cfg b ls = .ok us ∧ shown us = shown ts := by
  have hresults : (verbatim False True).Results (List.Forall₂ (Same False)) (run cfg a ls)
      (run cfg b ls) := run_same (Nat.le_refl cfg.maxBrackets) (.inl trivial) hab False.elim ls
  rw [h] at hresults
  obtain ⟨us, hus, hsame⟩ := hresults.of_ok
  exact ⟨us, hus, shown_of_same hsame⟩

/-- A token that shows a kind and a text. -/
def ofShown (k : TokenKind × String) : Token := ⟨k.1, k.2, ⟨0, 0⟩⟩

/-- The marks before a line hold no text. -/
theorem mark_of_lineMarks {here : Span} {marks : List Token} {indents : List Nat}
    (h : lineMarks cfg s here = .ok (marks, indents)) :
    ∀ t ∈ marks, t.kind.isContent = false ∧ t.text = "" := by
  intro t ht
  unfold lineMarks at h
  split at h
  · unfold indentTo at h
    dsimp only at h
    split at h
    · cases h
      obtain rfl := List.mem_singleton.mp ht
      exact ⟨rfl, rfl⟩
    · split at h
      · cases h
      · cases h
        rw [List.eq_of_mem_replicate ht]
        exact ⟨rfl, rfl⟩
  · cases h
    cases ht

/-- A text ends outside brackets, with marks that hold no text. -/
theorem mark_of_finish (h : finish cfg s = .ok ts) :
    s.brackets = [] ∧ ∀ t ∈ ts, t.kind.isContent = false ∧ t.text = "" := by
  have hbrackets := brackets_of_finish h
  refine ⟨hbrackets, fun t ht => ?_⟩
  cases hmode : cfg.mode with
  | embedded =>
    rw [finish_embedded hmode hbrackets] at h
    cases h
    obtain rfl := List.mem_singleton.mp ht
    exact ⟨rfl, rfl⟩
  | file =>
    rw [finish, if_neg (not_not.mpr hbrackets), hmode] at h
    cases h
    dsimp only at ht
    split at ht
    · simp only [List.nil_append, List.mem_append, List.mem_replicate, List.mem_singleton] at ht
      rcases ht with ⟨-, rfl⟩ | rfl <;> exact ⟨rfl, rfl⟩
    · simp only [List.mem_append, List.mem_replicate, List.mem_singleton] at ht
      rcases ht with (rfl | ⟨-, rfl⟩) | rfl <;> exact ⟨rfl, rfl⟩

/-- What the texts of marks are. -/
def MarkText (t : Token) : Prop :=
  t.kind.isContent = false → t.text = "" ∨ t.kind = .newline ∧ isOpening t.text = false

theorem markText_step {l : Lexeme} (hl : l ∈ lexemes z)
    (h : Step cfg s l ts s') : ∀ t ∈ ts, MarkText t := by
  cases h with
  | blank => exact fun t ht => (by cases ht)
  | joined => exact fun t ht => (by cases ht)
  | emptyLine => exact fun t ht => (by cases ht)
  | lineEnd hkind =>
    refine List.forall_mem_singleton.mpr fun _ => .inr ⟨rfl, ?_⟩
    show isOpening (String.ofList l.text) = false
    obtain h | h | h := text_of_lineBreak hl hkind <;> rw [h] <;> decide
  | content hkind hmarks _ _ =>
    refine List.forall_mem_append.mpr ⟨fun t ht _ => .inl (mark_of_lineMarks hmarks t ht).2,
      List.forall_mem_singleton.mpr fun hcontent => ?_⟩
    rw [isContent_of_contentKind? hkind] at hcontent
    cases hcontent

theorem markText_run (hls : ∀ l ∈ ls, l ∈ lexemes z) (h : run cfg s ls = .ok ts) :
    ∀ t ∈ ts, MarkText t := by
  induction ls generalizing s ts with
  | nil => exact fun t ht _ => .inl ((mark_of_finish h).2 t ht).2
  | cons l ls ih =>
    rw [List.forall_mem_cons] at hls
    rw [run] at h
    obtain ⟨⟨tokens, s₁⟩, hstep, h⟩ := bind_ok h
    obtain ⟨rest, hrest, h⟩ := bind_ok h
    cases h
    exact List.forall_mem_append.mpr ⟨markText_step hls.1 (step_cases hstep), ih hls.2 hrest⟩

/-- The tokens of a program are those that it shows, but for their places and the spelling of line
breaks. -/
theorem same_ofShown {n : Nat} (h : tokenize z n = .ok ts) :
    List.Forall₂ (Same False) ((shown ts).map ofShown) ts := by
  have hmarks := markText_run (fun l hl => hl) h
  clear h
  induction ts with
  | nil => exact .nil
  | cons t ts ih =>
    rw [List.forall_mem_cons] at hmarks
    refine .cons ⟨rfl, ?_, False.elim⟩ (ih hmarks.2)
    show (if t.kind.isContent then t.text else "") = t.text ∨ _
    cases hcontent : t.kind.isContent with
    | true => exact .inl rfl
    | false =>
      rcases hmarks.1 hcontent with htext | ⟨hnewline, hopening⟩
      · exact .inl htext.symm
      · refine .inr ⟨⟨hnewline, ?_⟩, ?_, hopening⟩
        · show (if t.kind.isContent then t.text else "").length ≤ _
          rw [hcontent]
          exact Nat.zero_le _
        · show isOpening (if t.kind.isContent then t.text else "") = false
          rw [hcontent]
          rfl

/-! ## Quiet steps -/

theorem run_of_steps {done rest : List Token} {pre : List Lexeme}
    (hpre : steps cfg s pre = .ok (done, s')) (hrun : run cfg s' ls = .ok rest) :
    run cfg s (pre ++ ls) = .ok (done ++ rest) := by
  rw [run_append_eq, hpre]
  show (run cfg s' ls).map _ = _
  rw [hrun]
  rfl

/-! ## Between two tokens of a line -/

theorem Alike.symm (h : Alike a b) : Alike b a := by
  obtain ⟨offset, width, hwidth, rfl⟩ := h
  exact ⟨a.offset, a.width, fun hstart => (hwidth hstart).symm, rfl⟩

theorem Alike.trans {c : Layout} (h : Alike a b) (h' : Alike b c) : Alike a c := by
  obtain ⟨offset, width, hwidth, rfl⟩ := h
  obtain ⟨offset', width', hwidth', rfl⟩ := h'
  exact ⟨offset', width', fun hstart => (hwidth hstart).trans (hwidth' hstart), rfl⟩

/-- Pieces of a filler leave no token, and a state that is alike. -/
theorem steps_fills (cfg : LayoutConfig) (hstart : s.atLineStart = false)
    (h : ∀ l ∈ ls, l.kind.Fills (s.brackets ≠ [])) :
    ∃ s', steps cfg s ls = .ok ([], s') ∧ Alike s s' := by
  induction ls generalizing s with
  | nil => exact ⟨s, rfl, alike_at s s.offset⟩
  | cons l ls ih =>
    rw [List.forall_mem_cons] at h
    obtain ⟨s₁, hstep, hs₁, hstart₁, hbrackets⟩ : ∃ s₁, step cfg s l = .ok ([], s₁) ∧ Alike s s₁ ∧
        s₁.atLineStart = false ∧ s₁.brackets = s.brackets := by
      have hwide : l.kind = .blank ∨ l.kind = .comment ∨ l.kind = .continuation →
          ∃ s₁, step cfg s l = .ok ([], s₁) ∧ Alike s s₁ ∧ s₁.atLineStart = false ∧
            s₁.brackets = s.brackets := fun hl =>
        ⟨_, step_blank s hl, ⟨_, _, fun hs => (by rw [hstart] at hs; cases hs), rfl⟩, hstart, rfl⟩
      have hfills := h.1
      cases hl : l.kind with
      | blank => exact hwide (.inl hl)
      | comment => exact hwide (.inr (.inl hl))
      | continuation => exact hwide (.inr (.inr hl))
      | lineBreak =>
        rw [hl] at hfills
        exact ⟨_, step_joined hl (.inr hfills), alike_at s _, hstart, rfl⟩
      | string | openQuote | number | name | op | stray =>
        rw [hl] at hfills
        exact hfills.elim
    obtain ⟨s', hsteps, hs'⟩ := ih hstart₁ (by rw [hbrackets]; exact h.2)
    exact ⟨s', steps_cons hstep hsteps, hs₁.trans hs'⟩

/-- A line break outside brackets ends a line that has a token. -/
theorem not_quiet_lineBreak (hfile : cfg.mode = .file) (hstart : s.atLineStart = false)
    (hs : s.brackets = []) {l : Lexeme} (hl : l.kind = .lineBreak) :
    steps cfg s (l :: ls) ≠ .ok ([], s') := by
  intro h
  obtain ⟨tokens, s₁, rest, hstep, -, htokens⟩ := steps_cons_inv h
  rw [step_outside hfile hs hl, hstart] at hstep
  cases hstep
  cases htokens

/-- Pieces that leave no token between two tokens of a line are those of a filler. -/
theorem fills_of_steps (hfile : cfg.mode = .file) (hstart : s.atLineStart = false)
    {u : Lexeme} {post : List Lexeme} (hlexemes : lexemes z = ls ++ u :: post)
    (hu : u.kind.isContent = true) (h : steps cfg s ls = .ok ([], s')) :
    ∀ l ∈ ls, l.kind.Fills (s.brackets ≠ []) := by
  induction ls generalizing s z with
  | nil => exact fun l hl => (by cases hl)
  | cons l ls ih =>
    obtain ⟨tokens, s₁, rest, hstep, hrest, htokens⟩ := steps_cons_inv h
    obtain ⟨rfl, rfl⟩ := List.append_eq_nil_iff.mp htokens.symm
    obtain ⟨n, -, -, hlater⟩ := front_of_lexemes hlexemes
    -- the state goes on to stand inside a line, and inside the same brackets
    have hnext : ∀ {s₁ : Layout}, steps cfg s₁ ls = .ok ([], s') → s₁.atLineStart = false →
        s₁.brackets = s.brackets → ∀ l ∈ ls, l.kind.Fills (s.brackets ≠ []) :=
      fun hsteps hstart₁ hbrackets => hbrackets ▸ ih hstart₁ hlater.symm hsteps
    generalize htokens : ([] : List Token) = tokens at hstep
    cases step_cases hstep with
    | blank hl hs₁ =>
      subst hs₁
      refine List.forall_mem_cons.mpr ⟨?_, hnext hrest hstart rfl⟩
      rcases hl with hl | hl | hl <;> rw [hl]
      · trivial
      · -- a comment goes on to the end of its line, which ends in brackets only
        intro hs
        cases ls with
        | nil =>
          rw [kind_after_comment hlexemes hl] at hu
          cases hu
        | cons l' ls =>
          refine absurd hrest (not_quiet_lineBreak hfile ?_ ?_ (kind_after_comment hlexemes hl))
          · exact hstart
          · exact hs
      · trivial
    | joined hl hjoined hs₁ =>
      subst hs₁
      refine List.forall_mem_cons.mpr ⟨?_, hnext hrest hstart rfl⟩
      rw [hl]
      exact hjoined.resolve_left fun hembedded => (by rw [hfile] at hembedded; cases hembedded)
    | emptyLine _ _ _ hstart' =>
      rw [hstart] at hstart'
      cases hstart'
    | lineEnd => cases htokens
    | content => simp at htokens

/-- Another filler between two tokens of a line shows nothing. -/
theorem run_fills {noise gap post : List Lexeme} {u : Lexeme} (hfile : cfg.mode = .file)
    (hstart : s.atLineStart = false) (hlexemes : lexemes z = gap ++ u :: post)
    (hu : u.kind.isContent = true) (hgap : steps cfg s gap = .ok ([], s'))
    (hnoise : ∀ l ∈ noise, l.kind.Fills (s.brackets ≠ []))
    (h : run cfg s (gap ++ u :: post) = .ok ts) :
    ∃ us, run cfg s (noise ++ u :: post) = .ok us ∧ shown us = shown ts := by
  have hfills := fills_of_steps hfile hstart hlexemes hu hgap
  obtain ⟨s₁, hs₁, halike⟩ := steps_fills cfg hstart hfills
  obtain ⟨s₂, hs₂, halike'⟩ := steps_fills cfg hstart hnoise
  obtain ⟨done, s₁', rest, hdone, hrest, rfl⟩ := run_append h
  rw [hs₁] at hdone
  obtain ⟨rfl, rfl⟩ := Prod.mk.inj (Except.ok.inj hdone)
  obtain ⟨us, hus, hshown⟩ := run_elsewhere (halike.symm.trans halike') hrest
  exact ⟨us, run_of_steps hs₂ hus, hshown⟩

/-! ## Empty lines -/

/-- A line of blanks, or of a comment that may have blanks before it. -/
def IsEmptyLine (w : List Char) : Prop :=
  ∃ blanks note lineBreak, w = blanks ++ (note ++ lineBreak) ∧ (∀ c ∈ blanks, isBlank c = true) ∧
    (note = [] ∨ ∃ text, note = '#' :: text ∧ ∀ c ∈ text, InLine c) ∧ lineBreak ∈ lineBreaks

theorem lexemes_note {note : List Char} (h : note = [] ∨ ∃ text, note = '#' :: text ∧ ∀ c ∈ text, InLine c)
    (hz : z ∈ lineBreaks) :
    ∃ noise, lexemes (note ++ z) = noise ++ [⟨.lineBreak, z⟩] ∧
      ∀ l ∈ noise, l.kind = .blank ∨ l.kind = .comment := by
  rcases h with rfl | ⟨text, rfl, htext⟩
  · exact ⟨[], lexemes_lineBreak hz, fun l hl => (by cases hl)⟩
  · have hbreak : BeginsBreak z := by
      have happend := beginsBreak_of_mem hz []
      rwa [List.append_nil] at happend
    refine ⟨[⟨.comment, '#' :: text⟩], ?_, List.forall_mem_singleton.mpr (.inr rfl)⟩
    rw [List.cons_append, lexemes_of_front (front?_comment htext hbreak), List.take_succ_cons,
      List.take_left, List.drop_succ_cons, List.drop_left, lexemes_lineBreak hz]
    rfl

/-- The pieces of an empty line. -/
theorem lexemes_emptyLine (h : IsEmptyLine w) :
    ∃ noise lineBreak, lexemes w = noise ++ [⟨.lineBreak, lineBreak⟩] ∧
      ∀ l ∈ noise, l.kind = .blank ∨ l.kind = .comment := by
  obtain ⟨blanks, note, b, rfl, hblanks, hnote, hb⟩ := h
  obtain ⟨noise, hnoise, hkinds⟩ := lexemes_note hnote hb
  have hhead : ∀ c ∈ (note ++ b).head?, isBlank c = false := by
    rcases hnote with rfl | ⟨text, rfl, -⟩
    · simp only [lineBreaks, List.mem_cons, List.not_mem_nil, or_false] at hb
      rcases hb with rfl | rfl | rfl <;> (rintro c ⟨⟩; rfl)
    · rintro c ⟨⟩
      rfl
  refine ⟨marginPieces blanks ++ noise, b, ?_, ?_⟩
  · rw [lexemes_margin hblanks hhead, hnoise, List.append_assoc]
  · exact List.forall_mem_append.mpr ⟨fun l hl => .inl (kind_of_marginPieces l hl), hkinds⟩

/-- Blanks and comments only widen the margin. -/
theorem steps_margin (cfg : LayoutConfig) (h : ∀ l ∈ ls, l.kind = .blank ∨ l.kind = .comment) (s : Layout) :
    ∃ offset width, steps cfg s ls = .ok ([], { s with offset := offset, width := width }) := by
  induction ls generalizing s with
  | nil => exact ⟨s.offset, s.width, rfl⟩
  | cons l ls ih =>
    rw [List.forall_mem_cons] at h
    obtain ⟨offset, width, hsteps⟩ := ih h.2 { s with
      offset := s.offset + byteLength l.text, width := l.text.foldl widen s.width }
    exact ⟨offset, width,
      steps_cons (step_blank s (h.1.imp_right .inl)) hsteps⟩

/-- An empty line at the start of a line shows nothing, also where its line break and one after it
join. -/
theorem run_emptyLine (hfile : cfg.mode = .file) (hw : IsEmptyLine w) {x : Nat} {indents : List Nat}
    (h : run cfg ⟨x, indents, [], true, 0⟩ (lexemes z) = .ok ts) (y : Nat) :
    ∃ us, run cfg ⟨y, indents, [], true, 0⟩ (lexemes (w ++ z)) = .ok us ∧ shown us = shown ts := by
  obtain ⟨noise, b, hnoise, hkinds⟩ := lexemes_emptyLine hw
  have hquote : ∀ l ∈ noise, l.kind ≠ .openQuote := fun l hl hopen => by
    rcases hkinds l hl with h | h <;> rw [hopen] at h <;> cases h
  obtain ⟨b', skipped, ls, -, hskipped, hz, happend⟩ := lexemes_continued hnoise hquote z
  obtain ⟨offset, width, hmargin⟩ :=
    steps_margin cfg hkinds ⟨y, indents, [], true, 0⟩
  obtain ⟨offset', hrun⟩ : ∃ offset', run cfg ⟨x, indents, [], true, 0⟩ (skipped ++ ls) =
      run cfg ⟨offset', indents, [], true, 0⟩ ls := run_emptyLines hfile hskipped x indents
  rw [hz, hrun] at h
  obtain ⟨us, hus, hshown⟩ := run_elsewhere (alike_at _ (offset + byteLength b')) h
  have hbreak := step_emptyLine hfile (l := ⟨.lineBreak, b'⟩) rfl offset width indents
  refine ⟨us, ?_, hshown⟩
  rw [happend, run_append_eq, hmargin]
  show (run cfg ⟨offset, indents, [], true, width⟩ (⟨.lineBreak, b'⟩ :: ls)).map ([] ++ ·) = _
  rw [run_cons_quiet hbreak, show run cfg ⟨offset + byteLength b', indents, [], true, 0⟩ ls = .ok us from hus]
  rfl

end PythonSyntax.Layout
