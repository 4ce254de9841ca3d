import Mathlib.Data.List.Induction
import PythonSyntax.Layout
import PythonSyntax.Proofs.Result

/-
One step of the layout, and the runs made of steps.

`Layout.Step` says everything that a step on a lexeme can do: it is quiet, it ends a line, or it
emits a token with text after the marks that `Layout.Marks` allows.  Every fact about token streams
is proved by cases on it, and `run_induction` carries such a fact from steps to runs.
-/

namespace PythonSyntax.Layout

/-! ## Marks before the first token of a line -/

/-- The widths that a line of width `w` closes, and those that stay open. -/
theorem dedent_spec (w : Nat) (ws : List Nat) :
    ∃ popped, ws = popped ++ (dedent w ws).2 ∧ popped.length = (dedent w ws).1 ∧
      (∀ x ∈ popped, w < x) ∧ ∀ x ∈ (dedent w ws).2.head?, x ≤ w := by
  induction ws with
  | nil => exact ⟨[], by simp [dedent]⟩
  | cons v vs ih =>
    unfold dedent
    split
    · next hv =>
      obtain ⟨popped, h1, h2, h3, h4⟩ := ih
      exact ⟨v :: popped, by simp [← h1], by simp [h2], by simpa using ⟨hv, h3⟩, h4⟩
    · next hv => exact ⟨[], by simp; omega⟩

/-- A run of spaces is as wide as it is long. -/
theorem foldl_widen_spaces (w k : Nat) : (List.replicate w ' ').foldl widen k = k + w := by
  induction w generalizing k with
  | zero => rfl
  | succ w ih =>
    rw [List.replicate_succ, List.foldl_cons, ih]
    show k + 1 + w = k + (w + 1)
    omega

/-- The tokens before the first token of a line of width `w`, which stands at `here`, and the
open blocks before and after them. -/
inductive Marks (w : Nat) (here : Span) : List Nat → List Token → List Nat → Prop where
  | same {ws} : ws.head? = some w → Marks w here ws [] ws
  | indent {v ws} : v < w → Marks w here (v :: ws) [⟨.indent, "", here⟩] (w :: v :: ws)
  | dedent {popped ws} : popped ≠ [] → (∀ x ∈ popped, w < x) → ws.head? = some w →
      Marks w here (popped ++ ws) (List.replicate popped.length ⟨.dedent, "", here⟩) ws

theorem marks_of_indentTo {s : Layout} {here : Span} {marks : List Token} {ws : List Nat}
    (hs : s.indents ≠ []) (h : s.indentTo here = .ok (marks, ws)) :
    Marks s.width here s.indents marks ws := by
  obtain ⟨v, vs, hv⟩ := List.exists_cons_of_ne_nil hs
  unfold indentTo at h
  rw [hv] at h ⊢
  dsimp only [List.headD_cons] at h
  split at h
  · next hlt =>
    cases h
    exact .indent hlt
  · next hge =>
    obtain ⟨popped, h1, h2, h3, h4⟩ := dedent_spec s.width (v :: vs)
    split at h
    · exact nomatch h
    · next hok =>
      have hhead : (Layout.dedent s.width (v :: vs)).2.head? = some s.width := by
        by_contra hne
        have hvw : ¬ s.width < v := fun hlt => hok ⟨hlt, hne⟩
        have : v = s.width := by omega
        subst this
        simp [Layout.dedent] at hne
      cases h
      rw [← h2]
      by_cases hp : popped = []
      · subst hp
        rw [List.nil_append] at h1
        rw [← h1] at hhead ⊢
        exact .same hhead
      · generalize Layout.dedent s.width (v :: vs) = d at *
        rw [h1]
        exact .dedent hp h3 hhead

/-! ## Steps -/

/-- The kinds of lexemes that become tokens with text, and the kinds of those tokens. -/
def contentKind? : LexemeKind → Option TokenKind
  | .string => some .string
  | .number => some .number
  | .name => some .name
  | .op => some .op
  | _ => none

theorem isContent_of_contentKind? {l : LexemeKind} {k : TokenKind} (h : contentKind? l = some k) :
    k.isContent = true := by
  cases l <;> simp_all [contentKind?] <;> subst h <;> rfl

/-- The widths, brackets and flag of a state; a step also moves the offset. -/
inductive Step (cfg : LayoutConfig) (s : Layout) (l : Lexeme) : List Token → Layout → Prop where
  /-- Blanks, comments and hidden line breaks only widen the margin. -/
  | blank {s'} : l.kind = .blank ∨ l.kind = .comment ∨ l.kind = .continuation →
      s' = { s with offset := s.offset + byteLength l.text, width := l.text.foldl widen s.width } →
      Step cfg s l [] s'
  /-- A line break in brackets, or in an embedded expression. -/
  | joined {s'} : l.kind = .lineBreak → cfg.mode = .embedded ∨ s.brackets ≠ [] →
      s' = { s with offset := s.offset + byteLength l.text } → Step cfg s l [] s'
  /-- The end of a line without a token. -/
  | emptyLine {s'} : l.kind = .lineBreak → cfg.mode = .file → s.brackets = [] →
      s.atLineStart = true →
      s' = { s with offset := s.offset + byteLength l.text, width := 0 } → Step cfg s l [] s'
  /-- The end of a logical line. -/
  | lineEnd {s' span} : l.kind = .lineBreak → cfg.mode = .file → s.brackets = [] →
      s.atLineStart = false →
      s' = { s with offset := s.offset + byteLength l.text, atLineStart := true, width := 0 } →
      Step cfg s l [⟨.newline, String.ofList l.text, span⟩] s'
  /-- A token with text, after the marks of its line. -/
  | content {s' kind span marks indents brackets} : contentKind? l.kind = some kind →
      lineMarks cfg s ⟨span.start, span.start⟩ = .ok (marks, indents) →
      bracketsAfter cfg s kind (String.ofList l.text) span = .ok brackets →
      s' = ⟨s.offset + byteLength l.text, indents, brackets, false, s.width⟩ →
      Step cfg s l (marks ++ [⟨kind, String.ofList l.text, span⟩]) s'

theorem step_of_content {cfg : LayoutConfig} {s s' : Layout} {l : Lexeme} {kind : TokenKind}
    {span : Span} {tokens : List Token} (hk : contentKind? l.kind = some kind)
    (h : content cfg s kind l.text span = .ok (tokens, s')) :
    Step cfg s l tokens { s' with offset := s.offset + byteLength l.text } := by
  unfold Layout.content at h
  obtain ⟨⟨marks, indents⟩, hmarks, h⟩ := bind_ok h
  obtain ⟨brackets, hbrackets, h⟩ := bind_ok h
  cases h
  exact .content hk hmarks hbrackets rfl

/-- A line break joins lines, or it stands in a program outside brackets. -/
theorem joined_or_outside (cfg : LayoutConfig) (s : Layout) :
    (cfg.mode = .embedded ∨ s.brackets ≠ []) ∨ cfg.mode = .file ∧ s.brackets = [] := by
  by_cases hb : s.brackets = []
  · cases hmode : cfg.mode with
    | file => exact .inr ⟨rfl, hb⟩
    | embedded => exact .inl (.inl rfl)
  · exact .inl (.inr hb)

/-- Everything that a step can do. -/
theorem step_cases {cfg : LayoutConfig} {s s' : Layout} {l : Lexeme} {tokens : List Token}
    (h : step cfg s l = .ok (tokens, s')) : Step cfg s l tokens s' := by
  unfold step at h
  obtain ⟨⟨ts, s₁⟩, hfeed, h⟩ := bind_ok h
  cases h
  unfold feed at hfeed
  split at hfeed
  · next hk =>
    split at hfeed
    · next hc =>
      cases hfeed
      exact .joined hk hc rfl
    · next hc =>
      obtain ⟨hfile, hb⟩ := (joined_or_outside cfg s).resolve_left hc
      dsimp only at hfeed
      split at hfeed
      · next hs =>
        cases hfeed
        exact .emptyLine hk hfile hb hs (by rw [hs])
      · next hs =>
        cases hfeed
        exact .lineEnd hk hfile hb (by simpa using hs) rfl
  · next hk => cases hfeed; exact .blank (.inl hk) rfl
  · next hk => cases hfeed; exact .blank (.inr (.inl hk)) rfl
  · next hk => cases hfeed; exact .blank (.inr (.inr hk)) rfl
  · exact nomatch hfeed
  · exact nomatch hfeed
  · next hk => exact step_of_content (by rw [hk]; rfl) hfeed
  · next hk => exact step_of_content (by rw [hk]; rfl) hfeed
  · next hk => exact step_of_content (by rw [hk]; rfl) hfeed
  · next hk => exact step_of_content (by rw [hk]; rfl) hfeed

theorem step_blank {cfg : LayoutConfig} (s : Layout) {l : Lexeme}
    (h : l.kind = .blank ∨ l.kind = .comment ∨ l.kind = .continuation) :
    step cfg s l = .ok ([], { s with
      offset := s.offset + byteLength l.text, width := l.text.foldl widen s.width }) := by
  unfold step feed
  rcases h with h | h | h <;> rw [h] <;> rfl

theorem step_joined {cfg : LayoutConfig} {s : Layout} {l : Lexeme} (hl : l.kind = .lineBreak)
    (hs : cfg.mode = .embedded ∨ s.brackets ≠ []) :
    step cfg s l = .ok ([], { s with offset := s.offset + byteLength l.text }) := by
  unfold step feed
  rw [hl]
  dsimp only
  rw [if_pos hs]
  rfl

/-- A line break in a program, outside brackets. -/
theorem step_outside {cfg : LayoutConfig} (hfile : cfg.mode = .file) {s : Layout}
    (hbrackets : s.brackets = []) {l : Lexeme} (hl : l.kind = .lineBreak) :
    step cfg s l = .ok (
      if s.atLineStart then [] else [⟨.newline, String.ofList l.text,
        ⟨cfg.base + s.offset, cfg.base + (s.offset + byteLength l.text)⟩⟩],
      ⟨s.offset + byteLength l.text, s.indents, [], true, 0⟩) := by
  unfold step feed
  rw [hl]
  dsimp only
  rw [if_neg (by rw [hfile, hbrackets]; simp), hbrackets]
  cases s.atLineStart <;> rfl

theorem feed_content {cfg : LayoutConfig} {l : Lexeme} {kind : TokenKind}
    (h : contentKind? l.kind = some kind) (s : Layout) (span : Span) :
    feed cfg s l span = content cfg s kind l.text span := by
  unfold feed
  cases hl : l.kind <;> rw [hl] at h <;> cases h <;> rfl

/-- A token with text, where all that its step needs is known. -/
theorem step_content {cfg : LayoutConfig} {s : Layout} {l : Lexeme} {kind : TokenKind}
    {marks : List Token} {indents : List Nat} {brackets : List String} {span : Span}
    (h : contentKind? l.kind = some kind)
    (hspan : span = ⟨cfg.base + s.offset, cfg.base + (s.offset + byteLength l.text)⟩)
    (hmarks : lineMarks cfg s ⟨span.start, span.start⟩ = .ok (marks, indents))
    (hbrackets : bracketsAfter cfg s kind (String.ofList l.text) span = .ok brackets) :
    step cfg s l = .ok (marks ++ [⟨kind, String.ofList l.text, span⟩],
      ⟨s.offset + byteLength l.text, indents, brackets, false, s.width⟩) := by
  subst hspan
  unfold step
  dsimp only
  rw [feed_content h, content, hmarks]
  show (bracketsAfter cfg _ _ _ _ >>= _) >>= _ = _
  rw [hbrackets]
  rfl

/-- What the step on a token with text does. -/
theorem content_of_step {cfg : LayoutConfig} {s s' : Layout} {l : Lexeme} {kind : TokenKind}
    {tokens : List Token} (hl : contentKind? l.kind = some kind)
    (h : step cfg s l = .ok (tokens, s')) :
    ∃ marks indents brackets span,
      span = ⟨cfg.base + s.offset, cfg.base + (s.offset + byteLength l.text)⟩ ∧
      lineMarks cfg s ⟨span.start, span.start⟩ = .ok (marks, indents) ∧
      bracketsAfter cfg s kind (String.ofList l.text) span = .ok brackets ∧
      tokens = marks ++ [⟨kind, String.ofList l.text, span⟩] ∧
      s' = ⟨s.offset + byteLength l.text, indents, brackets, false, s.width⟩ := by
  unfold step at h
  obtain ⟨⟨ts, s₁⟩, hfeed, h⟩ := bind_ok h
  cases h
  rw [feed_content hl] at hfeed
  unfold content at hfeed
  obtain ⟨⟨marks, indents⟩, hmarks, hfeed⟩ := bind_ok hfeed
  obtain ⟨brackets, hbrackets, hfeed⟩ := bind_ok hfeed
  cases hfeed
  exact ⟨marks, indents, brackets, _, rfl, hmarks, hbrackets, rfl, rfl⟩

/-! ## The end of a text -/

theorem brackets_of_finish {cfg : LayoutConfig} {s : Layout} {ts : List Token}
    (h : finish cfg s = .ok ts) : s.brackets = [] := by
  by_contra hne
  rw [finish, if_pos hne] at h
  cases h

/-- An expression in a string ends with nothing but the end marker. -/
theorem finish_embedded {cfg : LayoutConfig} {s : Layout} (hmode : cfg.mode = .embedded)
    (hbrackets : s.brackets = []) :
    finish cfg s = .ok [⟨.endMarker, "", ⟨cfg.base + s.offset, cfg.base + s.offset⟩⟩] := by
  rw [finish, hbrackets, hmode]
  rfl

/-- A line of a program that no line break ends is ended with the program. -/
theorem finish_onLine {cfg : LayoutConfig} {s : Layout} (hfile : cfg.mode = .file)
    (hbrackets : s.brackets = []) (hindents : s.indents = [0]) (hstart : s.atLineStart = false) :
    finish cfg s = .ok [⟨.newline, "", ⟨cfg.base + s.offset, cfg.base + s.offset⟩⟩,
      ⟨.endMarker, "", ⟨cfg.base + s.offset, cfg.base + s.offset⟩⟩] := by
  rw [finish, hbrackets, hfile, hindents, hstart]
  rfl

/-! ## Runs -/

/-- The tokens of some lexemes, and the state after the last of them. -/
def steps (cfg : LayoutConfig) : Layout → List Lexeme → Except SyntaxError (List Token × Layout)
  | s, [] => .ok ([], s)
  | s, l :: ls => do
    let (tokens, s) ← step cfg s l
    let (rest, s) ← steps cfg s ls
    return (tokens ++ rest, s)

variable {cfg : LayoutConfig} {s s' : Layout} {l : Lexeme} {ls pre post : List Lexeme}
  {tokens rest ts : List Token}

theorem run_cons_inv (h : run cfg s (l :: ls) = .ok ts) :
    ∃ tokens s' rest, step cfg s l = .ok (tokens, s') ∧ run cfg s' ls = .ok rest ∧
      ts = tokens ++ rest := by
  rw [run] at h
  obtain ⟨⟨tokens, s'⟩, hstep, h⟩ := bind_ok h
  obtain ⟨rest, hrest, h⟩ := bind_ok h
  exact ⟨tokens, s', rest, hstep, hrest, (Except.ok.inj h).symm⟩

theorem steps_cons_inv {t : Layout} (h : steps cfg s (l :: ls) = .ok (ts, t)) :
    ∃ tokens s' rest, step cfg s l = .ok (tokens, s') ∧ steps cfg s' ls = .ok (rest, t) ∧
      ts = tokens ++ rest := by
  rw [steps] at h
  obtain ⟨⟨tokens, s'⟩, hstep, h⟩ := bind_ok h
  obtain ⟨⟨rest, _⟩, hrest, h⟩ := bind_ok h
  obtain ⟨rfl, rfl⟩ := Prod.mk.inj (Except.ok.inj h)
  exact ⟨tokens, s', rest, hstep, hrest, rfl⟩

theorem run_cons_eq (h : step cfg s l = .ok (tokens, s')) :
    run cfg s (l :: ls) = (run cfg s' ls).map (tokens ++ ·) := by
  rw [run, h]
  show (run cfg s' ls >>= fun rest => .ok (tokens ++ rest)) = _
  cases run cfg s' ls <;> rfl

theorem run_cons (h : step cfg s l = .ok (tokens, s')) (hrest : run cfg s' ls = .ok rest) :
    run cfg s (l :: ls) = .ok (tokens ++ rest) := by
  rw [run_cons_eq h, hrest]
  rfl

/-- A step without tokens only moves the state. -/
theorem run_cons_quiet (h : step cfg s l = .ok ([], s')) : run cfg s (l :: ls) = run cfg s' ls := by
  rw [run_cons_eq h]
  cases run cfg s' ls <;> rfl

theorem steps_cons {t : Layout} (h : step cfg s l = .ok (tokens, s'))
    (hrest : steps cfg s' ls = .ok (rest, t)) : steps cfg s (l :: ls) = .ok (tokens ++ rest, t) := by
  rw [steps, h]
  show steps cfg s' ls >>= _ = _
  rw [hrest]
  rfl

theorem run_append (h : run cfg s (pre ++ post) = .ok ts) :
    ∃ done s' rest, steps cfg s pre = .ok (done, s') ∧ run cfg s' post = .ok rest ∧
      ts = done ++ rest := by
  induction pre generalizing s ts with
  | nil => exact ⟨[], s, ts, rfl, h, rfl⟩
  | cons l pre ih =>
    obtain ⟨tokens, s₁, later, hstep, hlater, rfl⟩ := run_cons_inv h
    obtain ⟨done, s', rest, hsteps, hrest, rfl⟩ := ih hlater
    exact ⟨tokens ++ done, s', rest, steps_cons hstep hsteps, hrest, (List.append_assoc _ _ _).symm⟩

theorem steps_snoc (h : steps cfg s (pre ++ [l]) = .ok (ts, s')) :
    ∃ done s₁ tokens, steps cfg s pre = .ok (done, s₁) ∧ step cfg s₁ l = .ok (tokens, s') ∧
      ts = done ++ tokens := by
  induction pre generalizing s ts with
  | nil =>
    obtain ⟨tokens, s₁, rest, hstep, hrest, rfl⟩ := steps_cons_inv h
    cases hrest
    exact ⟨[], s, tokens, rfl, hstep, List.append_nil _⟩
  | cons k pre ih =>
    obtain ⟨tokens, s₁, later, hstep, hlater, rfl⟩ := steps_cons_inv h
    obtain ⟨done, s₂, last, hsteps, hlast, rfl⟩ := ih hlater
    exact ⟨tokens ++ done, s₂, last, steps_cons hstep hsteps, hlast, (List.append_assoc _ _ _).symm⟩

/-- A fact about the states and the tokens after them holds of a run if it holds at its end, and
if every step passes it on from the tokens after the step to those from it on. -/
theorem run_induction {P : Layout → List Token → Prop} {I : Layout → Prop}
    (hinv : ∀ s l tokens s', I s → Step cfg s l tokens s' → I s')
    (hfinish : ∀ s ts, I s → finish cfg s = .ok ts → P s ts)
    (hstep : ∀ s l tokens s' ts, I s → Step cfg s l tokens s' → P s' ts → P s (tokens ++ ts))
    (hs : I s) (h : run cfg s ls = .ok ts) : P s ts := by
  induction ls generalizing s ts with
  | nil => exact hfinish s ts hs h
  | cons l ls ih =>
    obtain ⟨tokens, s₁, rest, hl, hrest, rfl⟩ := run_cons_inv h
    have hcases := step_cases hl
    exact hstep s l tokens s₁ rest hs hcases (ih (hinv s l tokens s₁ hs hcases) hrest)

/-- An invariant of the steps holds after some lexemes, with what the tokens before add to it. -/
theorem steps_induction {P : List Lexeme → List Token → Layout → Prop} (hstart : P [] [] s)
    (hstep : ∀ ls ts s l tokens s', P ls ts s → Step cfg s l tokens s' →
      P (ls ++ [l]) (ts ++ tokens) s')
    (h : steps cfg s ls = .ok (ts, s')) :
    P ls ts s' := by
  induction ls using List.reverseRecOn generalizing ts s' with
  | nil => cases h; exact hstart
  | append_singleton ls l ih =>
    obtain ⟨done, s₁, tokens, h₁, h₂, rfl⟩ := steps_snoc h
    exact hstep _ _ _ _ _ _ (ih h₁) (step_cases h₂)

end PythonSyntax.Layout
