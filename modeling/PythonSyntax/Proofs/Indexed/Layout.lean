import PythonSyntax.Proofs.Indexed.Slice
import PythonSyntax.Proofs.Layout.Step
import PythonSyntax.Proofs.Lexeme.Split

/-
The token stream of a text, over byte offsets.

The width of a logical line is that of a slice: from where the line begins, which is kept as an
offset, to its first token.  Nothing but blanks, comments and hidden line breaks lies between the
two, so the slice exists and is as wide as the margin that the state of a run has counted up.  A tab
counts for up to eight columns, so a word that holds eight times the number of the bytes holds every
width.
-/

namespace PythonSyntax.Indexed

open Layout

variable {cfg : LayoutConfig} {text done : List Char} {s s' : Layout} {top lineStart : Nat} {l : Lexeme}
  {ls : List Lexeme} {tokens : List Token}

/-- The width reached by further blanks, each of which has to fit. -/
def widenAll? (top : Nat) (width : Nat) (blanks : List Char) : Option Nat :=
  blanks.foldlM (fun width c => fits? top (widen width c)) width

/-- The state before a lexeme, its margin read off the text if a logical line begins here. -/
def margin? (top : Nat) (cfg : LayoutConfig) (text : List Char) (s : Layout) (lineStart : Nat)
    (l : Lexeme) : Option Layout :=
  if (contentKind? l.kind).isSome ∧ s.atLineStart = true ∧ cfg.mode = .file then do
    let blanks ← slice? text lineStart s.offset
    let width ← widenAll? top 0 blanks
    return { s with width := width }
  else some s

/-- Where the line begins that follows a lexeme. -/
def lineStartAfter (cfg : LayoutConfig) (s : Layout) (lineStart : Nat) (l : Lexeme) : Nat :=
  if l.kind = .lineBreak ∧ cfg.mode = .file ∧ s.brackets = [] then s.offset + byteLength l.text
  else lineStart

/-- The tokens of the lexemes of a text from a state on.  The ends of their spans have to fit. -/
def run? (top : Nat) (cfg : LayoutConfig) (text : List Char) : Layout → Nat → List Lexeme →
    Option (Except SyntaxError (List Token))
  | s, _, [] => do
    let _ ← fits? top (cfg.base + s.offset)
    return finish cfg s
  | s, lineStart, l :: ls => do
    let s ← margin? top cfg text s lineStart l
    let _ ← fits? top (cfg.base + (s.offset + byteLength l.text))
    match step cfg s l with
    | .error e => return .error e
    | .ok (tokens, s') =>
      (run? top cfg text s' (lineStartAfter cfg s lineStart l) ls).map (·.map (tokens ++ ·))

theorem widen_le (width : Nat) (c : Char) : widen width c ≤ width + 8 := by
  unfold widen
  split
  · omega
  · split <;> omega

theorem widenAll?_eq {width : Nat} {blanks : List Char} (h : width + 8 * blanks.length ≤ top) :
    widenAll? top width blanks = some (blanks.foldl widen width) := by
  induction blanks generalizing width with
  | nil => rfl
  | cons c blanks ih =>
    have hle := widen_le width c
    rw [List.length_cons] at h
    rw [widenAll?, List.foldlM_cons, fits?_eq (by omega), Option.bind_eq_bind, Option.bind_some]
    exact ih (by omega)

/-- A word holds the offsets of a text that stands at a base, and the widths of its lines if it has
any. -/
structure Holds (top : Nat) (cfg : LayoutConfig) (text : List Char) : Prop where
  offset : cfg.base + byteLength text ≤ top
  width : cfg.mode = .file → 8 * byteLength text ≤ top

/-- A state behind a part of a text: where no token has been read in a line, the margin is that of
the text from the beginning of the line on. -/
structure Aligned (cfg : LayoutConfig) (s : Layout) (lineStart : Nat) (done : List Char) : Prop where
  offset : s.offset = byteLength done
  unbracketed : cfg.mode = .file → s.atLineStart = true → s.brackets = []
  margin : cfg.mode = .file → s.atLineStart = true → ∃ before blanks, done = before ++ blanks ∧
    byteLength before = lineStart ∧ s.width = blanks.foldl widen 0

/-- The slice in front of the first token of a line exists, and has the width of the state. -/
theorem Aligned.margin?_eq (h : Aligned cfg s lineStart done) {rest : List Char}
    (htop : Holds top cfg (done ++ rest)) (l : Lexeme) :
    margin? top cfg (done ++ rest) s lineStart l = some s := by
  unfold margin?
  split
  · next hfirst =>
    obtain ⟨before, blanks, rfl, rfl, hwidth⟩ := h.margin hfirst.2.2 hfirst.2.1
    have hslice : slice? (before ++ blanks ++ rest) (byteLength before) s.offset = some blanks := by
      rw [h.offset, byteLength_append, List.append_assoc, slice?_middle]
    have hfits := htop.width hfirst.2.2
    have hlength := length_le_byteLength blanks
    rw [byteLength_append, byteLength_append] at hfits
    rw [hslice, Option.bind_eq_bind, Option.bind_some, widenAll?_eq (by omega), ← hwidth]
    rfl
  · rfl

/-- A step keeps what is known of the margin. -/
theorem Aligned.step (h : Aligned cfg s lineStart done) (hstep : step cfg s l = .ok (tokens, s')) :
    Aligned cfg s' (lineStartAfter cfg s lineStart l) (done ++ l.text) := by
  have hoffset : s.offset + byteLength l.text = byteLength (done ++ l.text) := by
    rw [byteLength_append, h.offset]
  have hcontent : ∀ {kind : TokenKind}, contentKind? l.kind = some kind → l.kind ≠ .lineBreak := by
    intro kind hk hl
    rw [hl] at hk
    cases hk
  cases step_cases hstep with
  | blank hl hs =>
    have hnot : l.kind ≠ .lineBreak := by rcases hl with hl | hl | hl <;> rw [hl] <;> decide
    rw [hs, lineStartAfter, if_neg fun hb => hnot hb.1]
    refine ⟨hoffset, h.unbracketed, fun hfile hstart => ?_⟩
    obtain ⟨before, blanks, hdone, hbefore, hwidth⟩ := h.margin hfile hstart
    refine ⟨before, blanks ++ l.text, by rw [hdone, List.append_assoc], hbefore, ?_⟩
    rw [List.foldl_append, ← hwidth]
  | joined hl hinside hs =>
    have hnot : ¬ (cfg.mode = .file ∧ s.brackets = []) := by
      rintro ⟨hfile, hb⟩
      rcases hinside with hinside | hinside
      · rw [hfile] at hinside
        cases hinside
      · exact hinside hb
    rw [hs, lineStartAfter, if_neg fun hb => hnot hb.2]
    refine ⟨hoffset, h.unbracketed, fun hfile hstart => ?_⟩
    exact absurd ⟨hfile, h.unbracketed hfile hstart⟩ hnot
  | emptyLine hl hfile hb _ hs =>
    rw [hs, lineStartAfter, if_pos ⟨hl, hfile, hb⟩]
    exact ⟨hoffset, fun _ _ => hb, fun _ _ =>
      ⟨done ++ l.text, [], (List.append_nil _).symm, hoffset.symm, rfl⟩⟩
  | lineEnd hl hfile hb _ hs =>
    rw [hs, lineStartAfter, if_pos ⟨hl, hfile, hb⟩]
    exact ⟨hoffset, fun _ _ => hb, fun _ _ =>
      ⟨done ++ l.text, [], (List.append_nil _).symm, hoffset.symm, rfl⟩⟩
  | content hk _ _ hs =>
    rw [hs, lineStartAfter, if_neg fun hb => hcontent hk hb.1]
    exact ⟨hoffset, fun _ hstart => (nomatch hstart), fun _ hstart => (nomatch hstart)⟩

/-- A run never asks for a slice that does not exist, nor for a number that does not fit. -/
theorem run?_eq (htop : Holds top cfg text) (h : Aligned cfg s lineStart done)
    (htext : text = done ++ (ls.map Lexeme.text).flatten) :
    run? top cfg text s lineStart ls = some (run cfg s ls) := by
  induction ls generalizing s lineStart done with
  | nil =>
    have hfits := htop.offset
    rw [htext, byteLength_append, ← h.offset] at hfits
    rw [run?, fits?_eq (by omega)]
    rfl
  | cons l ls ih =>
    rw [List.map_cons, List.flatten_cons, ← List.append_assoc] at htext
    have hfits := htop.offset
    rw [htext, byteLength_append, byteLength_append, ← h.offset] at hfits
    have hmargin : margin? top cfg text s lineStart l = some s := by
      rw [List.append_assoc] at htext
      rw [htext] at htop ⊢
      exact h.margin?_eq htop l
    rw [run?, hmargin, Option.bind_eq_bind, Option.bind_some, fits?_eq (by omega),
      Option.bind_eq_bind, Option.bind_some]
    cases hstep : step cfg s l with
    | error e => rw [run, hstep]; rfl
    | ok r =>
      obtain ⟨tokens, s'⟩ := r
      dsimp only
      rw [ih (h.step hstep) htext, run_cons_eq hstep]
      cases run cfg s' ls <;> rfl

/-- The tokens of a program. -/
def tokenize? (top : Nat) (source : List Char) (maxBrackets : Nat) :
    Option (Except SyntaxError (List Token)) :=
  run? top ⟨.file, maxBrackets, 0⟩ source .start 0 (lexemes source)

/-- The tokens of an expression inside of a program. -/
def tokenizeEmbedded? (top : Nat) (text : List Char) (base maxBrackets : Nat) :
    Option (Except SyntaxError (List Token)) :=
  run? top ⟨.embedded, maxBrackets, base⟩ text .start 0 (lexemes text)

theorem aligned_start (cfg : LayoutConfig) : Aligned cfg .start 0 [] :=
  ⟨rfl, fun _ _ => rfl, fun _ _ => ⟨[], [], rfl, rfl, rfl⟩⟩

theorem tokenize?_eq {source : List Char} (htop : 8 * byteLength source ≤ top) (maxBrackets : Nat) :
    tokenize? top source maxBrackets = some (tokenize source maxBrackets) :=
  run?_eq ⟨by dsimp only; omega, fun _ => htop⟩ (aligned_start _)
    (by rw [Lexeme.flatten_lexemes, List.nil_append])

theorem tokenizeEmbedded?_eq {base : Nat} (htop : base + byteLength text ≤ top) (maxBrackets : Nat) :
    tokenizeEmbedded? top text base maxBrackets = some (tokenizeEmbedded text base maxBrackets) :=
  run?_eq ⟨htop, nofun⟩ (aligned_start _) (by rw [Lexeme.flatten_lexemes, List.nil_append])

end PythonSyntax.Indexed
