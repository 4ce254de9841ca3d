import PythonSyntax.Proofs.Layout.Step
import PythonSyntax.Proofs.Lexeme.Word
import PythonSyntax.Proofs.Spelling.Word

/-
A line of words.

Words that are written with single spaces between them are read as the tokens of these words and the
end of the line, if their brackets match.
-/

namespace PythonSyntax

open PythonSyntax.Lexeme PythonSyntax.Layout

namespace Word

variable {w : Word} {ws vs : List Word}

/-! ## Lexemes of a line -/

/-- The words of ASCII: identifiers and reserved words, numerals of digits, and operators. -/
inductive Plain : Word → Prop where
  | name {text : String} : isAsciiName text.toList = true → Plain ⟨.name, text⟩
  | number {text : String} : text.toList ≠ [] → (∀ c ∈ text.toList, c.isDigit = true) →
      Plain ⟨.number, text⟩
  | op {text : String} : text.toList ∈ operators → Plain (.op text)

/-- The lexeme of a plain word. -/
def lexeme (w : Word) : Lexeme :=
  ⟨match w.kind with
    | .name => .name
    | .number => .number
    | _ => .op, w.text.toList⟩

/-- The text of words with single spaces between them. -/
def line (ws : List Word) : List Char := [' '].intercalate (ws.map (·.text.toList))

theorem Plain.front? (h : w.Plain) {rest : List Char} (hrest : Apart rest) :
    front? (w.text.toList ++ rest) = some (w.lexeme.kind, w.text.toList.length) := by
  cases h with
  | name h => exact front?_name h hrest
  | number hne h => exact front?_number hne h hrest
  | op h => exact front?_op h hrest

theorem Plain.contentKind (h : w.Plain) : contentKind? w.lexeme.kind = some w.kind := by
  cases h <;> rfl

/-- The text of a word begins with no blank. -/
theorem Plain.begins (h : w.Plain) : ∃ c r, w.text.toList = c :: r ∧ beginsBlank c = false := by
  have hop : operators.all (·.head?.all fun c => !beginsBlank c) = true := by decide
  have hfirst : ∀ c ∈ w.text.toList.head?, beginsBlank c = false := by
    cases h with
    | name h =>
      exact fun c hc => beginsBlank_of_isNameChar
        (isNameChar_of_isAsciiName h c (List.mem_of_mem_head? hc))
    | number _ h =>
      intro c hc
      have hdigit := h c (List.mem_of_mem_head? hc)
      exact beginsBlank_of_isNameChar (by simp [Char.isAlphanum, hdigit])
    | op h =>
      intro c hc
      exact (Bool.not_eq_true' _).mp ((Option.all_eq_true _ _).mp
        (List.all_eq_true.mp hop _ h) c hc)
  have hne : w.text.toList ≠ [] := by
    cases h with
    | name h => intro hnil; rw [hnil] at h; cases h
    | number hne => exact hne
    | op h => intro hnil; rw [hnil] at h; exact absurd h (by decide)
  obtain ⟨c, r, hw⟩ := List.exists_cons_of_ne_nil hne
  exact ⟨c, r, hw, hfirst c (by rw [hw]; rfl)⟩

/-- The words after the first one, each with a space before it. -/
def spaced (ws : List Word) : List Char := (ws.map fun w => ' ' :: w.text.toList).flatten

theorem apart_spaced (ws : List Word) : Apart (spaced ws) := by
  cases ws with
  | nil => exact apart_nil
  | cons w ws => exact apart_space _

theorem line_cons (w : Word) (ws : List Word) : line (w :: ws) = w.text.toList ++ spaced ws := by
  induction ws generalizing w with
  | nil => simp [line, spaced]
  | cons v vs ih =>
    have hv : line (w :: v :: vs) = w.text.toList ++ [' '] ++ line (v :: vs) :=
      List.intercalate_cons_cons
    rw [hv, ih, List.append_assoc]
    rfl

theorem lexemes_word (hw : w.Plain) {rest : List Char} (hrest : Apart rest) :
    lexemes (w.text.toList ++ rest) = w.lexeme :: lexemes rest := by
  rw [lexemes_of_front (hw.front? hrest), List.take_left, List.drop_left]
  rfl

theorem lexemes_spaced (hws : ∀ w ∈ ws, w.Plain) :
    lexemes (spaced ws) = ws.flatMap fun w => [⟨.blank, [' ']⟩, w.lexeme] := by
  induction ws with
  | nil => rfl
  | cons w ws ih =>
    rw [List.forall_mem_cons] at hws
    obtain ⟨c, r, hw, hc⟩ := hws.1.begins
    have hblank : Lexeme.front? (' ' :: (w.text.toList ++ spaced ws)) = some (.blank, 1) := by
      rw [hw]
      exact front?_space hc _
    show lexemes (' ' :: (w.text.toList ++ spaced ws)) = _
    rw [lexemes_of_front hblank]
    show ⟨.blank, [' ']⟩ :: lexemes (w.text.toList ++ spaced ws) = _
    rw [lexemes_word hws.1 (apart_spaced ws), ih hws.2]
    rfl

/-! ## Brackets of a line -/

/-- The brackets that are open before and after some words. -/
def Tracks (limit : Nat) : List String → List Word → List String → Prop
  | os, [], os' => os' = os
  | os, w :: ws, os' => ∃ os₁,
      (∀ span, (if w.kind = .op then trackBracket limit os w.text span else .ok os) = .ok os₁) ∧
        Tracks limit os₁ ws os'

theorem Tracks.append {limit : Nat} {os os₁ os₂ : List String} (h : Tracks limit os ws os₁)
    (h' : Tracks limit os₁ vs os₂) : Tracks limit os (ws ++ vs) os₂ := by
  induction ws generalizing os with
  | nil => exact (show os₁ = os from h) ▸ h'
  | cons w ws ih =>
    obtain ⟨os', hw, hws⟩ := h
    exact ⟨os', hw, ih hws⟩

/-- Words without brackets leave the open brackets as they are. -/
theorem Tracks.plain {limit : Nat} {os : List String}
    (h : ∀ w ∈ ws, w.kind = .op → (isOpening w.text || isClosing w.text) = false) :
    Tracks limit os ws os := by
  induction ws with
  | nil => rfl
  | cons w ws ih =>
    rw [List.forall_mem_cons] at h
    refine ⟨os, fun span => ?_, ih h.2⟩
    split
    · next hkind =>
      have hnone := Bool.or_eq_false_iff.mp (h.1 hkind)
      unfold trackBracket
      rw [hnone.1, hnone.2]
      rfl
    · rfl

/-- The brackets of some words match: there is room for as many of them as there are words. -/
def Balanced (ws : List Word) : Prop :=
  ∀ limit os, os.length + ws.length ≤ limit → Tracks limit os ws os

namespace Balanced

theorem nil : Balanced [] := fun _ _ _ => rfl

theorem append (h : Balanced ws) (h' : Balanced vs) : Balanced (ws ++ vs) := by
  intro limit os hle
  rw [List.length_append] at hle
  exact (h limit os (by omega)).append (h' limit os (by omega))

/-- A word that is no bracket. -/
theorem plain (h : w.kind = .op → (isOpening w.text || isClosing w.text) = false) :
    Balanced [w] :=
  fun _ _ _ => .plain (List.forall_mem_singleton.mpr h)

theorem cons (h : w.kind = .op → (isOpening w.text || isClosing w.text) = false)
    (h' : Balanced ws) : Balanced (w :: ws) :=
  (plain h).append h'

theorem flatten {wss : List (List Word)} (h : ∀ ws ∈ wss, Balanced ws) : Balanced wss.flatten := by
  induction wss with
  | nil => exact nil
  | cons ws wss ih =>
    rw [List.forall_mem_cons] at h
    exact h.1.append (ih h.2)

/-- Words in brackets. -/
theorem bracketed {left right : String} (hleft : isOpening left = true)
    (hright : isClosing right = true) (hmatch : closing left = right) (h : Balanced ws) :
    Balanced (.op left :: (ws ++ [.op right])) := by
  intro limit os hle
  rw [List.length_cons, List.length_append, List.length_singleton] at hle
  have hopen : ∀ span, trackBracket limit os left span = .ok (left :: os) := by
    intro span
    unfold trackBracket
    rw [if_pos hleft, if_neg (by omega)]
  have hnot : isOpening right = false := by
    simp only [isClosing, Bool.or_eq_true, beq_iff_eq] at hright
    rcases hright with (rfl | rfl) | rfl <;> decide
  have hclose : ∀ span, trackBracket limit (left :: os) right span = .ok os := by
    intro span
    unfold trackBracket
    rw [hnot, hright]
    exact if_pos hmatch
  have hinside := h limit (left :: os) (by rw [List.length_cons]; omega)
  exact ⟨left :: os, hopen, hinside.append ⟨os, hclose, rfl⟩⟩

end Balanced

/-! ## Tokens of a line -/

section

variable {cfg : LayoutConfig} {s : Layout}

/-- The token of a word that no indentation stands before. -/
theorem step_word (cfg : LayoutConfig) (hw : w.Plain) {os : List String}
    (hmarks : ∀ here, lineMarks cfg s here = .ok ([], s.indents))
    (hbrackets : ∀ span, (if w.kind = .op then trackBracket cfg.maxBrackets s.brackets w.text span
      else .ok s.brackets) = .ok os) :
    ∃ t s', step cfg s w.lexeme = .ok ([t], s') ∧ t.word = w ∧ s'.indents = s.indents ∧
      s'.brackets = os ∧ s'.atLineStart = false := by
  have htext : String.ofList w.lexeme.text = w.text := String.ofList_toList
  refine ⟨_, _, step_content hw.contentKind rfl (hmarks _) ?_, ?_, rfl, rfl, rfl⟩
  · rw [htext]
    exact hbrackets _
  · rw [Token.word, htext]

/-- The tokens of the words that are left of a line. -/
theorem run_spaced (cfg : LayoutConfig) (hcfg : cfg.mode = .file) (hstart : s.atLineStart = false)
    (hindents : s.indents = [0]) (hws : ∀ w ∈ ws, w.Plain)
    (hbrackets : Tracks cfg.maxBrackets s.brackets ws []) :
    ∃ ts newline eof, Layout.run cfg s (ws.flatMap fun w => [⟨.blank, [' ']⟩, w.lexeme]) =
      .ok (ts ++ [newline, eof]) ∧ ts.map Token.word = ws ∧ newline.kind = .newline ∧
        eof.kind = .endMarker := by
  induction ws generalizing s with
  | nil =>
    have hnone : s.brackets = [] := hbrackets.symm
    exact ⟨[], _, _, finish_onLine hcfg hnone hindents hstart, rfl, rfl, rfl⟩
  | cons w ws ih =>
    rw [List.forall_mem_cons] at hws
    obtain ⟨os, hw, hrest⟩ := hbrackets
    -- the space before the word changes neither brackets nor blocks
    obtain ⟨s₀, hblank, hbrackets₀, hindents₀, hstart₀⟩ : ∃ s₀,
        step cfg s ⟨.blank, [' ']⟩ = .ok ([], s₀) ∧ s₀.brackets = s.brackets ∧
          s₀.indents = s.indents ∧ s₀.atLineStart = s.atLineStart :=
      ⟨_, step_blank s (.inl rfl), rfl, rfl, rfl⟩
    have hmarks : ∀ here, lineMarks cfg s₀ here = .ok ([], s₀.indents) := by
      intro here
      rw [lineMarks, hstart₀, hstart, if_neg (fun h => Bool.false_ne_true h.1)]
    rw [← hbrackets₀] at hw
    obtain ⟨t, s₁, hstep, ht, hindents₁, rfl, hstart₁⟩ := step_word cfg hws.1 hmarks hw
    rw [hindents₀] at hindents₁
    obtain ⟨ts, newline, eof, hrun, hts, hkinds⟩ :=
      ih hstart₁ (hindents₁.trans hindents) hws.2 hrest
    refine ⟨t :: ts, newline, eof, ?_, by rw [List.map_cons, ht, hts], hkinds⟩
    have hlater := Layout.run_cons hstep hrun
    rw [List.flatMap_cons]
    exact (Layout.run_cons_quiet hblank).trans hlater

end

/-- The tokens of a line whose brackets match. -/
theorem tokenize_line {limit : Nat} (hne : ws ≠ []) (hws : ∀ w ∈ ws, w.Plain)
    (htracks : Tracks limit [] ws []) :
    ∃ ts newline eof, tokenize (line ws) limit = .ok (ts ++ [newline, eof]) ∧
      ts.map Token.word = ws ∧ newline.kind = .newline ∧ eof.kind = .endMarker := by
  cases ws with
  | nil => exact absurd rfl hne
  | cons w ws =>
    rw [List.forall_mem_cons] at hws
    obtain ⟨os, hw, hrest⟩ := htracks
    obtain ⟨t, s, hstep, ht, hindents, hos, hs⟩ := step_word ⟨.file, limit, 0⟩
      (s := start) hws.1 (fun _ => rfl) hw
    rw [← hos] at hrest
    obtain ⟨ts, newline, eof, hrun, hts, hkinds⟩ :=
      run_spaced ⟨.file, limit, 0⟩ rfl hs hindents hws.2 hrest
    refine ⟨t :: ts, newline, eof, ?_, by rw [List.map_cons, ht, hts], hkinds⟩
    rw [tokenize, line_cons, lexemes_word hws.1 (apart_spaced ws), lexemes_spaced hws.2, Layout.run,
      hstep]
    show (Layout.run _ s _ >>= _) = _
    rw [hrun]
    rfl

end Word

end PythonSyntax
