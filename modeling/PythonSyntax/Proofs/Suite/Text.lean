import PythonSyntax.Proofs.Enclosed.Line
import PythonSyntax.Proofs.LineEnding.Lexeme
import PythonSyntax.Proofs.Suite.Line

/-
Texts of simple statements in one program.

A text that is one simple statement on a line begins and ends with a token, and has nothing but blanks
between its tokens.  So it falls into the same pieces before a line break and before a semicolon, and
texts with separators between them fall into the pieces of the texts with those of the separators
between them.
-/

namespace PythonSyntax

open PythonSyntax.Lexeme PythonSyntax.Layout

/-- A text that is one simple statement on a line of its own.  It holds neither a comment nor a
semicolon, and has no blank at its ends and no backslash behind it. -/
structure Alone (limit : Nat) (text : List Char) (s : Stmt) : Prop where
  parses : parseModule (text ++ ['\n']) limit = .ok ⟨[s]⟩
  isSimple : s.isSimple = true
  inLine : ∀ c ∈ text, InLine c
  begins : ∀ c ∈ text.head?, isBlank c = false
  ends : ∀ c ∈ text.getLast?, isBlank c = false ∧ c ≠ '\\'
  bare : ∀ l ∈ lexemes text, l.kind ≠ .comment ∧ l ≠ ⟨.op, [';']⟩

namespace Lexeme

variable {text sep margin z : List Char} {texts : List (List Char)} {gap : List Lexeme}

/-! ## The end of a line -/

/-- A piece that ends in a line feed is the line feed, or a hidden one. -/
theorem eq_lineBreak_of_shaped {l : Lexeme} {u : List Char} (h : Shaped l) (hl : l.text = u ++ ['\n']) :
    u = ['\\'] ∨ u = [] ∧ l = ⟨.lineBreak, ['\n']⟩ := by
  cases h with
  | continuation => exact .inl (List.append_inj' (show u ++ ['\n'] = ['\\'] ++ ['\n'] from hl.symm) rfl).1
  | lineBreak => exact .inr ⟨(List.append_inj' (show u ++ ['\n'] = [] ++ ['\n'] from hl.symm) rfl).1, rfl⟩
  | @string _ marks q triple body hliteral _ =>
    -- a string ends in a quote
    obtain ⟨heq, -, hquote, -⟩ := hliteral
    obtain ⟨v, hv⟩ : ∃ v, quotes q triple = v ++ [q] := by
      cases triple
      · exact ⟨[], rfl⟩
      · exact ⟨[q, q], rfl⟩
    have hends : u ++ ['\n'] = (marks ++ (quotes q triple ++ (body ++ v))) ++ [q] := by
      refine hl.symm.trans (heq.trans ?_)
      simp [hv]
    obtain rfl := (List.cons.inj (List.append_inj' hends rfl).2).1
    cases hquote
  | line _ _ _ hno =>
    have hmem : '\n' ∈ u ++ ['\n'] := List.mem_append_right u List.mem_cons_self
    rw [← hl] at hmem
    exact absurd hmem hno

/-- The line break behind a line without an open quote is a piece of its own, if no backslash stands
before it. -/
theorem lexemes_endLine (hline : ∀ c ∈ text, InLine c) (hend : ∀ c ∈ text.getLast?, c ≠ '\\')
    (hknown : ∀ l ∈ lexemes (text ++ ['\n']), l.kind ≠ .openQuote) :
    lexemes (text ++ ['\n']) = lexemes text ++ [⟨.lineBreak, ['\n']⟩] := by
  have hflat : textOf (lexemes (text ++ ['\n'])) = text ++ ['\n'] := textOf_lexemes _
  have hreturn : '\r' ∉ text ++ ['\n'] := by
    intro hmem
    rcases List.mem_append.mp hmem with hmem | hmem
    · exact (hline _ hmem).2 rfl
    · exact absurd (List.mem_singleton.mp hmem) (by decide)
  obtain ⟨pre, l, hsplit⟩ : ∃ pre l, lexemes (text ++ ['\n']) = pre ++ [l] := by
    refine (List.eq_nil_or_concat' _).resolve_left fun hnil => ?_
    rw [hnil] at hflat
    simp at hflat
  have hmem : l ∈ lexemes (text ++ ['\n']) := by simp [hsplit]
  obtain ⟨u, c, hlast⟩ : ∃ u c, l.text = u ++ [c] :=
    (List.eq_nil_or_concat' _).resolve_left (text_ne_nil hmem)
  have happend : (textOf pre ++ u) ++ [c] = text ++ ['\n'] := by
    rw [← hflat, hsplit]
    simp [hlast]
  obtain ⟨htext, hc⟩ := List.append_inj' happend rfl
  obtain rfl := (List.cons.inj hc).1
  obtain rfl | ⟨rfl, rfl⟩ := eq_lineBreak_of_shaped (shaped_of_mem hreturn l hmem) hlast
  · exact absurd rfl (hend '\\' (by simp [← htext]))
  · rw [List.append_nil] at htext
    have hpre : lexemes (textOf pre) = pre := lexemes_of_prefix hsplit fun l hl =>
      hknown l (by rw [hsplit]; exact List.mem_append_left _ hl)
    rw [hsplit, ← htext, hpre]

/-! ## Texts of tokens and blanks -/

/-- A text of tokens with blanks between them. -/
structure Spaced (text : List Char) : Prop where
  pieces : ∀ l ∈ lexemes text, l.kind = .blank ∨ l.kind.isContent = true
  first : BeginsToken text
  last : ∀ l ∈ (lexemes text).getLast?, l.kind.isContent = true

theorem isBlank_of_lexeme {pre post : List Lexeme} {l : Lexeme} (h : lexemes text = pre ++ l :: post)
    (hl : l.kind = .blank) : ∀ c ∈ l.text, isBlank c = true := by
  obtain ⟨n, hn, htext⟩ := measured_kind (lexemes_of_append h) hl (m := blank) (by simp [kinds])
  have hblank : Within (fun c => isBlank c = true) blank := within_run fun _ hc => hc
  rw [htext]
  exact hblank _ n hn

/-- A blank begins no token. -/
theorem BeginsToken.head (h : BeginsToken z) : ∃ c r, z = c :: r ∧ isBlank c = false := by
  obtain ⟨l, ls, hls, hcontent⟩ := h
  have hhead : ∀ c ∈ z.head?, isBlank c = false := by
    refine isBlank_head? fun m hm hk => ?_
    rw [hls] at hm
    cases hm
    rw [hk] at hcontent
    cases hcontent
  cases z with
  | nil => cases hls
  | cons c r => exact ⟨c, r, rfl, hhead c rfl⟩

/-- Before the end of a text and before a seal a spaced text keeps its pieces. -/
theorem Spaced.lexemes_append (h : Spaced text) (hz : ∀ c ∈ z.head?, c ∈ seals) :
    lexemes (text ++ z) = lexemes text ++ lexemes z := by
  have hknown : ∀ l ∈ lexemes text, l.kind ≠ .openQuote ∧ l.kind ≠ .stray := by
    intro l hl
    rcases h.pieces l hl with hk | hk
    · rw [hk]
      decide
    · constructor <;> intro hk' <;> rw [hk'] at hk <;> cases hk
  cases z with
  | nil => rw [lexemes_nil, List.append_nil, List.append_nil]
  | cons c r => exact lexemes_sealed (hz c rfl) hknown h.last r

/-! ## Separators -/

/-- What stands between two statements: its pieces are found before anything that begins with no
blank. -/
structure Separator (sep : List Char) (gap : List Lexeme) : Prop where
  seals : ∀ r, ∀ c ∈ (sep ++ r).head?, c ∈ seals
  pieces : ∀ z, (∀ c ∈ z.head?, isBlank c = false) → lexemes (sep ++ z) = gap ++ lexemes z

/-- A piece of one character and blanks behind it separate statements. -/
theorem separator_of_front {c : Char} {kind : LexemeKind} (hc : c ∈ Lexeme.seals)
    (hfront : ∀ r, front? (c :: r) = some (kind, 1)) (hmargin : ∀ d ∈ margin, isBlank d = true) :
    Separator (c :: margin) (⟨kind, [c]⟩ :: marginPieces margin) where
  seals r d hd := by
    cases hd
    exact hc
  pieces z hz := by
    rw [List.cons_append, lexemes_of_front (hfront _), List.cons_append, ← lexemes_margin hmargin hz]
    rfl

/-- Spaced texts with separators between them begin with no blank. -/
theorem head_intercalate (htexts : ∀ text ∈ texts, Spaced text) (hne : texts ≠ []) :
    ∀ c ∈ (sep.intercalate texts ++ z).head?, isBlank c = false := by
  obtain ⟨text, texts, rfl⟩ := List.exists_cons_of_ne_nil hne
  obtain ⟨c, r, rfl, hc⟩ := (htexts text List.mem_cons_self).first.head
  cases texts <;> simpa using hc

/-- Texts with separators between them fall into the pieces of the texts, with those of the separators
between them. -/
theorem Separator.lexemes_intercalate (h : Separator sep gap) (htexts : ∀ text ∈ texts, Spaced text)
    (hz : ∀ c ∈ z.head?, c ∈ Lexeme.seals) :
    lexemes (sep.intercalate texts ++ z) = gap.intercalate (texts.map lexemes) ++ lexemes z := by
  induction texts with
  | nil => rfl
  | cons text texts ih =>
    rw [List.forall_mem_cons] at htexts
    cases texts with
    | nil => simpa using htexts.1.lexemes_append hz
    | cons next texts =>
      rw [List.map_cons, List.intercalate_cons_cons, List.map_cons, List.intercalate_cons_cons,
        List.append_assoc, List.append_assoc, htexts.1.lexemes_append (h.seals _),
        h.pieces _ (head_intercalate htexts.2 (List.cons_ne_nil _ _)), ih htexts.2]
      simp

end Lexeme

/-! ## Statements -/

namespace Alone

variable {limit : Nat} {text : List Char} {s : Stmt}

theorem known (h : Alone limit text s) :
    ∀ l ∈ lexemes (text ++ ['\n']), l.kind ≠ .openQuote ∧ l.kind ≠ .stray := by
  obtain ⟨ts, -, hts, -⟩ := tokens_of_parseModule h.parses
  rw [tokenize, ← List.append_nil (lexemes _)] at hts
  obtain ⟨_, _, _, hsteps, -⟩ := run_append hts
  exact known_of_steps hsteps

theorem lexemes_line (h : Alone limit text s) :
    lexemes (text ++ ['\n']) = lexemes text ++ [⟨.lineBreak, ['\n']⟩] :=
  lexemes_endLine h.inLine (fun c hc => (h.ends c hc).2) fun l hl => (h.known l hl).1

theorem ne_nil (h : Alone limit text s) : text ≠ [] := by
  rintro rfl
  have hempty : parseModule ['\n'] limit = .ok ⟨[]⟩ := rfl
  have hparses := h.parses
  rw [List.nil_append, hempty] at hparses
  cases hparses

/-- The pieces of a line hold no line break. -/
theorem piece (h : Alone limit text s) {l : Lexeme} (hl : l ∈ lexemes text) :
    l.kind = .blank ∨ l.kind.isContent = true := by
  have hin : ∀ c ∈ l.text, InLine c := by
    intro c hc
    refine h.inLine c ?_
    rw [← textOf_lexemes text]
    exact List.mem_flatten.mpr ⟨l.text, List.mem_map_of_mem hl, hc⟩
  have hshape : Shaped l := shaped_of_mem (fun hmem => (h.inLine _ hmem).2 rfl) l hl
  have hbreak : ¬ (l.kind = .lineBreak ∨ l.kind = .continuation) := by
    intro hk
    cases hshape with
    | continuation => exact absurd rfl (hin '\n' (by simp)).1
    | lineBreak => exact absurd rfl (hin '\n' (by simp)).1
    | string => simp at hk
    | line hnotHidden hnotBreak => exact hk.elim hnotBreak hnotHidden
  have hknown := h.known l (by rw [h.lexemes_line]; exact List.mem_append_left _ hl)
  cases hk : l.kind with
  | blank => exact .inl rfl
  | string | number | name | op => exact .inr rfl
  | comment => exact absurd hk (h.bare l hl).1
  | openQuote => exact absurd hk hknown.1
  | stray => exact absurd hk hknown.2
  | lineBreak => exact absurd (.inl hk) hbreak
  | continuation => exact absurd (.inr hk) hbreak

/-- A statement is a text of tokens with blanks between them. -/
theorem spaced (h : Alone limit text s) : Spaced text where
  pieces _ := h.piece
  first := by
    cases hls : lexemes text with
    | nil => exact absurd ((textOf_lexemes text).symm.trans (by rw [hls, textOf_nil])) h.ne_nil
    | cons l ls =>
      refine ⟨l, ls, hls, (h.piece (by simp [hls])).resolve_left fun hk => ?_⟩
      obtain ⟨c, r, hc⟩ := List.exists_cons_of_ne_nil (text_ne_nil (s := text) (l := l) (by simp [hls]))
      have hhead : text.head? = some c := by
        rw [← textOf_lexemes text, hls, textOf_cons, hc]
        rfl
      have hfirst : lexemes text = [] ++ l :: ls := hls
      have hblank := isBlank_of_lexeme hfirst hk c (by simp [hc])
      rw [h.begins c hhead] at hblank
      cases hblank
  last l hl := by
    obtain ⟨ls, hls⟩ := List.getLast?_eq_some_iff.mp hl
    have hmem : l ∈ lexemes text := by simp [hls]
    refine (h.piece hmem).resolve_left fun hk => ?_
    obtain ⟨r, c, hc⟩ := (List.eq_nil_or_concat' l.text).resolve_left (text_ne_nil hmem)
    have hlast : text.getLast? = some c := by
      rw [← textOf_lexemes text, hls, textOf_append, textOf_cons, textOf_nil, hc]
      simp
    have hblank := isBlank_of_lexeme hls hk c (by simp [hc])
    rw [(h.ends c hlast).1] at hblank
    cases hblank

end Alone

end PythonSyntax
