import PythonSyntax.Proofs.Agreement.Layout
import PythonSyntax.Proofs.LineEnding.Lexeme
import PythonSyntax.Proofs.LineEnding.Position

/-
Tokens under another line ending.

`Alike` tokens stand at the same place of a text and of its spelling and have the same text, but for
a literal, which is spelled, and the end of a line.  The layout makes alike tokens of the lexemes
of a text and of these lexemes spelled, or fails for the same cause at the same place.  Offsets in
the first text of which a predicate `R` holds bound where a literal lies, and where a quote may be
left open.
-/

namespace PythonSyntax

open PythonSyntax.Lexeme PythonSyntax.Parser

variable {e : LineEnding} {s : List Char} {R : Nat → Prop}

/-! ## Alike tokens -/

/-- Literals at the same place, the second one spelled.  `R` holds inside the first. -/
structure AlikeLiterals (e : LineEnding) (s : List Char) (R : Nat → Prop) (t u : Token)
    (text marks : List Char) (q : Char) (triple : Bool) (body : List Char) : Prop where
  literal : IsLiteral text marks q triple body
  left : t.text = String.ofList text
  right : u.text = String.ofList (e.spell text)
  located : e.Located s text t.span.start u.span.start
  inside : ∀ z, t.span.start < z → z < t.span.start + byteLength text → R z

/-- Tokens of a text and of its spelling that stand for each other. -/
structure Alike (e : LineEnding) (s : List Char) (R : Nat → Prop) (t u : Token) : Prop where
  kind : t.kind = u.kind
  start : e.Twin s t.span.start u.span.start
  text : t.kind ≠ .string → t.kind ≠ .newline → t.text = u.text
  lineEnd : t.kind = .newline → t.text.length ≤ 1 ∧
    Layout.isOpening t.text = false ∧ Layout.isOpening u.text = false
  literal : t.kind = .string → ∃ text marks q triple body,
    AlikeLiterals e s R t u text marks q triple body

/-- A text with a quote is no bracket. -/
theorem isOpening_of_quote {text : List Char} {q : Char} (hq : Quoted.isQuote q = true)
    (hmem : q ∈ text) : Layout.isOpening (String.ofList text) = false := by
  by_contra hopen
  rw [Bool.not_eq_false, Layout.isOpening, Bool.or_eq_true, Bool.or_eq_true] at hopen
  simp only [beq_iff_eq] at hopen
  have hbracket : ∀ b : String, String.ofList text = b → q ∈ b.toList := by
    rintro _ rfl
    rwa [String.toList_ofList]
  have hcases : q = '\'' ∨ q = '"' := by simpa [Quoted.isQuote] using hq
  rcases hopen with (hopen | hopen) | hopen <;> have := hbracket _ hopen <;>
    rcases hcases with rfl | rfl <;> exact absurd this (by decide)

theorem IsLiteral.quote_mem {text marks body : List Char} {q : Char} {triple : Bool}
    (h : IsLiteral text marks q triple body) : q ∈ text := by
  rw [h.eq]
  cases triple <;> simp [quotes]

/-- Errors for the same cause at the same place.  For an open quote it is one of which `R` holds. -/
structure AlikeErrors (e : LineEnding) (s : List Char) (R : Nat → Prop) (a b : SyntaxError) :
    Prop where
  cause : a.cause = b.cause
  start : e.Twin s a.span.start b.span.start
  openQuote : a.cause = .openQuote → R a.span.start

/-- What is alike in a text and its spelling.  Only the first run may run out of fuel. -/
def alikeTokens (e : LineEnding) (s : List Char) (R : Nat → Prop) : TokenLikeness where
  token := Alike e s R
  nesting := Eq
  error := AlikeErrors e s R
  excused cause := cause = .outOfFuel
  kind := Alike.kind
  text := by
    intro t u h
    by_cases hstring : t.kind = .string
    · obtain ⟨text, marks, q, triple, body, hl⟩ := h.literal hstring
      have hq := inLine_of_isQuote hl.literal.quote
      refine .inr ⟨.inl hstring, ?_, ?_⟩
      · rw [hl.left]
        exact isOpening_of_quote hl.literal.quote hl.literal.quote_mem
      · rw [hl.right]
        exact isOpening_of_quote hl.literal.quote ((e.mem_spell hq.1 hq.2).mpr hl.literal.quote_mem)
    · by_cases hline : t.kind = .newline
      · exact .inr ⟨.inr hline, (h.lineEnd hline).2⟩
      · exact .inl (h.text hstring hline)
  place := by
    rintro t u cause hc h
    refine ⟨rfl, h.start, ?_⟩
    rintro rfl
    exact nomatch hc
  fuel := rfl
  deeper := deeper_of_eq
  deepest := deepest_of_eq

theorem alike_eof : Alike e s R (current []) (current []) :=
  ⟨rfl, e.located_self.twin, fun _ _ => rfl, nofun, nofun⟩

/-- Alike streams have the same number of tokens. -/
def alike (e : LineEnding) (s : List Char) (R : Nat → Prop) : Likeness :=
  (alikeTokens e s R).throughout alike_eof

/-- Tokens of a kind that holds no line break are alike if they stand at the same place. -/
theorem alike_of_text {kind : TokenKind} {text : String} {span span' : Span}
    (hk : kind ≠ .string) (hn : kind ≠ .newline) (h : e.Twin s span.start span'.start) :
    Alike e s R ⟨kind, text, span⟩ ⟨kind, text, span'⟩ :=
  ⟨rfl, h, fun _ _ => rfl, fun h => absurd h hn, fun h => absurd h hk⟩

theorem alike_newline {text text' : String} {span span' : Span} (hlen : text.length ≤ 1)
    (ht : Layout.isOpening text = false) (ht' : Layout.isOpening text' = false)
    (h : e.Twin s span.start span'.start) :
    Alike e s R ⟨.newline, text, span⟩ ⟨.newline, text', span'⟩ :=
  ⟨rfl, h, fun _ h => absurd rfl h, fun _ => ⟨hlen, ht, ht'⟩, nofun⟩

namespace Layout

theorem results_error {α β : Type} {Q : α → β → Prop} {cause : Cause} {span span' : Span}
    (hc : cause ≠ .openQuote) (h : e.Twin s span.start span'.start) :
    (alike e s R).Results Q (.error ⟨cause, span⟩) (.error ⟨cause, span'⟩) :=
  .error ⟨rfl, h, fun h => absurd h hc⟩

/-! ## Lexemes and their spellings -/

theorem spot_of_twin {x y : Nat} (h : e.Twin s x y) : Spot (alikeTokens e s R) x y where
  mark {kind} hk := by
    by_cases hn : kind = .newline
    · subst hn
      exact alike_newline (by decide) (by decide) (by decide) h
    · exact alike_of_text hk hn h
  error hc := ⟨rfl, h, fun h => absurd h hc⟩

/-- What `R` must hold of for lexemes from an offset on: the start of an open quote, and the inside
of a string. -/
def Covers (R : Nat → Prop) : Nat → List Lexeme → Prop
  | _, [] => True
  | x, l :: ls =>
    (l.kind = .openQuote → R x) ∧
      (l.kind = .string → ∀ z, x < z → z < x + byteLength l.text → R z) ∧
      Covers R (x + byteLength l.text) ls

/-- A lexeme is fed to the layout like its spelling, if `R` holds where it must. -/
theorem fed_of_shaped {l : Lexeme} (hl : Shaped l) {span span' : Span}
    (hat : e.Located s l.text span.start span'.start) (hopen : l.kind = .openQuote → R span.start)
    (hinside : l.kind = .string → ∀ z, span.start < z → z < span.start + byteLength l.text → R z) :
    Fed (alikeTokens e s R) l (spelled e l) span span' where
  kind := rfl
  spot := spot_of_twin hat.twin
  width := by
    rintro hk w
    cases hl with
    | continuation => cases e <;> rfl
    | lineBreak => rcases hk with hk | hk | hk <;> cases hk
    | string => rcases hk with hk | hk | hk <;> cases hk
    | line _ _ _ hline => rw [spelled, e.spell_eq_self hline]
  newline := by
    rintro hk
    cases hl with
    | continuation => cases hk
    | lineBreak =>
      refine alike_newline (by decide) (by decide) ?_ hat.twin
      cases e <;> decide
    | string => cases hk
    | line _ hbreak _ _ => exact absurd hk hbreak
  content := by
    intro kind hk
    cases hl with
    | continuation => cases hk
    | lineBreak => cases hk
    | @string text marks q triple body hliteral _ =>
      cases hk
      refine ⟨rfl, hat.twin, fun h => absurd rfl h,
        fun h => absurd h (show TokenKind.string ≠ .newline by decide), fun _ => ?_⟩
      exact ⟨text, marks, q, triple, body, hliteral, rfl, rfl, hat, hinside rfl⟩
    | @line k text _ _ hstring hline =>
      rw [spelled, e.spell_eq_self hline]
      refine alike_of_text ?_ ?_ hat.twin
      · rintro rfl
        exact hstring (by cases k <;> first | rfl | cases hk)
      · rintro rfl
        cases k <;> cases hk
  refused := by
    intro hk
    cases hl with
    | continuation => rcases hk with hk | hk <;> cases hk
    | lineBreak => rcases hk with hk | hk <;> cases hk
    | string => rcases hk with hk | hk <;> cases hk
    | line _ _ _ hline => rw [spelled, e.spell_eq_self hline]
  error hc := ⟨rfl, hat.twin, fun h => hopen (hc h)⟩

/-! ## Runs -/

/-- Lexemes are fed to the layout like their spellings. -/
theorem allFed_spelled {ls : List Lexeme} {rest : List Char} {x y : Nat}
    (hat : e.Located s ((ls.map Lexeme.text).flatten ++ rest) x y)
    (hshape : ∀ l ∈ ls, Shaped l) (hR : Covers R x ls) :
    AllFed (alikeTokens e s R) x y ls (ls.map (spelled e)) := by
  induction ls generalizing x y with
  | nil => exact .nil
  | cons l ls ih =>
    rw [List.map_cons, List.flatten_cons, List.append_assoc] at hat
    rw [List.forall_mem_cons] at hshape
    obtain ⟨hopen, hinside, hR⟩ := hR
    exact .cons (fed_of_shaped hshape.1 hat.left hopen hinside) (ih hat.right hshape.2 hR)

theorem flatten_spelled (ls : List Lexeme) :
    ((ls.map (spelled e)).map Lexeme.text).flatten = e.spell (ls.map Lexeme.text).flatten := by
  induction ls with
  | nil => rfl
  | cons l ls ih =>
    rw [List.map_cons, List.map_cons, List.map_cons, List.flatten_cons, List.flatten_cons, ih,
      e.spell_append]
    rfl

theorem limits_self (k : Nat) : Limits (alikeTokens e s R) k k := ⟨Nat.le_refl k, .inl rfl⟩

/-- The tokens of a text and of its spelling are alike if all its lexemes stay. -/
theorem run_spell {mode : LayoutMode} {maxBrackets base base' : Nat} {text : List Char}
    (hs : '\r' ∉ s) (hat : e.Located s text base base') (hkeep : ∀ l ∈ lexemes text, Keeps e l)
    (hR : Covers R base (lexemes text)) :
    (alikeTokens e s R).Results (List.Forall₂ (PythonSyntax.Alike e s R))
      (run ⟨mode, maxBrackets, base⟩ .start (lexemes text))
      (run ⟨mode, maxBrackets, base'⟩ .start (lexemes (e.spell text))) := by
  have htext : '\r' ∉ text := fun h => hs (hat.subset h)
  have hspell := lexemes_spell htext (List.append_nil _).symm hkeep
  rw [List.map_nil, List.flatten_nil, LineEnding.spell_nil, lexemes_nil, List.append_nil] at hspell
  have hfed : AllFed (alikeTokens e s R) base base' (lexemes text)
      ((lexemes text).map (spelled e)) := by
    have hlocated : e.Located s (((lexemes text).map Lexeme.text).flatten ++ []) base base' := by
      rw [flatten_lexemes, List.append_nil]
      exact hat
    exact allFed_spelled hlocated (shaped_of_mem htext) hR
  rw [hspell]
  refine run_alike (limits_self _) (alike_at _ _) hfed (spot_of_twin ?_)
  rw [flatten_spelled, flatten_lexemes]
  have hend := LineEnding.Located.right (a := text) (b := []) (by rwa [List.append_nil])
  rwa [← Nat.zero_add (byteLength text), ← Nat.zero_add (byteLength (e.spell text))] at hend

end Layout

end PythonSyntax
