import PythonSyntax.Proofs.Agreement.Expression
import PythonSyntax.Proofs.LineEnding.Escape
import PythonSyntax.Proofs.LineEnding.Field

/-
Runs of literals under another line ending.

If the rules of expressions do alike in a text and in its spelling, so do runs of literals that are
alike, when the first run spells the texts that fields show of themselves.  The expression of a field
holds no backslash, hence no string that hides a line break, so its tokens are alike too.
-/

namespace PythonSyntax.Parser

open PythonSyntax.Lexeme Likeness TokenLikeness

variable {e : LineEnding} {s : List Char} {R : Nat → Prop} {rule rule' : Rule → Parser Expr}

/-- Errors of the grammar match at the same place. -/
theorem places_of_twin {here there : Span} (h : e.Twin s here.start there.start) :
    (alike e s R).Places here there := by
  refine fun cause hc => ⟨rfl, h, ?_⟩
  rintro rfl
  cases hc

/-! ## Fields -/

/-- Lexemes lie where `R` holds if their text does. -/
theorem covers_of_inside {x : Nat} {ls : List Lexeme} (hne : ∀ l ∈ ls, l.text ≠ [])
    (h : ∀ z, x ≤ z → z < x + byteLength (ls.map Lexeme.text).flatten → R z) :
    Layout.Covers R x ls := by
  induction ls generalizing x with
  | nil => trivial
  | cons l ls ih =>
    rw [List.forall_mem_cons] at hne
    rw [List.map_cons, List.flatten_cons, byteLength_append] at h
    have hpos : 0 < byteLength l.text := by
      obtain ⟨c, r, hcr⟩ := List.exists_cons_of_ne_nil hne.1
      rw [hcr, byteLength_cons]
      exact Nat.add_pos_left (Char.utf8Size_pos c) _
    refine ⟨fun _ => h x (Nat.le_refl x) (by omega), fun _ z hx hz => ?_, ?_⟩
    · exact h z (Nat.le_of_lt hx) (by omega)
    · exact ih hne.2 fun z hx hz => h z (by omega) (by omega)

/-- A text without a backslash has no string that hides a line break. -/
theorem keeps_of_no_backslash {text : List Char} (hr : '\r' ∉ text) (hesc : '\\' ∉ text) :
    ∀ l ∈ lexemes text, Keeps e l := by
  rintro l hl - ⟨hkind, hhides⟩
  have hsub : ∀ c ∈ l.text, c ∈ text := by
    intro c hc
    rw [← flatten_lexemes text]
    exact List.mem_flatten_of_mem (List.mem_map_of_mem hl) hc
  cases shaped_of_mem hr l hl with
  | continuation => exact nomatch hkind
  | lineBreak => exact nomatch hkind
  | line _ _ hstring _ => exact hstring hkind
  | string hliteral hbreak =>
    obtain ⟨hshort, hmem⟩ := short_of_hidesBreak hliteral hhides
    have hback := hbreak hshort hmem
    refine hesc (hsub _ ?_)
    rw [hliteral.eq]
    simp [hback]

theorem embedded_alike (hs : '\r' ∉ s) (h : (alike e s R).Rules rule rule') {source : List Char}
    {x y : Nat} (hat : Part e s R source x y) (hesc : '\\' ∉ source) :
    (alike e s R).Agrees (embedded rule source x) (embedded rule' (e.spell source) y) Eq := by
  have hr : '\r' ∉ source := fun hmem => hs (hat.located.subset hmem)
  have hcovers : Layout.Covers R x (lexemes source) := by
    refine covers_of_inside (fun l hl => text_ne_nil hl) ?_
    rw [flatten_lexemes]
    exact hat.inside
  refine fun k => TokenLikeness.embedded h (fun n m hn => ?_) _
  obtain rfl : n = m := hn
  exact Layout.run_spell hs hat.located (keeps_of_no_backslash hr hesc) hcovers

/-- Two readers of texts that do alike on a part of a text and on its spelling. -/
def AlikeReaders (e : LineEnding) (s : List Char) (R : Nat → Prop) {α : Type} (Q : α → α → Prop)
    (p q : List Char → Nat → Parser α) : Prop :=
  ∀ text x y, Part e s R text x y → (alike e s R).Agrees (p text x) (q (e.spell text) y) Q

/-- The same value, and rests that are alike. -/
def AlikeEnds (e : LineEnding) (s : List Char) (R : Nat → Prop) {α : Type}
    (r r' : α × List Char × Nat) : Prop :=
  r.1 = r'.1 ∧ AlikeRests e s R r.2 r'.2

theorem fieldSpec_alike {spec spec' : List Char → Nat → Parser (List Piece)}
    (hspec : AlikeReaders e s R Eq spec spec') :
    AlikeReaders e s R (AlikeEnds e s R) (fieldSpec spec) (fieldSpec spec') := by
  intro text x y h
  have hcolon : ∀ (spec : List Char → Nat → Parser (List Piece)) r x,
      fieldSpec spec (':' :: r) x = (do
        let pieces ← spec (splitSpec 0 r).1 (x + 1)
        return (some (.joinedStr (merge pieces)), (splitSpec 0 r).2,
          x + 1 + byteLength (splitSpec 0 r).1)) := fun _ _ _ => rfl
  have hother : ∀ (spec : List Char → Nat → Parser (List Piece)) (text : List Char) x,
      text.head? ≠ some ':' → fieldSpec spec text x = pure (none, text, x) := by
    intro spec text x hhead
    unfold fieldSpec
    split
    · exact absurd rfl hhead
    · rfl
  rcases head_cases e (show InLine ':' by decide) text with ⟨r, rfl, hspell⟩ | ⟨hhead, hhead'⟩
  · have hrest := h.tail rfl (by decide)
    rw [← splitSpec_append 0 r] at hrest
    rw [hspell, hcolon, hcolon, splitSpec_spell]
    refine .bind_eq (hspec _ _ _ hrest.left) fun pieces => .pure ⟨rfl, rfl, hrest.right⟩
  · rw [hother _ _ _ hhead, hother _ _ _ hhead']
    exact .pure ⟨rfl, rfl, h⟩

theorem field_alike (hs : '\r' ∉ s) (h : (alike e s R).Rules rule rule')
    {spec spec' : List Char → Nat → Parser (List Piece)}
    (hspec : AlikeReaders e s R Eq spec spec') :
    AlikeReaders e s R (AlikeEnds e s R) (field e.spell rule spec) (field id rule' spec') := by
  intro text x y hat
  have hr : '\r' ∉ text := fun hmem => hs (hat.located.subset hmem)
  have hscan : FieldScan.Sound ⟨0, none, 0⟩ text := ⟨nofun, nofun⟩
  unfold field
  refine .bind (.ofExcept (splitField_alike hat.twin hat.located hr hscan)) ?_
  rintro ⟨source, rest⟩ _ ⟨rfl, hesc, rfl⟩
  dsimp only
  rw [e.all_spell (p := Unicode.isWhiteSpace) rfl]
  refine .ite (.failAt rfl (places_of_twin hat.twin)) ?_
  refine .bind_eq (embedded_alike hs h hat.left hesc) fun value => ?_
  have hshown := fieldShown_alike source hat.right
  generalize fieldShown e.spell source rest (x + byteLength source) = r at hshown ⊢
  generalize fieldShown id (e.spell source) (e.spell rest) (y + byteLength (e.spell source)) = r'
    at hshown ⊢
  obtain ⟨shown, rest₁, x₁⟩ := r
  obtain ⟨shown', rest₁', y₁⟩ := r'
  obtain ⟨rfl, rfl, hat₁⟩ := hshown
  refine .bind (.ofExcept (fieldConversion_alike hat₁)) ?_
  rintro ⟨conversion, rest₂, x₂⟩ ⟨_, _, y₂⟩ ⟨rfl, rfl, hat₂⟩
  refine .bind (fieldSpec_alike hspec _ _ _ hat₂) ?_
  rintro ⟨formatSpec, rest₃, x₃⟩ ⟨_, _, y₃⟩ ⟨rfl, rfl, hat₃⟩
  exact .ofExcept (fieldEnd_alike shown value conversion formatSpec hat₃)

/-! ## Bodies -/

/-- Formatted literals that begin at the same place. -/
structure AlikeFormatted (e : LineEnding) (s : List Char) (l l' : Literal) : Prop where
  isRaw : l.isRaw = l'.isRaw
  start : e.Twin s l.span.start l'.span.start

theorem textPiece_alike {l l' : Literal} (hl : AlikeFormatted e s l l') {text : List Char}
    (hr : '\r' ∉ text) :
    (alike e s R).Agrees (textPiece l text) (textPiece l' (e.spell text)) Eq := by
  unfold textPiece
  rw [hl.isRaw, Escape.decodeRaw_spell hr, Escape.decode_spell hr]
  dsimp only
  split
  · exact .pure rfl
  · exact .failAt rfl (places_of_twin hl.start)

theorem piecesUpTo_alike (hs : '\r' ∉ s) {l l' : Literal} (hl : AlikeFormatted e s l l')
    {hole hole' : List Char → Nat → Parser (List Piece × List Char × Nat)}
    (hhole : AlikeReaders e s R (AlikeEnds e s R) hole hole') {fuel fuel' : Nat}
    (hle : fuel ≤ fuel') :
    AlikeReaders e s R Eq (piecesUpTo l hole fuel) (piecesUpTo l' hole' fuel') := by
  induction fuel generalizing fuel' with
  | zero => exact fun text x y _ k ts us n m _ _ => .excused rfl
  | succ fuel ih =>
    intro text x y hat
    obtain ⟨fuel', rfl⟩ : ∃ k, fuel' = k + 1 := ⟨fuel' - 1, by omega⟩
    have ih := ih (Nat.le_of_succ_le_succ hle)
    have hr : '\r' ∉ text := fun hmem => hs (hat.located.subset hmem)
    have hrest := splitLiteral_rest l.isRaw false text
    have hspell := splitLiteral_spell (e := e) l.isRaw false text
    generalize hcut : splitLiteral l.isRaw false text = cut at hrest hspell
    have happend := splitLiteral_append l.isRaw false text
    rw [hcut] at happend
    obtain ⟨chunk, rest⟩ := cut
    rw [hl.isRaw] at hspell
    dsimp only at happend hrest hspell
    have hchunk := textPiece_alike (R := R) hl fun hmem : '\r' ∈ chunk =>
      hr (happend ▸ List.mem_append_left rest hmem)
    rw [← happend] at hat
    have hat := hat.right
    -- a doubled brace and what follows it
    have hbrace : ∀ (r : List Char) (brace : Text) x y, Part e s R r x y → (alike e s R).Agrees
        (do
          let before ← textPiece l chunk
          let after ← piecesUpTo l hole fuel r x
          return before ++ .text brace :: after)
        (do
          let before ← textPiece l' (e.spell chunk)
          let after ← piecesUpTo l' hole' fuel' (e.spell r) y
          return before ++ .text brace :: after) Eq := fun r brace x y hpart =>
      .bind_eq hchunk fun before => .bind_eq (ih _ _ _ hpart) fun after => .pure rfl
    rcases hrest with rfl | ⟨c, r, rfl, rfl | rfl⟩
    · unfold piecesUpTo
      rw [hcut, hspell]
      exact hchunk
    · have hin := hat.tail rfl (by decide)
      rw [e.spell_cons (by decide)] at hspell
      rcases head_cases e (show InLine '{' by decide) r with ⟨r, rfl, hr⟩ | ⟨hhead, hhead'⟩
      · unfold piecesUpTo
        rw [hcut, hspell, hr]
        exact hbrace r _ _ _ (hin.tail rfl (by decide))
      · rw [piecesUpTo_field hcut hhead, piecesUpTo_field hspell hhead']
        refine .bind_eq hchunk fun before => .bind (hhole _ _ _ hin) ?_
        rintro ⟨pieces, r₁, x₁⟩ ⟨_, _, y₁⟩ ⟨rfl, rfl, hat₁⟩
        exact .bind_eq (ih _ _ _ hat₁) fun after => .pure rfl
    · have hin := hat.tail rfl (by decide)
      rw [e.spell_cons (by decide)] at hspell
      rcases head_cases e (show InLine '}' by decide) r with ⟨r, rfl, hr⟩ | ⟨hhead, hhead'⟩
      · unfold piecesUpTo
        rw [hcut, hspell, hr]
        exact hbrace r _ _ _ (hin.tail rfl (by decide))
      · rw [piecesUpTo_lone hcut hhead, piecesUpTo_lone hspell hhead']
        exact .failAt rfl (places_of_twin hat.twin)

theorem pieces_alike (hs : '\r' ∉ s) (h : (alike e s R).Rules rule rule') {l l' : Literal}
    (hl : AlikeFormatted e s l l') (levels : Nat) :
    AlikeReaders e s R Eq (pieces e.spell rule l levels) (pieces id rule' l' levels) := by
  induction levels with
  | zero =>
    intro text x y hat
    refine piecesUpTo_alike hs hl (fun text x y hat => ?_) ?_ text x y hat
    · exact .failAt rfl (places_of_twin hat.twin)
    · exact Nat.succ_le_succ (e.length_le_spell text)
  | succ levels ih =>
    intro text x y hat
    refine piecesUpTo_alike hs hl (field_alike hs h ih) ?_ text x y hat
    exact Nat.succ_le_succ (e.length_le_spell text)

/-! ## Runs of literals -/

section

variable {t u : Token} {text marks body : List Char} {q : Char} {triple : Bool}

/-- The body of a literal and that of its spelling stand for each other. -/
theorem part_of_literal (h : AlikeLiterals e s R t u text marks q triple body) :
    Part e s R body (t.span.start + (byteLength marks + (quotes q triple).length))
      (u.span.start + (byteLength marks + (quotes q triple).length)) := by
  have hquotes : byteLength (quotes q triple) = (quotes q triple).length ∧
      1 ≤ (quotes q triple).length := by
    have hcases : q = '\'' ∨ q = '"' := by simpa [Quoted.isQuote] using h.literal.quote
    rcases hcases with rfl | rfl <;> cases triple <;> decide
  have hspell := isLiteral_spell (e := e) h.literal
  have hmarks : e.spell marks = marks :=
    e.spell_eq_self fun hmem => (inLine_of_isMark (h.literal.marks _ hmem)).1 rfl
  have hline : e.spell (quotes q triple) = quotes q triple := by
    have hq := inLine_of_isQuote h.literal.quote
    refine e.spell_eq_self fun hmem => ?_
    cases triple <;> exact hq.1 (by simpa [quotes, eq_comm] using hmem)
  have hlocated := h.located
  rw [h.literal.eq] at hlocated
  have hlocated := hlocated.right.right.left
  rw [hmarks, hline, hquotes.1, Nat.add_assoc, Nat.add_assoc] at hlocated
  refine ⟨hlocated, fun z hx hz => h.inside z (by omega) ?_⟩
  rw [h.literal.eq]
  simp only [byteLength_append]
  omega

/-- Literals that are alike have the same letters in front. -/
theorem split_of_literal (h : AlikeLiterals e s R t u text marks q triple body) :
    Quoted.split t.text.toList =
        { isRaw := (marks.map Char.toLower).contains 'r'
          isBytes := (marks.map Char.toLower).contains 'b'
          isFormatted := (marks.map Char.toLower).contains 'f'
          body := body
          bodyStart := byteLength marks + (quotes q triple).length } ∧
      Quoted.split u.text.toList =
        { isRaw := (marks.map Char.toLower).contains 'r'
          isBytes := (marks.map Char.toLower).contains 'b'
          isFormatted := (marks.map Char.toLower).contains 'f'
          body := e.spell body
          bodyStart := byteLength marks + (quotes q triple).length } := by
  rw [h.left, h.right, String.toList_ofList, String.toList_ofList, h.literal.split_eq,
    (isLiteral_spell h.literal).split_eq]
  exact ⟨rfl, rfl⟩

end

/-- Alike string tokens. -/
def AlikeStrings (e : LineEnding) (s : List Char) (R : Nat → Prop) (t u : Token) : Prop :=
  Alike e s R t u ∧ t.kind = .string

namespace AlikeStrings

variable {t u : Token}

theorem split_eq (h : AlikeStrings e s R t u) :
    (Quoted.split t.text.toList).isBytes = (Quoted.split u.text.toList).isBytes ∧
      (Quoted.split t.text.toList).isFormatted = (Quoted.split u.text.toList).isFormatted := by
  obtain ⟨text, marks, q, triple, body, hl⟩ := h.1.literal h.2
  rw [(split_of_literal hl).1, (split_of_literal hl).2]
  exact ⟨rfl, rfl⟩

theorem decode_eq (hs : '\r' ∉ s) (h : AlikeStrings e s R t u) :
    (Quoted.split t.text.toList).decode = (Quoted.split u.text.toList).decode := by
  obtain ⟨text, marks, q, triple, body, hl⟩ := h.1.literal h.2
  have hr : '\r' ∉ body := fun hmem => hs ((part_of_literal hl).located.subset hmem)
  rw [(split_of_literal hl).1, (split_of_literal hl).2, Quoted.decode, Quoted.decode]
  dsimp only
  rw [Escape.decodeRaw_spell hr, Escape.decode_spell hr]

theorem literalText (hs : '\r' ∉ s) (h : AlikeStrings e s R t u) :
    (alike e s R).Agrees (literalText t) (literalText u) Eq := by
  unfold Parser.literalText
  rw [h.decode_eq hs]
  split
  · exact .pure rfl
  · exact .failAt rfl (places_of_twin h.1.start)

theorem literalPieces (hs : '\r' ∉ s) (hrule : (alike e s R).Rules rule rule')
    (h : AlikeStrings e s R t u) :
    (alike e s R).Agrees (literalPieces e.spell rule t) (literalPieces id rule' u) Eq := by
  have hformatted := h.split_eq.2
  have hdecode := h.decode_eq hs
  obtain ⟨text, marks, q, triple, body, hl⟩ := h.1.literal h.2
  have hpart := part_of_literal hl
  unfold Parser.literalPieces
  dsimp only
  rw [← hformatted, ← hdecode]
  split
  · rw [(split_of_literal hl).1, (split_of_literal hl).2]
    have hfields : AlikeFormatted e s ⟨(marks.map Char.toLower).contains 'r', t.span⟩
        ⟨(marks.map Char.toLower).contains 'r', u.span⟩ := ⟨rfl, h.1.start⟩
    exact pieces_alike hs hrule hfields _ _ _ _ hpart
  · split
    · exact .pure rfl
    · exact .failAt rfl (places_of_twin h.1.start)

/-- A run of literals begins at the same place. -/
theorem union {ts us : List Token} (h : List.Forall₂ (AlikeStrings e s R) ts us) {a b : Span}
    (hab : e.Twin s a.start b.start) :
    e.Twin s (ts.foldl (fun s t => s.union t.span) a).start
      (us.foldl (fun s t => s.union t.span) b).start := by
  induction h generalizing a b with
  | nil => exact hab
  | cons ht _ ih => exact ih (hab.min ht.1.start)

end AlikeStrings

/-- Runs of literals that are alike are read alike. -/
theorem strings_alike (hs : '\r' ∉ s) (h : (alike e s R).Rules rule rule') :
    Rules.Strings (alike e s R) (strings e.spell rule) (strings id rule') := by
  intro ts us hts
  replace hts : List.Forall₂ (AlikeStrings e s R) ts us := hts
  have hbytes := map_eq_map hts fun t u ht => ht.split_eq.1
  have hformatted := map_eq_map hts fun t u ht => ht.split_eq.2
  have hany : ∀ (f : Quoted → Bool) (p : Bool → Bool) (xs : List Token),
      ((xs.map fun t => Quoted.split t.text.toList).any fun q => p (f q)) =
        (xs.map fun t => f (Quoted.split t.text.toList)).any p := by
    intro f p xs
    rw [List.any_map, List.any_map]
    rfl
  cases hts with
  | nil => exact .unexpected
  | @cons t u ts us ht hrest =>
    have hall := List.Forall₂.cons ht hrest
    unfold strings
    dsimp only
    rw [hany Quoted.isBytes (· != _), hany Quoted.isBytes (· != _), hbytes, ht.split_eq.1,
      hany Quoted.isFormatted fun b => b, hany Quoted.isFormatted fun b => b, hformatted]
    refine .ite (.failAt rfl (places_of_twin (AlikeStrings.union hall ht.1.start))) (.ite ?_ ?_)
    · exact .bind_eq (.mapM_eq hall fun t u ht => ht.literalPieces hs h) fun _ => .pure rfl
    · exact .bind_eq (.mapM_eq hall fun t u ht => ht.literalText hs) fun _ => .pure rfl

end PythonSyntax.Parser
