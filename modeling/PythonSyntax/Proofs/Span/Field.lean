import PythonSyntax.Proofs.Agreement.Expression
import PythonSyntax.Proofs.Parser.FormattedString
import PythonSyntax.Proofs.Span.Layout

/-
Fields lie where they are read.

A run carries the offset of what is left of a literal's body, and every step of it keeps that what
is left lies there in the source, with the closing quotes behind it.  So the expression of a field
lies at the offset that its tokens are given, however deep the field is, and an error in the body is
placed in the source.
-/

namespace PythonSyntax.Parser

open Likeness TokenLikeness

variable {source text : List Char} {offset : Nat}

/-! ## Cutting a body -/

/-- An error at one byte where anything may stand. -/
theorem marks_byte {cause : Cause} (hcause : cause.isAtByte = true) (h : LiesInside source text offset) :
    (errorAt offset cause).Marks source :=
  .byte hcause (LiesInside.left (a := []) h)

/-- An error at the byte of a character that takes no more. -/
theorem marks_ascii {c : Char} {r : List Char} (hc : c.utf8Size = 1)
    (h : LiesInside source (c :: r) offset) (cause : Cause) : (errorAt offset cause).Marks source := by
  have hholds := Span.holds_of_lies (LiesInside.left (a := [c]) h).lies
  rw [byteLength_cons, byteLength_nil, hc] at hholds
  exact .whole hholds.whole

/-- The search for the end of an expression gives up at characters of one byte alone. -/
theorem utf8Size_of_pass {f : FieldScan} {c : Char} {r : List Char} {cause : Cause}
    (h : f.pass c r = .error cause) : c.utf8Size = 1 := by
  rcases FieldScan.pass_error h with ⟨-, rfl⟩ | ⟨-, rfl⟩ <;> rfl

theorem settles_splitField {start : Nat} (hstart : LiesInside source [] start)
    (f : FieldScan) (h : LiesInside source text offset) :
    Settles (·.Marks source) (fun r => r.1 ++ r.2 = text) (splitField start f offset text) := by
  induction text generalizing f offset with
  | nil =>
    unfold splitField
    split
    · exact .error (marks_byte rfl hstart)
    · exact .error (marks_byte rfl h)
  | cons c r ih =>
    unfold splitField
    split
    · next hpass => exact .error (marks_ascii (utf8Size_of_pass hpass) h _)
    · exact .ok rfl
    · next f' _ => exact (ih f' h.tail).map fun _ hr => congrArg (c :: ·) hr

/-- What follows the parts of a field lies at the offset that they leave. -/
theorem inside_fieldShown (spell : List Char → List Char) (expr : List Char)
    (h : LiesInside source text offset) :
    LiesInside source (fieldShown spell expr text offset).2.1
      (fieldShown spell expr text offset).2.2 := by
  unfold fieldShown
  split
  · next r =>
    have hblanks : (r.takeWhile isFieldBlank) ++ r.drop (r.takeWhile isFieldBlank).length = r := by
      conv_rhs => rw [← List.take_append_drop (r.takeWhile isFieldBlank).length r]
      rw [← List.prefix_iff_eq_take.mp (List.takeWhile_prefix _)]
    have hrest := h.tail
    rw [← hblanks] at hrest
    have hright := hrest.right
    rwa [byteLength_blanks] at hright
  · exact h

theorem settles_fieldConversion (h : LiesInside source text offset) :
    Settles (·.Marks source) (fun r => LiesInside source r.2.1 r.2.2)
      (fieldConversion text offset) := by
  unfold fieldConversion
  split
  · exact .error (marks_byte rfl h)
  · next c r =>
    split
    · next hc =>
      have hrest := h.tail.tail
      rw [utf8Size_of_isConversion hc] at hrest
      exact .ok hrest
    · exact .error (marks_byte rfl h.tail)
  · exact .ok h

theorem settles_fieldEnd (shown : Option Piece) (value : Expr) (conversion : Option Char)
    (formatSpec : Option Expr) (h : LiesInside source text offset) :
    Settles (·.Marks source) (fun r => LiesInside source r.2.1 r.2.2)
      (fieldEnd shown value conversion formatSpec text offset) := by
  unfold fieldEnd
  split
  · exact .ok h.tail
  · exact .error (marks_byte rfl h)

/-! ## What is placed -/

/-- A token is placed in the source, and has the form of a literal if it is a string. -/
structure Placed (source : List Char) (t : Token) : Prop where
  placed : t.Placed source
  literal : t.kind = .string → ∃ marks q triple body, IsLiteral t.text.toList marks q triple body

/-- Two runs on the same tokens, which are placed in the source, with the same errors, which mark
whole characters of it or the first byte of one. -/
def placedIn (source : List Char) : TokenLikeness where
  token t u := t = u ∧ Placed source t
  nesting := Eq
  error a b := a = b ∧ a.Marks source
  excused cause := cause = .outOfFuel
  kind h := by rw [h.1]
  text h := .inl (by rw [h.1])
  place := by
    rintro t _ cause - ⟨rfl, h⟩
    exact ⟨rfl, .whole h.placed.whole⟩
  fuel := rfl
  deeper := deeper_of_eq
  deepest := deepest_of_eq

theorem placed_eof : (placedIn source).token (current []) (current []) := by
  refine ⟨rfl, ⟨(Lies.self source).left (a := []), rfl⟩, fun h => ?_⟩
  cases h

theorem places_of_whole {span : Span} (h : span.Whole source) :
    (placedIn source).Places span span :=
  fun _ _ => ⟨rfl, .whole h⟩

/-- A result that settles is like itself. -/
theorem results_of_settles {α : Type} {Q : α → Prop} {r : Except SyntaxError α}
    (h : Settles (·.Marks source) Q r) :
    (placedIn source).Results (fun a b => a = b ∧ Q a) r r := by
  cases h with
  | ok hq => exact .ok ⟨rfl, hq⟩
  | error he => exact .error ⟨rfl, he⟩

theorem forall₂_self {α : Type} {R : α → α → Prop} {as : List α} (h : ∀ a ∈ as, R a a) :
    List.Forall₂ R as as :=
  List.forall₂_same.mpr h

theorem placed_of_run {cfg : LayoutConfig} {s : Layout}
    (h : Lies source text (cfg.base + s.offset)) :
    (placedIn source).Results (List.Forall₂ (placedIn source).token)
      (Layout.run cfg s (lexemes text)) (Layout.run cfg s (lexemes text)) := by
  have hlies : Lies source ((lexemes text).map Lexeme.text).flatten (cfg.base + s.offset) := by
    rwa [Lexeme.flatten_lexemes]
  have hsettles := Layout.settles_run cfg s (lexemes text) hlies
  cases hrun : Layout.run cfg s (lexemes text) with
  | ok ts =>
    rw [hrun] at hsettles
    exact .ok (forall₂_self fun t ht => ⟨rfl, hsettles.of_ok t ht, Layout.isLiteral_of_run hrun ht⟩)
  | error e =>
    rw [hrun] at hsettles
    exact .error ⟨rfl, .whole hsettles.of_error⟩

/-! ## Reading a body -/

section

variable {spell : List Char → List Char} {rule rule' : Rule → Parser Expr} {α : Type}
  {l : Literal} {p q : Parser α}

/-- Two parsers that do the same, place errors in the source, and leave the streams as they are. -/
def ReadsPlaced (source : List Char) (p q : Parser α) : Prop :=
  ∀ S : Streams, (placedIn source).Relates S p q fun a b ts us => a = b ∧ S ts us

/-- Two parsers that do the same, and leave a text of which this is true. -/
def EndsPlaced (source : List Char) (p q : Parser (α × List Char × Nat)) : Prop :=
  ∀ S : Streams, (placedIn source).Relates S p q fun a b ts us =>
    (a = b ∧ LiesInside source a.2.1 a.2.2) ∧ S ts us

theorem reject_placed {S : Streams} {T : α → α → Streams} {e : SyntaxError} (h : e.Marks source) :
    (placedIn source).Relates S (reject e) (reject e) T :=
  fun _ _ _ _ _ _ => .error ⟨rfl, h⟩

theorem embedded_placed (hrule : ((placedIn source).throughout placed_eof).Rules rule rule')
    (h : LiesInside source text offset) :
    ReadsPlaced source (embedded rule text offset) (embedded rule' text offset) := by
  refine TokenLikeness.embedded hrule ?_
  rintro n _ rfl
  exact placed_of_run h.lies

theorem fieldSpec_placed {spec spec' : List Char → Nat → Parser (List Piece)}
    (hspec : ∀ text offset, LiesInside source text offset →
      ReadsPlaced source (spec text offset) (spec' text offset))
    (h : LiesInside source text offset) :
    EndsPlaced source (fieldSpec spec text offset) (fieldSpec spec' text offset) := by
  intro S
  unfold fieldSpec
  split
  · next r =>
    have hrest : LiesInside source ((splitSpec 0 r).1 ++ (splitSpec 0 r).2) (offset + 1) := by
      rw [splitSpec_append]
      exact h.tail
    refine Relates.bind_eq (hspec _ _ hrest.left S) fun pieces => ?_
    exact Relates.pure fun _ _ hs => ⟨⟨rfl, hrest.right⟩, hs⟩
  · exact Relates.pure fun _ _ hs => ⟨⟨rfl, h⟩, hs⟩

theorem field_placed (hrule : ((placedIn source).throughout placed_eof).Rules rule rule')
    {spec spec' : List Char → Nat → Parser (List Piece)}
    (hspec : ∀ text offset, LiesInside source text offset →
      ReadsPlaced source (spec text offset) (spec' text offset))
    (h : LiesInside source text offset) :
    EndsPlaced source (field spell rule spec text offset) (field spell rule' spec' text offset) := by
  intro S
  have hsplit := settles_splitField (LiesInside.left (a := []) h) ⟨0, none, 0⟩ h
  unfold field
  refine Relates.bind_of (Relates.ofExcept (results_of_settles hsplit)) ?_
  rintro ⟨expr, rest⟩ _ ⟨rfl, heq⟩
  subst heq
  refine Relates.ite (reject_placed (marks_byte rfl h))
    (Relates.bind_eq (embedded_placed hrule h.left S) fun e => ?_)
  have hshown := inside_fieldShown spell expr h.right
  generalize fieldShown spell expr rest (offset + byteLength expr) = r at hshown ⊢
  obtain ⟨shown, rest₁, offset₁⟩ := r
  refine Relates.bind_of (Relates.ofExcept
    (results_of_settles (settles_fieldConversion hshown))) ?_
  rintro ⟨conversion, rest₂, offset₂⟩ _ ⟨rfl, h₂⟩
  refine Relates.bind_of (fieldSpec_placed hspec h₂ S) ?_
  rintro ⟨formatSpec, rest₃, offset₃⟩ _ ⟨rfl, h₃⟩
  exact Relates.ofExcept (results_of_settles (settles_fieldEnd shown e conversion formatSpec h₃))

theorem textPiece_placed (hl : l.span.Whole source) (text : List Char) :
    ReadsPlaced source (textPiece l text) (textPiece l text) := by
  intro S
  unfold textPiece
  dsimp only
  split
  · exact Relates.pure fun _ _ hs => ⟨rfl, hs⟩
  · exact Relates.failAt rfl (places_of_whole hl)

theorem piecesUpTo_placed (hl : l.span.Whole source)
    {hole hole' : List Char → Nat → Parser (List Piece × List Char × Nat)}
    (hhole : ∀ text offset, LiesInside source text offset →
      EndsPlaced source (hole text offset) (hole' text offset))
    (fuel : Nat) (h : LiesInside source text offset) :
    ReadsPlaced source (piecesUpTo l hole fuel text offset)
      (piecesUpTo l hole' fuel text offset) := by
  induction fuel generalizing text offset with
  | zero => exact fun _ _ _ _ _ _ _ => .excused rfl
  | succ fuel ih =>
    intro S
    have hrest := h
    rw [← splitLiteral_append l.isRaw false text] at hrest
    replace hrest := hrest.right
    have hchunk := fun chunk => textPiece_placed hl chunk S
    unfold piecesUpTo
    dsimp only
    have hbrace := splitLiteral_rest l.isRaw false text
    generalize splitLiteral l.isRaw false text = cut at hrest hbrace ⊢
    obtain ⟨chunk, rest⟩ := cut
    dsimp only at hrest hbrace ⊢
    split
    · exact hchunk _
    · refine Relates.bind_eq (hchunk _) fun before => ?_
      exact Relates.bind_eq (ih hrest.tail.tail S) fun after => Relates.pure fun _ _ hs => ⟨rfl, hs⟩
    · refine Relates.bind_eq (hchunk _) fun before => ?_
      exact Relates.bind_eq (ih hrest.tail.tail S) fun after => Relates.pure fun _ _ hs => ⟨rfl, hs⟩
    · refine Relates.bind_eq (hchunk _) fun before => ?_
      refine Relates.bind_of (hhole _ _ hrest.tail S) ?_
      rintro ⟨pieces, r, offset'⟩ _ ⟨rfl, h'⟩
      exact Relates.bind_eq (ih h' S) fun after => Relates.pure fun _ _ hs => ⟨rfl, hs⟩
    · next hnil _ _ _ =>
      obtain rfl | ⟨c, r, rfl, hc⟩ := hbrace
      · exact absurd rfl hnil
      · have hsize : c.utf8Size = 1 := by rcases hc with rfl | rfl <;> rfl
        exact reject_placed (marks_ascii hsize hrest _)

theorem pieces_placed (hrule : ((placedIn source).throughout placed_eof).Rules rule rule')
    (hl : l.span.Whole source) (levels : Nat) (h : LiesInside source text offset) :
    ReadsPlaced source (pieces spell rule l levels text offset)
      (pieces spell rule' l levels text offset) := by
  induction levels generalizing text offset with
  | zero => exact piecesUpTo_placed hl (fun _ _ h _ => reject_placed (marks_byte rfl h)) _ h
  | succ levels ih =>
    exact piecesUpTo_placed hl (fun _ _ h => field_placed hrule (fun _ _ h => ih h) h) _ h

/-! ## Runs of literals -/

/-- The body of a literal lies in the source, in front of its closing quotes. -/
theorem Placed.body {t : Token} (h : Placed source t) (hk : t.kind = .string) :
    LiesInside source (Quoted.split t.text.toList).body
      (t.span.start + (Quoted.split t.text.toList).bodyStart) := by
  obtain ⟨marks, q, triple, body, hliteral⟩ := h.literal hk
  have hlies := h.placed.1
  have hquotes : quotes q triple ≠ [] := by cases triple <;> exact List.cons_ne_nil _ _
  rw [hliteral.eq] at hlies
  have hbody := hlies.right.right.inside hquotes
  rw [Nat.add_assoc, byteLength_quotes hliteral.quote] at hbody
  rw [hliteral.split_eq]
  exact hbody

theorem literalPieces_placed (hrule : ((placedIn source).throughout placed_eof).Rules rule rule')
    {t : Token} (h : Placed source t) (hk : t.kind = .string) :
    ReadsPlaced source (literalPieces spell rule t) (literalPieces spell rule' t) := by
  intro S
  unfold literalPieces
  dsimp only
  split
  · exact pieces_placed hrule h.placed.whole _ (h.body hk) S
  · split
    · exact Relates.pure fun _ _ hs => ⟨rfl, hs⟩
    · exact Relates.failAt rfl (places_of_whole h.placed.whole)

theorem literalText_placed {t : Token} (h : Placed source t) :
    ReadsPlaced source (literalText t) (literalText t) := by
  intro S
  unfold literalText
  split
  · exact Relates.pure fun _ _ hs => ⟨rfl, hs⟩
  · exact Relates.failAt rfl (places_of_whole h.placed.whole)

theorem whole_union {ts : List Token} (h : ∀ t ∈ ts, Placed source t) {span : Span}
    (hspan : span.Whole source) :
    (ts.foldl (fun s t => s.union t.span) span).Whole source := by
  induction ts generalizing span with
  | nil => exact hspan
  | cons t ts ih =>
    rw [List.forall_mem_cons] at h
    exact ih h.2 (hspan.union h.1.placed.whole)

/-- Runs of literals are read alike if the rules do alike. -/
theorem strings_placed (hrule : ((placedIn source).throughout placed_eof).Rules rule rule') :
    Rules.Strings ((placedIn source).throughout placed_eof) (strings spell rule)
      (strings spell rule') := by
  intro ts us hts
  have hboth : ts = us ∧ ∀ t ∈ ts, Placed source t ∧ t.kind = .string := by
    induction hts with
    | nil => exact ⟨rfl, List.forall_mem_nil _⟩
    | cons ht _ ih =>
      obtain ⟨⟨rfl, hplaced⟩, hk⟩ := ht
      exact ⟨congrArg _ ih.1, List.forall_mem_cons.mpr ⟨⟨hplaced, hk⟩, ih.2⟩⟩
  obtain ⟨rfl, hall⟩ := hboth
  cases ts with
  | nil => exact Agrees.unexpected
  | cons t ts =>
    intro k
    have hspans := whole_union (fun t ht => (hall t ht).1) (hall t List.mem_cons_self).1.placed.whole
    unfold strings
    dsimp only
    refine Relates.ite (Relates.failAt rfl (places_of_whole hspans)) (Relates.ite ?_ ?_)
    · refine Relates.bind_eq (Relates.mapM_eq (forall₂_self (R := fun a b => a = b ∧ Placed source a ∧
        a.kind = .string) fun t ht => ⟨rfl, hall t ht⟩) ?_) fun _ =>
        Relates.pure fun _ _ hs => ⟨rfl, hs⟩
      rintro t _ ⟨rfl, h, hk⟩
      exact literalPieces_placed hrule h hk _
    · refine Relates.bind_eq (Relates.mapM_eq (forall₂_self (R := fun a b => a = b ∧ Placed source a)
        fun t ht => ⟨rfl, (hall t ht).1⟩) ?_) fun _ => Relates.pure fun _ _ hs => ⟨rfl, hs⟩
      rintro t _ ⟨rfl, h⟩
      exact literalText_placed h _

end

end PythonSyntax.Parser
