import PythonSyntax.Proofs.Agreement.Layout
import PythonSyntax.Proofs.Agreement.Statement

/-
Two runs on the same text.

The text may stand at other offsets in the second run, which may also nest deeper.  Tokens are the
`Same` then, but for their spans, and so are all lexemes, the pieces of literals and the trees of
expressions.  If the runs are `exact` the text stands at the same offsets, and errors have the same
span.
-/

namespace PythonSyntax.Parser

open Likeness TokenLikeness

variable {exact deeper given : Prop} {S : Streams} {spell : List Char → List Char}
  {rule rule' : Rule → Parser Expr} {α : Type}

/-! ## Tokens of the same text -/

/-- Tokens that are the same but for where they stand, and for a line break that may be spelled with
more characters. -/
structure Same (exact : Prop) (t u : Token) : Prop where
  kind : t.kind = u.kind
  text : t.text = u.text ∨ (t.kind = .newline ∧ t.text.length ≤ u.text.length) ∧
    Layout.isOpening t.text = false ∧ Layout.isOpening u.text = false
  eq : exact → t = u

theorem Same.span {t u : Token} (h : Same exact t u) (he : exact) : t.span = u.span := by
  rw [h.eq he]

/-- What is the same in two runs on the same text, of which the second may nest `deeper`.  If the
first run is `given` to accept, nothing is said of its errors. -/
def sameText (exact deeper given : Prop) : TokenLikeness where
  token := Same exact
  nesting n m := n.limit + m.depth ≤ m.limit + n.depth ∧
    (deeper ∨ n.limit + m.depth = m.limit + n.depth)
  error a b := a.cause = b.cause ∧ (exact → a.span = b.span)
  excused cause := (deeper ∧ cause.isNesting = true) ∨ cause = .outOfFuel ∨ given
  kind := Same.kind
  text h := h.text.imp_right fun h => ⟨.inr h.1.1, h.2⟩
  place _ h := ⟨rfl, h.span⟩
  fuel := .inr (.inl rfl)
  deeper h hlt := ⟨by omega, by dsimp only; omega, h.2.imp_right fun h => by dsimp only; omega⟩
  deepest _ h hle hc := h.2.elim (fun hd => .inr (.inl ⟨hd, hc⟩)) fun heq => .inl (by omega)

/-- What is the same in two runs on the same text, at the same offsets or with a first run that is
given to accept. -/
abbrev verbatim (exact deeper : Prop) : TokenLikeness := sameText exact deeper (¬ exact)

theorem same_self (kind : TokenKind) (text : String) {span span' : Span}
    (h : exact → span = span') : Same exact ⟨kind, text, span⟩ ⟨kind, text, span'⟩ :=
  ⟨rfl, .inl rfl, fun he => by rw [h he]⟩

theorem same_eof : Same exact (current []) (current []) := same_self _ _ fun _ => rfl

theorem places_of_exact {here there : Span} (h : exact → here = there) :
    (sameText exact deeper given).Places here there :=
  fun _ _ => ⟨rfl, h⟩

/-! ## Lexemes of the same text -/

theorem spot_self {x y : Nat} (h : exact → x = y) :
    Layout.Spot (sameText exact deeper given) x y where
  mark _ := same_self _ _ fun he => by rw [h he]
  error _ := ⟨rfl, fun he => by rw [h he]⟩

theorem allFed_self {x y : Nat} (h : exact → x = y) (ls : List Lexeme) :
    Layout.AllFed (sameText exact deeper given) x y ls ls := by
  induction ls generalizing x y with
  | nil => exact .nil
  | cons l ls ih =>
    have hspan : exact → (⟨x, x + byteLength l.text⟩ : Span) = ⟨y, y + byteLength l.text⟩ :=
      fun he => by rw [h he]
    refine .cons ⟨rfl, spot_self h, fun _ _ => rfl, fun _ => same_self _ _ hspan,
      fun _ => same_self _ _ hspan, fun _ => rfl, fun _ => ⟨rfl, hspan⟩⟩ (ih fun he => ?_)
    rw [h he]

theorem limits_of_le {k k' : Nat} (h : k ≤ k') (hd : deeper ∨ k = k') :
    Layout.Limits (sameText exact deeper given) k k' :=
  ⟨h, hd.symm.imp_right fun hd => .inl ⟨hd, rfl⟩⟩

/-- The tokens of the same lexemes from alike states on. -/
theorem run_same {mode : LayoutMode} {k k' base base' : Nat} {a b : Layout} (hk : k ≤ k')
    (hd : deeper ∨ k = k') (hab : Layout.Alike a b)
    (h : exact → base + a.offset = base' + b.offset) (ls : List Lexeme) :
    (sameText exact deeper given).Results (List.Forall₂ (Same exact))
      (Layout.run ⟨mode, k, base⟩ a ls) (Layout.run ⟨mode, k', base'⟩ b ls) := by
  refine Layout.run_alike (limits_of_le hk hd) hab (allFed_self h ls) (spot_self fun he => ?_)
  rw [← Nat.add_assoc, ← Nat.add_assoc, h he]

/-! ## Fields -/

/-- Two parsers that do alike whatever the streams are, which they leave as they are. -/
def ReadsSame (exact deeper given : Prop) (p q : Parser α) : Prop :=
  ∀ S : Streams, (sameText exact deeper given).Relates S p q fun a b ts us => a = b ∧ S ts us

/-- A value, the rest of a text, and where this stands in the two runs. -/
structure SameEnds (exact : Prop) (r r' : α × List Char × Nat) : Prop where
  value : r.1 = r'.1
  rest : r.2.1 = r'.2.1
  offset : exact → r.2.2 = r'.2.2

/-- Two parsers that do alike and leave the same text. -/
def EndsSame (exact deeper given : Prop) (p q : Parser (α × List Char × Nat)) : Prop :=
  ∀ S : Streams, (sameText exact deeper given).Relates S p q fun r r' ts us =>
    SameEnds exact r r' ∧ S ts us

theorem errorAt_same {x y : Nat} (h : exact → x = y) (cause : Cause) :
    (sameText exact deeper given).error (errorAt x cause) (errorAt y cause) :=
  ⟨rfl, fun he => by rw [h he]⟩

theorem reject_same {x y : Nat} (h : exact → x = y) (cause : Cause) {T : α → α → Streams} :
    (sameText exact deeper given).Relates S (reject (errorAt x cause)) (reject (errorAt y cause)) T :=
  fun _ _ _ _ _ _ => .error (errorAt_same h cause)

theorem splitField_same {start start' x y : Nat} (hstart : exact → start = start')
    (h : exact → x = y) (f : FieldScan) (text : List Char) :
    (sameText exact deeper given).Results Eq (splitField start f x text)
      (splitField start' f y text) := by
  induction text generalizing f x y with
  | nil =>
    unfold splitField
    split
    · exact .error (errorAt_same hstart _)
    · exact .error (errorAt_same h _)
  | cons c r ih =>
    unfold splitField
    split
    · exact .error (errorAt_same h _)
    · exact .ok rfl
    · exact (ih (fun he => by rw [h he]) _).map fun _ _ hr => hr ▸ rfl

/-- The expression that is found does not depend on where the field stands. -/
theorem splitField_moved {start x : Nat} {f : FieldScan} {text : List Char} {r : List Char × List Char}
    (h : splitField start f x text = .ok r) (start' y : Nat) : splitField start' f y text = .ok r := by
  have hsame : (sameText False False False).Results Eq (splitField start f x text)
      (splitField start' f y text) := splitField_same False.elim False.elim f text
  rw [h] at hsame
  obtain ⟨_, hr, rfl⟩ := hsame.of_ok
  exact hr

theorem fieldShown_same (spell : List Char → List Char) (source text : List Char) {x y : Nat}
    (h : exact → x = y) :
    SameEnds exact (fieldShown spell source text x) (fieldShown spell source text y) := by
  unfold fieldShown
  split
  · exact ⟨rfl, rfl, fun he => by rw [h he]⟩
  · exact ⟨rfl, rfl, h⟩

theorem fieldConversion_same (text : List Char) {x y : Nat} (h : exact → x = y) :
    (sameText exact deeper given).Results (SameEnds exact) (fieldConversion text x)
      (fieldConversion text y) := by
  unfold fieldConversion
  split
  · exact .error (errorAt_same h _)
  · split
    · exact .ok ⟨rfl, rfl, fun he => by rw [h he]⟩
    · exact .error (errorAt_same (fun he => by rw [h he]) _)
  · exact .ok ⟨rfl, rfl, h⟩

theorem fieldConversion_moved {text rest : List Char} {x x' : Nat} {conversion : Option Char}
    (h : fieldConversion text x = .ok (conversion, rest, x')) (y : Nat) :
    ∃ y', fieldConversion text y = .ok (conversion, rest, y') := by
  have hsame : (sameText False False False).Results (SameEnds False) (fieldConversion text x)
      (fieldConversion text y) := fieldConversion_same text False.elim
  rw [h] at hsame
  obtain ⟨⟨_, _, y'⟩, hr, ⟨rfl, rfl, -⟩⟩ := hsame.of_ok
  exact ⟨y', hr⟩

theorem fieldEnd_same (shown : Option Piece) (value : Expr) (conversion : Option Char)
    (formatSpec : Option Expr) (text : List Char) {x y : Nat} (h : exact → x = y) :
    (sameText exact deeper given).Results (SameEnds exact)
      (fieldEnd shown value conversion formatSpec text x)
      (fieldEnd shown value conversion formatSpec text y) := by
  unfold fieldEnd
  split
  · exact .ok ⟨rfl, rfl, fun he => by rw [h he]⟩
  · exact .error (errorAt_same h _)

theorem fieldSpec_same {spec spec' : List Char → Nat → Parser (List Piece)}
    (hspec : ∀ text x y, (exact → x = y) →
      ReadsSame exact deeper given (spec text x) (spec' text y))
    (text : List Char) {x y : Nat} (h : exact → x = y) :
    EndsSame exact deeper given (fieldSpec spec text x) (fieldSpec spec' text y) := by
  intro S
  unfold fieldSpec
  split
  · refine Relates.bind_eq (hspec _ _ _ (fun he => by rw [h he]) S) fun pieces => ?_
    exact Relates.pure fun _ _ hs => ⟨⟨rfl, rfl, fun he => by rw [h he]⟩, hs⟩
  · exact Relates.pure fun _ _ hs => ⟨⟨rfl, rfl, h⟩, hs⟩

/-- The expression of a field is read alike if the rules are. -/
theorem embedded_same (hrule : ((sameText exact deeper given).throughout same_eof).Rules rule rule')
    (text : List Char) {x y : Nat} (h : exact → x = y) :
    ReadsSame exact deeper given (embedded rule text x) (embedded rule' text y) :=
  TokenLikeness.embedded hrule fun n m hn =>
    run_same (by have := hn.1; omega) (hn.2.imp_right fun heq => by omega) (Layout.alike_at _ _) h _

theorem field_same (hrule : ((sameText exact deeper given).throughout same_eof).Rules rule rule')
    {spec spec' : List Char → Nat → Parser (List Piece)}
    (hspec : ∀ text x y, (exact → x = y) →
      ReadsSame exact deeper given (spec text x) (spec' text y))
    (text : List Char) {x y : Nat} (h : exact → x = y) :
    EndsSame exact deeper given (field spell rule spec text x)
      (field spell rule' spec' text y) := by
  intro S
  unfold field
  refine Relates.bind_eq (Relates.ofExcept (splitField_same h h _ _)) fun r => ?_
  obtain ⟨source, rest⟩ := r
  refine Relates.ite (reject_same h _) (Relates.bind_eq (embedded_same hrule source h S) fun e => ?_)
  have hshown := fieldShown_same spell source rest
    (x := x + byteLength source) (y := y + byteLength source) fun he => by rw [h he]
  generalize fieldShown spell source rest (x + byteLength source) = r at hshown ⊢
  generalize fieldShown spell source rest (y + byteLength source) = r' at hshown ⊢
  obtain ⟨shown, rest₁, x₁⟩ := r
  obtain ⟨_, _, y₁⟩ := r'
  obtain ⟨rfl, rfl, h₁⟩ := hshown
  refine Relates.bind_of (Relates.ofExcept (fieldConversion_same rest₁ h₁)) ?_
  rintro ⟨conversion, rest₂, x₂⟩ ⟨_, _, y₂⟩ ⟨rfl, rfl, h₂⟩
  refine Relates.bind_of (fieldSpec_same hspec rest₂ h₂ S) ?_
  rintro ⟨formatSpec, rest₃, x₃⟩ ⟨_, _, y₃⟩ ⟨rfl, rfl, h₃⟩
  exact Relates.ofExcept (fieldEnd_same shown e conversion formatSpec rest₃ h₃)

/-! ## Bodies -/

theorem textPiece_same (isRaw : Bool) {span span' : Span} (h : exact → span = span')
    (text : List Char) :
    ReadsSame exact deeper given (textPiece ⟨isRaw, span⟩ text)
      (textPiece ⟨isRaw, span'⟩ text) := by
  intro S
  unfold textPiece
  dsimp only
  generalize (if isRaw = true then (Escape.decodeRaw false text).map Text.ofChars
    else Escape.decode false text) = r
  cases r with
  | ok => exact Relates.pure fun _ _ hs => ⟨rfl, hs⟩
  | error => exact Relates.failAt rfl (places_of_exact h)

theorem piecesUpTo_same (isRaw : Bool) {span span' : Span} (hspan : exact → span = span')
    {hole hole' : List Char → Nat → Parser (List Piece × List Char × Nat)}
    (hhole : ∀ text x y, (exact → x = y) → EndsSame exact deeper given (hole text x) (hole' text y))
    (fuel : Nat) (text : List Char) {x y : Nat} (h : exact → x = y) :
    ReadsSame exact deeper given (piecesUpTo ⟨isRaw, span⟩ hole fuel text x)
      (piecesUpTo ⟨isRaw, span'⟩ hole' fuel text y) := by
  induction fuel generalizing text x y with
  | zero => exact fun _ _ _ _ _ _ _ => .excused (.inr (.inl rfl))
  | succ fuel ih =>
    intro S
    have hchunk : ∀ chunk, (sameText exact deeper given).Relates S (textPiece ⟨isRaw, span⟩ chunk)
        (textPiece ⟨isRaw, span'⟩ chunk) fun a b ts us => a = b ∧ S ts us :=
      fun chunk => textPiece_same isRaw hspan chunk S
    unfold piecesUpTo
    dsimp only
    split
    · exact hchunk _
    · refine Relates.bind_eq (hchunk _) fun before => ?_
      exact Relates.bind_eq (ih _ (fun he => by rw [h he]) S) fun after =>
        Relates.pure fun _ _ hs => ⟨rfl, hs⟩
    · refine Relates.bind_eq (hchunk _) fun before => ?_
      exact Relates.bind_eq (ih _ (fun he => by rw [h he]) S) fun after =>
        Relates.pure fun _ _ hs => ⟨rfl, hs⟩
    · refine Relates.bind_eq (hchunk _) fun before => ?_
      refine Relates.bind_of (hhole _ _ _ (fun he => by rw [h he]) S) ?_
      rintro ⟨pieces, rest, x₁⟩ ⟨_, _, y₁⟩ ⟨rfl, rfl, h₁⟩
      exact Relates.bind_eq (ih _ h₁ S) fun after => Relates.pure fun _ _ hs => ⟨rfl, hs⟩
    · exact reject_same (fun he => by rw [h he]) _

theorem pieces_same (hrule : ((sameText exact deeper given).throughout same_eof).Rules rule rule')
    (isRaw : Bool) {span span' : Span} (hspan : exact → span = span') (levels : Nat)
    (text : List Char) {x y : Nat} (h : exact → x = y) :
    ReadsSame exact deeper given (pieces spell rule ⟨isRaw, span⟩ levels text x)
      (pieces spell rule' ⟨isRaw, span'⟩ levels text y) := by
  induction levels generalizing text x y with
  | zero => exact piecesUpTo_same isRaw hspan (fun _ _ _ h _ => reject_same h _) _ text h
  | succ levels ih =>
    exact piecesUpTo_same isRaw hspan
      (fun text _ _ h => field_same hrule (fun text _ _ h => ih text h) text h) _ text h

/-! ## Runs of literals -/

theorem literalPieces_same
    (hrule : ((sameText exact deeper given).throughout same_eof).Rules rule rule')
    {t u : Token} (htext : t.text = u.text) (hspan : exact → t.span = u.span) :
    ReadsSame exact deeper given (literalPieces spell rule t) (literalPieces spell rule' u) := by
  intro S
  unfold literalPieces
  rw [← htext]
  dsimp only
  split
  · exact pieces_same hrule _ hspan _ _ (fun he => by rw [hspan he]) S
  · split
    · exact Relates.pure fun _ _ hs => ⟨rfl, hs⟩
    · exact Relates.failAt rfl (places_of_exact hspan)

theorem literalText_same {t u : Token} (htext : t.text = u.text) (hspan : exact → t.span = u.span) :
    ReadsSame exact deeper given (literalText t) (literalText u) := by
  intro S
  unfold literalText
  rw [← htext]
  split
  · exact Relates.pure fun _ _ hs => ⟨rfl, hs⟩
  · exact Relates.failAt rfl (places_of_exact hspan)

theorem union_same {ts us : List Token}
    (h : List.Forall₂ (fun t u => exact → t.span = u.span) ts us)
    {a b : Span} (hab : exact → a = b) (he : exact) :
    ts.foldl (fun s t => s.union t.span) a = us.foldl (fun s t => s.union t.span) b := by
  induction h generalizing a b with
  | nil => exact hab he
  | cons ht _ ih =>
    refine ih fun he => ?_
    show a.union _ = b.union _
    rw [hab he, ht he]

/-- Runs of the same literals are read alike. -/
theorem strings_readsSame
    (hrule : ((sameText exact deeper given).throughout same_eof).Rules rule rule')
    {ts us : List Token} (hts : List.Forall₂ (fun t u => Same exact t u ∧ t.kind = .string) ts us)
    (hne : ts ≠ []) :
    ReadsSame exact deeper given (strings spell rule ts) (strings spell rule' us) := by
  intro S
  have htext : ∀ t u, Same exact t u ∧ t.kind = .string → t.text = u.text := by
    rintro t u ⟨h, hk⟩
    exact h.text.resolve_right fun hn => nomatch hk.symm.trans hn.1.1
  have hparts := map_eq_map (f := fun t => Quoted.split t.text.toList)
    (g := fun t => Quoted.split t.text.toList) hts fun t u h => by rw [htext t u h]
  cases hts with
  | nil => exact absurd rfl hne
  | @cons t u ts us ht hrest =>
    have hall : List.Forall₂ (fun t u => Same exact t u ∧ t.kind = .string) (t :: ts) (u :: us) :=
      .cons ht hrest
    have hspans := hall.imp fun t u h => h.1.span
    unfold strings
    dsimp only
    rw [hparts, htext t u ht]
    refine Relates.ite (Relates.failAt rfl (places_of_exact fun he => ?_)) (Relates.ite ?_ ?_)
    · exact union_same hspans ht.1.span he
    · refine Relates.bind_eq (Relates.mapM_eq hall fun t u h => ?_) fun _ =>
        Relates.pure fun _ _ hs => ⟨rfl, hs⟩
      exact literalPieces_same hrule (htext t u h) h.1.span S
    · refine Relates.bind_eq (Relates.mapM_eq hall fun t u h => ?_) fun _ =>
        Relates.pure fun _ _ hs => ⟨rfl, hs⟩
      exact literalText_same (htext t u h) h.1.span S

theorem strings_same (hS : Lasts (Same exact) S)
    (hrule : ((sameText exact deeper given).throughout same_eof).Rules rule rule') :
    Rules.Strings ((sameText exact deeper given).steady hS) (strings spell rule)
      (strings spell rule') :=
  .of_ne_nil fun _ _ hts hne _ => strings_readsSame hrule hts hne S

/-! ## All rules -/

/-- The likeness of expressions, and that of the fields in their literals: the streams of fields
match to their ends. -/
def around (exact deeper given : Prop) (c : Likeness) : Bool → Likeness
  | true => (sameText exact deeper given).throughout same_eof
  | false => c

/-- The rules of expressions agree if runs of literals do, as soon as the fields in them are read as
the same text. -/
theorem rules_around {c : Likeness} (exact deeper given : Prop)
    (hs : ∀ rule rule', ((sameText exact deeper given).throughout same_eof).Rules rule rule' →
      Rules.Strings c (strings spell rule) (strings spell rule'))
    {fuel fuel' : Nat} (hle : fuel ≤ fuel') : c.Rules (Rule.run spell fuel) (Rule.run spell fuel') := by
  refine rules_run (c := around exact deeper given c) (fun rule rule' hrule i => ?_) hle false
  cases i with
  | true => exact strings_same (lasts_forall₂ same_eof) (hrule true)
  | false => exact hs rule rule' (hrule true)

/-- The rules of expressions agree on all streams that last. -/
theorem rules_same (hS : Lasts (Same exact) S) {fuel fuel' : Nat} (hle : fuel ≤ fuel') :
    ((sameText exact deeper given).steady hS).Rules (Rule.run spell fuel)
      (Rule.run spell fuel') :=
  rules_around exact deeper given (fun _ _ hrule => strings_same hS hrule) hle

end PythonSyntax.Parser
