import PythonSyntax.Layout
import PythonSyntax.Literal.Quoted
import PythonSyntax.Parser.Rule
import PythonSyntax.Unicode.Property

/-
Runs of string literals.

Literals that follow each other are one literal.  If none of them is formatted their values are
joined; otherwise the result is a list of texts and replacement fields.  A field holds an
expression, which is read as if it stood in brackets, and then perhaps an equals sign, a
conversion and a format spec, in which there may be fields once more.  With an equals sign a field
shows its own text; `spell` says how that is written, and the language takes it as it stands.
-/

namespace PythonSyntax.Parser

/-! ## Pieces -/

/-- A piece of a formatted string. -/
inductive Piece where
  | text (value : Text)
  | value (field : Expr)

/-- The constant of a text, unless it is empty. -/
def textValue (t : Text) : List Expr := if t.isEmpty then [] else [.constant (.str t)]

/-- The values of pieces after a text: neighbouring texts are one constant. -/
def mergeAfter (t : Text) : List Piece → List Expr
  | [] => textValue t
  | .text u :: ps => mergeAfter (t ++ u) ps
  | .value e :: ps => textValue t ++ e :: mergeAfter [] ps

/-- The values of pieces. -/
def merge (ps : List Piece) : List Expr := mergeAfter [] ps

/-! ## Cutting a body -/

/-- The text up to the next brace, and the rest.  The braces around a character name belong to the
text unless it is raw; `inName` says that the text stands before the end of such a name. -/
def splitLiteral (isRaw : Bool) : Bool → List Char → List Char × List Char
  | _, [] => ([], [])
  | inName, c :: r =>
    if inName then
      let (a, b) := splitLiteral isRaw (c != '}') r
      (c :: a, b)
    else if c = '{' ∨ c = '}' then ([], c :: r)
    else
      let opensName := c == '\\' && !isRaw && ['N', '{'].isPrefixOf r
      let (a, b) := splitLiteral isRaw opensName r
      (c :: a, b)

/-- Where the search for the end of a field's expression stands: the open brackets, the open quote
and how many of it opened the string, and how many characters to pass over unseen. -/
structure FieldScan where
  depth : Nat
  quote : Option (Char × Nat)
  skip : Nat

/-- The number of quotes of a kind in a row at the front of a text, at most three. -/
def quoteRun (q : Char) (s : List Char) : Nat := ((s.take 3).takeWhile (· == q)).length

/-- The state after passing `c`, which `r` follows; `none` if the expression ends before `c`. -/
def FieldScan.pass (s : FieldScan) (c : Char) (r : List Char) : Except Cause (Option FieldScan) :=
  match s.skip with
  | n + 1 => .ok (some { s with skip := n })
  | 0 =>
    if c = '\\' then .error .fieldBackslash
    else match s.quote with
      | some (q, n) =>
        if c = q ∧ n ≤ quoteRun q (c :: r) then
          .ok (some { s with quote := none, skip := n - 1 })
        else .ok (some s)
      | none =>
        if Quoted.isQuote c then
          let n := if 3 ≤ quoteRun c (c :: r) then 3 else 1
          .ok (some { s with quote := some (c, n), skip := n - 1 })
        else if c = '#' then .error .fieldComment
        else if c = '(' ∨ c = '[' ∨ c = '{' then .ok (some { s with depth := s.depth + 1 })
        else if c = ')' ∨ c = ']' ∨ (c = '}' ∧ 0 < s.depth) then
          .ok (some { s with depth := s.depth - 1 })
        else if (c = '=' ∨ c = '!' ∨ c = '<' ∨ c = '>') ∧ r.head? = some '=' then
          .ok (some { s with skip := 1 })
        else if (c = '}' ∨ c = '!' ∨ c = ':' ∨ c = '=') ∧ s.depth = 0 then .ok none
        else .ok (some s)

/-- An error at one byte. -/
def errorAt (offset : Nat) (cause : Cause) : SyntaxError := ⟨cause, ⟨offset, offset + 1⟩⟩

/-- The expression of the field that begins at `start`, and the text from its end on.  `offset` is
where the rest of the text stands. -/
def splitField (start : Nat) (s : FieldScan) (offset : Nat) :
    List Char → Except SyntaxError (List Char × List Char)
  | [] =>
    if s.quote.isSome then .error (errorAt start .fieldOpenString)
    else .error (errorAt offset .fieldUnclosed)
  | c :: r =>
    match s.pass c r with
    | .error cause => .error (errorAt offset cause)
    | .ok none => .ok ([], c :: r)
    | .ok (some s) =>
      (splitField start s (offset + c.utf8Size) r).map fun (a, b) => (c :: a, b)

/-- A format spec, up to the brace that closes its field, and the rest. -/
def splitSpec : Nat → List Char → List Char × List Char
  | _, [] => ([], [])
  | depth, c :: r =>
    if c = '}' ∧ depth = 0 then ([], c :: r)
    else
      let depth := if c = '{' then depth + 1 else if c = '}' then depth - 1 else depth
      let (a, b) := splitSpec depth r
      (c :: a, b)

/-- The blanks that may follow the equals sign of a field. -/
def isFieldBlank (c : Char) : Bool :=
  c == ' ' || c == '\t' || c == '\n' || c == '\x0c' || c == '\r'

/-! ## Reading a body -/

section

variable (spell : List Char → List Char) (rule : Rule → Parser Expr)

/-- The expression of a field, which stands at the offset `base`. -/
def embedded (text : List Char) (base : Nat) : Parser Expr := do
  let n ← read
  let tokens ← ofExcept (tokenizeEmbedded text base (n.limit - n.depth))
  withTokens tokens do
    if ← atKind .endMarker then fail .fieldEmpty
    else
      let value ← yieldOr rule .starTestList
      if ← atKind .endMarker then return value else fail .fieldTrailing

/-- A formatted literal: whether it is raw, and where it stands. -/
structure Literal where
  isRaw : Bool
  span : Span

/-- The piece of a text between fields. -/
def textPiece (l : Literal) (text : List Char) : Parser (List Piece) :=
  let decoded := if l.isRaw then (Escape.decodeRaw false text).map Text.ofChars
    else Escape.decode false text
  match decoded with
  | .ok t => return [.text t]
  | .error fault => failAt l.span (.string fault)

/-- What a field shows of itself, if an equals sign follows its expression `source`: the text of
both and of the blanks after them, as `spell` writes it.  And the rest of the text with its
offset. -/
def fieldShown (source text : List Char) (offset : Nat) : Option Piece × List Char × Nat :=
  match text with
  | '=' :: r =>
    let blanks := r.takeWhile isFieldBlank
    (some (.text (Text.ofChars (spell (source ++ '=' :: blanks)))), r.drop blanks.length,
      offset + 1 + blanks.length)
  | r => (none, r, offset)

/-- Whether a character is the letter of a conversion. -/
def isConversion (c : Char) : Bool := c == 's' || c == 'r' || c == 'a'

/-- A conversion, if there is one, and the rest of the text with its offset. -/
def fieldConversion (text : List Char) (offset : Nat) :
    Except SyntaxError (Option Char × List Char × Nat) :=
  match text with
  | '!' :: [] => .error (errorAt offset .fieldUnclosed)
  | '!' :: c :: r =>
    if isConversion c then .ok (some c, r, offset + 2)
    else .error (errorAt (offset + 1) .fieldConversion)
  | r => .ok (none, r, offset)

/-- A format spec, if there is one, and the rest of the text with its offset.  `spec` reads it. -/
def fieldSpec (spec : List Char → Nat → Parser (List Piece)) (text : List Char) (offset : Nat) :
    Parser (Option Expr × List Char × Nat) :=
  match text with
  | ':' :: r => do
    let (inner, r) := splitSpec 0 r
    let pieces ← spec inner (offset + 1)
    return (some (.joinedStr (merge pieces)), r, offset + 1 + byteLength inner)
  | r => return (none, r, offset)

/-- The pieces of a field in its parts, and the text after its closing brace with its offset. -/
def fieldEnd (shown : Option Piece) (value : Expr) (conversion : Option Char)
    (formatSpec : Option Expr) (text : List Char) (offset : Nat) :
    Except SyntaxError (List Piece × List Char × Nat) :=
  match text with
  | '}' :: r =>
    let conversion := if shown.isSome && conversion.isNone && formatSpec.isNone
      then some 'r' else conversion
    .ok (shown.toList ++ [.value (.formattedValue value conversion formatSpec)], r, offset + 1)
  | _ => .error (errorAt offset .fieldUnclosed)

/-- A field, from just after its opening brace: its pieces, and the text after its closing brace
with its offset.  `spec` reads a format spec. -/
def field (spec : List Char → Nat → Parser (List Piece)) (text : List Char) (start : Nat) :
    Parser (List Piece × List Char × Nat) := do
  let (source, rest) ← ofExcept (splitField start ⟨0, none, 0⟩ start text)
  if source.all Unicode.isWhiteSpace then reject (errorAt start .fieldEmpty)
  else
    let value ← embedded rule source start
    let (shown, rest, offset) := fieldShown spell source rest (start + byteLength source)
    let (conversion, rest, offset) ← ofExcept (fieldConversion rest offset)
    let (formatSpec, rest, offset) ← fieldSpec spec rest offset
    ofExcept (fieldEnd shown value conversion formatSpec rest offset)

/-- The pieces of a body, in at most `fuel` texts, fields and doubled braces.  `hole` reads a
field. -/
def piecesUpTo (l : Literal) (hole : List Char → Nat → Parser (List Piece × List Char × Nat)) :
    Nat → List Char → Nat → Parser (List Piece)
  | 0, _, _ => fail .outOfFuel
  | fuel + 1, text, offset => do
    let (chunk, rest) := splitLiteral l.isRaw false text
    let offset := offset + byteLength chunk
    match rest with
    | [] => textPiece l chunk
    | '{' :: '{' :: r => do
      let before ← textPiece l chunk
      let after ← piecesUpTo l hole fuel r (offset + 2)
      return before ++ .text (Text.ofString "\x7b") :: after
    | '}' :: '}' :: r => do
      let before ← textPiece l chunk
      let after ← piecesUpTo l hole fuel r (offset + 2)
      return before ++ .text (Text.ofString "\x7d") :: after
    | '{' :: r => do
      let before ← textPiece l chunk
      let (pieces, r, offset) ← hole r (offset + 1)
      let after ← piecesUpTo l hole fuel r offset
      return before ++ pieces ++ after
    | _ => reject (errorAt offset .loneBrace)

/-- The pieces of a body in which fields may nest `levels` deep. -/
def pieces (l : Literal) : Nat → List Char → Nat → Parser (List Piece)
  | 0, text, offset =>
    piecesUpTo l (fun _ start => reject (errorAt start .fieldTooDeep)) (text.length + 1) text offset
  | levels + 1, text, offset =>
    piecesUpTo l (field spell rule (pieces l levels)) (text.length + 1) text offset

/-- Fields may stand in a literal, and in the format specs of its fields, but no deeper. -/
def fieldLevels : Nat := 2

/-! ## Runs of literals -/

/-- The pieces of one literal of a run that has a formatted one. -/
def literalPieces (t : Token) : Parser (List Piece) :=
  let q := Quoted.split t.text.toList
  if q.isFormatted then
    pieces spell rule ⟨q.isRaw, t.span⟩ fieldLevels q.body (t.span.start + q.bodyStart)
  else
    match q.decode with
    | .ok text => return [.text text]
    | .error fault => failAt t.span (.string fault)

/-- The value of a literal of a run that has no formatted one. -/
def literalText (t : Token) : Parser Text :=
  match (Quoted.split t.text.toList).decode with
  | .ok text => return text
  | .error fault => failAt t.span (.string fault)

/-- The expression of a run of string tokens, of which there must be at least one. -/
def strings (tokens : List Token) : Parser Expr := do
  match tokens with
  | [] => unexpected
  | first :: _ =>
    let parts := tokens.map fun t => Quoted.split t.text.toList
    let isBytes := (Quoted.split first.text.toList).isBytes
    if parts.any (·.isBytes != isBytes) then
      failAt (tokens.foldl (fun s t => s.union t.span) first.span) .mixedBytes
    else if parts.any (·.isFormatted) then
      let pieces ← tokens.mapM (literalPieces spell rule)
      return .joinedStr (merge pieces.flatten)
    else
      let texts ← tokens.mapM literalText
      let value := texts.flatten
      return .constant (if isBytes then .bytes (Text.lossy value) else .str value)

end

end PythonSyntax.Parser
