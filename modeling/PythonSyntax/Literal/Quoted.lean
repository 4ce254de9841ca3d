import PythonSyntax.Literal.Escape

/-
The parts of a string literal: the letters in front, the quotes, and the body between them.
-/

namespace PythonSyntax

/-- A string literal in its parts.  `bodyStart` is the number of bytes before the body. -/
structure Quoted where
  isRaw : Bool
  isBytes : Bool
  isFormatted : Bool
  body : List Char
  bodyStart : Nat
deriving DecidableEq, Repr

namespace Quoted

/-- Whether a character is a quote. -/
def isQuote (c : Char) : Bool := c == '\'' || c == '"'

/-- The number of quotes that open a literal. -/
def quoteCount (s : List Char) : Nat :=
  if Lexeme.startsTriple '"' s || Lexeme.startsTriple '\'' s then 3 else 1

/-- The parts of a literal.  The letters stand before the first quote, and as many quotes close
the body as open it; a text too short for that has an empty body. -/
def split (text : List Char) : Quoted :=
  let marks := if text.any isQuote then text.takeWhile fun c => !isQuote c else []
  let rest := text.drop marks.length
  let count := quoteCount rest
  let letters := marks.map Char.toLower
  { isRaw := letters.contains 'r'
    isBytes := letters.contains 'b'
    isFormatted := letters.contains 'f'
    body := (rest.drop count).take (rest.length - count - count)
    bodyStart := byteLength marks + count }

/-- The value of the body of a literal that is not formatted. -/
def decode (q : Quoted) : Except StringFault Text :=
  if q.isRaw then (Escape.decodeRaw q.isBytes q.body).map Text.ofChars
  else Escape.decode q.isBytes q.body

end Quoted

end PythonSyntax
