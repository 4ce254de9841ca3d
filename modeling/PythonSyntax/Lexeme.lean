import PythonSyntax.Unicode.Property

/-
Lexemes: the pieces that a text falls into.

Each kind of piece has a measure, the length of the piece of that kind at the front of a text if
there is one.  The kinds are tried in a fixed order and the first that fits is taken; the last one
fits any character, so every text falls into pieces and nothing of it is lost.
-/

namespace PythonSyntax

/-- The kinds of pieces of a text. -/
inductive LexemeKind where
  /-- A backslash and the line break that it hides. -/
  | continuation
  | lineBreak
  | blank
  | comment
  | string
  /-- A quote that opens a string and is never closed. -/
  | openQuote
  | number
  | name
  | op
  /-- A character that begins no other piece. -/
  | stray
deriving DecidableEq, Repr

/-- A piece of a text. -/
structure Lexeme where
  kind : LexemeKind
  text : List Char
deriving DecidableEq, Repr

namespace Lexeme

/-- The length of the piece of some kind at the front of a text, if there is one. -/
abbrev Measure := List Char → Option Nat

/-! ## Combining measures -/

/-- One character of a class. -/
def one (p : Char → Bool) : Measure
  | c :: _ => if p c then some 1 else none
  | [] => none

/-- A piece and then another. -/
def andThen (a b : Measure) : Measure := fun s => do
  let n ← a s
  let m ← b (s.drop n)
  some (n + m)

/-- The first of two alternatives, or the second. -/
def orElse (a b : Measure) : Measure := fun s => (a s).or (b s)

/-- A piece or nothing. -/
def optional (a : Measure) : Measure := fun s => some ((a s).getD 0)

/-- A letter in either case; `c` is the lower case one. -/
def letter (c : Char) : Measure := one fun d => d.toLower == c

/-- Exactly these characters. -/
def exactly (word : List Char) : Measure := fun s =>
  if word.isPrefixOf s then some word.length else none

/-- At least one character of a class. -/
def run (p : Char → Bool) : Measure := fun s =>
  match (s.takeWhile p).length with
  | 0 => none
  | n + 1 => some (n + 1)

/-! ## Lines and blanks -/

/-- A line feed, a carriage return, or the pair. -/
def lineBreak : Measure
  | '\r' :: '\n' :: _ => some 2
  | '\n' :: _ => some 1
  | '\r' :: _ => some 1
  | _ => none

/-- A backslash and the line break after it. -/
def continuation : Measure := andThen (one (· == '\\')) lineBreak

/-- Spaces, tabs and form feeds. -/
def blank : Measure := run fun c => c == ' ' || c == '\t' || c == '\x0c'

/-- A number sign and what follows it on the line. -/
def comment : Measure
  | '#' :: r => some ((r.takeWhile fun c => c != '\n' && c != '\r').length + 1)
  | _ => none

/-! ## Strings -/

/-- Letters before the opening quote of a string, in any case: `r`, `u`, `b`, `f`, or `r` together
with `b` or `f` in either order. -/
def stringMark : Measure :=
  orElse (andThen (letter 'r') (letter 'b')) <|
  orElse (andThen (letter 'b') (letter 'r')) <|
  orElse (andThen (letter 'f') (letter 'r')) <|
  orElse (andThen (letter 'r') (letter 'f')) <|
  one fun c => c.toLower == 'r' || c.toLower == 'u' || c.toLower == 'b' || c.toLower == 'f'

/-- Whether a text begins with three quotes of the kind `q`. -/
def startsTriple (q : Char) (s : List Char) : Bool := [q, q, q].isPrefixOf s

/-- What follows an opening triple quote, through the closing one.  A backslash takes the next
character with it. -/
def closeTriple (q : Char) : Measure
  | [] => none
  | c :: r =>
    if c = '\\' then
      match r with
      | [] => none
      | _ :: r => (closeTriple q r).map (· + 2)
    else if startsTriple q (c :: r) then some 3
    else (closeTriple q r).map (· + 1)

/-- What follows an opening quote, through the closing one on the same line.  A backslash takes
the next character with it, a line break too. -/
def closeSingle (q : Char) : Measure
  | [] => none
  | c :: r =>
    if c = '\\' then
      match r with
      | [] => none
      | _ :: r => (closeSingle q r).map (· + 2)
    else if c = q then some 1
    else if c = '\n' ∨ c = '\r' then none
    else (closeSingle q r).map (· + 1)

/-- The quoted part of a string.  Three quotes in a row always open a triple-quoted one. -/
def quoted : Measure := fun s =>
  if startsTriple '"' s then (closeTriple '"' (s.drop 3)).map (· + 3)
  else if startsTriple '\'' s then (closeTriple '\'' (s.drop 3)).map (· + 3)
  else match s with
    | '"' :: r => (closeSingle '"' r).map (· + 1)
    | '\'' :: r => (closeSingle '\'' r).map (· + 1)
    | _ => none

/-- A string literal. -/
def string : Measure := andThen (optional stringMark) quoted

/-- The opening of a string, with nothing known of its end. -/
def openQuote : Measure :=
  andThen (optional stringMark) <|
    orElse (exactly ['"', '"', '"']) <|
    orElse (exactly ['\'', '\'', '\'']) <|
    one fun c => c == '"' || c == '\''

/-! ## Numbers -/

/-- Digits of a class, each with at most one underscore before it. -/
def digitsAfter (p : Char → Bool) : List Char → Nat
  | [] => 0
  | c :: r =>
    if p c then digitsAfter p r + 1
    else if c = '_' then
      match r with
      | [] => 0
      | d :: r => if p d then digitsAfter p r + 2 else 0
    else 0

/-- Whether a character is an octal digit. -/
def isOctal (c : Char) : Bool := '0' ≤ c && c ≤ '7'

/-- Whether a character is a binary digit. -/
def isBinary (c : Char) : Bool := c == '0' || c == '1'

/-- Whether a character is a hexadecimal digit. -/
def isHex (c : Char) : Bool := c.isDigit || ('a' ≤ c && c ≤ 'f') || ('A' ≤ c && c ≤ 'F')

/-- Decimal digits; underscores may stand between them. -/
def digits : Measure := andThen (one Char.isDigit) fun s => some (digitsAfter Char.isDigit s)

/-- `0`, a letter that names the base, and digits of the base. -/
def based (mark : Char) (p : Char → Bool) : Measure :=
  andThen (one (· == '0')) <| andThen (letter mark) fun s =>
    match digitsAfter p s with
    | 0 => none
    | n + 1 => some (n + 1)

/-- An exponent. -/
def exponent : Measure :=
  andThen (letter 'e') <| andThen (optional (one fun c => c == '+' || c == '-')) digits

/-- A point with digits before it, after it, or both. -/
def pointed : Measure :=
  orElse (andThen (optional digits) (andThen (one (· == '.')) digits))
    (andThen digits (one (· == '.')))

/-- A number with a point, an exponent, or both. -/
def float : Measure :=
  orElse (andThen pointed (optional exponent)) (andThen digits exponent)

/-- A numeric literal. -/
def number : Measure :=
  orElse (andThen (orElse float digits) (letter 'j')) <|
  orElse (based 'x' isHex) <|
  orElse (based 'o' isOctal) <|
  orElse (based 'b' isBinary) <|
  orElse float digits

/-! ## Names and operators -/

/-- A name, reserved or not. -/
def name : Measure
  | c :: r =>
    if Unicode.isIdentifierStart c || c == '_' then
      some ((r.takeWhile Unicode.isIdentifierContinue).length + 1)
    else none
  | [] => none

/-- The operators and delimiters, longer ones first. -/
def operators : List (List Char) := [
  ['*', '*', '='], ['/', '/', '='], ['>', '>', '='], ['<', '<', '='], ['.', '.', '.'],
  ['-', '>'], [':', '='], ['*', '*'], ['/', '/'], ['>', '>'], ['<', '<'], ['<', '='],
  ['>', '='], ['=', '='], ['!', '='], ['+', '='], ['-', '='], ['*', '='], ['/', '='],
  ['%', '='], ['&', '='], ['|', '='], ['^', '='], ['@', '='],
  ['+'], ['-'], ['*'], ['/'], ['%'], ['@'], ['&'], ['|'], ['^'], ['~'],
  ['<'], ['>'], ['('], [')'], ['['], [']'], ['{'], ['}'],
  [','], [':'], ['.'], [';'], ['=']]

/-- An operator or delimiter. -/
def op : Measure := fun s => (operators.find? (·.isPrefixOf s)).map List.length

/-! ## Splitting a text -/

/-- The kinds in the order in which they are tried, with their measures. -/
def kinds : List (LexemeKind × Measure) := [
  (.continuation, continuation), (.lineBreak, lineBreak), (.blank, blank),
  (.comment, comment), (.string, string), (.openQuote, openQuote), (.number, number),
  (.name, name), (.op, op), (.stray, one fun _ => true)]

/-- The kind and length of the piece at the front of a text. -/
def front? (s : List Char) : Option (LexemeKind × Nat) :=
  kinds.findSome? fun (kind, measure) => (measure s).map fun n => (kind, n)

/-- The pieces of a text, at most `fuel` of them. -/
def split : Nat → List Char → List Lexeme
  | 0, _ => []
  | fuel + 1, s =>
    match front? s with
    | none => []
    | some (kind, n) => ⟨kind, s.take n⟩ :: split fuel (s.drop n)

end Lexeme

/-- The pieces of a text, in order.  A piece has at least one character, so there are at most as
many as characters. -/
def lexemes (s : List Char) : List Lexeme := Lexeme.split s.length s

end PythonSyntax
