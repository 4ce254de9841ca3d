import PythonSyntax.Lexeme
import PythonSyntax.SyntaxError
import PythonSyntax.Text
import PythonSyntax.Unicode.CharacterName

/-
The values of string bodies.

A body is the text between the quotes of a literal.  In a raw one each character stands for
itself; elsewhere a backslash begins an escape.  A line break of any kind denotes a line feed, and
a bytes literal holds ASCII characters only.
-/

namespace PythonSyntax.Escape

/-! ## Raw bodies -/

/-- The characters of a raw body. -/
def decodeRaw (isBytes : Bool) : List Char → Except StringFault (List Char)
  | [] => .ok []
  | c :: r =>
    if isBytes && 0x80 ≤ c.toNat then .error .nonAsciiBytes
    else if c = '\r' then
      match r with
      | '\n' :: r => (decodeRaw isBytes r).map ('\n' :: ·)
      | r => (decodeRaw isBytes r).map ('\n' :: ·)
    else (decodeRaw isBytes r).map (c :: ·)

/-! ## Single escapes -/

/-- What a letter after a backslash denotes, if the two stand for one character. -/
def simple? (c : Char) : Option Char :=
  match c with
  | '\\' => some '\\'
  | '\'' => some '\''
  | '"' => some '"'
  | 'a' => some '\x07'
  | 'b' => some '\x08'
  | 'f' => some '\x0c'
  | 'n' => some '\n'
  | 'r' => some '\r'
  | 't' => some '\t'
  | 'v' => some '\x0b'
  | _ => none

/-- The code point of a number, which must not lie beyond the last one. -/
def codePoint (n : Nat) : Except StringFault CodePoint :=
  match CodePoint.ofNat? n with
  | some p => .ok p
  | none => .error .beyondUnicode

/-- The number of at most `limit` more octal digits after those of `value`, and their count. -/
def octal (value : Nat) : Nat → List Char → Nat × Nat
  | 0, _ => (value, 0)
  | _ + 1, [] => (value, 0)
  | limit + 1, c :: r =>
    match digitValue? 8 c with
    | some d =>
      let (v, n) := octal (value * 8 + d) limit r
      (v, n + 1)
    | none => (value, 0)

/-- The code point of exactly `count` hexadecimal digits. -/
def hex (count : Nat) (fault : StringFault) (r : List Char) : Except StringFault CodePoint :=
  let digits := r.take count
  match natOfDigits? 16 digits with
  | some n => if digits.length < count then .error fault else codePoint n
  | none => .error fault

/-- A character name in braces: the character, and the length of the name with its braces. -/
def named (r : List Char) : Except StringFault (Char × Nat) :=
  match r with
  | '{' :: r =>
    let name := r.takeWhile (· ≠ '}')
    if name.isEmpty || (r.drop name.length).isEmpty then .error .malformedName
    else match Unicode.characterNamed? name with
      | some c => .ok (c, name.length + 2)
      | none => .error .unknownName
  | _ => .error .malformedName

/-- The escape that begins with `c` after a backslash, and goes on with `r`: what it denotes, and
how many characters of `r` belong to it.  An unknown escape denotes itself, with its backslash. -/
def escape (isBytes : Bool) (c : Char) (r : List Char) : Except StringFault (Text × Nat) :=
  match simple? c with
  | some d => .ok ([.scalar d], 0)
  | none =>
    if c = '\n' then .ok ([], 0)
    else if c = '\r' then .ok ([], if r.head? = some '\n' then 1 else 0)
    else match digitValue? 8 c with
      | some d =>
        let (value, n) := octal d 2 r
        (codePoint (if isBytes then value % 256 else value)).map fun p => ([p], n)
      | none =>
        if c = 'x' then (hex 2 .truncatedByte r).map fun p => ([p], 2)
        else if isBytes then
          if 0x80 ≤ c.toNat then .error .nonAsciiBytes
          else .ok ([.scalar '\\', .scalar c], 0)
        else if c = 'u' then (hex 4 .truncatedShort r).map fun p => ([p], 4)
        else if c = 'U' then (hex 8 .truncatedLong r).map fun p => ([p], 8)
        else if c = 'N' then (named r).map fun (d, n) => ([.scalar d], n)
        else .ok ([.scalar '\\', .scalar c], 0)

/-! ## Bodies with escapes -/

/-- The value of a body, at most `fuel` characters of it. -/
def decodeUpTo (isBytes : Bool) : Nat → List Char → Except StringFault Text
  | 0, _ => .ok []
  | _ + 1, [] => .ok []
  | fuel + 1, c :: r =>
    if c = '\\' then
      match r with
      | [] => .ok [.scalar '\\']
      | d :: r => do
        let (text, n) ← escape isBytes d r
        let rest ← decodeUpTo isBytes fuel (r.drop n)
        return text ++ rest
    else if isBytes && 0x80 ≤ c.toNat then .error .nonAsciiBytes
    else if c = '\r' then
      let r := match r with
        | '\n' :: r => r
        | r => r
      (decodeUpTo isBytes fuel r).map (.scalar '\n' :: ·)
    else (decodeUpTo isBytes fuel r).map (.scalar c :: ·)

/-- The value of a body with escapes. -/
def decode (isBytes : Bool) (body : List Char) : Except StringFault Text :=
  decodeUpTo isBytes body.length body

end PythonSyntax.Escape
