import PythonSyntax.Binary64.Shortest
import PythonSyntax.Text

/-
JSON values and their texts.

Objects keep their fields in order.  A string is a `Text`, so it may hold lone surrogates; both
printers write those as escapes, and `lossy` replaces them by U+FFFD for readers that hold only
characters.  A printer puts the text of a value in front of the text that follows it, so that a
statement about a value's text is one about every text that begins with it.
-/

namespace PythonSyntax

/-- A JSON value.  Infinite and not-a-number floats have no text of their own: they are strings
wherever they occur, see `Json.ofBinary64`. -/
inductive Json where
  | null
  | bool (b : Bool)
  | nat (n : Nat)
  | float (x : Binary64)
  | str (t : Text)
  | arr (items : List Json)
  | obj (fields : List (String × Json))
deriving Repr

namespace Json

/-! ## Building values -/

/-- The value of a string. -/
def ofString (s : String) : Json := str (Text.ofString s)

/-- The value of a character: the string of it. -/
def ofChar (c : Char) : Json := ofString (String.singleton c)

/-- The value of a float: a number if it is finite, and otherwise a word. -/
def ofBinary64 (x : Binary64) : Json :=
  if x.isNaN then ofString "nan"
  else if x.isInfinite then ofString (if x.isNegative then "-inf" else "inf")
  else float x

/-- The value, or null. -/
def ofOption (value? : Option Json) : Json := value?.getD null

mutual

/-- The value with U+FFFD for every lone surrogate. -/
def lossy : Json → Json
  | str t => str (Text.ofChars t.lossy)
  | arr items => arr (lossyItems items)
  | obj fields => obj (lossyFields fields)
  | j => j

/-- `lossy` on every item of an array. -/
def lossyItems : List Json → List Json
  | [] => []
  | j :: rest => j.lossy :: lossyItems rest

/-- `lossy` on the value of every field of an object. -/
def lossyFields : List (String × Json) → List (String × Json)
  | [] => []
  | (k, v) :: rest => (k, v.lossy) :: lossyFields rest

end

/-! ## Strings -/

/-- The lower case hexadecimal digit of a number below 16. -/
def hexDigit (n : Nat) : Char := Nat.digitChar (n % 16)

/-- `\u` and four hexadecimal digits. -/
def unicodeEscape (n : Nat) : List Char :=
  ['\\', 'u', hexDigit (n / 4096), hexDigit (n / 256), hexDigit (n / 16), hexDigit n]

/-- The spelling of a code point inside a string: the quote, the backslash, the characters below
U+0020 and the surrogates are escaped, and every other character stands for itself. -/
def escape : CodePoint → List Char
  | .surrogate i => unicodeEscape (0xD800 + i)
  | .scalar c =>
    if c = '"' then ['\\', '"']
    else if c = '\\' then ['\\', '\\']
    else if c = '\x08' then ['\\', 'b']
    else if c = '\t' then ['\\', 't']
    else if c = '\n' then ['\\', 'n']
    else if c = '\x0c' then ['\\', 'f']
    else if c = '\r' then ['\\', 'r']
    else if c.toNat < 0x20 then unicodeEscape c.toNat
    else [c]

/-- A quoted string, in front of `rest`. -/
def writeText (t : Text) (rest : List Char) : List Char :=
  '"' :: t.foldr (fun c r => escape c ++ r) ('"' :: rest)

/-- The text of a value that is neither an array nor an object. -/
def writeScalar (j : Json) (rest : List Char) : List Char :=
  match j with
  | bool true => "true".toList ++ rest
  | bool false => "false".toList ++ rest
  | nat n => (toString n).toList ++ rest
  | float x => x.render ++ rest
  | str t => writeText t rest
  | _ => "null".toList ++ rest

/-! ## Compact text -/

mutual

/-- The compact text of a value, in front of `rest`. -/
def write (j : Json) (rest : List Char) : List Char :=
  match j with
  | arr [] => '[' :: ']' :: rest
  | arr (item :: items) => '[' :: item.write (writeItems items (']' :: rest))
  | obj [] => '{' :: '}' :: rest
  | obj ((k, v) :: fields) =>
    '{' :: writeText (Text.ofString k) (':' :: v.write (writeFields fields ('}' :: rest)))
  | j => j.writeScalar rest

/-- The further items of an array, each after a comma. -/
def writeItems (items : List Json) (rest : List Char) : List Char :=
  match items with
  | [] => rest
  | item :: items => ',' :: item.write (writeItems items rest)

/-- The further fields of an object, each after a comma. -/
def writeFields (fields : List (String × Json)) (rest : List Char) : List Char :=
  match fields with
  | [] => rest
  | (k, v) :: fields =>
    ',' :: writeText (Text.ofString k) (':' :: v.write (writeFields fields rest))

end

/-- The compact text of a value, on one line. -/
def compact (j : Json) : String := String.ofList (j.write [])

/-! ## Indented text -/

/-- A line break and two spaces for every level. -/
def newLine (level : Nat) (rest : List Char) : List Char :=
  '\n' :: (List.replicate (2 * level) ' ' ++ rest)

mutual

/-- The indented text of a value, in front of `rest`: one item or field a line, and nothing
between the brackets of an empty array or object. -/
def writeIndented (level : Nat) (j : Json) (rest : List Char) : List Char :=
  match j with
  | arr [] => '[' :: ']' :: rest
  | arr (item :: items) =>
    '[' :: newLine (level + 1) (item.writeIndented (level + 1)
      (writeIndentedItems (level + 1) items (newLine level (']' :: rest))))
  | obj [] => '{' :: '}' :: rest
  | obj ((k, v) :: fields) =>
    '{' :: newLine (level + 1) (writeText (Text.ofString k) (':' :: ' ' ::
      v.writeIndented (level + 1)
        (writeIndentedFields (level + 1) fields (newLine level ('}' :: rest)))))
  | j => j.writeScalar rest

/-- The further items of an array, each on a line of its own. -/
def writeIndentedItems (level : Nat) (items : List Json) (rest : List Char) : List Char :=
  match items with
  | [] => rest
  | item :: items =>
    ',' :: newLine level (item.writeIndented level (writeIndentedItems level items rest))

/-- The further fields of an object, each on a line of its own. -/
def writeIndentedFields (level : Nat) (fields : List (String × Json)) (rest : List Char) :
    List Char :=
  match fields with
  | [] => rest
  | (k, v) :: fields =>
    ',' :: newLine level (writeText (Text.ofString k) (':' :: ' ' ::
      v.writeIndented level (writeIndentedFields level fields rest)))

end

/-- The indented text of a value, two spaces a level. -/
def pretty (j : Json) : String := String.ofList (j.writeIndented 0 [])

end Json

end PythonSyntax
