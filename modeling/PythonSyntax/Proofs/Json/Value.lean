import Mathlib.Logic.Basic
import PythonSyntax.Digits
import PythonSyntax.Json

/-
What a JSON text says.

`JsonValue.read` is a reader of JSON texts that knows nothing of the printers.  It keeps the members
of an object in order, repeated keys included, and a number as the token that stands for it.  Every
escape of a string is read by itself, so the escape of a surrogate is that surrogate, and a reader
that holds only characters puts U+FFFD in its place: `lossy`.
-/

namespace PythonSyntax

/-- What a JSON text says. -/
inductive JsonValue where
  | null
  | bool (b : Bool)
  | number (token : List Char)
  | string (t : Text)
  | array (items : List JsonValue)
  | object (members : List (Text × JsonValue))

namespace JsonValue

mutual

/-- The value with U+FFFD for every lone surrogate of a string. -/
def lossy : JsonValue → JsonValue
  | string t => string (Text.ofChars t.lossy)
  | array items => array (lossyItems items)
  | object members => object (lossyMembers members)
  | v => v

/-- `lossy` on every item of an array. -/
def lossyItems : List JsonValue → List JsonValue
  | [] => []
  | v :: vs => v.lossy :: lossyItems vs

/-- `lossy` on the value of every member of an object. -/
def lossyMembers : List (Text × JsonValue) → List (Text × JsonValue)
  | [] => []
  | (k, v) :: ms => (k, v.lossy) :: lossyMembers ms

end

/-! ## Reading -/

/-- White space between tokens. -/
def isSpace (c : Char) : Bool := c == ' ' || c == '\t' || c == '\n' || c == '\r'

/-- A text from its first token on. -/
def skipSpace (s : List Char) : List Char := s.dropWhile isSpace

/-- The character that a letter after a backslash stands for. -/
def escaped? (c : Char) : Option Char :=
  if c = '"' ∨ c = '\\' ∨ c = '/' then some c
  else if c = 'b' then some '\x08'
  else if c = 'f' then some '\x0c'
  else if c = 'n' then some '\n'
  else if c = 'r' then some '\r'
  else if c = 't' then some '\t'
  else none

/-- A code point in front of what is read after it. -/
def consPoint (p? : Option CodePoint) (rest : Option (Text × List Char)) :
    Option (Text × List Char) := do
  let p ← p?
  let (t, r) ← rest
  return (p :: t, r)

/-- A string, from just after its opening quote through the closing one. -/
def readString : List Char → Option (Text × List Char)
  | [] => none
  | c :: r =>
    if c = '"' then some ([], r)
    else if c = '\\' then
      match r with
      | 'u' :: c₁ :: c₂ :: c₃ :: c₄ :: r =>
        consPoint (natOfDigits? 16 [c₁, c₂, c₃, c₄] >>= CodePoint.ofNat?) (readString r)
      | c :: r => consPoint ((escaped? c).map .scalar) (readString r)
      | [] => none
    else if c.toNat < 0x20 then none
    else consPoint (some (.scalar c)) (readString r)

/-- The characters of numbers. -/
def isNumberChar (c : Char) : Bool :=
  c.isDigit || c == '-' || c == '+' || c == '.' || c == 'e' || c == 'E'

/-- A word or a number. -/
def readScalar (s : List Char) : Option (JsonValue × List Char) :=
  if ['t', 'r', 'u', 'e'].isPrefixOf s then some (bool true, s.drop 4)
  else if ['f', 'a', 'l', 's', 'e'].isPrefixOf s then some (bool false, s.drop 5)
  else if ['n', 'u', 'l', 'l'].isPrefixOf s then some (null, s.drop 4)
  else
    let token := s.takeWhile isNumberChar
    if token.isEmpty then none else some (number token, s.drop token.length)

mutual

/-- A value at the front of a text, and the rest.  Arrays and objects may nest, and have as many
entries, as the fuel allows. -/
def readValue : Nat → List Char → Option (JsonValue × List Char)
  | 0, _ => none
  | fuel + 1, s =>
    match skipSpace s with
    | [] => none
    | c :: r =>
      if c = '"' then (readString r).map fun (t, r) => (string t, r)
      else if c = '[' then
        match skipSpace r with
        | ']' :: r => some (array [], r)
        | r => do
          let (v, r) ← readValue fuel r
          let (vs, r) ← readItems fuel r
          return (array (v :: vs), r)
      else if c = '{' then
        match skipSpace r with
        | '}' :: r => some (object [], r)
        | r => do
          let (m, r) ← readMember fuel r
          let (ms, r) ← readMembers fuel r
          return (object (m :: ms), r)
      else readScalar (c :: r)

/-- The further items of an array, each after a comma, and its end. -/
def readItems : Nat → List Char → Option (List JsonValue × List Char)
  | 0, _ => none
  | fuel + 1, s =>
    match skipSpace s with
    | ']' :: r => some ([], r)
    | ',' :: r => do
      let (v, r) ← readValue fuel r
      let (vs, r) ← readItems fuel r
      return (v :: vs, r)
    | _ => none

/-- A member of an object. -/
def readMember : Nat → List Char → Option ((Text × JsonValue) × List Char)
  | 0, _ => none
  | fuel + 1, s =>
    match skipSpace s with
    | '"' :: r => do
      let (k, r) ← readString r
      match skipSpace r with
      | ':' :: r => do
        let (v, r) ← readValue fuel r
        return ((k, v), r)
      | _ => none
    | _ => none

/-- The further members of an object, each after a comma, and its end. -/
def readMembers : Nat → List Char → Option (List (Text × JsonValue) × List Char)
  | 0, _ => none
  | fuel + 1, s =>
    match skipSpace s with
    | '}' :: r => some ([], r)
    | ',' :: r => do
      let (m, r) ← readMember fuel r
      let (ms, r) ← readMembers fuel r
      return (m :: ms, r)
    | _ => none

end

/-- What a text says, if it is JSON: one value and nothing after it.  A text has at least as many
characters as levels and entries. -/
def read (s : List Char) : Option JsonValue := do
  let (v, r) ← readValue s.length s
  if (skipSpace r).isEmpty then some v else none

end JsonValue

/-! ## The meaning of values -/

namespace Json

mutual

/-- What a text of a value says. -/
def value : Json → JsonValue
  | null => .null
  | bool b => .bool b
  | nat n => .number (toString n).toList
  | float x => .number x.render
  | str t => .string t
  | arr items => .array (valueItems items)
  | obj fields => .object (valueFields fields)

/-- `value` of every item of an array. -/
def valueItems : List Json → List JsonValue
  | [] => []
  | j :: js => j.value :: valueItems js

/-- `value` of every field of an object. -/
def valueFields : List (String × Json) → List (Text × JsonValue)
  | [] => []
  | (k, v) :: fields => (Text.ofString k, v.value) :: valueFields fields

end

theorem valueItems_eq (js : List Json) : valueItems js = js.map value := by
  induction js with
  | nil => rfl
  | cons j js ih => rw [valueItems, ih, List.map_cons]

theorem valueFields_eq (fields : List (String × Json)) :
    valueFields fields = fields.map fun f => (Text.ofString f.1, f.2.value) := by
  induction fields with
  | nil => rfl
  | cons f fields ih => rw [valueFields, ih, List.map_cons]

mutual

/-- Surrogates may be replaced before a value is written or after its text is read. -/
theorem value_lossy : ∀ j : Json, j.lossy.value = j.value.lossy
  | null | bool _ | nat _ | float _ | str _ => rfl
  | arr items => congrArg JsonValue.array (valueItems_lossy items)
  | obj fields => congrArg JsonValue.object (valueFields_lossy fields)

theorem valueItems_lossy : ∀ js : List Json,
    valueItems (lossyItems js) = JsonValue.lossyItems (valueItems js)
  | [] => rfl
  | j :: js => congrArg₂ List.cons (value_lossy j) (valueItems_lossy js)

theorem valueFields_lossy : ∀ fields : List (String × Json),
    valueFields (lossyFields fields) = JsonValue.lossyMembers (valueFields fields)
  | [] => rfl
  | (k, v) :: fields =>
    congrArg₂ List.cons (congrArg (Prod.mk (Text.ofString k)) (value_lossy v))
      (valueFields_lossy fields)

end

end Json

end PythonSyntax
