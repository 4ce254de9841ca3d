/-
Text as a sequence of code points.

A string literal may denote any sequence of code points, lone surrogates included, which a
`String` cannot hold.  A `Text` is the sequence itself: it is joined with `++`, its `lossy` view
puts U+FFFD where a surrogate stands, and `toString?` is the text as a `String` when it has none.
-/

namespace PythonSyntax

/-- A Unicode code point: a character, or one of the 2048 surrogates from U+D800 on. -/
inductive CodePoint where
  | scalar (c : Char)
  | surrogate (index : Fin 2048)
deriving DecidableEq, Repr

namespace CodePoint

/-- The number of a code point, below 0x110000. -/
def value : CodePoint → Nat
  | scalar c => c.toNat
  | surrogate i => 0xD800 + i

/-- The code point of a number, if there is one. -/
def ofNat? (n : Nat) : Option CodePoint :=
  if n.isValidChar then some (scalar (Char.ofNat n))
  else if h : 0xD800 ≤ n ∧ n < 0xE000 then some (surrogate ⟨n - 0xD800, by omega⟩)
  else none

/-- The character itself, or U+FFFD for a surrogate. -/
def lossy : CodePoint → Char
  | scalar c => c
  | surrogate _ => '\uFFFD'

/-- Whether the code point is no character. -/
def isSurrogate : CodePoint → Bool
  | scalar _ => false
  | surrogate _ => true

/-- The character, if it is one. -/
def toChar? : CodePoint → Option Char
  | scalar c => some c
  | surrogate _ => none

end CodePoint

/-- A sequence of code points. -/
abbrev Text := List CodePoint

namespace Text

/-- The text of a list of characters. -/
def ofChars (cs : List Char) : Text := cs.map .scalar

/-- The text of a string. -/
def ofString (s : String) : Text := ofChars s.toList

/-- The characters, with U+FFFD for each surrogate. -/
def lossy (t : Text) : List Char := t.map CodePoint.lossy

/-- Whether any surrogate stands in the text. -/
def hasSurrogates (t : Text) : Bool := t.any CodePoint.isSurrogate

/-- The text as a string, when it holds no surrogate. -/
def toString? (t : Text) : Option String := (t.mapM CodePoint.toChar?).map String.ofList

theorem ofChars_append (a b : List Char) : ofChars (a ++ b) = ofChars a ++ ofChars b :=
  List.map_append

theorem lossy_ofChars (cs : List Char) : lossy (ofChars cs) = cs := by
  simp [lossy, ofChars, CodePoint.lossy, Function.comp_def]

end Text

end PythonSyntax
