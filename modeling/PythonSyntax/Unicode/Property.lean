import PythonSyntax.Unicode.IdentifierRanges

/-
Properties of characters.

`isIdentifierStart` is the Unicode property XID_Start, `isIdentifierContinue` the property
XID_Continue, and `isWhiteSpace` the property White_Space.  For identifiers ASCII has rules of its own
here, so that a statement about ASCII text does not depend on the tables.
-/

namespace PythonSyntax.Unicode

/-- Whether a code point lies in one of the ranges. -/
def inRanges (n : Nat) (ranges : List (Nat × Nat)) : Bool :=
  ranges.any fun r => r.1 ≤ n && n ≤ r.2

/-- XID_Start: the letters, and what counts as one. -/
def isIdentifierStart (c : Char) : Bool :=
  if c.toNat < 0x80 then c.isAlpha else inRanges c.toNat startRanges

/-- XID_Continue: also digits, marks and connectors such as the underscore. -/
def isIdentifierContinue (c : Char) : Bool :=
  if c.toNat < 0x80 then c.isAlphanum || c == '_'
  else inRanges c.toNat startRanges || inRanges c.toNat continueOnlyRanges

/-- Whether a character is white space: the blanks and breaks of ASCII, and those of the rest of
Unicode. -/
def isWhiteSpace (c : Char) : Bool :=
  let n := c.toNat
  (0x09 ≤ n && n ≤ 0x0D) || n == 0x20 || n == 0x85 || n == 0xA0 || n == 0x1680
    || (0x2000 ≤ n && n ≤ 0x200A) || n == 0x2028 || n == 0x2029 || n == 0x202F || n == 0x205F
    || n == 0x3000

end PythonSyntax.Unicode
