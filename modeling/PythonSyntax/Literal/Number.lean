import PythonSyntax.Binary64.Numeral
import PythonSyntax.SyntaxError
import PythonSyntax.Tree.Constant

/-
The values of numeric literals.

Underscores have no value and letters count in either case.  An integer below 2^64 is a number; a
larger one stays text.  An integer in base ten has no leading zeros unless it is zero.
-/

namespace PythonSyntax.Number

/-- The text of a literal without its underscores. -/
def clean (text : List Char) : List Char := text.filter (· ≠ '_')

/-- The number that digits denote in a base; a plus sign may stand in front. -/
def natOfText? (base : Nat) (cs : List Char) : Option Nat :=
  match cs with
  | '+' :: r => natOfDigits? base r
  | r => natOfDigits? base r

/-- The base of an integer that begins with `0` and a letter, and its digits. -/
def splitBase? : List Char → Option (Nat × List Char)
  | '0' :: 'x' :: r => some (16, r)
  | '0' :: 'o' :: r => some (8, r)
  | '0' :: 'b' :: r => some (2, r)
  | _ => none

/-- The text before a final `j`. -/
def imaginary? (cs : List Char) : Option (List Char) :=
  match cs.reverse with
  | 'j' :: r => some r.reverse
  | _ => none

/-- The number that a text denotes, or the fault that it has none. -/
def float (cs : List Char) : Except NumberFault Binary64 :=
  match Binary64.ofText? cs with
  | some x => .ok x
  | none => .error (.malformed (String.ofList cs))

/-- Whether a text in base ten begins with a zero that it should not have. -/
def hasLeadingZero (cs : List Char) : Bool :=
  1 < cs.length && cs.head? == some '0' && cs.any (· ≠ '0')

/-- The value of a numeric literal. -/
def parse (text : List Char) : Except NumberFault Constant :=
  let digits := clean text
  let lower := digits.map Char.toLower
  match imaginary? lower with
  | some cs => (float cs).map .complex
  | none =>
    match splitBase? lower with
    | some (base, cs) => .ok (.ofNat? (natOfText? base cs) (String.ofList digits))
    | none =>
      if lower.any fun c => c == '.' || c == 'e' then (float lower).map .float
      else if hasLeadingZero lower then .error .leadingZeros
      else .ok (.ofNat? (natOfText? 10 lower) (String.ofList digits))

end PythonSyntax.Number
