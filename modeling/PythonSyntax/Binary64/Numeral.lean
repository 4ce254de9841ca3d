import PythonSyntax.Binary64
import PythonSyntax.Digits

/-
Reading a binary64 number from its decimal text.

The text is an optional sign, then `inf`, `infinity` or `nan` in any case, or digits with an
optional point and an optional exponent; a digit must stand before or after the point, and one
after the `e`.  `Binary64.ofText?` is the number nearest to what the text says.
-/

namespace PythonSyntax.Binary64

/-- A leading sign, and the text after it. -/
def splitSign : List Char → Bool × List Char
  | '+' :: r => (false, r)
  | '-' :: r => (true, r)
  | r => (false, r)

/-- The digits in front, and the rest. -/
def splitDigits (cs : List Char) : List Char × List Char := cs.span Char.isDigit

/-- An exponent: `e` or `E`, an optional sign, and digits up to the end.  No exponent is 0. -/
def exponent? : List Char → Option Int
  | [] => some 0
  | c :: r =>
    if c = 'e' ∨ c = 'E' then
      let (negative, digits) := splitSign r
      (natOfDigits? 10 digits).map fun n => if negative then -(n : Int) else n
    else none

/-- The number nearest to `digits * 10 ^ exponent`.  Outside the decades that a finite number
can reach the answer is known without computing the power. -/
def ofDecimal (negative : Bool) (digits : Nat) (exponent : Int) : Binary64 :=
  let decade : Int := (toString digits).length + exponent
  if digits = 0 ∨ decade < -330 then zero negative
  else if 310 < decade then infinity negative
  else if exponent < 0 then ofRatio negative digits (Nat.pow 10 (-exponent).toNat)
  else ofRatio negative (digits * Nat.pow 10 exponent.toNat) 1

/-- An unsigned decimal numeral: digits, an optional point with digits, an optional exponent. -/
def ofNumeral? (negative : Bool) (cs : List Char) : Option Binary64 :=
  let (whole, r) := splitDigits cs
  let (part, r) := match r with
    | '.' :: r => splitDigits r
    | r => ([], r)
  match natOfDigits? 10 (whole ++ part), exponent? r with
  | some n, some e => some (ofDecimal negative n (e - part.length))
  | _, _ => none

/-- The number that a text denotes. -/
def ofText? (cs : List Char) : Option Binary64 :=
  let (negative, r) := splitSign cs
  let word := String.ofList (r.map Char.toLower)
  if word = "inf" ∨ word = "infinity" then some (infinity negative)
  else if word = "nan" then some nan
  else ofNumeral? negative r

end PythonSyntax.Binary64
