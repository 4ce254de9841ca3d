import PythonSyntax.Binary64
import PythonSyntax.Text

/-
The values of literals.
-/

namespace PythonSyntax

/-- The value of a literal. -/
inductive Constant where
  | none
  | bool (value : Bool)
  /-- An integer below 2^64. -/
  | int (value : UInt64)
  /-- An integer that takes more than 64 bits, as its text without underscores. -/
  | bigInt (text : String)
  | float (value : Binary64)
  /-- An imaginary number, by its imaginary part. -/
  | complex (imaginary : Binary64)
  | str (value : Text)
  /-- A byte string; each byte is the character with its number. -/
  | bytes (value : List Char)
  | ellipsis
deriving DecidableEq, Repr

namespace Constant

/-- The integer of a number that fits in 64 bits, or else of its text. -/
def ofNat? (n? : Option Nat) (text : String) : Constant :=
  match n? with
  | some n => if n < UInt64.size then int n.toUInt64 else bigInt text
  | Option.none => bigInt text

/-- The name of the value's type. -/
def kind : Constant → String
  | none => "None"
  | bool _ => "bool"
  | int _ | bigInt _ => "int"
  | float _ => "float"
  | complex _ => "complex"
  | str _ => "str"
  | bytes _ => "bytes"
  | ellipsis => "Ellipsis"

end Constant

end PythonSyntax
