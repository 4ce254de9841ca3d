/-
Binary floating-point numbers of 64 bits.

A `Binary64` is a word: a sign, an 11-bit exponent field and a 52-bit fraction.  `ofRatio` rounds
a quotient of natural numbers to the nearest of them, a half to the even neighbour, in exact
arithmetic; nothing here depends on the floating-point unit of a machine.
-/

namespace PythonSyntax

/-- A binary64 number, as its bits. -/
structure Binary64 where
  bits : UInt64
deriving DecidableEq, Repr

namespace Binary64

/-! ## The fields of a word -/

/-- The sign bit. -/
def isNegative (x : Binary64) : Bool := x.bits.toNat / Nat.pow 2 63 % 2 == 1

/-- The 11-bit exponent field. -/
def field (x : Binary64) : Nat := x.bits.toNat / Nat.pow 2 52 % Nat.pow 2 11

/-- The 52-bit fraction field. -/
def fraction (x : Binary64) : Nat := x.bits.toNat % Nat.pow 2 52

/-- Whether the word is not a number. -/
def isNaN (x : Binary64) : Bool := x.field == 2047 && x.fraction != 0

/-- Whether the word is an infinity. -/
def isInfinite (x : Binary64) : Bool := x.field == 2047 && x.fraction == 0

/-- The magnitude of a finite word is `significand * 2 ^ exponent`. -/
def significand (x : Binary64) : Nat :=
  if x.field = 0 then x.fraction else Nat.pow 2 52 + x.fraction

/-- The power of two that scales the significand of a finite word. -/
def exponent (x : Binary64) : Int := (max x.field 1 : Nat) - 1075

/-! ## Building words -/

/-- The word of a sign, an exponent field and a fraction, given as one number below `2 ^ 63`. -/
def ofMagnitude (negative : Bool) (magnitude : Nat) : Binary64 :=
  ⟨((if negative then Nat.pow 2 63 else 0) + magnitude).toUInt64⟩

/-- The infinity of a sign. -/
def infinity (negative : Bool) : Binary64 := ofMagnitude negative (2047 * Nat.pow 2 52)

/-- The quiet word that is not a number. -/
def nan : Binary64 := ofMagnitude false (2047 * Nat.pow 2 52 + Nat.pow 2 51)

/-- The zero of a sign. -/
def zero (negative : Bool) : Binary64 := ofMagnitude negative 0

/-! ## Rounding -/

/-- The integer nearest to `num / den`; a half goes to the even neighbour. -/
def roundHalfEven (num den : Nat) : Nat :=
  let low := num / den
  let twice := 2 * (num % den)
  if twice < den then low
  else if den < twice then low + 1
  else if low % 2 = 0 then low else low + 1

/-- The integer nearest to `num / (den * 2 ^ e)`. -/
def roundScaled (num den : Nat) (e : Int) : Nat :=
  if e < 0 then roundHalfEven (num * Nat.pow 2 (-e).toNat) den
  else roundHalfEven num (den * Nat.pow 2 e.toNat)

/-- The exponent of the unit in the last place for `num / den`, which must be positive: the
largest `e` with `2 ^ (e + 52) ≤ num / den`, but at least -1074. -/
def unitExponent (num den : Nat) : Int :=
  let e : Int := (Nat.log2 num : Int) - Nat.log2 den - 52
  let fits : Bool := if e < -52 then den ≤ num * Nat.pow 2 (-(e + 52)).toNat
    else den * Nat.pow 2 (e + 52).toNat ≤ num
  max (-1074) (if fits then e else e - 1)

/-- The word nearest to `num / den`, a half going to the even significand, and the infinity from
half a unit above the largest finite number on. -/
def ofRatio (negative : Bool) (num den : Nat) : Binary64 :=
  if num = 0 then zero negative
  else
    let e := unitExponent num den
    let m := roundScaled num den e
    let magnitude := (e + 1074).toNat * Nat.pow 2 52 + m
    if magnitude < 2047 * Nat.pow 2 52 then ofMagnitude negative magnitude else infinity negative

end Binary64

end PythonSyntax
