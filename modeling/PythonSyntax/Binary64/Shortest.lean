import PythonSyntax.Binary64

/-
The shortest decimal text of a binary64 number.

Every finite number is written with the fewest digits that read back as the same number, and of
those with the digits nearest to it.  `decimal` finds the digits in exact arithmetic: it tries
1, 2, ... 17 digits, and on each grid tests the two points around the number against the interval
of reals that round to it.  `render` lays the digits out: positional from 10^-5 up to 10^16, with
at least one digit after the point, and with an exponent outside.
-/

namespace PythonSyntax.Binary64

/-! ## The digits -/

/-- The reals that round to a number, with everything in quarters of its unit in the last place:
the number is `value`, the ends are `low` and `high`, and they belong to it iff `closed`.  A
quarter unit is `num / den`. -/
structure Rounding where
  value : Nat
  low : Nat
  high : Nat
  closed : Bool
  num : Nat
  den : Nat

/-- The rounding interval of a finite number.  Below a power of two the gap is half as wide. -/
def rounding (x : Binary64) : Rounding :=
  let m := x.significand
  let quarter := x.exponent - 2
  { value := 4 * m
    low := if x.fraction = 0 ∧ 1 < x.field then 4 * m - 1 else 4 * m - 2
    high := 4 * m + 2
    closed := m % 2 == 0
    num := Nat.pow 2 quarter.toNat
    den := Nat.pow 2 (-quarter).toNat }

/-- A grid of decimal numbers: the multiples of `10 ^ exponent`, as `num / den`. -/
def gridNum (exponent : Int) : Nat := Nat.pow 10 exponent.toNat

/-- The denominator of a grid's step. -/
def gridDen (exponent : Int) : Nat := Nat.pow 10 (-exponent).toNat

namespace Rounding

/-- The real `q * num / den` on the scale where the grid point `j` is `point j`. -/
def scaled (r : Rounding) (e : Int) (q : Nat) : Nat := q * r.num * gridDen e

/-- The grid point `j` on the scale of `scaled`. -/
def point (r : Rounding) (e : Int) (j : Nat) : Nat := j * gridNum e * r.den

/-- Whether the grid point `j` rounds to the number. -/
def holds (r : Rounding) (e : Int) (j : Nat) : Bool :=
  let p := r.point e j
  if r.closed then r.scaled e r.low ≤ p && p ≤ r.scaled e r.high
  else r.scaled e r.low < p && p < r.scaled e r.high

/-- The nearer of the two grid points around the number that rounds to it; of two equally near
ones the even one. -/
def nearest? (r : Rounding) (e : Int) : Option Nat :=
  let v := r.scaled e r.value
  let j := v / r.point e 1
  match r.holds e j, r.holds e (j + 1) with
  | false, false => none
  | true, false => some j
  | false, true => some (j + 1)
  | true, true =>
    let below := v - r.point e j
    let above := r.point e (j + 1) - v
    if below < above then some j
    else if above < below then some (j + 1)
    else if j % 2 = 0 then some j else some (j + 1)

/-- The power of ten of the first digit: the largest `e` with `10 ^ e` at most the number, which
must be positive. -/
def decade (r : Rounding) : Int :=
  let shift : Nat := 330
  ((toString (r.value * r.num * Nat.pow 10 shift / r.den)).length : Int) - 1 - shift

/-- The first grid with a point that rounds to the number, from coarse to fine: the point and the
grid's exponent. -/
def search (r : Rounding) : Nat → Int → Nat × Int
  | 0, e => (r.value * r.num * gridDen e / (r.den * gridNum e), e)
  | n + 1, e => match r.nearest? e with
    | some j => (j, e)
    | none => r.search n (e - 1)

end Rounding

/-- The shortest decimal `digits * 10 ^ exponent` of a positive finite number.  Seventeen digits
always suffice. -/
def decimal (x : Binary64) : Nat × Int :=
  let r := x.rounding
  r.search 17 r.decade

/-! ## The layout -/

/-- A list of digits without its zeros at the end. -/
def trimZeros (ds : List Char) : List Char := (ds.reverse.dropWhile (· == '0')).reverse

/-- The text of `0.ddd... * 10 ^ (e + 1)` for digits `ds`, the first of which is not zero. -/
def layout (ds : List Char) (e : Int) : List Char :=
  if -5 ≤ e ∧ e ≤ 15 then
    if e < 0 then
      '0' :: '.' :: List.replicate (-e - 1).toNat '0' ++ ds
    else
      let whole := e.toNat + 1
      let part := ds.drop whole
      ds.take whole ++ List.replicate (whole - ds.length) '0'
        ++ '.' :: (if part.isEmpty then ['0'] else part)
  else
    let head := match ds with
      | [] => []
      | [d] => [d]
      | d :: r => d :: '.' :: r
    head ++ 'e' :: (if e < 0 then '-' else '+') :: (toString e.natAbs).toList

/-- The text of a finite number. -/
def render (x : Binary64) : List Char :=
  let sign := if x.isNegative then ['-'] else []
  if x.significand = 0 then sign ++ ['0', '.', '0']
  else
    let (n, e) := x.decimal
    let ds := (toString n).toList
    sign ++ layout (trimZeros ds) (e + ds.length - 1)

end PythonSyntax.Binary64
