import PythonSyntax.Digits
import PythonSyntax.Unicode.CombiningClasses
import PythonSyntax.Unicode.Compositions
import PythonSyntax.Unicode.Decompositions

/-
Normalization form KC.

A text is taken apart into characters that stand for nothing else, the marks after each base
character are put in the order of their combining classes, and then each base character takes up
the marks that compose with it.
-/

namespace PythonSyntax.Unicode

/-! ## Taking apart -/

/-- One entry of the decomposition data: a code point and what it stands for. -/
def readDecomposition? (entry : List Char) : Option (Nat × List Nat) :=
  match entry.splitOn '=' with
  | [code, parts] => do
    let n ← natOfDigits? 16 code
    let ns ← (parts.splitOn ' ').mapM (natOfDigits? 16)
    some (n, ns)
  | _ => none

/-- One line of the decomposition data: entries with a semicolon between any two. -/
def readDecompositions (line : String) : List (Nat × List Nat) :=
  (line.toList.splitOn ';').filterMap fun entry =>
    readDecomposition? (entry.dropWhile (· == ' '))

/-- The decomposition data, read. -/
def decompositions : List (Nat × List Nat) := decompositionLines.flatMap readDecompositions

/-- The first syllable of Hangul; the syllables run through all leads, vowels and tails. -/
def hangulBase : Nat := 0xAC00

/-- The number of Hangul syllables. -/
def hangulCount : Nat := 19 * 21 * 28

/-- The character before the first lead, the first vowel and the first tail of Hangul. -/
def hangulLead : Nat := 0x1100

/-- The first vowel of Hangul. -/
def hangulVowel : Nat := 0x1161

/-- The code point before the first tail of Hangul. -/
def hangulTail : Nat := 0x11A7

/-- What a code point stands for, in full. -/
def decompose (n : Nat) : List Nat :=
  if n < 0x80 then [n]
  else if hangulBase ≤ n ∧ n < hangulBase + hangulCount then
    let i := n - hangulBase
    let tail := if i % 28 = 0 then [] else [hangulTail + i % 28]
    (hangulLead + i / 588) :: (hangulVowel + i % 588 / 28) :: tail
  else ((decompositions.find? (·.1 == n)).map Prod.snd).getD [n]

/-! ## Ordering -/

/-- The canonical combining class of a code point. -/
def combiningClass (n : Nat) : Nat :=
  if n < 0x300 then 0
  else ((combiningClassRanges.find? fun r => r.1 ≤ n && n ≤ r.2.1).map (·.2.2)).getD 0

/-- Puts a code point in front of an ordered text; a mark goes past the marks of lower class. -/
def insertMark (n : Nat) : List Nat → List Nat
  | [] => [n]
  | m :: ms =>
    if combiningClass m ≠ 0 ∧ combiningClass m < combiningClass n then m :: insertMark n ms
    else n :: m :: ms

/-- The marks after each base character in the order of their classes. -/
def orderMarks (ns : List Nat) : List Nat := ns.foldr insertMark []

/-! ## Composing -/

/-- What two neighbouring code points make together. -/
def composePair? (a b : Nat) : Option Nat :=
  if hangulLead ≤ a ∧ a < hangulLead + 19 ∧ hangulVowel ≤ b ∧ b < hangulVowel + 21 then
    some (hangulBase + ((a - hangulLead) * 21 + (b - hangulVowel)) * 28)
  else if hangulBase ≤ a ∧ a < hangulBase + hangulCount ∧ (a - hangulBase) % 28 = 0
      ∧ hangulTail < b ∧ b < hangulTail + 28 then
    some (a + (b - hangulTail))
  else (compositions.find? fun c => c.1 == a && c.2.1 == b).map (·.2.2)

/-- Composes a text after a base character, with the marks that the base could not take up, last
one first.  A mark is out of reach behind one of its own or a higher class. -/
def composeAfter (base : Nat) (marks : List Nat) : List Nat → List Nat
  | [] => base :: marks.reverse
  | n :: ns =>
    let inReach := match marks with
      | [] => true
      | m :: _ => combiningClass m < combiningClass n
    match (if inReach then composePair? base n else none) with
    | some c => composeAfter c marks ns
    | none =>
      if combiningClass n = 0 then base :: marks.reverse ++ composeAfter n [] ns
      else composeAfter base (n :: marks) ns

/-- Composes a text; marks before the first base character stay as they are. -/
def compose : List Nat → List Nat
  | [] => []
  | n :: ns => if combiningClass n = 0 then composeAfter n [] ns else n :: compose ns

/-- Normalization form KC of a text. -/
def normalizeKC (cs : List Char) : List Char :=
  (compose (orderMarks (cs.flatMap fun c => decompose c.toNat))).map Char.ofNat

end PythonSyntax.Unicode

namespace PythonSyntax

/-- The spelling under which an identifier is known: texts that differ only in compatibility are
the same identifier, and ASCII text is its own normal form. -/
def normalizeIdentifier (text : String) : String :=
  if text.toList.all fun c => c.toNat < 0x80 then text
  else String.ofList (Unicode.normalizeKC text.toList)

end PythonSyntax
