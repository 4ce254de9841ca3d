import PythonSyntax.Digits
import PythonSyntax.Unicode.Names.Aliases
import PythonSyntax.Unicode.Names.From00000
import PythonSyntax.Unicode.Names.From00590
import PythonSyntax.Unicode.Names.From01000
import PythonSyntax.Unicode.Names.From01400
import PythonSyntax.Unicode.Names.From02000
import PythonSyntax.Unicode.Names.From02500
import PythonSyntax.Unicode.Names.From03000
import PythonSyntax.Unicode.Names.From0A000
import PythonSyntax.Unicode.Names.From10000
import PythonSyntax.Unicode.Names.From11000
import PythonSyntax.Unicode.Names.From12000
import PythonSyntax.Unicode.Names.From13000
import PythonSyntax.Unicode.Names.From16000
import PythonSyntax.Unicode.Names.From1D000
import PythonSyntax.Unicode.Names.From1E000

/-
The names of Unicode characters.

Most names stand in tables.  The syllables of Hangul are named by their letters, and the
ideographs and some other characters by a word and their code point; both follow rules.
-/

namespace PythonSyntax.Unicode

/-! ## Names in tables -/

/-- The tables of names, in the order of their code points, and then the aliases. -/
def nameTables : List String := [
  namesFrom00000, namesFrom00590, namesFrom01000, namesFrom01400, namesFrom02000, namesFrom02500,
  namesFrom03000, namesFrom0A000, namesFrom10000, namesFrom11000, namesFrom12000, namesFrom13000,
  namesFrom16000, namesFrom1D000, namesFrom1E000, nameAliases]

/-- Looks for a name in the entries of a table.  `next` is the code point of the next name, and `rest?` what
the name goes on with if it begins as the next ones do.  An entry begins with a blank; one with an at sign
after it sets `next`, and one with a plus sign says what the next names begin with. -/
def findEntry? (name : List Char) (next : Nat) (rest? : Option (List Char)) : List String → Option Nat
  | [] => none
  | entry :: entries =>
    match entry.toList with
    | [] | [_] => findEntry? name next rest? entries
    | _ :: '@' :: code => findEntry? name ((natOfDigits? 16 code).getD next) rest? entries
    | _ :: '+' :: start =>
      findEntry? name next (if start.isPrefixOf name then some (name.drop start.length) else none) entries
    | _ :: found => if rest? = some found then some next else findEntry? name (next + 1) rest? entries

/-- Looks for a name in a table. -/
def findName? (name : List Char) (table : String) : Option Nat :=
  findEntry? name 0 (some name) (table.splitOn ";")

/-! ## Names by rule -/

/-- The text after a word, if the text begins with the word. -/
def after? (word : String) (text : List Char) : Option (List Char) :=
  if word.toList.isPrefixOf text then some (text.drop word.length) else none

/-- Whether a number lies in one of the ranges. -/
def liesIn (n : Nat) (ranges : List (Nat × Nat)) : Bool :=
  ranges.any fun r => r.1 ≤ n && n ≤ r.2

/-- The unified ideographs. -/
def ideographRanges : List (Nat × Nat) := [
  (0x3400, 0x4DBF), (0x4E00, 0x9FFF), (0x20000, 0x2A6DF), (0x2A700, 0x2B739),
  (0x2B740, 0x2B81D), (0x2B820, 0x2CEA1), (0x2CEB0, 0x2EBE0), (0x2EBF0, 0x2EE5D),
  (0x30000, 0x3134A), (0x31350, 0x323AF)]

/-- The other characters that are named by a word and their code point. -/
def numberedRanges : List (String × List (Nat × Nat)) := [
  ("CJK COMPATIBILITY IDEOGRAPH-", [(0xF900, 0xFA6D), (0xFA70, 0xFAD9), (0x2F800, 0x2FA1D)]),
  ("EGYPTIAN HIEROGLYPH-", [(0x13460, 0x143FA)]),
  ("KHITAN SMALL SCRIPT CHARACTER-", [(0x18B00, 0x18CD5), (0x18CFF, 0x18CFF)]),
  ("NUSHU CHARACTER-", [(0x1B170, 0x1B2FB)])]

/-- The unified ideograph of at most five hexadecimal digits. -/
def ideograph? (digits : List Char) : Option Nat :=
  if 5 < digits.length then none
  else (natOfDigits? 16 digits).filter fun n => liesIn n ideographRanges

/-- The character of a word and a code point, which is written without leading zeros. -/
def numbered? (name : List Char) : Option Nat :=
  numberedRanges.findSome? fun (word, ranges) => do
    let digits ← after? word name
    let n ← natOfDigits? 16 digits
    if digits.head? != some '0' && liesIn n ranges then some n else none

/-- The letters that may begin a syllable of Hangul, in order. -/
def leadNames : List String := ["G", "GG", "N", "D", "DD", "R", "M", "B", "BB", "S", "SS", "",
  "J", "JJ", "C", "K", "T", "P", "H"]

/-- The vowels of Hangul, in order. -/
def vowelNames : List String := ["A", "AE", "YA", "YAE", "EO", "E", "YEO", "YE", "O", "WA", "WAE",
  "OE", "YO", "U", "WEO", "WE", "WI", "YU", "EU", "YI", "I"]

/-- The letters that may end a syllable of Hangul, in order; none is the first. -/
def tailNames : List String := ["", "G", "GG", "GS", "N", "NJ", "NH", "D", "L", "LG", "LM", "LB",
  "LS", "LT", "LP", "LH", "M", "B", "BS", "S", "SS", "NG", "J", "C", "K", "T", "P", "H"]

/-- The longest of the names that the text begins with: its place in the list, and the rest. -/
def longest? (names : List String) (text : List Char) : Option (Nat × List Char) :=
  let found := names.zipIdx.filter fun (name, _) => name.toList.isPrefixOf text
  let size := (found.map fun (name, _) => name.length).foldl max 0
  (found.find? fun (name, _) => name.length == size).map fun (_, i) => (i, text.drop size)

/-- The syllable of Hangul that the names of its letters spell. -/
def syllable? (letters : List Char) : Option Nat := do
  let (lead, r) ← longest? leadNames letters
  let (vowel, r) ← longest? vowelNames r
  let (tail, r) ← longest? tailNames r
  if r.isEmpty then some (0xAC00 + (lead * 21 + vowel) * 28 + tail) else none

/-! ## All names -/

/-- Whether a character may stand in a name: a capital letter, a digit, a blank or a hyphen. -/
def isNamePart (c : Char) : Bool := c.isUpper || c.isDigit || c == ' ' || c == '-'

/-- The code point of a name in capital letters. -/
def codePointNamed? (name : List Char) : Option Nat :=
  if !name.all isNamePart then none
  else match after? "HANGUL SYLLABLE " name, after? "CJK UNIFIED IDEOGRAPH-" name with
  | some letters, _ => syllable? letters
  | none, some digits => ideograph? digits
  | none, none => (numbered? name).or (nameTables.findSome? (findName? name))

/-- The character of a name, in letters of either case. -/
def characterNamed? (name : List Char) : Option Char :=
  (codePointNamed? (name.map Char.toUpper)).map Char.ofNat

end PythonSyntax.Unicode
