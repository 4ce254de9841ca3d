/-
Patterns that select file names.

A pattern is a regular expression: characters, the dot, classes in brackets, groups, alternatives,
the repetitions `*`, `+` and `?`, and the anchors `^` and `$`.  It matches a text if any part of
the text, the empty part included, has the form that it describes.
-/

namespace PythonSyntax

/-- A regular expression over characters. -/
inductive Pattern where
  | empty
  /-- Any character but a line feed. -/
  | anyInLine
  /-- A character inside one of some ranges, or if negated inside none of them. -/
  | oneOf (negated : Bool) (ranges : List (Char × Char))
  | textStart
  | textStop
  | seq (first second : Pattern)
  | alt (left right : Pattern)
  | star (p : Pattern)
deriving DecidableEq, Repr

namespace Pattern

/-- A single character. -/
def char (c : Char) : Pattern := oneOf false [(c, c)]

/-- The pattern or nothing. -/
def optional (p : Pattern) : Pattern := alt p empty

/-- The pattern at least once. -/
def plus (p : Pattern) : Pattern := seq p (star p)

/-! ## Matching -/

/-- Whether a character is in a class. -/
def inClass (negated : Bool) (ranges : List (Char × Char)) (c : Char) : Bool :=
  (ranges.any fun r => r.1 ≤ c && c ≤ r.2) != negated

/-- The places that a relation reaches from some places in at most `n` steps. -/
def reach (next : Nat → List Nat) : Nat → List Nat → List Nat
  | 0, places => places
  | n + 1, places => reach next n (places ++ places.flatMap next).eraseDups

/-- The places of a text where a part may end that begins at `i` and has the form of the
pattern. -/
def ends (text : Array Char) : Pattern → Nat → List Nat
  | empty, i => [i]
  | anyInLine, i =>
    match text[i]? with
    | some c => if c = '\n' then [] else [i + 1]
    | none => []
  | oneOf negated ranges, i =>
    match text[i]? with
    | some c => if inClass negated ranges c then [i + 1] else []
    | none => []
  | textStart, i => if i = 0 then [i] else []
  | textStop, i => if i = text.size then [i] else []
  | seq p q, i => ((ends text p i).flatMap (ends text q)).eraseDups
  | alt p q, i => (ends text p i ++ ends text q i).eraseDups
  | star p, i => reach (ends text p) text.size [i]

/-- Whether some part of a text has the form of the pattern. -/
def isMatch (p : Pattern) (text : String) : Bool :=
  let cs := text.toList.toArray
  (List.range (cs.size + 1)).any fun i => !(ends cs p i).isEmpty

/-! ## Reading -/

/-- The character that a letter after a backslash denotes. -/
def control? (c : Char) : Option Char :=
  match c with
  | 'a' => some '\x07'
  | 'f' => some '\x0c'
  | 'n' => some '\n'
  | 'r' => some '\r'
  | 't' => some '\t'
  | 'v' => some '\x0b'
  | _ => none

/-- The character that a backslash and `c` denote: ASCII punctuation denotes itself. -/
def escaped? (c : Char) : Option Char :=
  if c.toNat < 0x80 && !c.isAlphanum && c != '<' && c != '>' then some c else control? c

/-- A character of a class, and the text after it. -/
def readClassChar : List Char → Option (Char × List Char)
  | '\\' :: c :: r => (escaped? c).map (·, r)
  | '\\' :: [] | '[' :: _ | [] => none
  | c :: r => some (c, r)

/-- The ranges of a class after those of `ranges`, up to its closing bracket. -/
def readClassItems : Nat → List (Char × Char) → List Char →
    Option (List (Char × Char) × List Char)
  | 0, _, _ => none
  | fuel + 1, ranges, cs => do
    let (low, r) ← readClassChar cs
    let (high, r) ← match r with
      | '-' :: ']' :: _ => some (low, r)
      | '-' :: r => readClassChar r
      | _ => some (low, r)
    let ranges := ranges ++ [(low, high)]
    if high < low then none
    else match r with
      | ']' :: r => return (ranges, r)
      | _ => readClassItems fuel ranges r

/-- A class after its opening bracket.  A closing bracket that comes first is an item. -/
def readClass (cs : List Char) : Option (Pattern × List Char) :=
  let (negated, r) := match cs with
    | '^' :: r => (true, r)
    | r => (false, r)
  (readClassItems r.length [] r).map fun (ranges, r) => (oneOf negated ranges, r)

/-- The pattern with the repetitions that follow it; a question mark after one of them says only
which match to prefer. -/
def readRepetitions (p : Pattern) : List Char → Pattern × List Char
  | '*' :: '?' :: r => readRepetitions (star p) r
  | '+' :: '?' :: r => readRepetitions (plus p) r
  | '?' :: '?' :: r => readRepetitions (optional p) r
  | '*' :: r => readRepetitions (star p) r
  | '+' :: r => readRepetitions (plus p) r
  | '?' :: r => readRepetitions (optional p) r
  | r => (p, r)

/-- The text of a group after its opening parenthesis. -/
def groupBody : List Char → List Char
  | '?' :: ':' :: r => r
  | r => r

mutual

/-- Alternatives, up to the end or a closing parenthesis. -/
def readAlternatives : Nat → List Char → Option (Pattern × List Char)
  | 0, _ => none
  | fuel + 1, cs => do
    let (p, r) ← readSequence fuel cs
    match r with
    | '|' :: r =>
      let (q, r) ← readAlternatives fuel r
      return (alt p q, r)
    | r => return (p, r)

/-- A sequence of repeated items. -/
def readSequence : Nat → List Char → Option (Pattern × List Char)
  | 0, _ => none
  | fuel + 1, cs =>
    match cs with
    | [] | '|' :: _ | ')' :: _ => some (empty, cs)
    | cs => do
      let (p, r) ← readItem fuel cs
      let (p, r) := readRepetitions p r
      let (q, r) ← readSequence fuel r
      return (seq p q, r)

/-- A character, a class, an anchor or a group. -/
def readItem : Nat → List Char → Option (Pattern × List Char)
  | 0, _ => none
  | fuel + 1, cs =>
    match cs with
    | '(' :: r => do
      let (p, r) ← readAlternatives fuel (groupBody r)
      match r with
      | ')' :: r => return (p, r)
      | _ => none
    | '[' :: r => readClass r
    | '.' :: r => some (anyInLine, r)
    | '^' :: r => some (textStart, r)
    | '$' :: r => some (textStop, r)
    | '\\' :: c :: r => (escaped? c).map fun c => (char c, r)
    | '\\' :: [] | '*' :: _ | '+' :: _ | '?' :: _ | '{' :: _ | [] => none
    | c :: r => some (char c, r)

end

/-- The pattern that a text describes, if it is well formed. -/
def ofString? (text : String) : Option Pattern :=
  let cs := text.toList
  match readAlternatives (3 * cs.length + 3) cs with
  | some (p, []) => some p
  | _ => none

/-- The test of the pattern that a text describes. -/
def compile (text : String) : Except String (String → Bool) :=
  match ofString? text with
  | some p => .ok p.isMatch
  | none => .error "regex parse error:"

/-- A pattern stands for its test. -/
instance : Coe Pattern (String → Bool) := ⟨isMatch⟩

end Pattern

end PythonSyntax
