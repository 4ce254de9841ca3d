/-
Places in a source text.

A place is an offset in bytes of the text's UTF-8 form, and a `Span` is the range between two of
them.  A `Position` is a place as people count it: lines from 1, ended by line feeds alone, and
characters of the line from 1.
-/

namespace PythonSyntax

/-- The number of bytes of a text in UTF-8. -/
def byteLength (cs : List Char) : Nat := cs.foldr (fun c n => c.utf8Size + n) 0

theorem byteLength_nil : byteLength [] = 0 := rfl

theorem byteLength_cons (c : Char) (cs : List Char) :
    byteLength (c :: cs) = c.utf8Size + byteLength cs := rfl

theorem byteLength_append (a b : List Char) :
    byteLength (a ++ b) = byteLength a + byteLength b := by
  induction a with
  | nil => simp [byteLength_nil]
  | cons c a ih => rw [List.cons_append, byteLength_cons, byteLength_cons, ih, Nat.add_assoc]

/-- A range of bytes, from `start` up to `stop`. -/
structure Span where
  start : Nat
  stop : Nat
deriving DecidableEq, Repr

namespace Span

/-- The number of bytes in a span; none if it is reversed. -/
def length (s : Span) : Nat := s.stop - s.start

/-- Whether a span holds no byte. -/
def isEmpty (s : Span) : Bool := s.length == 0

/-- The smallest span that covers both. -/
def union (s t : Span) : Span := ⟨min s.start t.start, max s.stop t.stop⟩

/-- The span as a part of a text of `size` bytes: the nearest start and stop inside it. -/
def clamp (s : Span) (size : Nat) : Span :=
  let start := min s.start size
  ⟨start, max start (min s.stop size)⟩

end Span

/-- A line and a column, both counted from 1. -/
structure Position where
  line : Nat
  column : Nat
deriving DecidableEq, Repr

/-- The longest part of a text, from its start, that takes at most `n` bytes. -/
def takeBytes : Nat → List Char → List Char
  | _, [] => []
  | n, c :: cs => if c.utf8Size ≤ n then c :: takeBytes (n - c.utf8Size) cs else []

/-- The last line of a text, without its line feed. -/
def lastLine (cs : List Char) : List Char := (cs.reverse.takeWhile (· ≠ '\n')).reverse

/-- The position right after a text. -/
def Position.after (before : List Char) : Position :=
  ⟨before.count '\n' + 1, (lastLine before).length + 1⟩

/-- The position of a byte offset: that of the last character boundary not above it. -/
def Position.ofOffset (source : List Char) (offset : Nat) : Position :=
  .after (takeBytes offset source)

end PythonSyntax
