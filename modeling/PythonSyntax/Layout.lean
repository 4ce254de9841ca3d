import PythonSyntax.Lexeme
import PythonSyntax.SyntaxError
import PythonSyntax.Token

/-
The token stream of a text.

Lexemes become tokens here, and the line structure becomes tokens too: the end of a logical line,
and the growth and shrinking of its indentation against a stack of open widths.  Line breaks
inside brackets, blank lines and comments leave no token.  An expression that is embedded in a
larger text is read as if it stood in brackets, so it has no layout at all.

`Layout.step` handles one lexeme: it emits tokens and moves the state, or rejects the text.
-/

namespace PythonSyntax

/-- Whether a text is a whole program or an expression inside one. -/
inductive LayoutMode where
  | file
  | embedded
deriving DecidableEq, Repr

/-- What stays fixed while a text is turned into tokens: the mode, the number of brackets that may
be open at once, and the offset of the text in the program. -/
structure LayoutConfig where
  mode : LayoutMode
  maxBrackets : Nat
  base : Nat
deriving Repr

/-- Where a run stands between two lexemes. -/
structure Layout where
  /-- The byte offset in the text. -/
  offset : Nat
  /-- The widths of the open blocks, innermost first. -/
  indents : List Nat
  /-- The open brackets, innermost first. -/
  brackets : List String
  /-- Whether the logical line has no token yet. -/
  atLineStart : Bool
  /-- The width of the blanks of the line so far. -/
  width : Nat
deriving DecidableEq, Repr

namespace Layout

/-- The state before the first lexeme. -/
def start : Layout := ⟨0, [0], [], true, 0⟩

/-- The width reached by one more character of leading blanks: a tab goes on to the next multiple
of eight, and a form feed or a hidden line break starts again. -/
def widen (width : Nat) (c : Char) : Nat :=
  if c = ' ' then width + 1
  else if c = '\t' then (width / 8 + 1) * 8
  else 0

/-- The bracket that closes another one. -/
def closing (opening : String) : String :=
  if opening = "(" then ")" else if opening = "[" then "]" else "\x7d"

/-- Whether an operator opens a bracket. -/
def isOpening (op : String) : Bool := op == "(" || op == "[" || op == "\x7b"

/-- Whether an operator closes a bracket. -/
def isClosing (op : String) : Bool := op == ")" || op == "]" || op == "\x7d"

/-- The blocks that stay open, and the number of those that close, for a line of a width. -/
def dedent (width : Nat) : List Nat → Nat × List Nat
  | [] => (0, [])
  | w :: ws =>
    if width < w then
      let (n, rest) := dedent width ws
      (n + 1, rest)
    else (0, w :: ws)

/-- The indentation tokens before the first token of a logical line, and the open blocks then. -/
def indentTo (s : Layout) (here : Span) : Except SyntaxError (List Token × List Nat) :=
  let current := s.indents.headD 0
  if current < s.width then
    .ok ([⟨.indent, "", here⟩], s.width :: s.indents)
  else
    let (n, rest) := dedent s.width s.indents
    if s.width < current ∧ rest.head? ≠ some s.width then .error ⟨.inconsistentDedent, here⟩
    else .ok (List.replicate n ⟨.dedent, "", here⟩, rest)

/-- The open brackets after an operator. -/
def trackBracket (maxBrackets : Nat) (brackets : List String) (op : String) (span : Span) :
    Except SyntaxError (List String) :=
  if isOpening op then
    if maxBrackets ≤ brackets.length then .error ⟨.tooManyBrackets, span⟩
    else .ok (op :: brackets)
  else if isClosing op then
    match brackets with
    | [] => .error ⟨.unmatchedClosing op, span⟩
    | opening :: rest =>
      if closing opening = op then .ok rest
      else .error ⟨.mismatchedClosing opening op, span⟩
  else .ok brackets

/-- The indentation tokens before a token with text, and the open blocks then.  Only the first token
of a logical line of a program has any. -/
def lineMarks (cfg : LayoutConfig) (s : Layout) (here : Span) :
    Except SyntaxError (List Token × List Nat) :=
  if s.atLineStart ∧ cfg.mode = .file then s.indentTo here else .ok ([], s.indents)

/-- The open brackets after a token with text. -/
def bracketsAfter (cfg : LayoutConfig) (s : Layout) (kind : TokenKind) (text : String)
    (span : Span) : Except SyntaxError (List String) :=
  if kind = .op then trackBracket cfg.maxBrackets s.brackets text span else .ok s.brackets

/-- A token with text: before it come the indentation tokens if it is the first of its line. -/
def content (cfg : LayoutConfig) (s : Layout) (kind : TokenKind) (text : List Char) (span : Span) :
    Except SyntaxError (List Token × Layout) := do
  let (marks, indents) ← lineMarks cfg s ⟨span.start, span.start⟩
  let brackets ← bracketsAfter cfg s kind (String.ofList text) span
  return (marks ++ [⟨kind, String.ofList text, span⟩],
    { s with indents := indents, brackets := brackets, atLineStart := false })

/-- Why a character that begins no lexeme is rejected. -/
def strayCause (c : Char) : Cause :=
  let punctuation := ('!' ≤ c && c ≤ '/') || (':' ≤ c && c ≤ '@') || ('[' ≤ c && c ≤ '\x60')
    || ('{' ≤ c && c ≤ '~')
  if punctuation || c == '\x00' then .unexpectedToken else .strayCharacter c

/-- The tokens of one lexeme, without moving past its text. -/
def feed (cfg : LayoutConfig) (s : Layout) (l : Lexeme) (span : Span) :
    Except SyntaxError (List Token × Layout) :=
  match l.kind with
  | .lineBreak =>
    if cfg.mode = .embedded ∨ s.brackets ≠ [] then .ok ([], s)
    else
      let s' := { s with atLineStart := true, width := 0 }
      if s.atLineStart then .ok ([], s')
      else .ok ([⟨.newline, String.ofList l.text, span⟩], s')
  | .blank | .comment | .continuation => .ok ([], { s with width := l.text.foldl widen s.width })
  | .openQuote =>
    let triple := ['"', '"', '"'].isSuffixOf l.text || ['\'', '\'', '\''].isSuffixOf l.text
    .error ⟨if triple then .openTripleQuote else .openQuote, span⟩
  | .stray => .error ⟨strayCause (l.text.headD '\x00'), span⟩
  | .name => content cfg s .name l.text span
  | .number => content cfg s .number l.text span
  | .string => content cfg s .string l.text span
  | .op => content cfg s .op l.text span

/-- The tokens of one lexeme, and the state after it. -/
def step (cfg : LayoutConfig) (s : Layout) (l : Lexeme) :
    Except SyntaxError (List Token × Layout) := do
  let stop := s.offset + byteLength l.text
  let (tokens, s) ← feed cfg s l ⟨cfg.base + s.offset, cfg.base + stop⟩
  return (tokens, { s with offset := stop })

/-- The tokens that close a text: the end of its last line, and of the blocks still open. -/
def finish (cfg : LayoutConfig) (s : Layout) : Except SyntaxError (List Token) :=
  let here : Span := ⟨cfg.base + s.offset, cfg.base + s.offset⟩
  if s.brackets ≠ [] then .error ⟨.unexpectedEnd, here⟩
  else
    let closers := match cfg.mode with
      | .file =>
        (if s.atLineStart then [] else [⟨.newline, "", here⟩])
          ++ List.replicate (s.indents.length - 1) ⟨.dedent, "", here⟩
      | .embedded => []
    .ok (closers ++ [⟨.endMarker, "", here⟩])

/-- The tokens of the lexemes from a state on. -/
def run (cfg : LayoutConfig) : Layout → List Lexeme → Except SyntaxError (List Token)
  | s, [] => finish cfg s
  | s, l :: ls => do
    let (tokens, s) ← step cfg s l
    let rest ← run cfg s ls
    return tokens ++ rest

end Layout

/-- The tokens of a program, in which at most `maxBrackets` brackets may be open at once. -/
def tokenize (source : List Char) (maxBrackets : Nat) : Except SyntaxError (List Token) :=
  Layout.run ⟨.file, maxBrackets, 0⟩ .start (lexemes source)

/-- The tokens of an expression that stands at the offset `base` of a program. -/
def tokenizeEmbedded (text : List Char) (base maxBrackets : Nat) :
    Except SyntaxError (List Token) :=
  Layout.run ⟨.embedded, maxBrackets, base⟩ .start (lexemes text)

end PythonSyntax
