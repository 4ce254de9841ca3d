import PythonSyntax.Source

/-
Tokens: the words of a program, and the marks of its line structure.
-/

namespace PythonSyntax

/-- What a token is. -/
inductive TokenKind where
  | name
  | number
  | string
  | op
  | newline
  | indent
  | dedent
  | endMarker
deriving DecidableEq, Repr

/-- Whether tokens of the kind hold text of the program, and are not marks of its layout. -/
def TokenKind.isContent : TokenKind → Bool
  | name | number | string | op => true
  | newline | indent | dedent | endMarker => false

/-- A token: its kind, its text and where it stands. -/
structure Token where
  kind : TokenKind
  text : String
  span : Span
deriving DecidableEq, Repr

/-- The reserved words. -/
def keywords : List String := [
  "False", "None", "True", "and", "as", "assert", "async", "await", "break", "class",
  "continue", "def", "del", "elif", "else", "except", "finally", "for", "from", "global",
  "if", "import", "in", "is", "lambda", "nonlocal", "not", "or", "pass", "raise", "return",
  "try", "while", "with", "yield"]

/-- Whether a word is reserved. -/
def isKeyword (text : String) : Bool := keywords.contains text

namespace Token

/-- Whether the token is this operator or bracket. -/
def isOp (t : Token) (op : String) : Bool := t.kind == .op && t.text == op

/-- Whether the token is this word. -/
def isWord (t : Token) (word : String) : Bool := t.kind == .name && t.text == word

/-- Whether the token is a name that is not reserved. -/
def isIdentifier (t : Token) : Bool := t.kind == .name && !isKeyword t.text

/-- How an error message speaks of the token. -/
def describe (t : Token) : String :=
  match t.kind with
  | .newline => "end of line"
  | .indent => "indent"
  | .dedent => "dedent"
  | .endMarker => "end of input"
  | _ => "'" ++ t.text ++ "'"

end Token

end PythonSyntax
