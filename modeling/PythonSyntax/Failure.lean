import PythonSyntax.SyntaxError
import PythonSyntax.Workspace

/-
Failures as they are reported.

A program is refused because its text breaks a rule, or because the file that should hold it
cannot be read.  A report has a message, a code and some help; for a text it also names the
source and labels the part of it that is at fault.
-/

namespace PythonSyntax

/-- Why there is no tree of a program. -/
inductive Failure where
  /-- The text of the source called `name` breaks a rule at `span`. -/
  | rejected (message : String) (span : Span) (name : String) (source : List Char)
  /-- The file at `path` cannot be read or written. -/
  | unreadable (path : String) (fault : FileFault)
deriving DecidableEq, Repr

/-- The error as a failure of a named source. -/
def SyntaxError.inSource (e : SyntaxError) (name : String) (source : List Char) : Failure :=
  .rejected e.cause.message e.span name source

namespace Failure

/-- Whether a text is at fault, and not a file. -/
def isRejection : Failure → Bool
  | rejected .. => true
  | unreadable .. => false

/-- The message of a failure. -/
def message : Failure → String
  | rejected message span _ source =>
    let p := Position.ofOffset source span.start
    "SyntaxError: " ++ message ++ " (line " ++ toString p.line ++ ", column " ++
      toString p.column ++ ")"
  | unreadable path fault => "IOError: cannot read `" ++ path ++ "`: " ++ fault.message

/-- The code of the kind of failure. -/
def code : Failure → String
  | rejected .. => "astgen::syntax"
  | unreadable .. => "astgen::io"

/-- What to do about a failure. -/
def help : Failure → String
  | rejected .. => "the input must be valid Python 3.8 source"
  | unreadable .. => "check that the path exists and is a readable UTF-8 file"

/-- The part of the source that is at fault. -/
def label? : Failure → Option Span
  | rejected _ span _ source => some (span.clamp (byteLength source))
  | unreadable .. => none

/-- The name of the source. -/
def sourceName? : Failure → Option String
  | rejected _ _ name _ => some name
  | unreadable .. => none

end Failure

end PythonSyntax
