import PythonSyntax.Failure
import PythonSyntax.Parser.Statement

/-
Reading programs from texts and files.
-/

namespace PythonSyntax

/-- What a text that is not from a file is called. -/
def unnamedSource : String := "<string>"

/-- The tree of a source that is called `name`. -/
def Module.ofSource (name : String) (source : List Char) (maxNesting : Nat) :
    Except Failure Module :=
  (parseModule source maxNesting).mapError (·.inSource name source)

/-- The tree of the program that is the text of a file at `path`, as far as that could be read. -/
def Module.ofText (path : String) (text : Except FileFault String) : Except Failure Module :=
  match text with
  | .ok text => Module.ofSource path text.toList defaultMaxNesting
  | .error fault => .error (.unreadable path fault)

/-- The tree of the program in the file at a path. -/
def Module.ofFile (w : Workspace) (path : String) : Except Failure Module :=
  Module.ofText path (w.read path)

end PythonSyntax
