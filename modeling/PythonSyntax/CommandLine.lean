import PythonSyntax.Command
import PythonSyntax.Dataset
import PythonSyntax.Pattern

/-
What a command line does.

`runWords` takes the words of a command line and the files that there are, and answers with what
is printed, how the program ends, and the files that there are then.
-/

namespace PythonSyntax

/-! ## Texts -/

/-- The name and the version of the program. -/
def versionText : String := "astgen 0.1.0\n"

/-- What the program is for. -/
def aboutText : String := "Convert Python source into a JSON abstract syntax tree."

/-- The help on the whole program. -/
def overviewText : String :=
  aboutText ++ "\n\nUsage: astgen <COMMAND>\n\nCommands:\n" ++
  "  file    Print the AST of a Python file as JSON\n" ++
  "  string  Print the AST of an inline Python snippet as JSON\n" ++
  "  batch   Convert every matching file under a directory into a JSON-lines dataset\n" ++
  "  help    Print this message or the help of the given subcommand(s)\n\n" ++
  "Options:\n  -h, --help     Print help\n  -V, --version  Print version\n"

/-- The help on a command. -/
def Verb.helpText : Verb → String
  | file =>
    "Print the AST of a Python file as JSON\n\n" ++
    "Usage: astgen file [OPTIONS] <PATH>\n\n" ++
    "Arguments:\n  <PATH>  The path to the Python file to convert\n\n" ++
    "Options:\n      --pretty  Indent the JSON output\n  -h, --help    Print help\n"
  | string =>
    "Print the AST of an inline Python snippet as JSON\n\n" ++
    "Usage: astgen string [OPTIONS] <SOURCE>\n\n" ++
    "Arguments:\n  <SOURCE>  The Python source text\n\n" ++
    "Options:\n      --pretty  Indent the JSON output\n  -h, --help    Print help\n"
  | batch =>
    "Convert every matching file under a directory into a JSON-lines dataset\n\n" ++
    "Usage: astgen batch [OPTIONS] --output <OUTPUT> <ROOT>\n\n" ++
    "Arguments:\n  <ROOT>  The directory to walk\n\nOptions:\n" ++
    "  -o, --output <OUTPUT>    Output prefix; writes `<PREFIX>.json`, `<PREFIX>.txt` and " ++
    "`<PREFIX>_failed.txt`\n" ++
    "      --pattern <PATTERN>  Regex matched against each file's path relative to the root " ++
    "[default: \\.py$]\n" ++
    "  -h, --help               Print help\n"

/-- The help that is asked for. -/
def helpText (verb : Option Verb) : String := (verb.map Verb.helpText).getD overviewText

/-- The wording of a fault on a command line. -/
def usageError (fault : String) : String := "error: " ++ fault ++ "\n"

/-- The files of a dataset, for the person who made it. -/
def DatasetSummary.describe (s : DatasetSummary) : String :=
  let converted := "converted " ++ toString s.converted ++ " file(s) -> " ++ s.treesPath ++ "\n"
  if s.failed.isEmpty then converted
  else
    converted ++ "failed    " ++ toString s.failed.length ++ " file(s) -> " ++ s.failedPath ++ "\n"
      ++ String.join (s.failed.map fun (name, e) => "  " ++ name ++ ": " ++ e.message ++ "\n")

/-! ## Outcomes -/

/-- What a run leaves behind.  `failure?` is what made it fail, if a program or a file did. -/
structure Outcome where
  exitCode : UInt32
  output : String
  errors : String
  failure? : Option Failure
  workspace : Workspace

namespace Outcome

/-- A run that did what it was told. -/
def success (w : Workspace) (output errors : String) : Outcome := ⟨0, output, errors, none, w⟩

/-- A run that failed on a program or a file. -/
def failed (w : Workspace) (e : Failure) : Outcome :=
  ⟨1, "", e.code ++ ": " ++ e.message ++ "\n  help: " ++ e.help ++ "\n", some e, w⟩

/-- A run that did not begin. -/
def misused (w : Workspace) (errors : String) : Outcome := ⟨2, "", errors, none, w⟩

/-- The outcome of printing a tree. -/
def ofModule (w : Workspace) (pretty : Bool) (result : Except Failure Module) : Outcome :=
  match result with
  | .ok m =>
    .success w ((if pretty then m.document.pretty else m.document.compact) ++ "\n") ""
  | .error e => .failed w e

end Outcome

/-- What a refused command line leads to. -/
def Refusal.outcome (w : Workspace) : Refusal → Outcome
  | helpWanted verb => .success w (helpText verb) ""
  | versionWanted => .success w versionText ""
  | noCommand => .misused w overviewText
  | unknownCommand name => .misused w (usageError ("unrecognized subcommand '" ++ name ++ "'"))
  | unknownArgument text =>
    .misused w (usageError ("unexpected argument '" ++ text ++ "' found"))
  | missingArguments =>
    .misused w (usageError "the following required arguments were not provided:")
  | missingValue p =>
    .misused w (usageError
      ("a value is required for '" ++ p.display ++ "' but none was supplied"))
  | repeated p =>
    .misused w (usageError
      ("the argument '" ++ p.display ++ "' cannot be used multiple times"))
  | surplusValue value p =>
    .misused w (usageError ("unexpected value '" ++ value ++ "' for '" ++ p.display
      ++ "' found; no more were accepted"))

/-- Does what a command says.  `compile` makes a test of the text of a pattern, or says why there is
none. -/
def Command.run (compile : String → Except String (String → Bool)) (w : Workspace) :
    Command → Outcome
  | file path pretty => .ofModule w pretty (Module.ofFile w path)
  | string source pretty =>
    .ofModule w pretty (Module.ofSource unnamedSource source.toList defaultMaxNesting)
  | batch root output pattern =>
    match compile pattern with
    | .error fault => .misused w (usageError ("invalid --pattern: " ++ fault))
    | .ok isMatch =>
      match buildDataset w root output isMatch with
      | (.ok summary, w) => .success w "" summary.describe
      | (.error e, w) => .failed w e

/-- Does what a command line says, with patterns that are read by `Pattern.compile`. -/
def runWords (w : Workspace) (words : List String) : Outcome :=
  match Command.ofWords words with
  | .ok command => command.run Pattern.compile w
  | .error refusal => refusal.outcome w

end PythonSyntax
