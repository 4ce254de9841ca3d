/-
Commands, and how they are written on a command line.

The first word names the command.  The words after it are options, their values, and one value
that stands alone; after `--` no word is an option.  A word is looked at once, from left to right,
and a value is checked when the next word shows that it is complete: so an unknown word is reported
before a fault in the value in front of it.
-/

namespace PythonSyntax

/-- What the program can be told to do. -/
inductive Command where
  /-- Print the tree of a file. -/
  | file (path : String) (pretty : Bool)
  /-- Print the tree of a text. -/
  | string (source : String) (pretty : Bool)
  /-- Make a dataset. -/
  | batch (root output pattern : String)
deriving DecidableEq, Repr

/-- The pattern of a dataset when none is given. -/
def defaultPattern : String := "\\.py$"

/-! ## Words -/

/-- The things that can be said on a command line. -/
inductive Parameter where
  | path
  | source
  | root
  | output
  | pattern
  | pretty
  | help
  | version
deriving DecidableEq, Repr

namespace Parameter

/-- The name of an option after two dashes. -/
def longName? : Parameter → Option String
  | output => some "output"
  | pattern => some "pattern"
  | pretty => some "pretty"
  | help => some "help"
  | version => some "version"
  | path | source | root => none

/-- The letter of an option after one dash. -/
def letter? : Parameter → Option Char
  | output => some 'o'
  | help => some 'h'
  | version => some 'V'
  | _ => none

/-- Whether an option has a value. -/
def takesValue : Parameter → Bool
  | output | pattern => true
  | _ => false

/-- Whether the value is a path, which cannot be empty. -/
def isPath : Parameter → Bool
  | path | root | output => true
  | _ => false

/-- How messages show a parameter. -/
def display : Parameter → String
  | path => "<PATH>"
  | source => "<SOURCE>"
  | root => "<ROOT>"
  | output => "--output <OUTPUT>"
  | pattern => "--pattern <PATTERN>"
  | pretty => "--pretty"
  | help => "--help"
  | version => "--version"

end Parameter

/-- The names of commands. -/
inductive Verb where
  | file
  | string
  | batch
deriving DecidableEq, Repr

namespace Verb

/-- The command of a name. -/
def ofName? (name : String) : Option Verb :=
  match name with
  | "file" => some file
  | "string" => some string
  | "batch" => some batch
  | _ => none

/-- The value of a command that is no option. -/
def operand : Verb → Parameter
  | file => .path
  | string => .source
  | batch => .root

/-- The options of a command. -/
def options : Verb → List Parameter
  | file | string => [.pretty, .help]
  | batch => [.output, .pattern, .help]

end Verb

/-! ## Refusals -/

/-- Why a command line starts no command. -/
inductive Refusal where
  /-- The help on a command, or on all of them, is asked for. -/
  | helpWanted (verb : Option Verb)
  | versionWanted
  | noCommand
  | unknownCommand (name : String)
  | unknownArgument (text : String)
  | missingArguments
  | missingValue (p : Parameter)
  | repeated (p : Parameter)
  | surplusValue (value : String) (p : Parameter)
deriving DecidableEq, Repr

/-! ## Options -/

/-- An option as it is written, with the value attached to it; `none` if the word is no option. -/
def Parameter.ofWord? (known : List Parameter) (word : String) :
    Option (Except Refusal (Parameter × Option String)) :=
  match word.toList with
  | '-' :: '-' :: r =>
    let name := String.ofList (r.takeWhile (· ≠ '='))
    let value? := (r.dropWhile (· ≠ '=')).tail?.map String.ofList
    some (match known.find? (·.longName? == some name), value? with
      | none, _ => .error (.unknownArgument ("--" ++ name))
      | some p, none => .ok (p, none)
      | some p, some v => if p.takesValue then .ok (p, some v) else .error (.surplusValue v p))
  | '-' :: c :: r =>
    some (match known.find? (·.letter? == some c) with
      | none => .error (.unknownArgument ("-" ++ c.toString))
      | some p => .ok (p, if p.takesValue then attached? r else none))
  | _ => none
where
  attached? : List Char → Option String
    | [] => none
    | '=' :: v => some (String.ofList v)
    | v => some (String.ofList v)

/-! ## Reading the words of a command -/

/-- The parameters that are known so far, and the last one of them while it may lack its value. -/
structure Settings where
  values : List (Parameter × String)
  pending : Option (Parameter × Option String)
deriving DecidableEq, Repr

namespace Settings

/-- Sets a parameter, which must not be set yet. -/
def add (s : Settings) (p : Parameter) (value : String) : Except Refusal Settings :=
  if (s.values.lookup p).isSome then .error (.repeated p)
  else if p.isPath && value == "" then .error (.missingValue p)
  else .ok { s with values := s.values ++ [(p, value)] }

/-- Completes the pending parameter. -/
def settle (s : Settings) : Except Refusal Settings :=
  match s.pending with
  | none => .ok s
  | some (p, none) => .error (.missingValue p)
  | some (p, some value) => { s with pending := none }.add p value

/-- Takes an option of the command `verb`. -/
def takeOption (verb : Option Verb) (s : Settings) (p : Parameter) (value? : Option String) :
    Except Refusal Settings := do
  let s ← s.settle
  match p, value? with
  | .help, _ => .error (.helpWanted verb)
  | .version, _ => .error .versionWanted
  | p, some value => s.add p value
  | p, none => if p.takesValue then .ok { s with pending := some (p, none) } else s.add p ""

/-- Whether a parameter is set or about to be. -/
def has (s : Settings) (p : Parameter) : Bool :=
  (s.values.lookup p).isSome || (s.pending.map Prod.fst) == some p

/-- Takes a word that is no option: the value of the pending option, or the operand. -/
def takeValue (verb : Verb) (afterDashes : Bool) (s : Settings) (word : String) :
    Except Refusal Settings :=
  match afterDashes, s.pending with
  | false, some (p, none) => .ok { s with pending := some (p, some word) }
  | _, _ =>
    if s.has verb.operand then .error (.unknownArgument word)
    else s.settle.map fun s => { s with pending := some (verb.operand, some word) }

/-- Takes all words of a command. -/
def takeWords (verb : Verb) : Bool → Settings → List String → Except Refusal Settings
  | _, s, [] => s.settle
  | afterDashes, s, word :: rest =>
    if !afterDashes && word == "--" then takeWords verb true s rest
    else
      let option? := if afterDashes then none else Parameter.ofWord? verb.options word
      match option? with
      | some (.error refusal) => .error refusal
      | some (.ok (p, value?)) => do
        takeWords verb afterDashes (← s.takeOption (some verb) p value?) rest
      | none => do takeWords verb afterDashes (← s.takeValue verb afterDashes word) rest

/-- The value of a parameter that cannot be left out. -/
def require (s : Settings) (p : Parameter) : Except Refusal String :=
  match s.values.lookup p with
  | some value => .ok value
  | none => .error .missingArguments

end Settings

/-- The command of a name and the words after it. -/
def Verb.command (verb : Verb) (words : List String) : Except Refusal Command := do
  let s ← Settings.takeWords verb false ⟨[], none⟩ words
  match verb with
  | file => return .file (← s.require .path) (s.has .pretty)
  | string => return .string (← s.require .source) (s.has .pretty)
  | batch =>
    let root ← s.require .root
    let output ← s.require .output
    return .batch root output ((s.values.lookup .pattern).getD defaultPattern)

/-! ## Whole command lines -/

/-- What follows the word `help`: at most the name of one command. -/
def helpOn (words : List String) : Refusal :=
  match words with
  | [] => .helpWanted none
  | word :: rest =>
    let verb? := Verb.ofName? word
    if verb?.isSome || word == "help" then
      match rest with
      | [] => .helpWanted verb?
      | word :: _ => .unknownCommand word
    else .unknownCommand word

/-- The command of a command line. -/
def Command.ofWords (words : List String) : Except Refusal Command :=
  match words with
  | [] | ["--"] => .error .noCommand
  | "--" :: word :: _ =>
    if (Verb.ofName? word).isSome || word == "help" then .error (.unknownArgument word)
    else .error (.unknownCommand word)
  | word :: rest =>
    match Parameter.ofWord? [.help, .version] word with
    | some (.error refusal) => .error refusal
    | some (.ok (.version, _)) => .error .versionWanted
    | some (.ok _) => .error (.helpWanted none)
    | none =>
      match Verb.ofName? word with
      | some verb => verb.command rest
      | none => .error (if word == "help" then helpOn rest else .unknownCommand word)

end PythonSyntax
