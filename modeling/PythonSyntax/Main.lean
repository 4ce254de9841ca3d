import PythonSyntax.CommandLine

/-
The program.

What a command can reach is read into a workspace, the command is run there, and the files that it
has changed are written back.
-/

namespace PythonSyntax.Main

/-- The file or directory at a path with all that is in it; `none` for anything else.  Links below
a directory are left out. -/
partial def load (path : String) : IO (Option FileTree) := do
  try
    let real ← IO.FS.realPath path
    match (← real.metadata).type with
    | .file => return some (.file (← IO.FS.readBinFile real))
    | .dir =>
      let mut t := FileTree.empty
      for entry in ← real.readDir do
        if (← entry.path.symlinkMetadata).type != .symlink then
          if let some child ← load (Workspace.joinPath path entry.fileName) then
            t := t.put [entry.fileName] child
      return some t
    | _ => return none
  catch _ => return none

/-- Whether there is a directory at a path. -/
def isDirectory (path : String) : IO Bool := do
  try (← IO.FS.realPath path).isDir catch _ => return false

/-- Adds the directories that names lead through from `here`, which has the path `walked`, and
what they lead to. -/
def addWay (w : Workspace) (here : Place) (walked : String) (names : List String) :
    IO Workspace := do
  let arrived : IO Workspace := do
    match ← load walked with
    | some t => return { w with files := w.files.put here t }
    | none => return w
  match names with
  | [] => arrived
  | name :: rest =>
    if ← isDirectory walked then
      addWay { w with files := w.files.makeDir here } (Workspace.enter here name)
        (Workspace.joinPath walked name) rest
    else arrived

/-- Adds what stands at a path, and the directories on the way to it. -/
def addPath (w : Workspace) (path : String) : IO Workspace :=
  addWay w (w.start path) (if path.startsWith "/" then "/" else ".") (Workspace.pathNames path)

/-- The paths that a command reads, and those that it writes. -/
def paths : Command → List String × List String
  | .file path _ => ([path], [])
  | .string .. => ([], [])
  | .batch root output _ =>
    ([root], [output ++ ".json", output ++ ".txt", output ++ "_failed.txt"])

/-- Runs a command line. -/
def run (words : List String) : IO UInt32 := do
  let current := (Workspace.pathNames (← IO.currentDir).toString).filter (· ≠ "")
  let (inputs, outputs) := match Command.ofWords words with
    | .ok command => paths command
    | .error _ => ([], [])
  let w ← (inputs ++ outputs).foldlM addPath ⟨FileTree.empty.makeDir current, current⟩
  let o := runWords w words
  for path in outputs do
    let new? := o.workspace.bytes? path
    if new? != w.bytes? path then
      if let some bytes := new? then IO.FS.writeBinFile path bytes
  IO.print o.output
  IO.eprint o.errors
  return o.exitCode

end PythonSyntax.Main

/-- Runs the command line and answers with its exit code. -/
def main (words : List String) : IO UInt32 := PythonSyntax.Main.run words
