import PythonSyntax.FileTree

/-
Files by their paths.

A path is a text of names with slashes between them.  It begins at the top of the tree if it
begins with a slash, and otherwise at the current directory; an empty name and a single dot stay
where they are, and two dots go up.  `Workspace.follow` reads a path, and `FileFault` says why one
leads nowhere.
-/

namespace PythonSyntax

/-- Why a file cannot be read or written. -/
inductive FileFault where
  | notFound
  | notDirectory
  | isDirectory
  | notUtf8
deriving DecidableEq, Repr

/-- The wording of a fault. -/
def FileFault.message : FileFault → String
  | notFound => "No such file or directory (os error 2)"
  | notDirectory => "Not a directory (os error 20)"
  | isDirectory => "Is a directory (os error 21)"
  | notUtf8 => "stream did not contain valid UTF-8"

/-- A tree of files, and the directory at which paths begin. -/
structure Workspace where
  files : FileTree
  current : Place

namespace Workspace

/-! ## Paths -/

/-- The names of a path. -/
def pathNames (path : String) : List String := (path.toList.splitOn '/').map String.ofList

/-- The path of an entry of a directory. -/
def joinPath (path name : String) : String :=
  if path = "" || path.toList.getLast? = some '/' then path ++ name else path ++ "/" ++ name

/-- Where a path begins. -/
def start (w : Workspace) (path : String) : Place :=
  if path.toList.head? = some '/' then [] else w.current

/-- Whether a name can be that of an entry. -/
def isEntryName (name : String) : Bool := name ≠ "" && name ≠ "." && name ≠ ".."

/-- The place that a name leads to from a directory. -/
def enter (here : Place) (name : String) : Place :=
  if isEntryName name then here ++ [name] else if name = ".." then here.dropLast else here

/-- The place that names lead to from another one. -/
def follow (files : FileTree) : Place → List String → Except FileFault Place
  | here, [] => .ok here
  | here, name :: rest =>
    match files.get? here with
    | none => .error .notFound
    | some (.file _) => .error .notDirectory
    | some (.dir entries) =>
      if isEntryName name && (entries.lookup name).isNone then .error .notFound
      else follow files (enter here name) rest

/-- The place of the file or directory at a path. -/
def locate (w : Workspace) (path : String) : Except FileFault Place :=
  if path = "" then .error .notFound
  else follow w.files (w.start path) (pathNames path)

/-! ## Reading and writing -/

/-- The bytes of the file at a path, if there is one. -/
def bytes? (w : Workspace) (path : String) : Option ByteArray :=
  match w.locate path with
  | .error _ => none
  | .ok p =>
    match w.files.get? p with
    | some (.file bytes) => some bytes
    | _ => none

/-- The text of the file at a place. -/
def readAt (files : FileTree) (p : Place) : Except FileFault String :=
  match files.get? p with
  | none => .error .notFound
  | some (.dir _) => .error .isDirectory
  | some (.file bytes) =>
    match String.fromUTF8? bytes with
    | some text => .ok text
    | none => .error .notUtf8

/-- The text of the file at a path. -/
def read (w : Workspace) (path : String) : Except FileFault String := do
  readAt w.files (← w.locate path)

/-- The place of a file that is to be written at a path: its directory must exist, and no directory
may stand there. -/
def locateNew (w : Workspace) (path : String) : Except FileFault Place := do
  let names := pathNames path
  let parent ← follow w.files (w.start path) names.dropLast
  match w.files.get? parent, names.getLast? with
  | some (.dir entries), some name =>
    if isEntryName name ∧ ((entries.lookup name).map FileTree.isDir).getD false = false then
      .ok (parent ++ [name])
    else .error .isDirectory
  | some (.file _), _ => .error .notDirectory
  | _, _ => .error .notFound

/-- Makes the file at a path, or makes it empty. -/
def create (w : Workspace) (path : String) : Except FileFault (Place × Workspace) := do
  let p ← w.locateNew path
  return (p, { w with files := w.files.put p (.file .empty) })

end Workspace

end PythonSyntax
