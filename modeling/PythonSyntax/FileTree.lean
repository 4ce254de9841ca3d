/-
Trees of files.

A directory keeps its entries in the order of their names, as `FileTree.put` does.  A
`Place` names a file or directory by the names on the way to it from the top.
-/

namespace PythonSyntax

/-- A file or a directory. -/
inductive FileTree where
  | file (bytes : ByteArray)
  | dir (entries : List (String × FileTree))

/-- The names on the way from the top of a tree down to a file or directory. -/
abbrev Place := List String

namespace FileTree

/-- An empty directory. -/
def empty : FileTree := dir []

/-- The entries of a directory; a file has none. -/
def entries : FileTree → List (String × FileTree)
  | file _ => []
  | dir entries => entries

/-- Whether it is a directory. -/
def isDir : FileTree → Bool
  | file _ => false
  | dir _ => true

/-! ## Looking at a tree -/

/-- What stands at a place. -/
def get? : FileTree → Place → Option FileTree
  | t, [] => some t
  | t, name :: rest =>
    match t.entries.lookup name with
    | some t => get? t rest
    | none => none

mutual

/-- The places of all files in a tree, each directory's entries in turn. -/
def places : FileTree → List Place
  | file _ => [[]]
  | dir entries => entryPlaces entries

/-- The places of all files in the entries of a directory. -/
def entryPlaces : List (String × FileTree) → List Place
  | [] => []
  | (name, t) :: rest => (places t).map (name :: ·) ++ entryPlaces rest

end

/-! ## Changing a tree -/

/-- The entries with one of them set, and in order if they were. -/
def setEntry (name : String) (t : FileTree) : List (String × FileTree) → List (String × FileTree)
  | [] => [(name, t)]
  | (other, u) :: rest =>
    if name = other then (name, t) :: rest
    else if name < other then (name, t) :: (other, u) :: rest
    else (other, u) :: setEntry name t rest

/-- The tree with another one put at a place.  What is missing on the way becomes a directory. -/
def put : FileTree → Place → FileTree → FileTree
  | _, [], new => new
  | t, name :: rest, new =>
    dir (setEntry name (put ((t.entries.lookup name).getD empty) rest new) t.entries)

/-- The tree with a directory at a place, unless something stands there already. -/
def makeDir (t : FileTree) (p : Place) : FileTree :=
  if (t.get? p).isSome then t else t.put p empty

/-- The tree with bytes added to the end of the file at a place, if there is one. -/
def append (t : FileTree) (p : Place) (bytes : ByteArray) : FileTree :=
  match t.get? p with
  | some (file old) => t.put p (file (old ++ bytes))
  | _ => t

end FileTree

end PythonSyntax
