import PythonSyntax.Reading
import PythonSyntax.Tree.Json

/-
Datasets of trees.

A dataset is made from all files below a root whose names match; `isMatch` is the test of a compiled
pattern.  It is three files: the trees, one a line; the names of the files that they are the trees of;
and the names of the files that have none.  The three are made empty before the first file is read,
and what is written to one of them is held back until it fills a buffer, so a run that comes upon its
own files reads what has reached them by then.
-/

namespace PythonSyntax

/-! ## Buffered files -/

/-- A file that is being written, and the bytes that have not reached it yet. -/
structure Sink where
  place : Place
  pending : ByteArray

namespace Sink

/-- The number of bytes that a sink holds back. -/
def capacity : Nat := 8192

/-- Sends all bytes to the file. -/
def flush (s : Sink) (files : FileTree) : FileTree × Sink :=
  (files.append s.place s.pending, { s with pending := .empty })

/-- Writes bytes.  The buffer is sent off when they do not fit in what is left of it, and bytes
that would fill all of it do not go through it. -/
def write (s : Sink) (files : FileTree) (bytes : ByteArray) : FileTree × Sink :=
  let (files, s) :=
    if capacity < s.pending.size + bytes.size then s.flush files else (files, s)
  if bytes.size < capacity then (files, { s with pending := s.pending ++ bytes })
  else (files.append s.place bytes, s)

/-- Writes a line, and then its line feed. -/
def writeLine (s : Sink) (files : FileTree) (line : String) : FileTree × Sink :=
  let (files, s) := s.write files line.toUTF8
  s.write files "\n".toUTF8

end Sink

/-! ## Runs -/

/-- What a run answers: how many files have trees, the names of the others with the reasons, and
the paths of the files of the dataset. -/
structure DatasetSummary where
  converted : Nat
  failed : List (String × Failure)
  treesPath : String
  namesPath : String
  failedPath : String
deriving DecidableEq, Repr

/-- A run between two files. -/
structure DatasetRun where
  files : FileTree
  trees : Sink
  names : Sink
  failures : Sink
  converted : Nat
  failed : List (String × Failure)

namespace DatasetRun

/-- Records a file that has a tree. -/
def convert (run : DatasetRun) (name : String) (m : Module) : DatasetRun :=
  let (files, trees) := run.trees.writeLine run.files m.document.compact
  let (files, names) := run.names.writeLine files name
  { run with files := files, trees := trees, names := names, converted := run.converted + 1 }

/-- Records a file that has none. -/
def fail (run : DatasetRun) (name : String) (failure : Failure) : DatasetRun :=
  let (files, failures) := run.failures.writeLine run.files name
  { run with files := files, failures := failures, failed := run.failed ++ [(name, failure)] }

/-- Reads and records one file of the tree at `root`, which has the path `rootPath`. -/
def visit (isMatch : String → Bool) (root : Place) (rootPath : String) (run : DatasetRun)
    (below : Place) : DatasetRun :=
  let name := "/".intercalate below
  if isMatch name then
    let text := Workspace.readAt run.files (root ++ below)
    match Module.ofText (below.foldl Workspace.joinPath rootPath) text with
    | .ok m => run.convert name m
    | .error failure => run.fail name failure
  else run

/-- Sends all bytes to the files. -/
def flush (run : DatasetRun) : DatasetRun :=
  let (files, trees) := run.trees.flush run.files
  let (files, names) := run.names.flush files
  let (files, failures) := run.failures.flush files
  { run with files := files, trees := trees, names := names, failures := failures }

end DatasetRun

/-- Makes the dataset of the files below a root, under paths that begin with `output`.  The
workspace is answered with all that has been made in it, also if the run fails. -/
def buildDataset (w : Workspace) (root output : String) (isMatch : String → Bool) :
    Except Failure DatasetSummary × Workspace :=
  let treesPath := output ++ ".json"
  let namesPath := output ++ ".txt"
  let failedPath := output ++ "_failed.txt"
  match w.locate root with
  | .error fault => (.error (.unreadable root fault), w)
  | .ok rootPlace =>
    match w.create treesPath with
    | .error fault => (.error (.unreadable treesPath fault), w)
    | .ok (trees, w) =>
      match w.create namesPath with
      | .error fault => (.error (.unreadable namesPath fault), w)
      | .ok (names, w) =>
        match w.create failedPath with
        | .error fault => (.error (.unreadable failedPath fault), w)
        | .ok (failures, w) =>
          let start : DatasetRun :=
            ⟨w.files, ⟨trees, .empty⟩, ⟨names, .empty⟩, ⟨failures, .empty⟩, 0, []⟩
          let places := ((w.files.get? rootPlace).map FileTree.places).getD []
          let run := (places.foldl (DatasetRun.visit isMatch rootPlace root) start).flush
          (.ok ⟨run.converted, run.failed, treesPath, namesPath, failedPath⟩,
            { w with files := run.files })

end PythonSyntax
