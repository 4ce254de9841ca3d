import PythonSyntax.CommandLine
import PythonSyntax.Proofs.Dataset.Partition

/-
Runs that do not begin.

The pattern is read and the root is looked up before anything is written, but the three files of a
dataset are made one after another, and making a file empties it.  So a run that cannot make one of
them leaves those before it empty, and nothing else is changed.
-/

namespace PythonSyntax

open FileTree Workspace

namespace Workspace

variable {w w₁ v : Workspace} {path : String} {paths : List String} {p q : Place} {ps : List Place}

/-! ## Making files -/

theorem exists_pathNames_eq (path : String) : ∃ dir last, pathNames path = dir ++ [last] := by
  have hne : pathNames path ≠ [] := by
    rw [pathNames]
    exact mt List.map_eq_nil_iff.mp (List.splitOn_ne_nil _ _)
  exact ⟨_, _, (List.dropLast_append_getLast hne).symm⟩

/-- The new file is empty, and no other file is touched. -/
theorem contents?_create (h : w.create path = .ok (p, w₁)) :
    w₁.files.contents? q = if q = p then some .empty else w.files.contents? q := by
  obtain ⟨dir, last, hnames⟩ := exists_pathNames_eq path
  obtain ⟨parent, entries, -, hdir, rfl, -, hfree, rfl⟩ := create_cases hnames h
  exact contents?_put_new hfree hdir

theorem ite_mem_cons {α : Type} {ps : List Place} (q p : Place) (a b : α) :
    (if q ∈ ps then a else if q = p then a else b) = if q ∈ p :: ps then a else b := by
  by_cases hps : q ∈ ps
  · rw [if_pos hps, if_pos (List.mem_cons_of_mem _ hps)]
  · by_cases hp : q = p
    · rw [if_neg hps, if_pos hp, if_pos (hp ▸ List.mem_cons_self)]
    · rw [if_neg hps, if_neg hp, if_neg fun hmem => (List.mem_cons.mp hmem).elim hp hps]

/-- The new files are empty, and no others are touched. -/
theorem contents?_createAll (h : w.createAll paths = .ok (ps, w₁)) :
    w₁.files.contents? q = if q ∈ ps then some .empty else w.files.contents? q := by
  induction paths generalizing w ps with
  | nil =>
    cases h
    rw [if_neg List.not_mem_nil]
  | cons path rest ih =>
    obtain ⟨p, w₂, ps', hcreate, hrest, rfl⟩ := createAll_cons_inv h
    rw [ih hrest, contents?_create hcreate, ite_mem_cons]

end Workspace

/-! ## Refused runs -/

variable {w w' : Workspace} {root output pattern : String} {isMatch : String → Bool}
  {compile : String → Except String (String → Bool)}

/-- A run cannot start without a pattern that compiles, a root, and its three files. -/
def CannotStart (compile : String → Except String (String → Bool)) (w : Workspace)
    (root output pattern : String) : Prop :=
  (∃ fault, compile pattern = .error fault) ∨ (∃ fault, w.locate root = .error fault) ∨
    ∃ fault, w.createAll (datasetPaths output) = .error fault

/-- Files are the same in two trees, and there are no others. -/
def SameFiles (t u : FileTree) : Prop := ∀ q, u.contents? q = t.contents? q

/-- A run that fails has not found its root, or it has made some of its files and not the next. -/
theorem buildDataset_error {e : Failure}
    (h : buildDataset w root output isMatch = (.error e, w')) :
    w' = w ∧ (∃ fault, w.locate root = .error fault) ∨
      ∃ made places path rest fault, datasetPaths output = made ++ path :: rest ∧
        w.createAll made = .ok (places, w') ∧ w'.create path = .error fault := by
  rw [buildDataset] at h
  dsimp only at h
  split at h
  · next fault hroot =>
    cases h
    exact .inl ⟨rfl, fault, hroot⟩
  · refine .inr ?_
    split at h
    · next fault htrees =>
      cases h
      exact ⟨[], [], _, _, fault, rfl, rfl, htrees⟩
    · next trees w₁ htrees =>
      split at h
      · next fault hnames =>
        cases h
        exact ⟨[output ++ ".json"], [trees], _, _, fault, rfl, createAll_cons htrees rfl, hnames⟩
      · next names w₂ hnames =>
        split at h
        · next fault hfailures =>
          cases h
          exact ⟨[output ++ ".json", output ++ ".txt"], [trees, names], _, _, fault, rfl,
            createAll_cons htrees (createAll_cons hnames rfl), hfailures⟩
        · cases h

/-- What cannot start does not succeed. -/
theorem exists_error (h : CannotStart compile w root output pattern)
    (hcompile : compile pattern = .ok isMatch) :
    ∃ e w', buildDataset w root output isMatch = (.error e, w') := by
  cases hrun : buildDataset w root output isMatch with
  | mk result w' =>
    cases result with
    | error e => exact ⟨e, w', rfl⟩
    | ok summary =>
      obtain ⟨rootPlace, trees, names, failures, start, run, hroot, hcreate, -⟩ := buildDataset_ok hrun
      rcases h with ⟨fault, hfault⟩ | ⟨fault, hfault⟩ | ⟨fault, hfault⟩
      · rw [hcompile] at hfault
        cases hfault
      · rw [hroot] at hfault
        cases hfault
      · rw [hcreate] at hfault
        cases hfault

/-! ## Main result -/

/-- What a run that did not start has left: `made` are the paths of the files that it has made, and
`places` are where these are. -/
structure Unstarted (compile : String → Except String (String → Bool)) (w w' : Workspace)
    (root output pattern : String) (made : List String) (places : List Place) : Prop where
  creates : w.createAll made = .ok (places, w')
  /-- Nothing is made without a pattern or a root, and else all files up to one that cannot be. -/
  stops : made = [] ∧
      ((∃ fault, compile pattern = .error fault) ∨ ∃ fault, w.locate root = .error fault) ∨
    ∃ path rest fault, datasetPaths output = made ++ path :: rest ∧ w'.create path = .error fault
  /-- The files that were made are empty, and all others are what they were. -/
  files : ∀ q, w'.files.contents? q = if q ∈ places then some .empty else w.files.contents? q

/-- Making files changes nothing just when they were there and empty. -/
theorem sameFiles_of_createAll {made : List String} {places : List Place}
    (h : w.createAll made = .ok (places, w')) :
    SameFiles w.files w'.files ↔ ∀ p ∈ places, w.files.contents? p = some .empty := by
  constructor
  · intro hsame p hp
    rw [← hsame p, contents?_createAll h, if_pos hp]
  · intro hempty q
    rw [contents?_createAll h]
    split
    · next hq => exact (hempty q hq).symm
    · rfl

/-- A run that cannot start ends with an error, and leaves the files alone but for the outputs that it
could make before the one that it could not.  So nothing has changed just when these were there and
empty. -/
theorem run_batch_unstarted (h : CannotStart compile w root output pattern) :
    ((Command.batch root output pattern).run compile w).exitCode ≠ 0 ∧ ∃ made places,
      Unstarted compile w ((Command.batch root output pattern).run compile w).workspace root output
        pattern made places ∧
      (SameFiles w.files ((Command.batch root output pattern).run compile w).workspace.files ↔
        ∀ p ∈ places, w.files.contents? p = some .empty) := by
  have hnone : w.createAll [] = .ok ([], w) := rfl
  cases hcompile : compile pattern with
  | error fault =>
    have hrun : (Command.batch root output pattern).run compile w =
        .misused w (usageError ("invalid --pattern: " ++ fault)) := by
      simp only [Command.run, hcompile]
    rw [hrun]
    exact ⟨(by decide : (2 : UInt32) ≠ 0), [], [],
      ⟨hnone, .inl ⟨rfl, .inl ⟨fault, hcompile⟩⟩, fun q => contents?_createAll hnone⟩,
      sameFiles_of_createAll hnone⟩
  | ok isMatch =>
    obtain ⟨e, w', herror⟩ := exists_error h hcompile
    have hrun : (Command.batch root output pattern).run compile w = .failed w' e := by
      simp only [Command.run, hcompile, herror]
    rw [hrun]
    refine ⟨(by decide : (1 : UInt32) ≠ 0), ?_⟩
    rcases buildDataset_error herror with
      ⟨rfl, hroot⟩ | ⟨made, places, path, rest, fault, heq, hcreate, hfault⟩
    · exact ⟨[], [], ⟨hnone, .inl ⟨rfl, .inr hroot⟩, fun q => contents?_createAll hnone⟩,
        sameFiles_of_createAll hnone⟩
    · exact ⟨made, places, ⟨hcreate, .inr ⟨path, rest, fault, heq, hfault⟩,
        fun q => contents?_createAll hcreate⟩, sameFiles_of_createAll hcreate⟩

/-- A dataset, and a directory where a second one would have its list of names. -/
def blockedFiles : Workspace :=
  ⟨.dir [("out.json", .file "[]\n".toUTF8), ("out.txt", .dir []),
    ("src", .dir [("a.py", .file "pass\n".toUTF8)])], []⟩

theorem cannotStart_blockedFiles :
    CannotStart Pattern.compile blockedFiles "src" "out" defaultPattern :=
  .inr (.inr ⟨.isDirectory, rfl⟩)

theorem run_batch_unstarted_blockedFiles :
    CannotStart Pattern.compile blockedFiles "src" "out" defaultPattern ∧
      ((Command.batch "src" "out" defaultPattern).run Pattern.compile blockedFiles).exitCode ≠ 0 ∧
      ∃ made places,
      Unstarted Pattern.compile blockedFiles
        ((Command.batch "src" "out" defaultPattern).run Pattern.compile blockedFiles).workspace
        "src" "out" defaultPattern made places ∧
      (SameFiles blockedFiles.files
          ((Command.batch "src" "out" defaultPattern).run Pattern.compile blockedFiles).workspace.files ↔
        ∀ p ∈ places, blockedFiles.files.contents? p = some .empty) :=
  ⟨cannotStart_blockedFiles, run_batch_unstarted cannotStart_blockedFiles⟩

/-- The trees of an earlier dataset are lost to a run that makes none. -/
theorem not_sameFiles_blockedFiles :
    blockedFiles.files.Orderly ∧ CannotStart Pattern.compile blockedFiles "src" "out" defaultPattern ∧
      ¬ SameFiles blockedFiles.files
        ((Command.batch "src" "out" defaultPattern).run Pattern.compile blockedFiles).workspace.files := by
  refine ⟨?_, cannotStart_blockedFiles, fun hsame => ?_⟩
  · have hsrc : Orderly (.dir [("a.py", .file "pass\n".toUTF8)]) :=
      .dir (by simp [IsName, isEntryName]) (List.pairwise_singleton _ _) (by simp [Orderly.file])
    exact .dir (by simp [IsName, isEntryName])
      (List.pairwise_cons.mpr ⟨by decide, List.pairwise_pair.mpr (by decide)⟩)
      (by simp only [List.forall_mem_cons]; exact ⟨.file, .empty, hsrc, List.forall_mem_nil _⟩)
  · have hlost : some ByteArray.empty = some "[]\n".toUTF8 := hsame ["out.json"]
    exact absurd (congrArg ByteArray.size (Option.some.inj hlost)) (by decide)

end PythonSyntax
