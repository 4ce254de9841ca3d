import PythonSyntax.Pattern
import PythonSyntax.Proofs.Dataset.Run
import PythonSyntax.Proofs.Json.Line

/-
What a dataset says.

The files below a root whose names match are split in two: those whose text is a program, and the
others.  Every one of them has one record, in the order of the walk; the trees, their names, the
names of the others and the summary are four views of the same records.
-/

namespace PythonSyntax

open FileTree Workspace

/-! ## Names -/

/-- Places have different names. -/
theorem intercalate_injective {p q : Place} (hp : ∀ name ∈ p, IsName name)
    (hq : ∀ name ∈ q, IsName name) (h : "/".intercalate p = "/".intercalate q) : p = q := by
  have hslash : ∀ p : Place, (∀ name ∈ p, IsName name) →
      ∀ cs ∈ p.map String.toList, '/' ∉ cs := by
    intro p hp cs hcs
    obtain ⟨name, hname, rfl⟩ := List.mem_map.mp hcs
    exact (hp name hname).2
  -- a name cannot be empty, so one of some names is not that of no name
  have hnil : ∀ p : Place, (∀ name ∈ p, IsName name) →
      ['/'].intercalate (p.map String.toList) = [] → p = [] := by
    intro p hp hempty
    cases p with
    | nil => rfl
    | cons name rest =>
      have hsplit := List.splitOn_intercalate '/' (hslash _ hp) (List.cons_ne_nil _ _)
      rw [hempty, List.splitOn_nil, List.map_cons, List.cons.injEq] at hsplit
      have hname := (hp name List.mem_cons_self).1
      rw [String.toList_eq_nil_iff.mp hsplit.1.symm] at hname
      cases hname
  have hchars := congrArg String.toList h
  rw [String.toList_intercalate, String.toList_intercalate] at hchars
  change ['/'].intercalate _ = ['/'].intercalate _ at hchars
  by_cases hpnil : p = []
  · rw [hpnil, List.map_nil] at hchars
    rw [hpnil, hnil q hq hchars.symm]
  · by_cases hqnil : q = []
    · rw [hqnil, List.map_nil] at hchars
      exact absurd (hnil p hp hchars) hpnil
    · have hsplit := congrArg (List.splitOn '/') hchars
      rw [List.splitOn_intercalate '/' (hslash p hp) (mt List.map_eq_nil_iff.mp hpnil),
        List.splitOn_intercalate '/' (hslash q hq) (mt List.map_eq_nil_iff.mp hqnil)] at hsplit
      exact List.map_injective_iff.mpr (fun a b => String.toList_inj.mp) hsplit

/-! ## The files of a walk -/

namespace FileTree

/-- The places below a directory, or at a file, to which a walk comes. -/
def walk (t : FileTree) (p : Place) : List Place := ((t.get? p).map places).getD []

variable {t : FileTree} {p below : Place}

theorem mem_walk (h : t.Orderly) : below ∈ t.walk p ↔ (t.contents? (p ++ below)).isSome := by
  rw [walk, contents?, get?_append]
  cases hu : t.get? p with
  | none => exact ⟨fun h => (by cases h), fun h => (by cases h)⟩
  | some u => exact mem_places (h.get? hu).2

theorem nodup_walk (h : t.Orderly) : (t.walk p).Nodup := by
  rw [walk]
  cases hu : t.get? p with
  | none => exact .nil
  | some u => exact nodup_places (h.get? hu).2

theorem isName_of_mem_walk (h : t.Orderly) (hbelow : below ∈ t.walk p) :
    ∀ name ∈ below, IsName name := by
  obtain ⟨bytes, hbytes⟩ := Option.isSome_iff_exists.mp ((mem_walk h).mp hbelow)
  have hnames := (h.get? (contents?_eq_some.mp hbytes)).1
  exact fun name hname => hnames name (List.mem_append_right _ hname)

end FileTree

/-! ## Runs -/

/-- The paths of the three files of a dataset. -/
def datasetPaths (output : String) : List String :=
  [".json", ".txt", "_failed.txt"].map (output ++ ·)

variable {w w' : Workspace} {root output : String} {isMatch : String → Bool} {summary : DatasetSummary}

/-- A run that succeeds has found its root and has made its files; then it walks. -/
theorem buildDataset_ok (h : buildDataset w root output isMatch = (.ok summary, w')) :
    ∃ rootPlace trees names failures start run,
      w.locate root = .ok rootPlace ∧
      w.createAll (datasetPaths output) = .ok ([trees, names, failures], start) ∧
      run = ((start.files.walk rootPlace).foldl (DatasetRun.visit isMatch rootPlace root)
        ⟨start.files, ⟨trees, .empty⟩, ⟨names, .empty⟩, ⟨failures, .empty⟩, 0, []⟩) ∧
      summary = ⟨run.converted, run.failed, output ++ ".json", output ++ ".txt",
        output ++ "_failed.txt"⟩ ∧
      w' = { start with files := run.flush.files } := by
  rw [buildDataset] at h
  dsimp only at h
  split at h
  · cases h
  · next rootPlace hroot =>
    split at h
    · cases h
    · next trees w₁ htrees =>
      split at h
      · cases h
      · next names w₂ hnames =>
        split at h
        · cases h
        · next failures start hfailures =>
          cases h
          exact ⟨rootPlace, trees, names, failures, start, _, hroot,
            createAll_cons htrees (createAll_cons hnames (createAll_cons hfailures rfl)), rfl, rfl, rfl⟩

/-- What the files of a dataset and its summary say: the walk began at `rootPlace`, the place of
`root`, in the workspace `start`, and `w'` is what the run has left. -/
structure Accounts (start w' : Workspace) (rootPlace : Place) (outputs : List Place)
    (root output : String) (isMatch : String → Bool) (summary : DatasetSummary)
    (records : List Record) : Prop where
  /-- The files with a matching name have one record each, under that name, with a tree or
  without one. -/
  once : ∀ below bytes, start.files.get? (rootPlace ++ below) = some (.file bytes) →
    isMatch ("/".intercalate below) = true →
      ((Record.converted root records).map (·.1.name) ++
        (Record.failed root records).map (·.1.name)).count ("/".intercalate below) = 1
  /-- There are no other records. -/
  only : ∀ r ∈ records, isMatch r.name = true ∧
    ∃ bytes, start.files.get? (rootPlace ++ r.below) = some (.file bytes)
  /-- The records are in the order of the walk. -/
  inOrder : (records.map Record.below).Sublist (start.files.walk rootPlace)
  /-- A file that is not an output was read as it stood when the walk began. -/
  contents : ∀ r ∈ records, rootPlace ++ r.below ∉ outputs →
    start.files.get? (rootPlace ++ r.below) = some (.file r.contents)
  /-- Of an output a beginning was read. -/
  beginning : ∀ r ∈ records, ∃ more,
    w'.files.get? (rootPlace ++ r.below) = some (.file (r.contents ++ more))
  /-- The files with trees are those whose bytes are the text of a program. -/
  converted_iff : ∀ r ∈ records, r.name ∈ (Record.converted root records).map (·.1.name) ↔
    ∃ text m, String.fromUTF8? r.contents = some text ∧
      Module.ofSource unnamedSource text.toList defaultMaxNesting = .ok m
  /-- The tree that is recorded with a file is the one of its text. -/
  trees : ∀ c ∈ Record.converted root records, ∃ text,
    String.fromUTF8? c.1.contents = some text ∧
      Module.ofSource unnamedSource text.toList defaultMaxNesting = .ok c.2
  /-- The text of a tree is one line. -/
  oneLine : ∀ c ∈ Record.converted root records,
    ∀ ch ∈ c.2.document.compact.toList, ch ≠ '\n' ∧ ch ≠ '\r'
  paths : [summary.treesPath, summary.namesPath, summary.failedPath] = datasetPaths output
  treesFile : w'.bytes? summary.treesPath =
    some (linesText ((Record.converted root records).map (·.2.document.compact))).toUTF8
  namesFile : w'.bytes? summary.namesPath =
    some (linesText ((Record.converted root records).map (·.1.name))).toUTF8
  failedFile : w'.bytes? summary.failedPath =
    some (linesText ((Record.failed root records).map (·.1.name))).toUTF8
  count : summary.converted = (Record.converted root records).length
  reasons : summary.failed = (Record.failed root records).map fun f => (f.1.name, f.2)

/-! ## Trees and texts -/

/-- Whether a file has a tree does not depend on what it is called. -/
theorem outcome_ok_iff {r : Record} {m : Module} :
    r.outcome root = .ok m ↔ ∃ text, String.fromUTF8? r.contents = some text ∧
      Module.ofSource unnamedSource text.toList defaultMaxNesting = .ok m := by
  have hname : ∀ name text, Module.ofSource name text defaultMaxNesting = .ok m ↔
      parseModule text defaultMaxNesting = .ok m := by
    intro name text
    rw [Module.ofSource]
    cases parseModule text defaultMaxNesting with
    | ok m' => exact ⟨fun h => by cases h; rfl, fun h => by cases h; rfl⟩
    | error err => exact ⟨fun h => (by cases h), fun h => (by cases h)⟩
  rw [Record.outcome, decodeUtf8]
  cases String.fromUTF8? r.contents with
  | none =>
    constructor
    · intro h
      cases h
    · rintro ⟨text, h, -⟩
      cases h
  | some text =>
    constructor
    · intro h
      exact ⟨text, rfl, (hname _ _).mpr ((hname _ _).mp h)⟩
    · rintro ⟨text, heq, h⟩
      cases heq
      exact (hname _ _).mpr ((hname _ _).mp h)

/-! ## Completed runs -/

/-- A run that has come to its end: its walk began at `rootPlace`, the place of `root`, in the workspace
`start`, where its files had been made at the places `outputs`, and it left the workspace `w'`. -/
structure Completed (w w' : Workspace) (root output : String) (isMatch : String → Bool)
    (summary : DatasetSummary) (rootPlace : Place) (outputs : List Place) (start : Workspace)
    (records : List Record) : Prop where
  locates : w.locate root = .ok rootPlace
  creates : w.createAll (datasetPaths output) = .ok (outputs, start)
  made : Made w outputs start
  current : w'.current = start.current
  grows : Grows outputs start.files w'.files
  /-- The matching files of the walk have the records, each one. -/
  visits : records.map Record.below =
    (start.files.walk rootPlace).filter fun below => isMatch ("/".intercalate below)
  reads : ∀ r ∈ records, Reads start.files rootPlace outputs w'.files r
  sums : summary =
    ⟨(Record.converted root records).length,
      (Record.failed root records).map fun f => (f.1.name, f.2),
      output ++ ".json", output ++ ".txt", output ++ "_failed.txt"⟩
  treesFile : w'.bytes? (output ++ ".json") =
    some (linesText ((Record.converted root records).map (·.2.document.compact))).toUTF8
  namesFile : w'.bytes? (output ++ ".txt") =
    some (linesText ((Record.converted root records).map (·.1.name))).toUTF8
  failedFile : w'.bytes? (output ++ "_failed.txt") =
    some (linesText ((Record.failed root records).map (·.1.name))).toUTF8

/-- The three files of a dataset stand side by side, and as long as directories are kept their paths lead
to them. -/
theorem exists_outputs {outputs : List Place} {start : Workspace}
    (h : w.createAll (datasetPaths output) = .ok (outputs, start)) :
    ∃ place : String → Place, outputs = [".json", ".txt", "_failed.txt"].map place ∧ outputs.Nodup ∧
      Made w outputs start ∧
      ∀ suffix ∈ [".json", ".txt", "_failed.txt"], ∀ files bytes, Keeps start.files files →
        files.contents? (place suffix) = some bytes →
          Workspace.bytes? ⟨files, start.current⟩ (output ++ suffix) = some bytes := by
  obtain ⟨dir, last, hlast, hpath⟩ := exists_pathNames output
  obtain ⟨parent, hparent⟩ : ∃ parent, follow w.files (w.start output) dir = .ok parent := by
    obtain ⟨p, w₂, _, hcreate, -⟩ := createAll_cons_inv h
    obtain ⟨parent, -, hparent, -⟩ := create_cases (hpath ".json" (by decide)) hcreate
    rw [start_append (by decide)] at hparent
    exact ⟨parent, hparent⟩
  have hsuffixes : ∀ suffix ∈ [".json", ".txt", "_failed.txt"], '/' ∉ suffix.toList := by decide
  obtain ⟨hplaces, hentries, hmade⟩ := createAll_spec hlast hpath hsuffixes (by decide) hparent h
  refine ⟨fun suffix => parent ++ [last ++ suffix], hplaces, ?_, hmade, ?_⟩
  · rw [hplaces]
    refine List.Nodup.map (fun a b hab => ?_) (by decide)
    exact (String.append_right_inj _).mp (List.cons.inj (List.append_cancel_left hab)).1
  · intro suffix hsuffix files bytes hkeeps hbytes
    have hslash : '/' ∉ suffix.toList := hsuffixes suffix hsuffix
    refine bytes?_of_contents (hpath suffix hslash) (hentries suffix hsuffix) ?_ hbytes
    rw [start_append hslash, Workspace.start]
    dsimp only
    rw [hmade.current]
    exact follow_keeps (hmade.keeps.trans hkeeps) hparent

/-- A walk from newly made outputs on records the files that it visits. -/
theorem Workspace.Made.exists_recorded {start : Workspace} {rootPlace trees names failures : Place}
    (hmade : Made w [trees, names, failures] start) (horderly : w.files.Orderly)
    (hnodup : [trees, names, failures].Nodup) :
    ∃ records, records.map Record.below =
        (start.files.walk rootPlace).filter (fun below => isMatch ("/".intercalate below)) ∧
      Recorded start.files rootPlace root [trees, names, failures] records
        ((start.files.walk rootPlace).foldl (DatasetRun.visit isMatch rootPlace root)
          ⟨start.files, ⟨trees, .empty⟩, ⟨names, .empty⟩, ⟨failures, .empty⟩, 0, []⟩) := by
  have hempty : ∀ p ∈ [trees, names, failures],
      Sink.Holds ⟨p, .empty⟩ start.files (linesText []).toUTF8 :=
    fun p hp => ⟨.empty, hmade.empties p hp, rfl⟩
  simp only [List.forall_mem_cons] at hempty
  have hrecorded : Recorded start.files rootPlace root [trees, names, failures] []
      ⟨start.files, ⟨trees, .empty⟩, ⟨names, .empty⟩, ⟨failures, .empty⟩, 0, []⟩ :=
    ⟨rfl, hempty.1, hempty.2.1, hempty.2.2.1, rfl, rfl, .refl _ _, List.forall_mem_nil _⟩
  exact hrecorded.walk hnodup fun below hmem => (mem_walk (hmade.orderly horderly)).mp hmem

/-- A run that succeeds has come to its end. -/
theorem exists_completed (horderly : w.files.Orderly)
    (h : buildDataset w root output isMatch = (.ok summary, w')) :
    ∃ rootPlace outputs start records,
      Completed w w' root output isMatch summary rootPlace outputs start records := by
  obtain ⟨rootPlace, trees, names, failures, start, run, hroot, hcreate, hrun, rfl, rfl⟩ :=
    buildDataset_ok h
  obtain ⟨place, hplaces, hnodup, hmade, hpaths⟩ := exists_outputs hcreate
  obtain ⟨records, hbelow, hrecorded⟩ := hmade.exists_recorded horderly hnodup
  rw [← hrun] at hrecorded
  obtain ⟨htrees, hnames, hfailures, hgrows⟩ := hrecorded.flush hnodup
  -- what the paths lead to when all has been written
  have hbytes : ∀ suffix ∈ [".json", ".txt", "_failed.txt"], ∀ bytes,
      run.flush.files.contents? (place suffix) = some bytes →
        Workspace.bytes? ⟨run.flush.files, start.current⟩ (output ++ suffix) = some bytes :=
    fun suffix hsuffix bytes =>
      hpaths suffix hsuffix _ bytes (hrecorded.grows.keeps.trans hgrows.keeps)
  have hrunPlaces := hrecorded.places
  simp only [List.map_cons, List.map_nil, List.cons.injEq, and_true] at hplaces hrunPlaces
  refine ⟨rootPlace, [trees, names, failures], start, records, ?_⟩
  exact
    { locates := hroot
      creates := hcreate
      made := hmade
      current := rfl
      grows := hrecorded.grows.trans hgrows
      visits := hbelow
      reads := fun r hr => (hrecorded.reads r hr).grows hgrows
      sums := by rw [hrecorded.converted, hrecorded.failed]
      treesFile := hbytes _ (by simp) _ (by rw [← hplaces.1, ← hrunPlaces.1]; exact htrees)
      namesFile := hbytes _ (by simp) _ (by rw [← hplaces.2.1, ← hrunPlaces.2.1]; exact hnames)
      failedFile := hbytes _ (by simp) _
        (by rw [← hplaces.2.2, ← hrunPlaces.2.2]; exact hfailures) }

/-! ## Records of a completed run -/

namespace Completed

variable {rootPlace : Place} {outputs : List Place} {start : Workspace} {records : List Record}

/-- A record is of a file of the walk with a matching name. -/
theorem mem_walk_of_mem (h : Completed w w' root output isMatch summary rootPlace outputs start records)
    {r : Record} (hr : r ∈ records) :
    r.below ∈ start.files.walk rootPlace ∧ isMatch r.name = true := by
  have hfilter := h.visits ▸ List.mem_map_of_mem (f := Record.below) hr
  exact List.mem_filter.mp hfilter

/-- A file below the root with a matching name has a record. -/
theorem exists_record (h : Completed w w' root output isMatch summary rootPlace outputs start records)
    (horderly : w.files.Orderly) {below : Place} {bytes : ByteArray}
    (hfile : start.files.contents? (rootPlace ++ below) = some bytes)
    (hmatch : isMatch ("/".intercalate below) = true) : ∃ r ∈ records, r.below = below := by
  have hwalk : below ∈ start.files.walk rootPlace := by
    rw [mem_walk (h.made.orderly horderly), hfile]
    rfl
  exact List.mem_map.mp (h.visits ▸ List.mem_filter.mpr ⟨hwalk, hmatch⟩)

/-- Names tell the records apart. -/
theorem nodup_names (h : Completed w w' root output isMatch summary rootPlace outputs start records)
    (horderly : w.files.Orderly) : (records.map Record.name).Nodup := by
  have hstart := h.made.orderly horderly
  have hmap : records.map Record.name = (records.map Record.below).map ("/".intercalate ·) :=
    List.map_map.symm
  rw [hmap]
  refine List.Nodup.map_on (fun p hp q hq hpq => ?_) (h.visits ▸ (nodup_walk hstart).filter _)
  rw [h.visits] at hp hq
  exact intercalate_injective (isName_of_mem_walk hstart (List.mem_filter.mp hp).1)
    (isName_of_mem_walk hstart (List.mem_filter.mp hq).1) hpq

/-- No file has more than one, with a tree or without one. -/
theorem count_name (h : Completed w w' root output isMatch summary rootPlace outputs start records)
    (horderly : w.files.Orderly) {below : Place} {bytes : ByteArray}
    (hfile : start.files.get? (rootPlace ++ below) = some (.file bytes))
    (hmatch : isMatch ("/".intercalate below) = true) :
    ((Record.converted root records).map (·.1.name) ++
      (Record.failed root records).map (·.1.name)).count ("/".intercalate below) = 1 := by
  have hsplit := (Record.perm_split root records).map Record.name
  rw [List.map_append, List.map_map, List.map_map] at hsplit
  obtain ⟨r, hr, rfl⟩ := h.exists_record horderly (contents?_eq_some.mpr hfile) hmatch
  exact (hsplit.count_eq _).trans
    (List.count_eq_one_of_mem (h.nodup_names horderly) (List.mem_map_of_mem hr))

/-- The records with trees are those of texts of programs. -/
theorem converted_iff (h : Completed w w' root output isMatch summary rootPlace outputs start records)
    (horderly : w.files.Orderly) {r : Record} (hr : r ∈ records) :
    r.name ∈ (Record.converted root records).map (·.1.name) ↔
      ∃ text m, String.fromUTF8? r.contents = some text ∧
        Module.ofSource unnamedSource text.toList defaultMaxNesting = .ok m := by
  constructor
  · intro hname
    obtain ⟨c, hc, hname⟩ := List.mem_map.mp hname
    obtain ⟨hc, hm⟩ := Record.mem_converted hc
    have heq := List.inj_on_of_nodup_map (h.nodup_names horderly) hc hr hname
    obtain ⟨text, htext, hm⟩ := outcome_ok_iff.mp hm
    exact ⟨text, c.2, heq ▸ htext, hm⟩
  · rintro ⟨text, m, htext, hm⟩
    exact List.mem_map.mpr
      ⟨_, Record.converted_of_mem hr (outcome_ok_iff.mpr ⟨text, htext, hm⟩), rfl⟩

end Completed

/-! ## Main result -/

/-- A run that succeeds splits the matching files in two, and all that it leaves says how. -/
theorem buildDataset_accounts (horderly : w.files.Orderly)
    (h : buildDataset w root output isMatch = (.ok summary, w')) :
    ∃ rootPlace outputs start records,
      w.locate root = .ok rootPlace ∧ w.createAll (datasetPaths output) = .ok (outputs, start) ∧
        Accounts start w' rootPlace outputs root output isMatch summary records := by
  obtain ⟨rootPlace, outputs, start, records, hrun⟩ := exists_completed horderly h
  have hstart := hrun.made.orderly horderly
  obtain rfl := hrun.sums
  refine ⟨rootPlace, outputs, start, records, hrun.locates, hrun.creates, ?_⟩
  refine
    { once := fun below bytes hfile hmatch => hrun.count_name horderly hfile hmatch
      only := fun r hr => ⟨(hrun.mem_walk_of_mem hr).2, ?_⟩
      inOrder := hrun.visits ▸ List.filter_sublist
      contents := fun r hr hout => contents?_eq_some.mp ((hrun.reads r hr).unchanged hout)
      beginning := fun r hr => ?_
      converted_iff := fun r hr => hrun.converted_iff horderly hr
      trees := fun c hc => outcome_ok_iff.mp (Record.mem_converted hc).2
      oneLine := fun c _ ch hch => (Json.shown_compact _).inLine hch
      paths := rfl
      treesFile := hrun.treesFile
      namesFile := hrun.namesFile
      failedFile := hrun.failedFile
      count := rfl
      reasons := rfl }
  · obtain ⟨bytes, hcontents⟩ :=
      Option.isSome_iff_exists.mp ((mem_walk hstart).mp (hrun.mem_walk_of_mem hr).1)
    exact ⟨bytes, contents?_eq_some.mp hcontents⟩
  · obtain ⟨more, hmore⟩ := (hrun.reads r hr).beginning
    exact ⟨more, contents?_eq_some.mp hmore⟩

/-- Two files, of which one is a program. -/
def twoFiles : Workspace :=
  ⟨.dir [("src", .dir [("a.py", .file "pass\n".toUTF8), ("b.py", .file "(".toUTF8)])], []⟩

theorem orderly_twoFiles : twoFiles.files.Orderly := by
  have hsrc : Orderly (.dir [("a.py", .file "pass\n".toUTF8), ("b.py", .file "(".toUTF8)]) :=
    .dir (by simp [IsName, isEntryName]) (by rw [List.pairwise_pair]; decide) (by simp [Orderly.file])
  exact .dir (by simp [IsName, isEntryName]) (List.pairwise_singleton _ _)
    (List.forall_mem_singleton.mpr hsrc)

theorem buildDataset_accounts_twoFiles :
    twoFiles.files.Orderly ∧ ∃ summary w',
      buildDataset twoFiles "src" "out" Pattern.empty.isMatch = (.ok summary, w') ∧
        ∃ rootPlace outputs start records,
          twoFiles.locate "src" = .ok rootPlace ∧
            twoFiles.createAll (datasetPaths "out") = .ok (outputs, start) ∧
            Accounts start w' rootPlace outputs "src" "out" Pattern.empty.isMatch summary records :=
  ⟨orderly_twoFiles, _, _, rfl, buildDataset_accounts orderly_twoFiles rfl⟩

end PythonSyntax
