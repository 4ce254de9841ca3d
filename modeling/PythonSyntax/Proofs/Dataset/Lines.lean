import PythonSyntax.Proofs.Dataset.Start

/-
Datasets read back line by line.

The texts of trees have no line feeds, so the file of trees has one line for each of them.  A name is
written as it is, and a name may have line feeds: its file has a line for every piece of a name, and
these lines are the names just when no name is cut.
-/

namespace PythonSyntax

open FileTree Workspace

/-! ## Lines -/

/-- The lines of a text, each of which ends in a line feed. -/
def textLines (text : String) : List String := (text.toList.splitOn '\n').dropLast.map String.ofList

/-- The pieces of a name between its line feeds. -/
def namePieces (name : String) : List String := (name.toList.splitOn '\n').map String.ofList

/-- The lines of the file at a path, if there is one and it holds a text. -/
def Workspace.lines? (w : Workspace) (path : String) : Option (List String) :=
  (w.bytes? path).bind fun bytes => (String.fromUTF8? bytes).map textLines

variable {w w' : Workspace} {root output : String} {isMatch : String → Bool} {summary : DatasetSummary}
  {lines : List String} {path name : String}

theorem length_splitOn (cs : List Char) : (cs.splitOn '\n').length = cs.count '\n' + 1 := by
  induction cs with
  | nil => rfl
  | cons c cs ih =>
    rw [List.splitOn_cons_eq_if_modifyHead, List.count_cons]
    split
    · rw [List.length_cons, ih]
    · rw [List.length_modifyHead, ih, Nat.add_zero]

theorem length_namePieces (name : String) :
    (namePieces name).length = name.toList.count '\n' + 1 := by
  rw [namePieces, List.length_map, length_splitOn]

theorem namePieces_eq (h : '\n' ∉ name.toList) : namePieces name = [name] := by
  rw [namePieces, List.splitOn_eq_singleton h, List.map_singleton, String.ofList_toList]

theorem toList_linesText (lines : List String) :
    (linesText lines).toList = lines.flatMap fun line => line.toList ++ ['\n'] := by
  have hfrom : ∀ text : String, (lines.foldl (fun text line => text ++ (line ++ "\n")) text).toList =
      text.toList ++ lines.flatMap fun line => line.toList ++ ['\n'] := by
    induction lines with
    | nil => intro text; simp
    | cons line rest ih =>
      intro text
      rw [List.foldl_cons, ih, List.flatMap_cons, String.toList_append, String.toList_append,
        List.append_assoc]
      rfl
  exact hfrom ""

/-- The lines of a text that is made of lines are the pieces of these. -/
theorem textLines_linesText (lines : List String) :
    textLines (linesText lines) = lines.flatMap namePieces := by
  have hsplit : ((linesText lines).toList.splitOn '\n').dropLast =
      lines.flatMap fun line => line.toList.splitOn '\n' := by
    rw [toList_linesText]
    have hlast : ∀ cs : List Char, cs.splitOn '\n' ≠ [] := fun cs => List.splitOn_ne_nil _ _
    induction lines with
    | nil => rfl
    | cons line rest ih =>
      rw [List.flatMap_cons, List.flatMap_cons, List.append_assoc, List.singleton_append,
        List.splitOn_append_cons_self, List.dropLast_append_of_ne_nil (hlast _), ih]
  rw [textLines, hsplit, List.map_flatMap]
  rfl

theorem length_flatMap_namePieces (lines : List String) :
    (lines.flatMap namePieces).length =
      lines.length + (lines.map fun line => line.toList.count '\n').sum := by
  induction lines with
  | nil => rfl
  | cons line rest ih =>
    rw [List.flatMap_cons, List.length_append, ih, length_namePieces, List.length_cons, List.map_cons,
      List.sum_cons]
    omega

/-- No line is cut just when none has a line feed. -/
theorem flatMap_namePieces_eq_iff :
    lines.flatMap namePieces = lines ↔ ∀ line ∈ lines, '\n' ∉ line.toList := by
  constructor
  · intro heq line hline
    have hlen := length_flatMap_namePieces lines
    rw [heq] at hlen
    have hsum : (lines.map fun line => line.toList.count '\n').sum = 0 := by omega
    rw [List.sum_eq_zero_iff_forall_eq_nat, List.forall_mem_map] at hsum
    exact List.count_eq_zero.mp (hsum line hline)
  · intro hnone
    rw [List.flatMap_congr fun line hline => namePieces_eq (hnone line hline), List.flatMap_singleton']

theorem fromUTF8?_toUTF8 (text : String) : String.fromUTF8? text.toUTF8 = some text := by
  unfold String.fromUTF8?
  split
  · rfl
  · next h => exact absurd text.isValidUTF8 h

/-- A file of lines is read back as their pieces. -/
theorem lines?_of_bytes (h : w.bytes? path = some (linesText lines).toUTF8) :
    w.lines? path = some (lines.flatMap namePieces) := by
  rw [Workspace.lines?, h, Option.bind_some, fromUTF8?_toUTF8, Option.map_some, textLines_linesText]

/-! ## Main result -/

/-- What is read back from the lines of a dataset.  The matching files of the walk have the records, and
these say what the files held.  The lines of trees are always the trees of the files that have them;
the lines of names are the names of these files just when no name has a line feed, and so are those of
the files that have no tree. -/
theorem buildDataset_lines (horderly : w.files.Orderly)
    (h : buildDataset w root output isMatch = (.ok summary, w')) :
    ∃ rootPlace outputs start records,
      w.locate root = .ok rootPlace ∧ w.createAll (datasetPaths output) = .ok (outputs, start) ∧
        records.map Record.below = (start.files.walk rootPlace).filter
          (fun below => isMatch ("/".intercalate below)) ∧
        (∀ r ∈ records, rootPlace ++ r.below ∉ outputs →
          w.files.contents? (rootPlace ++ r.below) = some r.contents) ∧
        w'.lines? summary.treesPath =
          some ((Record.converted root records).map (·.2.document.compact)) ∧
        (w'.lines? summary.namesPath).map List.length =
          some ((Record.converted root records).length +
            ((Record.converted root records).map fun c => c.1.name.toList.count '\n').sum) ∧
        (w'.lines? summary.namesPath = some ((Record.converted root records).map (·.1.name)) ↔
          ∀ c ∈ Record.converted root records, '\n' ∉ c.1.name.toList) ∧
        (w'.lines? summary.failedPath = some ((Record.failed root records).map (·.1.name)) ↔
          ∀ f ∈ Record.failed root records, '\n' ∉ f.1.name.toList) := by
  obtain ⟨rootPlace, outputs, start, records, hrun⟩ := exists_completed horderly h
  obtain rfl := hrun.sums
  refine ⟨rootPlace, outputs, start, records, hrun.locates, hrun.creates, hrun.visits, ?_, ?_, ?_, ?_, ?_⟩
  · intro r hr hout
    have hsame := contents?_createAll (q := rootPlace ++ r.below) hrun.creates
    rw [if_neg hout] at hsame
    exact hsame.symm.trans ((hrun.reads r hr).unchanged hout)
  · have hshown : ∀ line ∈ (Record.converted root records).map (·.2.document.compact),
        '\n' ∉ line.toList := by
      intro line hline
      obtain ⟨c, hc, rfl⟩ := List.mem_map.mp hline
      intro hmem
      exact ((Json.shown_compact _).inLine hmem).1 rfl
    rw [lines?_of_bytes hrun.treesFile, flatMap_namePieces_eq_iff.mpr hshown]
  · rw [lines?_of_bytes hrun.namesFile, Option.map_some, length_flatMap_namePieces,
      List.length_map, List.map_map]
    rfl
  · rw [lines?_of_bytes hrun.namesFile, Option.some.injEq, flatMap_namePieces_eq_iff,
      List.forall_mem_map]
  · rw [lines?_of_bytes hrun.failedFile, Option.some.injEq, flatMap_namePieces_eq_iff,
      List.forall_mem_map]

/-- A program in a file whose name has a line feed. -/
def lineFeedFiles : Workspace :=
  ⟨.dir [("src", .dir [("a\nb.py", .file "pass\n".toUTF8)])], []⟩

theorem orderly_lineFeedFiles : lineFeedFiles.files.Orderly := by
  have hsrc : Orderly (.dir [("a\nb.py", .file "pass\n".toUTF8)]) :=
    .dir (by simp [IsName, isEntryName]) (List.pairwise_singleton _ _) (by simp [Orderly.file])
  exact .dir (by simp [IsName, isEntryName]) (List.pairwise_singleton _ _)
    (List.forall_mem_singleton.mpr hsrc)

/-- Its run writes one tree under that name. -/
theorem converted_lineFeedFiles : ∃ summary w' rootPlace outputs start r m,
    buildDataset lineFeedFiles "src" "out" Pattern.empty.isMatch = (.ok summary, w') ∧
      Completed lineFeedFiles w' "src" "out" Pattern.empty.isMatch summary rootPlace outputs start [r] ∧
      r.name = "a\nb.py" ∧ r.outcome "src" = .ok m := by
  obtain ⟨summary, w', hrun⟩ : ∃ summary w',
      buildDataset lineFeedFiles "src" "out" Pattern.empty.isMatch = (.ok summary, w') := ⟨_, _, rfl⟩
  obtain ⟨rootPlace, outputs, start, records, h⟩ := exists_completed orderly_lineFeedFiles hrun
  have hroot : lineFeedFiles.locate "src" = .ok ["src"] := rfl
  have hcreate : lineFeedFiles.createAll (datasetPaths "out") =
      .ok ([["out.json"], ["out.txt"], ["out_failed.txt"]],
        ⟨.dir [("out.json", .file .empty), ("out.txt", .file .empty), ("out_failed.txt", .file .empty),
          ("src", .dir [("a\nb.py", .file "pass\n".toUTF8)])], []⟩) := rfl
  obtain rfl := Except.ok.inj (h.locates.symm.trans hroot)
  obtain ⟨rfl, rfl⟩ := Prod.mk.inj (Except.ok.inj (h.creates.symm.trans hcreate))
  have hvisits : records.map Record.below = [["a\nb.py"]] := h.visits
  obtain ⟨r, rfl, hbelow⟩ := List.map_eq_singleton_iff.mp hvisits
  have hcontents : r.contents = "pass\n".toUTF8 := by
    have hread := (h.reads r (List.mem_singleton_self r)).unchanged (by rw [hbelow]; decide)
    rw [hbelow] at hread
    exact (Option.some.inj hread).symm
  obtain ⟨m, hm, -⟩ := exists_of_any
    (x := Module.ofSource unnamedSource "pass\n".toList defaultMaxNesting) (p := fun _ => true)
    (by decide +kernel)
  refine ⟨summary, w', _, _, _, r, m, hrun, h, ?_, ?_⟩
  · rw [Record.name, hbelow]
    rfl
  · exact outcome_ok_iff.mpr ⟨_, by rw [hcontents, fromUTF8?_toUTF8], hm⟩

theorem buildDataset_lines_lineFeedFiles :
    lineFeedFiles.files.Orderly ∧ ∃ summary w',
      buildDataset lineFeedFiles "src" "out" Pattern.empty.isMatch = (.ok summary, w') ∧
        ∃ records : List Record,
          w'.lines? summary.treesPath =
            some ((Record.converted "src" records).map (·.2.document.compact)) ∧
          (w'.lines? summary.namesPath = some ((Record.converted "src" records).map (·.1.name)) ↔
            ∀ c ∈ Record.converted "src" records, '\n' ∉ c.1.name.toList) := by
  obtain ⟨summary, w', _, _, _, _, _, hrun, _⟩ := converted_lineFeedFiles
  obtain ⟨_, _, _, records, _, _, _, _, htrees, _, hnames, _⟩ :=
    buildDataset_lines orderly_lineFeedFiles hrun
  exact ⟨orderly_lineFeedFiles, summary, w', hrun, records, htrees, hnames⟩

/-- There is one tree, and there are two lines of names. -/
theorem lines_lineFeedFiles :
    lineFeedFiles.files.Orderly ∧ ∃ summary w',
      buildDataset lineFeedFiles "src" "out" Pattern.empty.isMatch = (.ok summary, w') ∧
        (w'.lines? summary.treesPath).map List.length = some 1 ∧
        w'.lines? summary.namesPath = some ["a", "b.py"] := by
  obtain ⟨summary, w', rootPlace, outputs, start, r, m, hrun, h, hname, hm⟩ := converted_lineFeedFiles
  obtain rfl := h.sums
  have hconverted : Record.converted "src" [r] = [(r, m)] := by
    simp [Record.converted, hm]
  refine ⟨orderly_lineFeedFiles, _, w', hrun, ?_, ?_⟩
  · have hshown : '\n' ∉ m.document.compact.toList :=
      fun hmem => ((Json.shown_compact _).inLine hmem).1 rfl
    rw [lines?_of_bytes h.treesFile, hconverted]
    simp [namePieces_eq hshown]
  · rw [lines?_of_bytes h.namesFile, hconverted, List.map_singleton, hname]
    rfl

end PythonSyntax
