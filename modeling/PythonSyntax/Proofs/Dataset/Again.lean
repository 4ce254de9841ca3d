import PythonSyntax.Proofs.Dataset.Start

/-
Runs that are made again.

The three files of a run are made before its walk, so a walk comes to those of them that stand at or
below its root, and reads them like all other files as far as they are written.  A second run begins
by emptying them.  That leaves the files in which the first one began its walk, and so the two runs
write the same.
-/

namespace PythonSyntax

open FileTree Workspace

namespace Workspace

variable {w w₁ v : Workspace} {path : String} {paths : List String} {p : Place} {ps : List Place}

/-! ## Files that are there -/

/-- Making a file keeps the directories. -/
theorem keeps_create (h : w.create path = .ok (p, w₁)) : Keeps w.files w₁.files := by
  obtain ⟨dir, last, hnames⟩ := exists_pathNames_eq path
  obtain ⟨parent, entries, -, -, -, -, hfree, rfl⟩ := create_cases hnames h
  exact .put hfree

theorem current_create (h : w.create path = .ok (p, w₁)) : w₁.current = w.current := by
  obtain ⟨dir, last, hnames⟩ := exists_pathNames_eq path
  obtain ⟨parent, entries, -, -, -, -, -, rfl⟩ := create_cases hnames h
  rfl

theorem keeps_createAll (h : w.createAll paths = .ok (ps, w₁)) : Keeps w.files w₁.files := by
  induction paths generalizing w ps with
  | nil =>
    cases h
    exact .refl _
  | cons path rest ih =>
    obtain ⟨p, w₂, ps', hcreate, hrest, rfl⟩ := createAll_cons_inv h
    exact (keeps_create hcreate).trans (ih hrest)

/-- A file that could be made, and that is there now, can be made empty. -/
theorem create_again (h : w.create path = .ok (p, w₁)) (hcurrent : v.current = w.current)
    (hkeeps : Keeps w.files v.files) (hfile : (v.files.contents? p).isSome) :
    v.create path = .ok (p, { v with files := v.files.put p (.file .empty) }) := by
  obtain ⟨dir, last, hnames⟩ := exists_pathNames_eq path
  obtain ⟨parent, entries, hparent, hdir, rfl, hlast, -, -⟩ := create_cases hnames h
  obtain ⟨entries', hdir', -⟩ := hkeeps parent entries hdir
  obtain ⟨bytes, hbytes⟩ := Option.isSome_iff_exists.mp hfile
  have hlookup : entries'.lookup last = some (.file bytes) := by
    rw [contents?_eq_some, get?_append, hdir', Option.bind_some, get?_cons, FileTree.entries,
      Option.bind_eq_some_iff] at hbytes
    obtain ⟨child, hchild, hbytes⟩ := hbytes
    cases hbytes
    exact hchild
  have hparent' : follow v.files (v.start path) dir = .ok parent := by
    rw [Workspace.start, hcurrent]
    exact follow_keeps hkeeps hparent
  have hplace : v.locateNew path = .ok (parent ++ [last]) := by
    rw [locateNew, hnames, List.dropLast_concat, List.getLast?_concat, hparent']
    simp only [hdir', bind, Except.bind]
    exact if_pos ⟨hlast, by rw [hlookup]; rfl⟩
  rw [create, hplace]
  rfl

/-- What emptying files leaves: it changes no directory. -/
structure Emptied (v : Workspace) (ps : List Place) (v₁ : Workspace) : Prop where
  current : v₁.current = v.current
  contents : ∀ q, v₁.files.contents? q = if q ∈ ps then some .empty else v.files.contents? q
  isDir : ∀ q, (∃ entries, v₁.files.get? q = some (.dir entries)) ↔
    ∃ entries, v.files.get? q = some (.dir entries)
  orderly : v.files.Orderly → v₁.files.Orderly

/-- Files that could be made, and that are there now, can be made empty. -/
theorem createAll_again (h : w.createAll paths = .ok (ps, w₁)) (hcurrent : v.current = w.current)
    (hkeeps : Keeps w₁.files v.files) (hfiles : ∀ p ∈ ps, (v.files.contents? p).isSome) :
    ∃ v₁, v.createAll paths = .ok (ps, v₁) ∧ Emptied v ps v₁ := by
  induction paths generalizing w v ps with
  | nil =>
    cases h
    exact ⟨v, rfl, rfl, fun q => by rw [if_neg List.not_mem_nil], fun _ => Iff.rfl, id⟩
  | cons path rest ih =>
    obtain ⟨p, w₂, ps', hcreate, hrest, rfl⟩ := createAll_cons_inv h
    rw [List.forall_mem_cons] at hfiles
    obtain ⟨old, hold⟩ := Option.isSome_iff_exists.mp hfiles.1
    have hagain := create_again hcreate hcurrent
      ((keeps_create hcreate).trans ((keeps_createAll hrest).trans hkeeps)) hfiles.1
    have hput : Keeps v.files (v.files.put p (.file .empty)) :=
      .put fun entries hdir => by rw [contents?_eq_some.mp hold] at hdir; cases hdir
    obtain ⟨v₁, hv₁, hemptied⟩ := ih (v := { v with files := v.files.put p (.file .empty) }) hrest
      (hcurrent.trans (current_create hcreate).symm) (hkeeps.trans hput) (fun q hq => by
        rw [contents?_put hold]
        split
        · rfl
        · exact hfiles.2 q hq)
    refine ⟨v₁, createAll_cons hagain hv₁, hemptied.current, fun q => ?_,
      fun q => (hemptied.isDir q).trans (isDir_put hold),
      fun horderly => hemptied.orderly
        (horderly.put .file (horderly.get? (contents?_eq_some.mp hold)).1)⟩
    rw [hemptied.contents, contents?_put hold, ite_mem_cons]

/-- Files at paths with one beginning have names that end as their paths do. -/
theorem exists_place_of_createAll {output : String} {suffixes : List String}
    (hslash : ∀ suffix ∈ suffixes, '/' ∉ suffix.toList)
    (h : w.createAll (suffixes.map (output ++ ·)) = .ok (ps, w₁)) :
    ∀ p ∈ ps, ∃ parent last, ∃ suffix ∈ suffixes, p = parent ++ [last ++ suffix] := by
  induction suffixes generalizing w ps with
  | nil =>
    cases h
    exact List.forall_mem_nil _
  | cons suffix rest ih =>
    rw [List.forall_mem_cons] at hslash
    obtain ⟨p, w₂, ps', hcreate, hrest, rfl⟩ := createAll_cons_inv h
    obtain ⟨dir, last, -, hnames⟩ := exists_pathNames output
    obtain ⟨parent, entries, -, -, hp, -, -, -⟩ := create_cases (hnames suffix hslash.1) hcreate
    refine List.forall_mem_cons.mpr ⟨⟨parent, last, suffix, List.mem_cons_self, hp⟩, fun q hq => ?_⟩
    obtain ⟨parent, last, suffix, hsuffix, hq⟩ := ih hslash.2 hrest q hq
    exact ⟨parent, last, suffix, List.mem_cons_of_mem _ hsuffix, hq⟩

end Workspace

/-! ## The pattern of a run that is told none -/

/-- What the default pattern asks of a name: that it ends in `.py`. -/
def SelectsPython (isMatch : String → Bool) : Prop :=
  ∀ name, isMatch name = true ↔ ['.', 'p', 'y'] <:+ name.toList

theorem suffix_intercalate (last : List Char) (front : List (List Char)) :
    last <:+ ['/'].intercalate (front ++ [last]) := by
  induction front with
  | nil => exact ⟨[], by simp⟩
  | cons first rest ih =>
    rw [List.cons_append, List.intercalate_cons_of_ne_nil (List.concat_ne_nil _ _)]
    exact List.suffix_append_of_suffix ih

/-- These are the names of no outputs. -/
theorem SelectsPython.not_output {isMatch : String → Bool} (h : SelectsPython isMatch)
    {suffix last : String} {front : Place} (hsuffix : suffix ∈ [".json", ".txt", "_failed.txt"]) :
    ¬ isMatch ("/".intercalate (front ++ [last ++ suffix])) = true := by
  intro hmatch
  have hend : suffix.toList <:+ ("/".intercalate (front ++ [last ++ suffix])).toList := by
    rw [String.toList_intercalate, List.map_append, List.map_singleton, String.toList_append]
    exact (List.suffix_append _ _).trans (suffix_intercalate _ _)
  have hother : ∀ suffix ∈ [".json", ".txt", "_failed.txt"],
      3 ≤ suffix.toList.length ∧ ¬ ['.', 'p', 'y'] <:+ suffix.toList := by decide
  obtain ⟨hlen, hnot⟩ := hother suffix hsuffix
  exact hnot (List.suffix_of_suffix_length_le ((h _).mp hmatch) hend hlen)

namespace Pattern

variable {text : Array Char} {c : Char} {p q : Pattern} {i j : Nat} {name : String}

theorem mem_ends_seq_char :
    j ∈ ends text (seq (char c) q) i ↔ text[i]? = some c ∧ j ∈ ends text q (i + 1) := by
  rw [ends, List.mem_eraseDups, List.mem_flatMap, char, ends]
  cases text[i]? with
  | none => simp
  | some d =>
    have hclass : inClass false [(c, c)] d = true ↔ d = c := by
      rw [inClass, Bool.bne_false, List.any_cons, List.any_nil, Bool.or_false, Bool.and_eq_true,
        decide_eq_true_iff, decide_eq_true_iff, le_antisymm_iff, and_comm]
    by_cases hd : d = c
    · dsimp only
      rw [if_pos (hclass.mpr hd), hd]
      simp
    · dsimp only
      rw [if_neg (mt hclass.mp hd)]
      simp [hd]

theorem isMatch_iff :
    p.isMatch name = true ↔ ∃ i ≤ name.toList.length, ∃ j, j ∈ ends name.toList.toArray p i := by
  simp only [isMatch, List.any_eq_true, List.mem_range, List.size_toArray, Nat.lt_succ_iff,
    Bool.not_eq_true', List.isEmpty_eq_false_iff_exists_mem]

/-- So the default pattern is read. -/
theorem selectsPython_default (hp : ofString? defaultPattern = some p) : SelectsPython p.isMatch := by
  intro name
  have hread : p = seq (char '.') (seq (char 'p') (seq (char 'y') (seq textStop empty))) :=
    (Option.some.inj hp).symm
  have hstop : ∀ j i, j ∈ ends name.toList.toArray (seq textStop empty) i ↔
      i = name.toList.length ∧ j = i := by
    intro j i
    rw [ends, List.mem_eraseDups, ends, List.size_toArray]
    split <;> simp_all [ends]
  simp only [isMatch_iff, hread, mem_ends_seq_char, hstop, List.getElem?_toArray]
  constructor
  · rintro ⟨i, -, j, hdot, hp, hy, hlen, -⟩
    have hdrop : name.toList.drop i = ['.', 'p', 'y'] := by
      rw [List.drop_eq_getElem?_toList_append, hdot, List.drop_eq_getElem?_toList_append, hp,
        List.drop_eq_getElem?_toList_append, hy, hlen, List.drop_length]
      rfl
    rw [← hdrop]
    exact List.drop_suffix _ _
  · rintro ⟨stem, hstem⟩
    have hget : ∀ k, name.toList[stem.length + k]? = ['.', 'p', 'y'][k]? := by
      intro k
      rw [← hstem, List.getElem?_append_right (Nat.le_add_right _ _), Nat.add_sub_cancel_left]
    have hlen : stem.length + 3 = name.toList.length := by
      rw [← hstem, List.length_append]
      rfl
    exact ⟨stem.length, by omega, stem.length + 3, hget 0, hget 1, hget 2, hlen, rfl⟩

end Pattern

/-! ## Main result -/

variable {w w' v start : Workspace} {root output : String} {isMatch : String → Bool}
  {summary : DatasetSummary} {rootPlace : Place} {outputs : List Place} {records : List Record}

/-- A run is known by where its root is and by what making its files leaves. -/
theorem buildDataset_congr (hroot : w.locate root = .ok rootPlace)
    (hcreate : w.createAll (datasetPaths output) = .ok (outputs, start))
    (hroot' : v.locate root = .ok rootPlace)
    (hcreate' : v.createAll (datasetPaths output) = .ok (outputs, start)) :
    buildDataset v root output isMatch = buildDataset w root output isMatch := by
  have hsteps : ∀ u : Workspace, u.createAll (datasetPaths output) = .ok (outputs, start) →
      ∃ trees u₁ names u₂ failures, u.create (output ++ ".json") = .ok (trees, u₁) ∧
        u₁.create (output ++ ".txt") = .ok (names, u₂) ∧
        u₂.create (output ++ "_failed.txt") = .ok (failures, start) ∧
        outputs = [trees, names, failures] := by
    intro u h
    obtain ⟨trees, u₁, _, htrees, h₁, rfl⟩ := createAll_cons_inv h
    obtain ⟨names, u₂, _, hnames, h₂, rfl⟩ := createAll_cons_inv h₁
    obtain ⟨failures, u₃, _, hfailures, h₃, rfl⟩ := createAll_cons_inv h₂
    cases h₃
    exact ⟨trees, u₁, names, u₂, failures, htrees, hnames, hfailures, rfl⟩
  obtain ⟨trees, w₁, names, w₂, failures, htrees, hnames, hfailures, rfl⟩ := hsteps w hcreate
  obtain ⟨trees', v₁, names', v₂, failures', htrees', hnames', hfailures', heq⟩ := hsteps v hcreate'
  cases heq
  simp only [buildDataset, hroot, hroot', htrees, htrees', hnames, hnames', hfailures, hfailures']

/-- A run leaves the files with which it is started again as it began its walk in them. -/
theorem Completed.createAll_again (horderly : w.files.Orderly)
    (h : Completed w w' root output isMatch summary rootPlace outputs start records) :
    w'.createAll (datasetPaths output) = .ok (outputs, start) := by
  have hcurrent : w'.current = w.current := h.current.trans h.made.current
  have hfiles : ∀ p ∈ outputs, (w'.files.contents? p).isSome := by
    intro p hp
    obtain ⟨more, hmore⟩ := h.grows.more p .empty (h.made.empties p hp)
    rw [hmore]
    rfl
  obtain ⟨v, hv, hemptied⟩ := Workspace.createAll_again h.creates hcurrent h.grows.keeps hfiles
  have hstart : start.files.Orderly := h.made.orderly horderly
  have htree : v.files = start.files := by
    refine eq_of_orderly (hemptied.orderly (h.grows.orderly hstart)) hstart (fun q => ?_) fun q =>
      (hemptied.isDir q).trans (h.grows.isDir q)
    rw [hemptied.contents]
    split
    · next hq => exact (h.made.empties q hq).symm
    · next hq => exact h.grows.same q hq
  have hv_eq : v = start := by
    cases v
    cases start
    cases htree
    cases hemptied.current.trans h.current
    rfl
  rw [hv, hv_eq]

/-- With the pattern of a run that is told none, no walk comes to the files of its run. -/
theorem Completed.not_mem_outputs
    (h : Completed w w' root output isMatch summary rootPlace outputs start records)
    (hpattern : SelectsPython isMatch) {r : Record} (hr : r ∈ records) :
    rootPlace ++ r.below ∉ outputs := by
  intro hout
  have hvisit := h.visits ▸ List.mem_map_of_mem (f := Record.below) hr
  have hmatch := (List.mem_filter.mp hvisit).2
  obtain ⟨parent, last, suffix, hsuffix, hplace⟩ :=
    exists_place_of_createAll (by decide) h.creates _ hout
  rcases List.eq_nil_or_concat r.below with hnil | ⟨front, name, hname⟩
  · rw [hnil, hpattern] at hmatch
    exact absurd hmatch (by decide)
  · rw [List.concat_eq_append] at hname
    rw [hname, ← List.append_assoc] at hplace
    obtain rfl := (List.cons.inj (List.append_inj' hplace rfl).2).1
    rw [hname] at hmatch
    exact hpattern.not_output hsuffix hmatch

/-- A run comes to one of its own files just when this stands at or below the root and has a matching
name there, which it never has with the pattern of a run that is told none.  Whether it does or not, a
second run leaves all as the first one has, and answers the same. -/
theorem buildDataset_again (horderly : w.files.Orderly)
    (h : buildDataset w root output isMatch = (.ok summary, w')) :
    (∃ rootPlace outputs start records,
      Completed w w' root output isMatch summary rootPlace outputs start records ∧
        (∀ p ∈ outputs, (∃ r ∈ records, rootPlace ++ r.below = p) ↔
          ∃ below, p = rootPlace ++ below ∧ isMatch ("/".intercalate below) = true) ∧
        (SelectsPython isMatch → ∀ r ∈ records, rootPlace ++ r.below ∉ outputs)) ∧
      buildDataset w' root output isMatch = (.ok summary, w') := by
  obtain ⟨rootPlace, outputs, start, records, hrun⟩ := exists_completed horderly h
  have hstart : start.files.Orderly := hrun.made.orderly horderly
  refine ⟨⟨rootPlace, outputs, start, records, hrun, fun p hp => ?_,
    fun hpattern r hr => hrun.not_mem_outputs hpattern hr⟩, ?_⟩
  · constructor
    · rintro ⟨r, hr, rfl⟩
      exact ⟨r.below, rfl, (hrun.mem_walk_of_mem hr).2⟩
    · rintro ⟨below, rfl, hmatch⟩
      obtain ⟨r, hr, rfl⟩ := hrun.exists_record horderly (hrun.made.empties _ hp) hmatch
      exact ⟨r, hr, rfl⟩
  · have hroot : w'.locate root = .ok rootPlace := by
      have hlocate := hrun.locates
      rw [locate] at hlocate ⊢
      split at hlocate
      · cases hlocate
      · next hne =>
        rw [if_neg hne, Workspace.start, hrun.current, hrun.made.current]
        exact follow_keeps (hrun.made.keeps.trans hrun.grows.keeps) hlocate
    rw [← h]
    exact buildDataset_congr hrun.locates hrun.creates hroot (hrun.createAll_again horderly)

/-- Runs over two files with the default pattern, and with their own three files beside these. -/
theorem buildDataset_again_twoFiles :
    twoFiles.files.Orderly ∧ ∃ p, Pattern.ofString? defaultPattern = some p ∧ ∃ summary w',
      buildDataset twoFiles "src" "src/out" p.isMatch = (.ok summary, w') ∧
        (∃ rootPlace outputs start records,
          Completed twoFiles w' "src" "src/out" p.isMatch summary rootPlace outputs start records ∧
            (∀ q ∈ outputs, (∃ r ∈ records, rootPlace ++ r.below = q) ↔
              ∃ below, q = rootPlace ++ below ∧ p.isMatch ("/".intercalate below) = true) ∧
            ∀ r ∈ records, rootPlace ++ r.below ∉ outputs) ∧
        buildDataset w' "src" "src/out" p.isMatch = (.ok summary, w') := by
  obtain ⟨p, hp⟩ : ∃ p, Pattern.ofString? defaultPattern = some p := ⟨_, rfl⟩
  obtain ⟨summary, w', hrun⟩ : ∃ summary w',
      buildDataset twoFiles "src" "src/out" p.isMatch = (.ok summary, w') := ⟨_, _, rfl⟩
  obtain ⟨⟨rootPlace, outputs, start, records, h, hown, hdefault⟩, hagain⟩ :=
    buildDataset_again orderly_twoFiles hrun
  exact ⟨orderly_twoFiles, p, hp, summary, w', hrun, ⟨rootPlace, outputs, start, records, h, hown,
    hdefault (Pattern.selectsPython_default hp)⟩, hagain⟩

/-- With a pattern that all names match, such a run comes to all three of its own files. -/
theorem exists_record_of_output_twoFiles :
    ∃ summary w' rootPlace outputs start records,
      buildDataset twoFiles "src" "src/out" Pattern.empty.isMatch = (.ok summary, w') ∧
        Completed twoFiles w' "src" "src/out" Pattern.empty.isMatch summary rootPlace outputs start records ∧
        outputs = [["src", "out.json"], ["src", "out.txt"], ["src", "out_failed.txt"]] ∧
        ∀ p ∈ outputs, ∃ r ∈ records, rootPlace ++ r.below = p := by
  obtain ⟨summary, w', hrun⟩ : ∃ summary w',
      buildDataset twoFiles "src" "src/out" Pattern.empty.isMatch = (.ok summary, w') := ⟨_, _, rfl⟩
  obtain ⟨rootPlace, outputs, start, records, h⟩ := exists_completed orderly_twoFiles hrun
  have hroot : twoFiles.locate "src" = .ok ["src"] := rfl
  have hcreate : twoFiles.createAll (datasetPaths "src/out") =
      .ok ([["src", "out.json"], ["src", "out.txt"], ["src", "out_failed.txt"]],
        ⟨.dir [("src", .dir [("a.py", .file "pass\n".toUTF8), ("b.py", .file "(".toUTF8),
          ("out.json", .file .empty), ("out.txt", .file .empty),
          ("out_failed.txt", .file .empty)])], []⟩) := rfl
  obtain rfl := Except.ok.inj (h.locates.symm.trans hroot)
  obtain ⟨rfl, rfl⟩ := Prod.mk.inj (Except.ok.inj (h.creates.symm.trans hcreate))
  have hvisits : records.map Record.below =
      [["a.py"], ["b.py"], ["out.json"], ["out.txt"], ["out_failed.txt"]] := h.visits
  refine ⟨summary, w', _, _, _, records, hrun, h, rfl, fun p hp => ?_⟩
  obtain ⟨name, hname, rfl⟩ : ∃ name ∈ ["out.json", "out.txt", "out_failed.txt"], p = ["src", name] := by
    revert p
    decide
  have hmem : [name] ∈ records.map Record.below := by
    rw [hvisits]
    clear hp
    revert name
    decide
  obtain ⟨r, hr, hbelow⟩ := List.mem_map.mp hmem
  exact ⟨r, hr, by rw [hbelow]; rfl⟩

end PythonSyntax
