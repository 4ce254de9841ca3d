import PythonSyntax.Dataset
import PythonSyntax.Proofs.Dataset.Path

/-
Records of a run.

A run adds to its own three files and to no other, so what it reads of another file is what stood
there when its walk began; of one of its own it reads a beginning of what the file will hold.  A
record says which file was visited and what it held then.  The sinks hold the lines of the
records so far, each its own, whatever part of them has reached the files.
-/

namespace PythonSyntax

open FileTree

/-! ## Files that grow -/

namespace FileTree

variable {t u v : FileTree} {p q : Place} {ps : List Place} {bytes : ByteArray}

/-- All that changes from one tree to the other is that files at some places have grown. -/
structure Grows (ps : List Place) (t u : FileTree) : Prop where
  same : ∀ q, q ∉ ps → u.contents? q = t.contents? q
  more : ∀ q bytes, t.contents? q = some bytes → ∃ more, u.contents? q = some (bytes ++ more)
  keeps : Keeps t u
  isDir : ∀ q, (∃ entries, u.get? q = some (dir entries)) ↔ ∃ entries, t.get? q = some (dir entries)
  orderly : t.Orderly → u.Orderly

namespace Grows

theorem refl (ps : List Place) (t : FileTree) : Grows ps t t :=
  ⟨fun _ _ => rfl, fun _ bytes h => ⟨.empty, by rw [h, ByteArray.append_empty]⟩, .refl t,
    fun _ => Iff.rfl, id⟩

theorem trans (h : Grows ps t u) (h' : Grows ps u v) : Grows ps t v := by
  refine ⟨fun q hq => (h'.same q hq).trans (h.same q hq), fun q bytes hbytes => ?_,
    h.keeps.trans h'.keeps, fun q => (h'.isDir q).trans (h.isDir q), h'.orderly ∘ h.orderly⟩
  obtain ⟨more, hmore⟩ := h.more q bytes hbytes
  obtain ⟨more', hmore'⟩ := h'.more q _ hmore
  exact ⟨more ++ more', by rw [hmore', ByteArray.append_assoc]⟩

theorem mono {qs : List Place} (h : Grows ps t u) (hle : ps ⊆ qs) : Grows qs t u :=
  ⟨fun q hq => h.same q fun hmem => hq (hle hmem), h.more, h.keeps, h.isDir, h.orderly⟩

theorem append : Grows [p] t (t.append p bytes) := by
  refine ⟨fun q hq => ?_, fun q old hq => ?_, .append, fun q => ?_, fun h => ?_⟩
  · rw [contents?_append, if_neg (List.ne_of_not_mem_cons hq)]
  · rw [contents?_append, hq]
    split
    · exact ⟨bytes, rfl⟩
    · exact ⟨.empty, by rw [ByteArray.append_empty]⟩
  · unfold FileTree.append
    split
    · next old hfile => exact isDir_put (contents?_eq_some.mpr hfile)
    · exact Iff.rfl
  · unfold FileTree.append
    split
    · next old hfile => exact h.put .file (h.get? hfile).1
    · exact h

end Grows

end FileTree

/-! ## Sinks -/

namespace Sink

variable {s s' s'' : Sink} {files files' files'' : FileTree} {bytes more text : ByteArray}

/-- What has reached the file of a sink and what is held back are together some bytes. -/
def Holds (s : Sink) (files : FileTree) (text : ByteArray) : Prop :=
  ∃ sent, files.contents? s.place = some sent ∧ sent ++ s.pending = text

/-- What other files are written leaves a sink alone. -/
theorem Holds.grows {ps : List Place} (h : s.Holds files text) (hgrows : Grows ps files files')
    (hs : s.place ∉ ps) : s.Holds files' text := by
  obtain ⟨sent, hsent, htext⟩ := h
  exact ⟨sent, (hgrows.same _ hs).trans hsent, htext⟩

/-- A write of bytes: the sink holds them too, and only its own file may grow. -/
structure Writes (s : Sink) (files : FileTree) (bytes : ByteArray) (r : FileTree × Sink) :
    Prop where
  place : r.2.place = s.place
  holds : ∀ text, s.Holds files text → r.2.Holds r.1 (text ++ bytes)
  grows : Grows [s.place] files r.1

theorem Writes.refl (s : Sink) (files : FileTree) : s.Writes files .empty (files, s) :=
  ⟨rfl, fun text h => by rwa [ByteArray.append_empty], .refl _ _⟩

theorem Writes.trans {r : FileTree × Sink} (h : s.Writes files bytes (files', s'))
    (h' : s'.Writes files' more r) : s.Writes files (bytes ++ more) r := by
  have hplace : s'.place = s.place := h.place
  refine ⟨h'.place.trans hplace, fun text htext => ?_, h.grows.trans (hplace ▸ h'.grows)⟩
  rw [← ByteArray.append_assoc]
  exact h'.holds _ (h.holds text htext)

/-- After a flush nothing is held back. -/
theorem flush_spec (s : Sink) (files : FileTree) :
    s.Writes files .empty (s.flush files) ∧ (s.flush files).2.pending = .empty := by
  refine ⟨⟨rfl, fun text => ?_, .append⟩, rfl⟩
  rintro ⟨sent, hsent, rfl⟩
  refine ⟨sent ++ s.pending, ?_, rfl⟩
  change (files.append s.place s.pending).contents? s.place = _
  rw [contents?_append, if_pos rfl, hsent]
  rfl

theorem contents_of_flush (h : s.Holds files text) :
    (s.flush files).1.contents? s.place = some text := by
  obtain ⟨hwrites, hpending⟩ := flush_spec s files
  obtain ⟨sent, hsent, hbytes⟩ := hwrites.holds text h
  rw [hpending, ByteArray.append_empty, ByteArray.append_empty] at hbytes
  rw [← hbytes]
  exact hsent

theorem writes_write (s : Sink) (files : FileTree) (bytes : ByteArray) :
    s.Writes files bytes (s.write files bytes) := by
  -- bytes that do not go through the buffer find it empty
  have hfirst : ∃ files' s', (if capacity < s.pending.size + bytes.size then s.flush files
      else (files, s)) = (files', s') ∧ s.Writes files .empty (files', s') ∧
      (capacity ≤ bytes.size → s'.pending = .empty) := by
    split
    · exact ⟨_, _, rfl, (flush_spec s files).1, fun _ => rfl⟩
    · next hfits =>
      refine ⟨_, _, rfl, .refl s files, fun hfull => ByteArray.size_eq_zero_iff.mp ?_⟩
      omega
  obtain ⟨files', s', heq, hwrites, hempty⟩ := hfirst
  rw [write, heq]
  dsimp only
  rw [← ByteArray.empty_append (b := bytes)]
  refine hwrites.trans ?_
  rw [ByteArray.empty_append]
  split
  · refine ⟨rfl, fun text => ?_, .refl _ _⟩
    rintro ⟨sent, hsent, rfl⟩
    exact ⟨sent, hsent, ByteArray.append_assoc.symm⟩
  · next hfull =>
    refine ⟨rfl, fun text => ?_, .append⟩
    rintro ⟨sent, hsent, rfl⟩
    refine ⟨sent ++ bytes, ?_, ?_⟩
    · dsimp only
      rw [contents?_append, if_pos rfl, hsent]
      rfl
    · dsimp only
      rw [hempty (Nat.le_of_not_lt hfull), ByteArray.append_empty, ByteArray.append_empty]

theorem writes_writeLine (s : Sink) (files : FileTree) (line : String) :
    s.Writes files (line ++ "\n").toUTF8 (s.writeLine files line) := by
  rw [String.toUTF8_eq_toByteArray, String.toByteArray_append]
  exact (writes_write s files _).trans (writes_write _ _ _)

end Sink

/-! ## Records -/

/-- The text of some lines. -/
def linesText (lines : List String) : String :=
  lines.foldl (fun text line => text ++ (line ++ "\n")) ""

theorem linesText_concat (lines : List String) (line : String) :
    (linesText (lines ++ [line])).toUTF8 = (linesText lines).toUTF8 ++ (line ++ "\n").toUTF8 := by
  rw [linesText, List.foldl_concat, ← linesText]
  exact String.toByteArray_append

/-- The text that bytes encode. -/
def decodeUtf8 (bytes : ByteArray) : Except FileFault String :=
  match String.fromUTF8? bytes with
  | some text => .ok text
  | none => .error .notUtf8

theorem readAt_of_contents {files : FileTree} {p : Place} {bytes : ByteArray}
    (h : files.contents? p = some bytes) : Workspace.readAt files p = decodeUtf8 bytes := by
  rw [Workspace.readAt, contents?_eq_some.mp h]
  rfl

/-- A file that a run visits, and what the file holds then. -/
structure Record where
  below : Place
  contents : ByteArray

namespace Record

/-- The name of the file in the dataset. -/
def name (r : Record) : String := "/".intercalate r.below

/-- The tree of the file, or why it has none, if the walk begins at `root`. -/
def outcome (root : String) (r : Record) : Except Failure Module :=
  Module.ofText (r.below.foldl Workspace.joinPath root) (decodeUtf8 r.contents)

/-- The files that have trees, with them. -/
def converted (root : String) (records : List Record) : List (Record × Module) :=
  records.filterMap fun r =>
    match r.outcome root with
    | .ok m => some (r, m)
    | .error _ => none

/-- The files that have none, with the reasons. -/
def failed (root : String) (records : List Record) : List (Record × Failure) :=
  records.filterMap fun r =>
    match r.outcome root with
    | .ok _ => none
    | .error failure => some (r, failure)

variable {root : String} {records : List Record} {r : Record} {m : Module} {failure : Failure}

theorem converted_ok (h : r.outcome root = .ok m) :
    converted root (records ++ [r]) = converted root records ++ [(r, m)] := by
  simp [converted, h]

theorem converted_error (h : r.outcome root = .error failure) :
    converted root (records ++ [r]) = converted root records := by
  simp [converted, h]

theorem failed_ok (h : r.outcome root = .ok m) :
    failed root (records ++ [r]) = failed root records := by
  simp [failed, h]

theorem failed_error (h : r.outcome root = .error failure) :
    failed root (records ++ [r]) = failed root records ++ [(r, failure)] := by
  simp [failed, h]

theorem mem_converted {c : Record × Module} (h : c ∈ converted root records) :
    c.1 ∈ records ∧ c.1.outcome root = .ok c.2 := by
  obtain ⟨r, hr, hc⟩ := List.mem_filterMap.mp h
  cases hout : r.outcome root with
  | ok m => rw [hout] at hc; cases hc; exact ⟨hr, hout⟩
  | error failure => rw [hout] at hc; cases hc

theorem converted_of_mem (h : r ∈ records) (hm : r.outcome root = .ok m) :
    (r, m) ∈ converted root records :=
  List.mem_filterMap.mpr ⟨r, h, by rw [hm]⟩

/-- Each record is with one of the two. -/
theorem perm_split (root : String) (records : List Record) :
    ((converted root records).map (·.1) ++ (failed root records).map (·.1)).Perm records := by
  induction records with
  | nil => exact .nil
  | cons r records ih =>
    cases hout : r.outcome root with
    | ok m => simpa [converted, failed, hout] using ih
    | error failure =>
      rw [converted, failed, List.filterMap_cons, List.filterMap_cons, hout]
      exact List.perm_middle.trans (ih.cons r)

end Record

/-! ## Runs -/

/-- What a record says was in the file when its walk began, or for one of the three outputs is a
beginning of what is there now. -/
structure Reads (start : FileTree) (rootPlace : Place) (outputs : List Place) (files : FileTree)
    (r : Record) : Prop where
  unchanged : rootPlace ++ r.below ∉ outputs →
    start.contents? (rootPlace ++ r.below) = some r.contents
  beginning : ∃ more, files.contents? (rootPlace ++ r.below) = some (r.contents ++ more)

theorem Reads.grows {start files files' : FileTree} {rootPlace : Place} {outputs : List Place}
    {r : Record} (h : Reads start rootPlace outputs files r)
    (hgrows : Grows outputs files files') : Reads start rootPlace outputs files' r := by
  refine ⟨h.unchanged, ?_⟩
  obtain ⟨more, hmore⟩ := h.beginning
  obtain ⟨more', hmore'⟩ := hgrows.more _ _ hmore
  exact ⟨more ++ more', by rw [hmore', ByteArray.append_assoc]⟩

/-- What a run has come to after some records: its walk began in the tree `start`, at the place
`rootPlace` with the path `root`, and `outputs` are the places of its three files. -/
structure Recorded (start : FileTree) (rootPlace : Place) (root : String) (outputs : List Place)
    (records : List Record) (run : DatasetRun) : Prop where
  places : [run.trees.place, run.names.place, run.failures.place] = outputs
  trees : run.trees.Holds run.files
    (linesText ((Record.converted root records).map (·.2.document.compact))).toUTF8
  names : run.names.Holds run.files
    (linesText ((Record.converted root records).map (·.1.name))).toUTF8
  failures : run.failures.Holds run.files
    (linesText ((Record.failed root records).map (·.1.name))).toUTF8
  converted : run.converted = (Record.converted root records).length
  failed : run.failed = (Record.failed root records).map fun f => (f.1.name, f.2)
  grows : Grows outputs start run.files
  reads : ∀ r ∈ records, Reads start rootPlace outputs run.files r

namespace Recorded

variable {start : FileTree} {rootPlace below : Place} {root : String} {outputs : List Place}
  {records : List Record} {r : Record} {run : DatasetRun} {isMatch : String → Bool} {m : Module}
  {failure : Failure}

/-- A file that has a tree is recorded. -/
theorem convert (h : Recorded start rootPlace root outputs records run) (hnodup : outputs.Nodup)
    (hr : Reads start rootPlace outputs run.files r) (hm : r.outcome root = .ok m) :
    Recorded start rootPlace root outputs (records ++ [r]) (run.convert r.name m) := by
  have hplaces := h.places
  subst hplaces
  simp only [List.nodup_cons, List.mem_cons, List.not_mem_nil, or_false, not_or] at hnodup
  obtain ⟨⟨htn, htf⟩, hnf, -⟩ := hnodup
  obtain ⟨r₁, h₁, htrees⟩ : ∃ r₁, run.trees.writeLine run.files m.document.compact = r₁ ∧
      run.trees.Writes run.files (m.document.compact ++ "\n").toUTF8 r₁ :=
    ⟨_, rfl, Sink.writes_writeLine _ _ _⟩
  obtain ⟨r₂, h₂, hnames⟩ : ∃ r₂, run.names.writeLine r₁.1 r.name = r₂ ∧
      run.names.Writes r₁.1 (r.name ++ "\n").toUTF8 r₂ := ⟨_, rfl, Sink.writes_writeLine _ _ _⟩
  have hconvert : run.convert r.name m =
      { run with files := r₂.1, trees := r₁.2, names := r₂.2, converted := run.converted + 1 } := by
    rw [← h₂, ← h₁]
    rfl
  rw [hconvert]
  have hgrows : Grows [run.trees.place, run.names.place, run.failures.place] run.files r₂.1 :=
    (htrees.grows.mono (by simp)).trans (hnames.grows.mono (by simp))
  refine ⟨?_, ?_, ?_, ?_, ?_, ?_, h.grows.trans hgrows, ?_⟩
  · dsimp only
    rw [htrees.place, hnames.place]
  · rw [Record.converted_ok hm, List.map_append, List.map_singleton, linesText_concat]
    refine (htrees.holds _ h.trees).grows hnames.grows ?_
    rw [htrees.place, List.mem_singleton]
    exact htn
  · rw [Record.converted_ok hm, List.map_append, List.map_singleton, linesText_concat]
    exact hnames.holds _ (h.names.grows htrees.grows
      fun hmem => htn (List.mem_singleton.mp hmem).symm)
  · rw [Record.failed_ok hm]
    exact (h.failures.grows htrees.grows fun hmem => htf (List.mem_singleton.mp hmem).symm).grows
      hnames.grows fun hmem => hnf (List.mem_singleton.mp hmem).symm
  · rw [Record.converted_ok hm, List.length_append, ← h.converted]
    rfl
  · rw [Record.failed_ok hm]
    exact h.failed
  · rw [List.forall_mem_append, List.forall_mem_singleton]
    exact ⟨fun r hr => (h.reads r hr).grows hgrows, hr.grows hgrows⟩

/-- A file that has none is recorded. -/
theorem fail (h : Recorded start rootPlace root outputs records run) (hnodup : outputs.Nodup)
    (hr : Reads start rootPlace outputs run.files r) (hm : r.outcome root = .error failure) :
    Recorded start rootPlace root outputs (records ++ [r]) (run.fail r.name failure) := by
  have hplaces := h.places
  subst hplaces
  simp only [List.nodup_cons, List.mem_cons, List.not_mem_nil, or_false, not_or] at hnodup
  obtain ⟨⟨-, htf⟩, hnf, -⟩ := hnodup
  obtain ⟨r₁, h₁, hwrites⟩ : ∃ r₁, run.failures.writeLine run.files r.name = r₁ ∧
      run.failures.Writes run.files (r.name ++ "\n").toUTF8 r₁ :=
    ⟨_, rfl, Sink.writes_writeLine _ _ _⟩
  have hfail : run.fail r.name failure =
      { run with files := r₁.1, failures := r₁.2, failed := run.failed ++ [(r.name, failure)] } := by
    rw [← h₁]
    rfl
  rw [hfail]
  have hgrows : Grows [run.trees.place, run.names.place, run.failures.place] run.files r₁.1 :=
    hwrites.grows.mono (by simp)
  refine ⟨?_, ?_, ?_, ?_, ?_, ?_, h.grows.trans hgrows, ?_⟩
  · dsimp only
    rw [hwrites.place]
  · rw [Record.converted_error hm]
    exact h.trees.grows hwrites.grows fun hmem => htf (List.mem_singleton.mp hmem)
  · rw [Record.converted_error hm]
    exact h.names.grows hwrites.grows fun hmem => hnf (List.mem_singleton.mp hmem)
  · rw [Record.failed_error hm, List.map_append, List.map_singleton, linesText_concat]
    exact hwrites.holds _ h.failures
  · rw [Record.converted_error hm]
    exact h.converted
  · rw [Record.failed_error hm, List.map_append, ← h.failed]
    rfl
  · rw [List.forall_mem_append, List.forall_mem_singleton]
    exact ⟨fun r hr => (h.reads r hr).grows hgrows, hr.grows hgrows⟩

/-- One file more is visited. -/
theorem visit (h : Recorded start rootPlace root outputs records run) (hnodup : outputs.Nodup)
    (hbelow : (start.contents? (rootPlace ++ below)).isSome)
    (hmatch : isMatch ("/".intercalate below) = true) :
    ∃ contents, Recorded start rootPlace root outputs (records ++ [⟨below, contents⟩])
      (run.visit isMatch rootPlace root below) := by
  obtain ⟨bytes, hbytes⟩ := Option.isSome_iff_exists.mp hbelow
  obtain ⟨more, hmore⟩ := h.grows.more _ _ hbytes
  have hr : Reads start rootPlace outputs run.files ⟨below, bytes ++ more⟩ :=
    ⟨fun hout => (h.grows.same _ hout).symm.trans hmore,
      .empty, by rw [hmore, ByteArray.append_empty]⟩
  refine ⟨bytes ++ more, ?_⟩
  rw [DatasetRun.visit, readAt_of_contents hmore]
  simp only [hmatch, if_true]
  cases hm : (⟨below, bytes ++ more⟩ : Record).outcome root with
  | ok m =>
    have hrun := h.convert hnodup hr hm
    rw [Record.outcome] at hm
    rwa [hm]
  | error failure =>
    have hrun := h.fail hnodup hr hm
    rw [Record.outcome] at hm
    rwa [hm]

/-- All files of a walk are visited. -/
theorem walk (hnodup : outputs.Nodup) {places : List Place}
    (hplaces : ∀ below ∈ places, (start.contents? (rootPlace ++ below)).isSome)
    (h : Recorded start rootPlace root outputs records run) :
    ∃ more, more.map Record.below =
        places.filter (fun below => isMatch ("/".intercalate below)) ∧
      Recorded start rootPlace root outputs (records ++ more)
        (places.foldl (DatasetRun.visit isMatch rootPlace root) run) := by
  induction places generalizing records run with
  | nil => exact ⟨[], rfl, by rwa [List.append_nil]⟩
  | cons below rest ih =>
    rw [List.forall_mem_cons] at hplaces
    rw [List.foldl_cons, List.filter_cons]
    split
    · next hmatch =>
      obtain ⟨contents, hvisit⟩ := h.visit hnodup hplaces.1 hmatch
      obtain ⟨more, hmore, hrun⟩ := ih hplaces.2 hvisit
      refine ⟨⟨below, contents⟩ :: more, by rw [List.map_cons, hmore], ?_⟩
      rwa [List.append_assoc] at hrun
    · next hmatch =>
      have hskip : run.visit isMatch rootPlace root below = run := by
        rw [DatasetRun.visit]
        exact if_neg hmatch
      rw [hskip]
      exact ih hplaces.2 h

/-- In the end the files hold the lines of all records. -/
theorem flush (hnodup : outputs.Nodup) (h : Recorded start rootPlace root outputs records run) :
    run.flush.files.contents? run.trees.place =
        some (linesText ((Record.converted root records).map (·.2.document.compact))).toUTF8 ∧
      run.flush.files.contents? run.names.place =
        some (linesText ((Record.converted root records).map (·.1.name))).toUTF8 ∧
      run.flush.files.contents? run.failures.place =
        some (linesText ((Record.failed root records).map (·.1.name))).toUTF8 ∧
      Grows outputs run.files run.flush.files := by
  have hplaces := h.places
  subst hplaces
  simp only [List.nodup_cons, List.mem_cons, List.not_mem_nil, or_false, not_or] at hnodup
  obtain ⟨⟨htn, htf⟩, hnf, -⟩ := hnodup
  have hwrites := (Sink.flush_spec run.trees run.files).1
  have hwrites' := (Sink.flush_spec run.names (run.trees.flush run.files).1).1
  have hwrites'' := (Sink.flush_spec run.failures
    (run.names.flush (run.trees.flush run.files).1).1).1
  refine ⟨?_, ?_, ?_, ?_⟩
  · refine (hwrites''.grows.same _ fun hmem => htf (List.mem_singleton.mp hmem)).trans
      ((hwrites'.grows.same _ fun hmem => htn (List.mem_singleton.mp hmem)).trans ?_)
    exact Sink.contents_of_flush h.trees
  · refine (hwrites''.grows.same _ fun hmem => hnf (List.mem_singleton.mp hmem)).trans ?_
    exact Sink.contents_of_flush
      (h.names.grows hwrites.grows fun hmem => htn (List.mem_singleton.mp hmem).symm)
  · exact Sink.contents_of_flush
      ((h.failures.grows hwrites.grows fun hmem => htf (List.mem_singleton.mp hmem).symm).grows
        hwrites'.grows fun hmem => hnf (List.mem_singleton.mp hmem).symm)
  · exact ((hwrites.grows.mono (by simp)).trans (hwrites'.grows.mono (by simp))).trans
      (hwrites''.grows.mono (by simp))

end Recorded

end PythonSyntax
