import PythonSyntax.Proofs.Dataset.Tree
import PythonSyntax.Proofs.Result

/-
Paths to new files.

Paths that differ in the end of their last name only lead to places in one directory.  Making files
there, one after another, leaves each of them empty at its place, and every path that led through
directories leads there still.
-/

namespace PythonSyntax

namespace FileTree

variable {t u v : FileTree} {p q : Place} {bytes : ByteArray}

/-- Every directory of the one tree is one of the other, with all its names. -/
def Keeps (t u : FileTree) : Prop :=
  ∀ p entries, t.get? p = some (dir entries) → ∃ entries', u.get? p = some (dir entries') ∧
    ∀ name, (entries.lookup name).isSome → (entries'.lookup name).isSome

namespace Keeps

theorem refl (t : FileTree) : Keeps t t := fun _ entries h => ⟨entries, h, fun _ => id⟩

theorem trans (h : Keeps t u) (h' : Keeps u v) : Keeps t v := by
  intro p entries hp
  obtain ⟨entries', hp', hnames⟩ := h p entries hp
  obtain ⟨entries'', hp'', hnames'⟩ := h' p entries' hp'
  exact ⟨entries'', hp'', fun name => hnames' name ∘ hnames name⟩

/-- Putting a file where no directory stands keeps the directories. -/
theorem put (h : ∀ entries, t.get? p ≠ some (dir entries)) : Keeps t (t.put p (file bytes)) := by
  intro q entries hq
  by_cases hbelow : p <+: q
  · obtain ⟨rest, rfl⟩ := hbelow
    by_cases hrest : rest = []
    · rw [hrest, List.append_nil] at hq
      exact absurd hq (h entries)
    · obtain ⟨entries', hp⟩ := get?_above hq hrest
      exact absurd hp (h entries')
  by_cases habove : q <+: p
  · obtain ⟨rest, rfl⟩ := habove
    have hrest : rest ≠ [] := by
      rintro rfl
      exact h entries (by rwa [List.append_nil])
    obtain ⟨entries', hget, hnames⟩ := get?_put_above (t := t) (p := q) (v := file bytes) hrest
    exact ⟨entries', hget, hnames _ hq⟩
  · exact ⟨entries, by rw [get?_put_of_apart hbelow habove, hq], fun _ => id⟩

theorem append : Keeps t (t.append p bytes) := by
  unfold FileTree.append
  split
  · next h => exact put fun entries hdir => by rw [h] at hdir; cases hdir
  · exact refl t

end Keeps

end FileTree

namespace Workspace

open FileTree

variable {w w₁ : Workspace} {path output suffix last : String} {dir names rest : List String}
  {here p parent : Place} {files files' : FileTree}

/-! ## Following a path -/

theorem follow_append :
    follow files here (names ++ rest) = (follow files here names).bind (follow files · rest) := by
  induction names generalizing here with
  | nil => rfl
  | cons name names ih =>
    rw [List.cons_append, follow, follow]
    split
    · rfl
    · rfl
    · split
      · rfl
      · exact ih

theorem follow_cons_of_dir {entries : List (String × FileTree)} {name : String}
    (h : files.get? here = some (.dir entries))
    (hname : isEntryName name = true → (entries.lookup name).isSome) :
    follow files here (name :: rest) = follow files (enter here name) rest := by
  rw [follow, h]
  refine if_neg fun hnone => ?_
  rw [Bool.and_eq_true, Option.isNone_iff_eq_none] at hnone
  have hsome := hname hnone.1
  rw [hnone.2] at hsome
  cases hsome

/-- A path that leads somewhere leads there when directories are kept. -/
theorem follow_keeps (hkeeps : Keeps files files') (h : follow files here names = .ok p) :
    follow files' here names = .ok p := by
  induction names generalizing here with
  | nil => exact h
  | cons name names ih =>
    rw [follow] at h
    split at h
    · cases h
    · cases h
    · next entries hget =>
      split at h
      · cases h
      · next hnone =>
        obtain ⟨entries', hget', hnames⟩ := hkeeps here entries hget
        rw [follow_cons_of_dir hget' fun hname => hnames name ?_]
        · exact ih h
        · rw [hname, Bool.true_and, Option.isNone_iff_eq_none] at hnone
          exact Option.isSome_iff_ne_none.mpr hnone

/-! ## Names of a path -/

/-- What is added to a path without a slash is added to its last name. -/
theorem exists_splitOn (cs : List Char) : ∃ dir last, '/' ∉ last ∧
    ∀ s, '/' ∉ s → (cs ++ s).splitOn '/' = dir ++ [last ++ s] := by
  induction cs with
  | nil => exact ⟨[], [], List.not_mem_nil, fun s hs => List.splitOn_eq_singleton hs⟩
  | cons c cs ih =>
    obtain ⟨dir, last, hlast, hsplit⟩ := ih
    by_cases hc : c = '/'
    · refine ⟨[] :: dir, last, hlast, fun s hs => ?_⟩
      rw [List.cons_append, List.splitOn_cons_eq_if_modifyHead, if_pos (beq_iff_eq.mpr hc),
        hsplit s hs, List.cons_append]
    · cases dir with
      | nil =>
        refine ⟨[], c :: last, ?_, fun s hs => ?_⟩
        · exact fun hmem => (List.mem_cons.mp hmem).elim (fun heq => hc heq.symm) hlast
        · rw [List.cons_append, List.splitOn_cons_eq_if_modifyHead,
            if_neg (mt beq_iff_eq.mp hc), hsplit s hs]
          rfl
      | cons first dir =>
        refine ⟨(c :: first) :: dir, last, hlast, fun s hs => ?_⟩
        rw [List.cons_append, List.splitOn_cons_eq_if_modifyHead,
          if_neg (mt beq_iff_eq.mp hc), hsplit s hs]
        rfl

theorem exists_pathNames (output : String) : ∃ dir last, '/' ∉ last.toList ∧
    ∀ suffix : String, '/' ∉ suffix.toList →
      pathNames (output ++ suffix) = dir ++ [last ++ suffix] := by
  obtain ⟨dir, last, hlast, hsplit⟩ := exists_splitOn output.toList
  refine ⟨dir.map String.ofList, String.ofList last, by rwa [String.toList_ofList],
    fun suffix hsuffix => ?_⟩
  rw [pathNames, String.toList_append, hsplit _ hsuffix, List.map_append, List.map_singleton,
    String.ofList_append, String.ofList_toList]

theorem start_append (hsuffix : '/' ∉ suffix.toList) :
    w.start (output ++ suffix) = w.start output := by
  rw [start, start, String.toList_append]
  cases hout : output.toList with
  | cons c cs => rfl
  | nil =>
    rw [List.nil_append, List.head?_nil, if_neg, if_neg nofun]
    exact fun hhead => hsuffix (List.mem_of_mem_head? hhead)

/-! ## Making a file -/

/-- A new file stands in a directory, where no directory stood. -/
theorem create_cases (hnames : pathNames path = dir ++ [last]) (h : w.create path = .ok (p, w₁)) :
    ∃ parent entries, follow w.files (w.start path) dir = .ok parent ∧
      w.files.get? parent = some (.dir entries) ∧ p = parent ++ [last] ∧
      isEntryName last = true ∧ (∀ below, w.files.get? p ≠ some (.dir below)) ∧
      w₁ = { w with files := w.files.put p (.file .empty) } := by
  rw [create] at h
  obtain ⟨p', hlocate, h⟩ := bind_ok h
  cases h
  rw [locateNew, hnames] at hlocate
  obtain ⟨parent, hparent, hlocate⟩ := bind_ok hlocate
  rw [List.dropLast_concat] at hparent
  rw [List.getLast?_concat] at hlocate
  cases hget : w.files.get? parent with
  | none => rw [hget] at hlocate; cases hlocate
  | some t =>
    rw [hget] at hlocate
    cases t with
    | file bytes => cases hlocate
    | dir entries =>
      dsimp only at hlocate
      split at hlocate
      · next hname =>
        cases hlocate
        refine ⟨parent, entries, hparent, hget, rfl, hname.1, fun below hbelow => ?_, rfl⟩
        rw [get?_append, hget, Option.bind_some, get?_cons, FileTree.entries] at hbelow
        obtain ⟨child, hchild, hbelow⟩ := Option.bind_eq_some_iff.mp hbelow
        cases hbelow
        rw [hchild] at hname
        exact Bool.noConfusion hname.2
      · cases hlocate

/-- The file that a path leads to. -/
theorem bytes?_of_contents {bytes : ByteArray} (hnames : pathNames path = dir ++ [last])
    (hlast : isEntryName last = true) (hparent : follow w.files (w.start path) dir = .ok parent)
    (hbytes : w.files.contents? (parent ++ [last]) = some bytes) :
    w.bytes? path = some bytes := by
  rw [contents?_eq_some] at hbytes
  obtain ⟨entries, hdir⟩ := get?_above hbytes (List.cons_ne_nil last [])
  have hentry : (entries.lookup last).isSome := by
    rw [get?_append, hdir, Option.bind_some, get?_cons] at hbytes
    obtain ⟨child, hchild, -⟩ := Option.bind_eq_some_iff.mp hbytes
    rw [FileTree.entries] at hchild
    rw [hchild]
    rfl
  have hpath : path ≠ "" := by
    rintro rfl
    have hlen := congrArg List.getLast? hnames
    rw [List.getLast?_concat] at hlen
    cases hlen
    cases hlast
  have hlocate : w.locate path = .ok (parent ++ [last]) := by
    rw [locate, if_neg hpath, hnames, follow_append, hparent]
    change follow w.files parent [last] = _
    rw [follow_cons_of_dir hdir fun _ => hentry, enter, if_pos hlast]
    rfl
  rw [bytes?, hlocate]
  dsimp only
  rw [hbytes]

/-! ## Making files side by side -/

/-- The files at some paths are made, one after another. -/
def createAll (w : Workspace) : List String → Except FileFault (List Place × Workspace)
  | [] => .ok ([], w)
  | path :: rest => do
    let (p, w) ← w.create path
    let (ps, w) ← w.createAll rest
    return (p :: ps, w)

theorem createAll_cons_inv {ps : List Place} (h : w.createAll (path :: rest) = .ok (ps, w₁)) :
    ∃ p w₂ ps', w.create path = .ok (p, w₂) ∧ w₂.createAll rest = .ok (ps', w₁) ∧ ps = p :: ps' := by
  rw [createAll] at h
  obtain ⟨⟨p, w₂⟩, hcreate, h⟩ := bind_ok h
  obtain ⟨⟨ps', _⟩, hrest, h⟩ := bind_ok h
  obtain ⟨rfl, rfl⟩ := Prod.mk.inj (Except.ok.inj h)
  exact ⟨p, w₂, ps', hcreate, hrest, rfl⟩

theorem createAll_cons {ps : List Place} {w₂ : Workspace} (h : w.create path = .ok (p, w₂))
    (hrest : w₂.createAll rest = .ok (ps, w₁)) : w.createAll (path :: rest) = .ok (p :: ps, w₁) := by
  rw [createAll, h]
  show w₂.createAll rest >>= _ = _
  rw [hrest]
  rfl

theorem prefix_concat {a b : String} (h : parent ++ [a] <+: parent ++ [b]) : a = b := by
  rw [List.prefix_append_right_inj, List.cons_prefix_cons] at h
  exact h.1

/-- A workspace in which new files have been made at some places. -/
structure Made (w : Workspace) (ps : List Place) (w₁ : Workspace) : Prop where
  current : w₁.current = w.current
  keeps : Keeps w.files w₁.files
  empties : ∀ p ∈ ps, w₁.files.contents? p = some .empty
  apart : ∀ q, (∀ p ∈ ps, ¬ p <+: q ∧ ¬ q <+: p) → w₁.files.get? q = w.files.get? q
  orderly : w.files.Orderly → w₁.files.Orderly

/-- The places of the new files, and the workspace after them. -/
theorem createAll_spec {suffixes : List String} {ps : List Place} (hslash : '/' ∉ last.toList)
    (hnames : ∀ suffix : String, '/' ∉ suffix.toList →
      pathNames (output ++ suffix) = dir ++ [last ++ suffix])
    (hsuffixes : ∀ suffix ∈ suffixes, '/' ∉ suffix.toList) (hnodup : suffixes.Nodup)
    (hparent : follow w.files (w.start output) dir = .ok parent)
    (h : w.createAll (suffixes.map (output ++ ·)) = .ok (ps, w₁)) :
    ps = suffixes.map (fun suffix => parent ++ [last ++ suffix]) ∧
      (∀ suffix ∈ suffixes, isEntryName (last ++ suffix) = true) ∧ Made w ps w₁ := by
  induction suffixes generalizing w ps with
  | nil =>
    cases h
    exact ⟨rfl, List.forall_mem_nil _, rfl, .refl _, List.forall_mem_nil _, fun _ _ => rfl, id⟩
  | cons suffix rest ih =>
    rw [List.forall_mem_cons] at hsuffixes
    rw [List.nodup_cons] at hnodup
    obtain ⟨p, w₂, ps', hcreate, hrest, rfl⟩ := createAll_cons_inv h
    obtain ⟨parent', entries, hparent', hdir, rfl, hname, hfree, rfl⟩ :=
      create_cases (hnames suffix hsuffixes.1) hcreate
    rw [start_append hsuffixes.1, hparent] at hparent'
    cases hparent'
    have hkeeps : Keeps w.files (w.files.put (parent ++ [last ++ suffix]) (.file .empty)) :=
      .put hfree
    obtain ⟨rfl, hentries, hmade⟩ := ih (w := { w with files := _ }) hsuffixes.2 hnodup.2
      (follow_keeps hkeeps hparent) hrest
    -- the new file stands beside the others
    have hbeside : ∀ p ∈ rest.map fun suffix => parent ++ [last ++ suffix],
        ¬ p <+: parent ++ [last ++ suffix] ∧ ¬ parent ++ [last ++ suffix] <+: p := by
      intro p hp
      obtain ⟨other, hother, rfl⟩ := List.mem_map.mp hp
      have hne : other ≠ suffix := by
        rintro rfl
        exact hnodup.1 hother
      exact ⟨fun hle => hne (String.append_right_inj _ |>.mp (prefix_concat hle)),
        fun hle => hne (String.append_right_inj _ |>.mp (prefix_concat hle)).symm⟩
    refine ⟨rfl, List.forall_mem_cons.mpr ⟨hname, hentries⟩, hmade.current,
      hkeeps.trans hmade.keeps, List.forall_mem_cons.mpr ⟨?_, hmade.empties⟩, fun q hq => ?_,
      fun horderly => hmade.orderly (horderly.put .file ?_)⟩
    · rw [contents?_eq_some, hmade.apart _ hbeside]
      exact get?_put_self
    · rw [List.forall_mem_cons] at hq
      rw [hmade.apart q hq.2]
      exact get?_put_of_apart hq.1.1 hq.1.2
    · rw [List.forall_mem_append, List.forall_mem_singleton]
      refine ⟨(horderly.get? hdir).1, hname, ?_⟩
      rw [String.toList_append, List.mem_append]
      exact fun hmem => hmem.elim hslash hsuffixes.1

end Workspace

end PythonSyntax
