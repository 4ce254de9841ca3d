import Mathlib.Data.List.Nodup
import Mathlib.Data.String.Basic
import PythonSyntax.Workspace

/-
Trees of files as functions of places.

What stands at a place is found by names alone, so putting a tree at one place changes what stands
there, above and below it, and nothing else.  The places of a walk are those of the files of the
tree, each once, as long as no directory has two entries of one name: in an orderly tree the names
of the entries of a directory grow.
-/

namespace PythonSyntax

/-- Whether a name can be that of an entry of a directory: it is no part of a path that stays or
goes up, and it has no slash. -/
def IsName (name : String) : Prop := Workspace.isEntryName name = true ∧ '/' ∉ name.toList

namespace FileTree

variable {t u v : FileTree} {p q : Place} {name other : String} {bytes : ByteArray}
  {entries : List (String × FileTree)}

/-! ## Entries -/

theorem lookup_cons_eq_if {first : String} {rest : List (String × FileTree)} :
    ((first, t) :: rest).lookup name = if name = first then some t else rest.lookup name := by
  rw [List.lookup_cons]
  by_cases h : name = first
  · rw [if_pos h, beq_iff_eq.mpr h]
  · rw [if_neg h, beq_eq_false_iff_ne.mpr h]

theorem lookup_setEntry :
    (setEntry name t entries).lookup other =
      if other = name then some t else entries.lookup other := by
  induction entries with
  | nil => rw [setEntry, lookup_cons_eq_if]
  | cons e rest ih =>
    obtain ⟨first, u⟩ := e
    rw [setEntry]
    split
    · next heq =>
      rw [lookup_cons_eq_if, lookup_cons_eq_if, heq]
      split <;> rfl
    · next hne =>
      split
      · rw [lookup_cons_eq_if]
      · rw [lookup_cons_eq_if, lookup_cons_eq_if, ih]
        split
        · next heq => rw [if_neg (heq ▸ Ne.symm hne)]
        · rfl

theorem mem_setEntry {e : String × FileTree} (h : e ∈ setEntry name t entries) :
    e = (name, t) ∨ e ∈ entries := by
  induction entries with
  | nil => exact .inl (List.mem_singleton.mp h)
  | cons f rest ih =>
    rw [setEntry] at h
    split at h
    · rcases List.mem_cons.mp h with h | h
      · exact .inl h
      · exact .inr (List.mem_cons_of_mem _ h)
    · split at h
      · rcases List.mem_cons.mp h with h | h
        · exact .inl h
        · exact .inr h
      · rcases List.mem_cons.mp h with h | h
        · exact .inr (h ▸ List.mem_cons_self)
        · rcases ih h with h | h
          · exact .inl h
          · exact .inr (List.mem_cons_of_mem _ h)

theorem pairwise_setEntry (h : entries.Pairwise fun e f => e.1 < f.1) :
    (setEntry name t entries).Pairwise fun e f => e.1 < f.1 := by
  induction entries with
  | nil => exact List.pairwise_singleton _ _
  | cons e rest ih =>
    have hrest := List.pairwise_cons.mp h
    rw [setEntry]
    split
    · next heq => exact List.pairwise_cons.mpr ⟨heq ▸ hrest.1, hrest.2⟩
    · next hne =>
      split
      · next hlt =>
        refine List.pairwise_cons.mpr ⟨fun f hf => ?_, h⟩
        rcases List.mem_cons.mp hf with rfl | hf
        · exact hlt
        · exact lt_trans hlt (hrest.1 f hf)
      · next hnlt =>
        refine List.pairwise_cons.mpr ⟨fun f hf => ?_, ih hrest.2⟩
        rcases mem_setEntry hf with rfl | hf
        · exact (lt_trichotomy e.1 name).resolve_right fun hor =>
            hor.elim (fun heq => hne heq.symm) hnlt
        · exact hrest.1 f hf

/-- In a directory whose names grow, a name leads to every entry that has it. -/
theorem lookup_eq_some_iff (h : entries.Pairwise fun e f => e.1 < f.1) :
    entries.lookup name = some t ↔ (name, t) ∈ entries := by
  induction entries with
  | nil => simp
  | cons e rest ih =>
    obtain ⟨first, u⟩ := e
    have hrest := List.pairwise_cons.mp h
    rw [lookup_cons_eq_if, List.mem_cons, Prod.mk.injEq]
    split
    · next heq =>
      have hmem : (name, t) ∉ rest := fun hmem => lt_irrefl _ (heq ▸ hrest.1 _ hmem)
      rw [or_iff_left hmem, Option.some.injEq, and_iff_right heq]
      exact eq_comm
    · next hne => simp only [hne, ih hrest.2, false_and, false_or]

/-! ## What stands at a place -/

theorem get?_cons : t.get? (name :: p) = (t.entries.lookup name).bind (get? · p) := by
  rw [get?]
  cases t.entries.lookup name <;> rfl

theorem get?_append : t.get? (p ++ q) = (t.get? p).bind (get? · q) := by
  induction p generalizing t with
  | nil => rfl
  | cons name p ih =>
    rw [List.cons_append, get?_cons, get?_cons, Option.bind_assoc]
    exact congrArg _ (funext fun u => ih)

/-- Nothing stands below a file. -/
theorem get?_below_file (h : t.get? p = some (file bytes)) (hq : q ≠ []) :
    t.get? (p ++ q) = none := by
  obtain ⟨name, rest, rfl⟩ := List.exists_cons_of_ne_nil hq
  rw [get?_append, h]
  rfl

/-- What stands at the way to a place where something stands is a directory. -/
theorem get?_above (h : t.get? (p ++ q) = some u) (hq : q ≠ []) :
    ∃ entries, t.get? p = some (dir entries) := by
  rw [get?_append] at h
  obtain ⟨above, habove, hbelow⟩ := Option.bind_eq_some_iff.mp h
  cases above with
  | dir entries => exact ⟨entries, habove⟩
  | file bytes =>
    have hnone := get?_below_file habove hq
    rw [get?_append, habove, Option.bind_some, hbelow] at hnone
    cases hnone

theorem get?_put_self : (t.put p v).get? p = some v := by
  induction p generalizing t with
  | nil => rfl
  | cons name p ih =>
    rw [put, get?_cons, entries, lookup_setEntry, if_pos rfl, Option.bind_some, ih]

/-- Putting a tree somewhere leaves alone what stands neither above nor below it. -/
theorem get?_put_of_apart (h : ¬ p <+: q) (h' : ¬ q <+: p) :
    (t.put p v).get? q = t.get? q := by
  induction p generalizing t q with
  | nil => exact absurd List.nil_prefix h
  | cons name p ih =>
    cases q with
    | nil => exact absurd List.nil_prefix h'
    | cons other q =>
      rw [put, get?_cons, get?_cons, entries, lookup_setEntry]
      by_cases heq : other = name
      · subst heq
        rw [List.cons_prefix_cons, not_and] at h h'
        rw [if_pos rfl, Option.bind_some, ih (h rfl) (h' rfl)]
        cases hlookup : t.entries.lookup other with
        | some u => rfl
        | none =>
          obtain ⟨name, rest, rfl⟩ : ∃ name rest, q = name :: rest :=
            List.exists_cons_of_ne_nil fun hnil => h' rfl (hnil ▸ List.nil_prefix)
          rfl
      · rw [if_neg heq]

/-- Above a tree that has been put somewhere there are directories, with all names that they had. -/
theorem get?_put_above (hq : q ≠ []) :
    ∃ entries, (t.put (p ++ q) v).get? p = some (dir entries) ∧
      ∀ u, t.get? p = some u → ∀ name, (u.entries.lookup name).isSome →
        (entries.lookup name).isSome := by
  induction p generalizing t with
  | nil =>
    obtain ⟨first, rest, rfl⟩ := List.exists_cons_of_ne_nil hq
    refine ⟨_, rfl, ?_⟩
    rintro u hu name hname
    cases hu
    rw [lookup_setEntry]
    split
    · rfl
    · exact hname
  | cons first p ih =>
    obtain ⟨entries, hentries, hnames⟩ := ih (t := (t.entries.lookup first).getD empty)
    refine ⟨entries, ?_, fun u hu => hnames u ?_⟩
    · rw [List.cons_append, put, get?_cons, FileTree.entries, lookup_setEntry, if_pos rfl]
      exact hentries
    · rw [get?_cons] at hu
      obtain ⟨child, hchild, hu⟩ := Option.bind_eq_some_iff.mp hu
      rw [hchild]
      exact hu

/-! ## What files hold -/

/-- The bytes of the file at a place, if there is one. -/
def contents? (t : FileTree) (p : Place) : Option ByteArray :=
  match t.get? p with
  | some (file bytes) => some bytes
  | _ => none

theorem contents?_eq_some : t.contents? p = some bytes ↔ t.get? p = some (file bytes) := by
  unfold contents?
  split
  · next h => rw [h, Option.some.injEq, Option.some.injEq, file.injEq]
  · next h => exact ⟨nofun, fun hp => absurd hp (h bytes)⟩

/-- A file that is put where no file stands below, and only directories above, changes no other
file. -/
theorem contents?_put_file (hbelow : ∀ rest, rest ≠ [] → t.contents? (p ++ rest) = none)
    (habove : ∀ q rest, rest ≠ [] → p = q ++ rest → ∃ entries, t.get? q = some (dir entries)) :
    (t.put p (file bytes)).contents? q = if q = p then some bytes else t.contents? q := by
  split
  · next heq => rw [heq, contents?_eq_some, get?_put_self]
  · next hne =>
    by_cases hunder : p <+: q
    · obtain ⟨rest, rfl⟩ := hunder
      have hrest : rest ≠ [] := by
        rintro rfl
        exact hne (List.append_nil p)
      rw [hbelow rest hrest, contents?, get?_below_file get?_put_self hrest]
    by_cases hover : q <+: p
    · obtain ⟨rest, rfl⟩ := hover
      have hrest : rest ≠ [] := by
        rintro rfl
        exact hne (List.append_nil q).symm
      obtain ⟨entries, hget⟩ := habove q rest hrest rfl
      obtain ⟨entries', hget', -⟩ := get?_put_above (t := t) (p := q) (v := file bytes) hrest
      rw [contents?, contents?, hget, hget']
    · rw [contents?, contents?, get?_put_of_apart hunder hover]

/-- A file that is put where a file stood takes its place, and no other file changes. -/
theorem contents?_put {old : ByteArray} (h : t.contents? p = some old) :
    (t.put p (file bytes)).contents? q = if q = p then some bytes else t.contents? q := by
  rw [contents?_eq_some] at h
  refine contents?_put_file (fun rest hrest => ?_) fun q rest hrest hp => get?_above (hp ▸ h) hrest
  rw [contents?, get?_below_file h hrest]

/-- A file that is put into a directory, where no directory stood, changes no other file. -/
theorem contents?_put_new (hfree : ∀ below, t.get? (p ++ [name]) ≠ some (dir below))
    (hdir : t.get? p = some (dir entries)) :
    (t.put (p ++ [name]) (file bytes)).contents? q =
      if q = p ++ [name] then some bytes else t.contents? q := by
  refine contents?_put_file (fun rest hrest => ?_) fun q rest hrest hp => ?_
  · have hnone : t.get? (p ++ [name] ++ rest) = none := by
      by_contra hsome
      obtain ⟨u, hu⟩ := Option.ne_none_iff_exists'.mp hsome
      obtain ⟨below, hget⟩ := get?_above hu hrest
      exact hfree below hget
    rw [contents?, hnone]
  · -- what stands above the new file is its directory, or stands above that
    have hprefix : q <+: p := by
      refine (List.prefix_concat_iff.mp ⟨rest, hp.symm⟩).resolve_left fun heq => hrest ?_
      rw [heq] at hp
      exact List.append_right_eq_self.mp hp.symm
    obtain ⟨rest', rfl⟩ := hprefix
    by_cases hrest' : rest' = []
    · exact ⟨entries, by rwa [hrest', List.append_nil] at hdir⟩
    · exact get?_above hdir hrest'

/-- A file that is put where a file stood leaves all directories where they are. -/
theorem isDir_put {old : ByteArray} (h : t.contents? p = some old) :
    (∃ entries, (t.put p (file bytes)).get? q = some (dir entries)) ↔
      ∃ entries, t.get? q = some (dir entries) := by
  rw [contents?_eq_some] at h
  by_cases hbelow : p <+: q
  · obtain ⟨rest, rfl⟩ := hbelow
    by_cases hrest : rest = []
    · rw [hrest, List.append_nil, get?_put_self, h]
      simp
    · rw [get?_below_file get?_put_self hrest, get?_below_file h hrest]
  by_cases habove : q <+: p
  · obtain ⟨rest, rfl⟩ := habove
    have hrest : rest ≠ [] := by
      rintro rfl
      exact hbelow ⟨[], by simp⟩
    obtain ⟨entries', hget, -⟩ := get?_put_above (t := t) (p := q) (v := file bytes) hrest
    exact iff_of_true ⟨entries', hget⟩ (get?_above h hrest)
  · rw [get?_put_of_apart hbelow habove]

/-- Adding to the file at a place changes no other file. -/
theorem contents?_append :
    (t.append p bytes).contents? q =
      if q = p then (t.contents? q).map (· ++ bytes) else t.contents? q := by
  unfold append
  split
  · next old h =>
    rw [contents?_put (contents?_eq_some.mpr h)]
    split
    · next heq => rw [heq, contents?_eq_some.mpr h]; rfl
    · rfl
  · next h =>
    split
    · next heq =>
      subst heq
      cases hq : t.contents? q with
      | none => rfl
      | some old => exact absurd (contents?_eq_some.mp hq) (h old)
    · rfl

/-! ## Orderly trees -/

/-- A tree in which the entries of every directory have proper names that grow. -/
inductive Orderly : FileTree → Prop
  | file {bytes : ByteArray} : Orderly (file bytes)
  | dir {entries : List (String × FileTree)} (names : ∀ e ∈ entries, IsName e.1)
      (sorted : entries.Pairwise fun e f => e.1 < f.1) (children : ∀ e ∈ entries, Orderly e.2) :
      Orderly (dir entries)

namespace Orderly

theorem empty : Orderly FileTree.empty :=
  .dir (List.forall_mem_nil _) .nil (List.forall_mem_nil _)

theorem inOrder (h : t.Orderly) :
    (∀ e ∈ t.entries, IsName e.1) ∧ (t.entries.Pairwise fun e f => e.1 < f.1) ∧
      ∀ e ∈ t.entries, Orderly e.2 := by
  cases h with
  | file => exact ⟨List.forall_mem_nil _, .nil, List.forall_mem_nil _⟩
  | dir names sorted children => exact ⟨names, sorted, children⟩

theorem child (h : t.Orderly) (hu : t.entries.lookup name = some u) : IsName name ∧ u.Orderly := by
  obtain ⟨names, sorted, children⟩ := h.inOrder
  have hmem := (lookup_eq_some_iff sorted).mp hu
  exact ⟨names _ hmem, children _ hmem⟩

/-- Every name on the way to something is proper, and what stands there is orderly. -/
theorem get? (h : t.Orderly) (hu : t.get? p = some u) : (∀ name ∈ p, IsName name) ∧ u.Orderly := by
  induction p generalizing t with
  | nil =>
    cases hu
    exact ⟨List.forall_mem_nil _, h⟩
  | cons name p ih =>
    rw [get?_cons] at hu
    obtain ⟨child, hchild, hu⟩ := Option.bind_eq_some_iff.mp hu
    obtain ⟨hname, hchild⟩ := h.child hchild
    obtain ⟨hnames, hu⟩ := ih hchild hu
    exact ⟨List.forall_mem_cons.mpr ⟨hname, hnames⟩, hu⟩

theorem put (h : t.Orderly) (hnew : v.Orderly) (hp : ∀ name ∈ p, IsName name) :
    (t.put p v).Orderly := by
  induction p generalizing t with
  | nil => exact hnew
  | cons name p ih =>
    obtain ⟨hname, hp⟩ := List.forall_mem_cons.mp hp
    obtain ⟨names, sorted, children⟩ := h.inOrder
    have hchild : ((t.entries.lookup name).getD FileTree.empty).Orderly := by
      cases hu : t.entries.lookup name with
      | none => exact empty
      | some u => exact (h.child hu).2
    refine .dir (fun e he => ?_) (pairwise_setEntry sorted) (fun e he => ?_)
    · rcases mem_setEntry he with rfl | he
      · exact hname
      · exact names e he
    · rcases mem_setEntry he with rfl | he
      · exact ih hchild hp
      · exact children e he

end Orderly

/-- A directory in growing order is known by what its names lead to. -/
theorem entries_ext {entries' : List (String × FileTree)}
    (h : entries.Pairwise fun e f => e.1 < f.1) (h' : entries'.Pairwise fun e f => e.1 < f.1)
    (hsame : ∀ name, entries.lookup name = entries'.lookup name) : entries = entries' := by
  have hmem : ∀ e, e ∈ entries ↔ e ∈ entries' := by
    intro e
    rw [← lookup_eq_some_iff h, ← lookup_eq_some_iff h', hsame]
  have hnodup : ∀ es : List (String × FileTree), es.Pairwise (fun e f => e.1 < f.1) → es.Nodup := by
    intro es hes
    refine hes.imp ?_
    rintro e _ hlt rfl
    exact lt_irrefl _ hlt
  have hperm := (List.perm_ext_iff_of_nodup (hnodup _ h) (hnodup _ h')).mpr hmem
  exact hperm.eq_of_pairwise (fun e f _ _ hlt hgt => absurd (lt_trans hlt hgt) (lt_irrefl _)) h h'

/-- What stands at a place is a file, a directory or nothing, and trees that agree on this have
something at the same places. -/
theorem isSome_of_alike (hfiles : ∀ q, t.contents? q = u.contents? q)
    (hdirs : ∀ q, (∃ entries, t.get? q = some (dir entries)) →
      ∃ entries, u.get? q = some (dir entries)) (h : t.get? q = some v) : (u.get? q).isSome := by
  cases v with
  | file bytes =>
    have hbytes := hfiles q
    rw [contents?_eq_some.mpr h] at hbytes
    rw [contents?_eq_some.mp hbytes.symm]
    rfl
  | dir entries =>
    obtain ⟨entries', hget⟩ := hdirs q ⟨entries, h⟩
    rw [hget]
    rfl

/-- An orderly tree is known by its directories and by what its files hold. -/
theorem eq_of_orderly (ht : t.Orderly) (hu : u.Orderly) (hfiles : ∀ q, t.contents? q = u.contents? q)
    (hdirs : ∀ q, (∃ entries, t.get? q = some (dir entries)) ↔
      ∃ entries, u.get? q = some (dir entries)) : t = u := by
  induction ht generalizing u with
  | @file bytes =>
    have hroot : u.contents? [] = some bytes := (hfiles []).symm
    rw [contents?_eq_some] at hroot
    exact (Option.some.inj hroot).symm
  | @dir entries names sorted children ih =>
    obtain ⟨entries', hroot⟩ := (hdirs []).mp ⟨entries, rfl⟩
    cases hroot
    obtain ⟨-, sorted', children'⟩ := hu.inOrder
    refine congrArg FileTree.dir (entries_ext sorted sorted' fun name => ?_)
    have hget : ∀ es : List (String × FileTree), ∀ q,
        (dir es).get? (name :: q) = (es.lookup name).bind (get? · q) := fun es q => get?_cons
    cases hc : entries.lookup name with
    | none =>
      cases hc' : entries'.lookup name with
      | none => rfl
      | some c' =>
        have hsome := isSome_of_alike (fun q => (hfiles q).symm) (fun q => (hdirs q).mpr)
          (show (dir entries').get? [name] = some c' by rw [hget, hc']; rfl)
        rw [hget, hc] at hsome
        cases hsome
    | some c =>
      cases hc' : entries'.lookup name with
      | none =>
        have hsome := isSome_of_alike hfiles (fun q => (hdirs q).mp)
          (show (dir entries).get? [name] = some c by rw [hget, hc]; rfl)
        rw [hget, hc'] at hsome
        cases hsome
      | some c' =>
        have hmem := (lookup_eq_some_iff sorted).mp hc
        have hmem' := (lookup_eq_some_iff sorted').mp hc'
        have hbelow : ∀ q, (dir entries).get? (name :: q) = c.get? q ∧
            (dir entries').get? (name :: q) = c'.get? q := by
          intro q
          rw [hget, hget, hc, hc']
          exact ⟨rfl, rfl⟩
        refine congrArg some (ih _ hmem (children' _ hmem') (fun q => ?_) fun q => ?_)
        · have hq := hfiles (name :: q)
          rwa [contents?, contents?, (hbelow q).1, (hbelow q).2] at hq
        · have hq := hdirs (name :: q)
          rwa [(hbelow q).1, (hbelow q).2] at hq

/-! ## Walks -/

theorem entryPlaces_eq :
    entryPlaces entries = entries.flatMap fun e => (places e.2).map (e.1 :: ·) := by
  induction entries with
  | nil => rfl
  | cons e rest ih => rw [entryPlaces, List.flatMap_cons, ih]

/-- A walk comes to the files of a tree. -/
theorem mem_places (h : t.Orderly) : p ∈ t.places ↔ (t.contents? p).isSome := by
  induction h generalizing p with
  | file =>
    rw [places, List.mem_singleton]
    cases p with
    | nil => exact ⟨fun _ => rfl, fun _ => rfl⟩
    | cons name rest => exact ⟨nofun, nofun⟩
  | @dir entries names sorted children ih =>
    rw [places, entryPlaces_eq, List.mem_flatMap]
    constructor
    · rintro ⟨e, he, hp⟩
      obtain ⟨rest, hrest, rfl⟩ := List.mem_map.mp hp
      rw [contents?, get?_cons, FileTree.entries, (lookup_eq_some_iff sorted).mpr he]
      exact (ih e he).mp hrest
    · intro hsome
      obtain ⟨bytes, hbytes⟩ := Option.isSome_iff_exists.mp hsome
      rw [contents?_eq_some] at hbytes
      cases p with
      | nil => cases hbytes
      | cons name rest =>
        rw [get?_cons] at hbytes
        obtain ⟨child, hchild, hrest⟩ := Option.bind_eq_some_iff.mp hbytes
        have hmem := (lookup_eq_some_iff sorted).mp hchild
        refine ⟨_, hmem, List.mem_map_of_mem ((ih _ hmem).mpr ?_)⟩
        rw [contents?_eq_some.mpr hrest]
        rfl

/-- A walk comes to no file twice. -/
theorem nodup_places (h : t.Orderly) : t.places.Nodup := by
  induction h with
  | file => exact List.nodup_singleton _
  | @dir entries names sorted children ih =>
    rw [places, entryPlaces_eq, List.nodup_flatMap]
    refine ⟨fun e he => (ih e he).map (List.cons_injective), sorted.imp fun hlt => ?_⟩
    intro p hp hq
    obtain ⟨rest, -, rfl⟩ := List.mem_map.mp hp
    obtain ⟨rest', -, heq⟩ := List.mem_map.mp hq
    rw [List.cons.injEq] at heq
    exact lt_irrefl _ (heq.1 ▸ hlt)

end FileTree

end PythonSyntax
