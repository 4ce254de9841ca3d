import Mathlib.Data.List.ReduceOption
import PythonSyntax.Proofs.Spelling.Render

/-
The spelling of parameter lists.

The parameters of a function are spread over five lists and two options, and the defaults of those
that may be given by position stand in one list that is only aligned at its end.
`Arguments.entries` puts them in the order in which they are written.  Reading goes through the
entries and keeps two flags; `Steps` says which entries may follow each other and what becomes of
the state, and the entries of well-aligned arguments are such a sequence, which ends in these
arguments.

A name is written as it stands and known in normal form, so what is read back is `Arguments.known`.
-/

namespace PythonSyntax

open PythonSyntax.Parser

/-! ## Writing parameters -/

namespace Expr

/-- Whether a tree is a name that is read, and no reserved word. -/
def IsLoadName (e : Expr) : Prop := ∃ id, e = .name id .load ∧ isKeyword id = false

/-- A name as it is known.  Nothing else changes. -/
def known : Expr → Expr
  | .name id ctx => .name (normalizeIdentifier id) ctx
  | e => e

/-- The text of a name. -/
def ids : Expr → List String
  | .name id _ => [id]
  | _ => []

end Expr

/-- The words of a mark and what stands after it, or none. -/
def markedWords (mark : String) (e? : Option Expr) : List Word :=
  e?.elim [] fun e => .op mark :: e.words

namespace Arg

/-- The words of a parameter without its default. -/
def words (p : Arg) : List Word := ⟨.name, p.name⟩ :: markedWords ":" p.annotation

/-- Whether a parameter can be written: its name is not reserved, and its annotation is a name that
is read, where one is allowed. -/
structure IsPlain (annotated : Bool) (p : Arg) : Prop where
  name : isKeyword p.name = false
  annotation : ∀ e ∈ p.annotation, annotated = true ∧ e.IsLoadName

/-- A parameter as it is known. -/
def known (p : Arg) : Arg := ⟨normalizeIdentifier p.name, p.annotation.map Expr.known⟩

/-- The texts of the names in a parameter. -/
def ids (p : Arg) : List String := p.name :: p.annotation.elim [] Expr.ids

end Arg

/-- An entry of a parameter list. -/
inductive ParameterEntry where
  | plain (p : Arg) (default? : Option Expr)
  | slash
  | star (vararg : Option Arg)
  | doubleStar (kwarg : Arg)

namespace ParameterEntry

/-- The words of an entry. -/
def words : ParameterEntry → List Word
  | plain p default? => p.words ++ markedWords "=" default?
  | slash => [.op "/"]
  | star vararg => .op "*" :: vararg.elim [] Arg.words
  | doubleStar kwarg => .op "**" :: kwarg.words

/-- Whether the parameter and the default of an entry can be written. -/
def IsPlain (annotated : Bool) : ParameterEntry → Prop
  | plain p default? => p.IsPlain annotated ∧ ∀ e ∈ default?, e.IsLoadName
  | slash => True
  | star vararg => ∀ p ∈ vararg, p.IsPlain annotated
  | doubleStar kwarg => kwarg.IsPlain annotated

/-- An entry with names as they are known. -/
def known : ParameterEntry → ParameterEntry
  | plain p default? => plain p.known (default?.map Expr.known)
  | slash => slash
  | star vararg => star (vararg.map Arg.known)
  | doubleStar kwarg => doubleStar kwarg.known

/-- The words of some entries, with a comma after each.  The last comma may be left out. -/
def listWords (trailing : Bool) : List ParameterEntry → List Word
  | [] => []
  | x :: xs => x.words ++ if xs.isEmpty && !trailing then [] else .op "," :: listWords trailing xs

end ParameterEntry

namespace Arguments

/-- All parameters. -/
def params (a : Arguments) : List Arg :=
  a.posOnly ++ a.args ++ a.vararg.toList ++ a.kwOnly ++ a.kwarg.toList

/-- The defaults of the parameters before a star, one for each: the last ones have them. -/
def positionalDefaults (a : Arguments) : List (Option Expr) :=
  List.replicate (a.posOnly.length + a.args.length - a.defaults.length) none ++
    a.defaults.map some

/-- The entries of a parameter list, in the order in which they are written. -/
def entries (a : Arguments) : List ParameterEntry :=
  List.zipWith .plain a.posOnly (a.positionalDefaults.take a.posOnly.length) ++
    (if a.posOnly.isEmpty then [] else [.slash]) ++
    List.zipWith .plain a.args (a.positionalDefaults.drop a.posOnly.length) ++
    (if a.vararg.isNone && a.kwOnly.isEmpty then [] else [.star a.vararg]) ++
    List.zipWith .plain a.kwOnly a.kwDefaults ++
    a.kwarg.toList.map .doubleStar

/-- The words of a parameter list, with or without a comma at its end. -/
def words (a : Arguments) (trailing : Bool) : List Word :=
  ParameterEntry.listWords trailing a.entries

/-- Whether each list of defaults fits its parameters. -/
structure Aligned (a : Arguments) : Prop where
  kwDefaults : a.kwDefaults.length = a.kwOnly.length
  defaults : a.defaults.length ≤ a.posOnly.length + a.args.length

/-- Whether all parameters and defaults can be written. -/
structure IsPlain (annotated : Bool) (a : Arguments) : Prop where
  params : ∀ p ∈ a.params, p.IsPlain annotated
  defaults : ∀ e ∈ a.defaults, e.IsLoadName
  kwDefaults : ∀ e? ∈ a.kwDefaults, ∀ e ∈ e?, e.IsLoadName

/-- Arguments with names as they are known. -/
def known (a : Arguments) : Arguments :=
  ⟨a.posOnly.map Arg.known, a.args.map Arg.known, a.vararg.map Arg.known, a.kwOnly.map Arg.known,
    a.kwDefaults.map (Option.map Expr.known), a.kwarg.map Arg.known, a.defaults.map Expr.known⟩

/-- The texts of all names. -/
def ids (a : Arguments) : List String :=
  a.params.flatMap Arg.ids ++ a.defaults.flatMap Expr.ids ++
    a.kwDefaults.flatMap fun e? => e?.elim [] Expr.ids

end Arguments

/-! ## Names as they are known -/

theorem Expr.known_eq_self {e : Expr} (h : ∀ id ∈ e.ids, normalizeIdentifier id = id) :
    e.known = e := by
  unfold Expr.known
  split
  · next id ctx => rw [h id (List.mem_singleton.mpr rfl)]
  · rfl

theorem Expr.map_known_eq_self {e? : Option Expr}
    (h : ∀ id ∈ e?.elim [] Expr.ids, normalizeIdentifier id = id) : e?.map Expr.known = e? := by
  cases e? with
  | none => rfl
  | some e => exact congrArg some (Expr.known_eq_self h)

theorem Arg.known_eq_self {p : Arg} (h : ∀ id ∈ p.ids, normalizeIdentifier id = id) :
    p.known = p := by
  obtain ⟨name, annotation⟩ := p
  rw [Arg.ids, List.forall_mem_cons] at h
  rw [Arg.known, h.1, Expr.map_known_eq_self h.2]

namespace Arguments

variable {a : Arguments} {annotated : Bool}

/-- Arguments whose names are in normal form are known as they are. -/
theorem known_eq_self (h : ∀ id ∈ a.ids, normalizeIdentifier id = id) : a.known = a := by
  have hmap : ∀ ps : List Arg, (∀ p ∈ ps, ∀ id ∈ p.ids, normalizeIdentifier id = id) →
      ps.map Arg.known = ps := fun ps hps =>
    (List.map_congr_left fun p hp => Arg.known_eq_self (hps p hp)).trans (List.map_id' ps)
  have hoption : ∀ p? : Option Arg, (∀ p ∈ p?.toList, ∀ id ∈ p.ids, normalizeIdentifier id = id) →
      p?.map Arg.known = p? := by
    intro p? hp
    cases p? with
    | none => rfl
    | some p => exact congrArg some (Arg.known_eq_self (hp p (List.mem_singleton.mpr rfl)))
  obtain ⟨posOnly, args, vararg, kwOnly, kwDefaults, kwarg, defaults⟩ := a
  have hall := h
  simp only [ids, params, List.forall_mem_append, List.forall_mem_flatMap] at hall
  obtain ⟨⟨⟨⟨⟨⟨hposOnly, hargs⟩, hvararg⟩, hkwOnly⟩, hkwarg⟩, hdefaults⟩, hkwDefaults⟩ := hall
  have hdefaults' : defaults.map Expr.known = defaults :=
    (List.map_congr_left fun e he => Expr.known_eq_self (hdefaults e he)).trans (List.map_id' _)
  have hkwDefaults' : kwDefaults.map (Option.map Expr.known) = kwDefaults :=
    (List.map_congr_left fun e? he => Expr.map_known_eq_self (hkwDefaults e? he)).trans
      (List.map_id' _)
  simp only [known, hmap _ hposOnly, hmap _ hargs, hmap _ hkwOnly, hoption _ hvararg,
    hoption _ hkwarg, hdefaults', hkwDefaults']

theorem Aligned.known (h : a.Aligned) : a.known.Aligned :=
  ⟨by simp [Arguments.known, h.kwDefaults], by simp [Arguments.known, h.defaults]⟩

theorem length_positionalDefaults (h : a.Aligned) :
    a.positionalDefaults.length = a.posOnly.length + a.args.length := by
  have hdefaults := h.defaults
  simp only [positionalDefaults, List.length_append, List.length_replicate, List.length_map]
  omega

/-- After a parameter with a default, all have one. -/
theorem pairwise_positionalDefaults (a : Arguments) :
    a.positionalDefaults.Pairwise fun d d' => d.isSome = true → d'.isSome = true := by
  simp [positionalDefaults, List.pairwise_append, List.pairwise_map, List.pairwise_of_forall]

theorem reduceOption_positionalDefaults (a : Arguments) :
    a.positionalDefaults.reduceOption = a.defaults := by
  simp [positionalDefaults, List.reduceOption]

theorem positionalDefaults_known (a : Arguments) :
    a.known.positionalDefaults = a.positionalDefaults.map (Option.map Expr.known) := by
  simp [positionalDefaults, known]

/-- The entries of arguments with names as they are known are those of the arguments. -/
theorem entries_known (a : Arguments) : a.known.entries = a.entries.map .known := by
  have hplain : ∀ (ps : List Arg) (ds : List (Option Expr)),
      List.zipWith ParameterEntry.plain (ps.map Arg.known) (ds.map (Option.map Expr.known)) =
        (List.zipWith .plain ps ds).map .known := by
    intro ps ds
    rw [List.zipWith_map, List.map_zipWith]
    rfl
  have hslash : (if a.known.posOnly.isEmpty then [] else [ParameterEntry.slash]) =
      (if a.posOnly.isEmpty then [] else [.slash]).map .known := by
    cases h : a.posOnly <;> simp [known, h, ParameterEntry.known]
  have hstar : (if a.known.vararg.isNone && a.known.kwOnly.isEmpty then []
      else [ParameterEntry.star a.known.vararg]) =
      (if a.vararg.isNone && a.kwOnly.isEmpty then [] else [.star a.vararg]).map .known := by
    cases h : a.vararg <;> cases h' : a.kwOnly <;> simp [known, h, h', ParameterEntry.known]
  have hkwarg : a.known.kwarg.toList.map ParameterEntry.doubleStar =
      (a.kwarg.toList.map .doubleStar).map .known := by
    cases h : a.kwarg <;> simp [known, h, ParameterEntry.known]
  have hlength : a.known.posOnly.length = a.posOnly.length := List.length_map ..
  unfold entries
  simp only [List.map_append, hslash, hstar, hkwarg, ← hplain, positionalDefaults_known, hlength,
    List.map_take, List.map_drop]
  rfl

/-- If arguments can be written, then each of their entries can. -/
theorem IsPlain.entries (h : a.IsPlain annotated) : ∀ x ∈ a.entries, x.IsPlain annotated := by
  have hplain : ∀ (ps : List Arg) (ds : List (Option Expr)), (∀ p ∈ ps, p.IsPlain annotated) →
      (∀ d ∈ ds, ∀ e ∈ d, e.IsLoadName) →
      ∀ x ∈ List.zipWith ParameterEntry.plain ps ds, x.IsPlain annotated := by
    intro ps ds hps hds x hx
    rw [← List.map_uncurry_zip_eq_zipWith, List.mem_map] at hx
    obtain ⟨⟨p, d⟩, hmem, rfl⟩ := hx
    exact ⟨hps p (List.of_mem_zip hmem).1, hds d (List.of_mem_zip hmem).2⟩
  have hpositional : ∀ d ∈ a.positionalDefaults, ∀ e ∈ d, e.IsLoadName := by
    intro d hd e he
    rcases List.mem_append.mp hd with hd | hd
    · rw [List.eq_of_mem_replicate hd] at he
      cases he
    · obtain ⟨e', he', rfl⟩ := List.mem_map.mp hd
      cases he
      exact h.defaults e he'
  have hparams := h.params
  simp only [Arguments.params, List.forall_mem_append] at hparams
  obtain ⟨⟨⟨⟨hposOnly, hargs⟩, hvararg⟩, hkwOnly⟩, hkwarg⟩ := hparams
  simp only [Arguments.entries, List.forall_mem_append]
  refine ⟨⟨⟨⟨⟨?_, ?_⟩, ?_⟩, ?_⟩, ?_⟩, ?_⟩
  · exact hplain _ _ hposOnly fun d hd => hpositional d (List.mem_of_mem_take hd)
  · split
    · exact nofun
    · exact List.forall_mem_singleton.mpr trivial
  · exact hplain _ _ hargs fun d hd => hpositional d (List.mem_of_mem_drop hd)
  · split
    · exact nofun
    · exact List.forall_mem_singleton.mpr fun p hp => hvararg p (Option.mem_toList.mpr hp)
  · exact hplain _ _ hkwOnly h.kwDefaults
  · rw [List.forall_mem_map]
    exact hkwarg

end Arguments

/-! ## Going through entries -/

namespace Parser.Parameters

/-- The state in which the reading of parameters begins. -/
def start : Parameters := ⟨⟨[], [], none, [], [], none, []⟩, false, false⟩

/-- The state after an entry. -/
def addEntry (s : Parameters) : ParameterEntry → Parameters
  | .plain p default? => s.add p default?
  | .slash => s.addSlash
  | .star vararg => { s with arguments := { s.arguments with vararg := vararg }, seenStar := true }
  | .doubleStar kwarg => { s with arguments := { s.arguments with kwarg := some kwarg } }

/-- Whether an entry may stand in some state and others after it. -/
def Admits (s : Parameters) : ParameterEntry → Prop
  | .plain _ default? => default? = none → s.seenStar = true ∨ s.arguments.defaults = []
  | .slash => s.seenSlash = false ∧ s.seenStar = false ∧ s.arguments.args ≠ []
  | .star _ => s.seenStar = false
  | .doubleStar _ => False

/-- Entries lead from one state to another.  Nothing stands after a double star. -/
inductive Steps : Parameters → List ParameterEntry → Parameters → Prop where
  | done {s} : Steps s [] s
  | last {s kwarg} : Steps s [.doubleStar kwarg] (s.addEntry (.doubleStar kwarg))
  | more {s s' x xs} : s.Admits x → Steps (s.addEntry x) xs s' → Steps s (x :: xs) s'

variable {s s' s'' : Parameters} {xs ys : List ParameterEntry}

/-- Entries without a double star, and others after them. -/
theorem Steps.append (h : Steps s xs s') (hlast : ∀ p, .doubleStar p ∉ xs) (h' : Steps s' ys s'') :
    Steps s (xs ++ ys) s'' := by
  induction h with
  | done => exact h'
  | last => exact absurd List.mem_cons_self (hlast _)
  | more hx _ ih => exact .more hx (ih (fun p hp => hlast p (.tail _ hp)) h')

theorem doubleStar_notMem_zipWith (kwarg : Arg) (ps : List Arg) (ds : List (Option Expr)) :
    .doubleStar kwarg ∉ List.zipWith ParameterEntry.plain ps ds := by
  rw [← List.map_uncurry_zip_eq_zipWith, List.mem_map]
  rintro ⟨_, -, ⟨⟩⟩

/-- Parameters before a star, each with or without a default: after one with a default, all have
one. -/
theorem steps_positional {ps : List Arg} {ds : List (Option Expr)} (hlen : ps.length = ds.length)
    (hstar : s.seenStar = false) (hds : ds.Pairwise fun d d' => d.isSome = true → d'.isSome = true)
    (hs : s.arguments.defaults ≠ [] → ∀ d ∈ ds, d.isSome = true) :
    Steps s (List.zipWith .plain ps ds) { s with arguments := { s.arguments with
      args := s.arguments.args ++ ps
      defaults := s.arguments.defaults ++ ds.reduceOption } } := by
  induction ps generalizing ds s with
  | nil =>
    obtain rfl : ds = [] := List.length_eq_zero_iff.mp hlen.symm
    obtain ⟨⟨⟩, _, _⟩ := s
    simpa using Steps.done
  | cons p ps ih =>
    obtain ⟨d, ds, rfl⟩ := List.exists_cons_of_length_eq_add_one hlen.symm
    rw [List.pairwise_cons] at hds
    have hadd : s.addEntry (.plain p d) = { s with arguments := { s.arguments with
        args := s.arguments.args ++ [p]
        defaults := s.arguments.defaults ++ d.toList } } := by
      simp [addEntry, Parameters.add, hstar]
    refine .more (fun hd => .inr ?_) ?_
    · -- a parameter without a default stands behind none that has one
      by_contra hne
      have := hs hne d List.mem_cons_self
      rw [hd] at this
      cases this
    · have hrest : (s.addEntry (.plain p d)).arguments.defaults ≠ [] →
          ∀ d' ∈ ds, d'.isSome = true := by
        intro hne d' hd'
        cases d with
        | some e => exact hds.1 d' hd' rfl
        | none => exact hs (by simpa [hadd] using hne) d' (.tail _ hd')
      have hstar' : (s.addEntry (.plain p d)).seenStar = false := by rw [hadd]; exact hstar
      have hsteps := ih (Nat.succ.inj hlen) hstar' hds.2 hrest
      have hcons : (d :: ds).reduceOption = d.toList ++ ds.reduceOption := by
        rw [← List.reduceOption_singleton, ← List.reduceOption_append, List.singleton_append]
      rw [hadd] at hsteps ⊢
      rw [hcons]
      simpa using hsteps

/-- Parameters behind a star, each with or without a default. -/
theorem steps_keyword {ps : List Arg} {ds : List (Option Expr)} (hlen : ps.length = ds.length)
    (hstar : s.seenStar = true) :
    Steps s (List.zipWith .plain ps ds) { s with arguments := { s.arguments with
      kwOnly := s.arguments.kwOnly ++ ps
      kwDefaults := s.arguments.kwDefaults ++ ds } } := by
  induction ps generalizing ds s with
  | nil =>
    obtain rfl : ds = [] := List.length_eq_zero_iff.mp hlen.symm
    obtain ⟨⟨⟩, _, _⟩ := s
    simpa using Steps.done
  | cons p ps ih =>
    obtain ⟨d, ds, rfl⟩ := List.exists_cons_of_length_eq_add_one hlen.symm
    have hadd : s.addEntry (.plain p d) = { s with arguments := { s.arguments with
        kwOnly := s.arguments.kwOnly ++ [p]
        kwDefaults := s.arguments.kwDefaults ++ [d] } } := by
      simp [addEntry, Parameters.add, hstar]
    have hsteps := ih (s := s.addEntry (.plain p d)) (Nat.succ.inj hlen) (by rw [hadd]; exact hstar)
    refine .more (fun _ => .inl hstar) ?_
    rw [hadd] at hsteps ⊢
    simpa using hsteps

/-! ## The entries of well-aligned arguments -/

/-- The state in front of the star of arguments. -/
def beforeStar (a : Arguments) : Parameters :=
  ⟨⟨a.posOnly, a.args, none, [], [], none, a.defaults⟩, !a.posOnly.isEmpty, false⟩

/-- The state behind the star of arguments.  There is one if anything stands behind it. -/
def afterStar (a : Arguments) : Parameters :=
  ⟨⟨a.posOnly, a.args, a.vararg, [], [], none, a.defaults⟩, !a.posOnly.isEmpty,
    !(a.vararg.isNone && a.kwOnly.isEmpty)⟩

/-- The state behind all entries of arguments. -/
def final (a : Arguments) : Parameters :=
  ⟨a, !a.posOnly.isEmpty, !(a.vararg.isNone && a.kwOnly.isEmpty)⟩

variable {a : Arguments}

theorem steps_beforeStar (h : a.Aligned) : Steps start
    (List.zipWith .plain a.posOnly (a.positionalDefaults.take a.posOnly.length) ++
      (if a.posOnly.isEmpty then [] else [.slash]) ++
      List.zipWith .plain a.args (a.positionalDefaults.drop a.posOnly.length)) (beforeStar a) := by
  have hlen := Arguments.length_positionalDefaults h
  have hpairwise := a.pairwise_positionalDefaults
  have hdefaults := a.reduceOption_positionalDefaults
  rw [← List.take_append_drop a.posOnly.length a.positionalDefaults, List.pairwise_append]
    at hpairwise
  rw [← List.take_append_drop a.posOnly.length a.positionalDefaults, List.reduceOption_append]
    at hdefaults
  obtain ⟨hfront, hback, hacross⟩ := hpairwise
  have hposOnly : Steps start
      (List.zipWith .plain a.posOnly (a.positionalDefaults.take a.posOnly.length))
      ⟨⟨[], a.posOnly, none, [], [], none,
        (a.positionalDefaults.take a.posOnly.length).reduceOption⟩, false, false⟩ :=
    steps_positional (s := start) (by simp [hlen]) rfl hfront (absurd rfl)
  have hslash : Steps
      ⟨⟨[], a.posOnly, none, [], [], none,
        (a.positionalDefaults.take a.posOnly.length).reduceOption⟩, false, false⟩
      (if a.posOnly.isEmpty then [] else [.slash])
      ⟨⟨a.posOnly, [], none, [], [], none,
        (a.positionalDefaults.take a.posOnly.length).reduceOption⟩, !a.posOnly.isEmpty, false⟩ := by
    cases hpos : a.posOnly with
    | nil => exact .done
    | cons p ps => exact .more ⟨rfl, rfl, List.cons_ne_nil p ps⟩ .done
  have hargs : Steps
      ⟨⟨a.posOnly, [], none, [], [], none,
        (a.positionalDefaults.take a.posOnly.length).reduceOption⟩, !a.posOnly.isEmpty, false⟩
      (List.zipWith .plain a.args (a.positionalDefaults.drop a.posOnly.length))
      (beforeStar a) := by
    rw [beforeStar, ← hdefaults]
    refine steps_positional (s := ⟨⟨a.posOnly, [], none, [], [], none, _⟩, _, false⟩)
      (by simp [hlen]) rfl hback fun hne d hd => ?_
    obtain ⟨e, he⟩ := List.exists_mem_of_ne_nil _ hne
    exact hacross (some e) (List.reduceOption_mem_iff.mp he) d hd rfl
  rw [List.append_assoc]
  refine hposOnly.append (doubleStar_notMem_zipWith · _ _) (hslash.append ?_ hargs)
  intro p
  split <;> simp

theorem steps_star (a : Arguments) : Steps (beforeStar a)
    (if a.vararg.isNone && a.kwOnly.isEmpty then [] else [.star a.vararg]) (afterStar a) := by
  unfold beforeStar afterStar
  cases hnone : a.vararg.isNone && a.kwOnly.isEmpty with
  | true =>
    rw [Bool.and_eq_true, Option.isNone_iff_eq_none] at hnone
    rw [hnone.1]
    exact .done
  | false => exact .more rfl .done

theorem steps_afterStar (h : a.Aligned) : Steps (afterStar a)
    (List.zipWith .plain a.kwOnly a.kwDefaults ++ a.kwarg.toList.map .doubleStar) (final a) := by
  have hlen := h.kwDefaults
  have hkeyword : Steps (afterStar a) (List.zipWith .plain a.kwOnly a.kwDefaults)
      ⟨⟨a.posOnly, a.args, a.vararg, a.kwOnly, a.kwDefaults, none, a.defaults⟩,
        !a.posOnly.isEmpty, !(a.vararg.isNone && a.kwOnly.isEmpty)⟩ := by
    unfold afterStar
    cases hnone : a.vararg.isNone && a.kwOnly.isEmpty with
    | true =>
      rw [Bool.and_eq_true, List.isEmpty_iff] at hnone
      rw [hnone.2, List.length_nil, List.length_eq_zero_iff] at hlen
      rw [hnone.2, hlen]
      exact .done
    | false => exact steps_keyword (s := ⟨⟨_, _, _, [], [], _, _⟩, _, true⟩) hlen.symm rfl
  refine hkeyword.append (doubleStar_notMem_zipWith · _ _) ?_
  obtain ⟨posOnly, args, vararg, kwOnly, kwDefaults, kwarg, defaults⟩ := a
  cases kwarg with
  | none => exact .done
  | some p => exact .last

/-- The entries of arguments with well-aligned defaults lead to these arguments. -/
theorem steps_entries (h : a.Aligned) : Steps start a.entries (final a) := by
  have hbefore : ∀ p, .doubleStar p ∉
      List.zipWith ParameterEntry.plain a.posOnly (a.positionalDefaults.take a.posOnly.length) ++
        (if a.posOnly.isEmpty then [] else [.slash]) ++
        List.zipWith .plain a.args (a.positionalDefaults.drop a.posOnly.length) := by
    intro p
    simp only [List.mem_append, not_or]
    refine ⟨⟨doubleStar_notMem_zipWith p _ _, ?_⟩, doubleStar_notMem_zipWith p _ _⟩
    split <;> simp
  have hstar : ∀ p, .doubleStar p ∉
      if a.vararg.isNone && a.kwOnly.isEmpty then [] else [ParameterEntry.star a.vararg] := by
    intro p
    split <;> simp
  have hsteps := (steps_beforeStar h).append hbefore
    ((steps_star a).append hstar (steps_afterStar h))
  simpa only [Arguments.entries, List.append_assoc] using hsteps

end Parser.Parameters

end PythonSyntax
