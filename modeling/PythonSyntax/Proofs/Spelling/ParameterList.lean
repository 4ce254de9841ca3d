import PythonSyntax.Proofs.Parser.Returns
import PythonSyntax.Proofs.Spelling.Parameters

/-
Parameter lists are read back.

Each entry of a list takes its own words and hands on the stream before a comma or the token that
closes the list.  So a list of entries leads through the states of `Steps`, and what is written of
arguments with well-aligned defaults is read as these arguments, in a `def` and in a `lambda`.

Conversely what is read has well-aligned defaults, whatever the tokens are and whatever the rules
make of the expressions among them: no entry adds a default without its parameter.
-/

namespace PythonSyntax

open PythonSyntax.Parser

/-! ## Reading parameters -/

namespace Parser

variable {spell : List Char → List Char} {n : Nesting} {ts us more : List Token} {next : Token}
  {closing : String} {annotated : Bool} {e : Expr} {p : Arg} {x : ParameterEntry} {fuel : Nat}

/-- The token that closes a parameter list, and whether parameters may be annotated: the list of a
`def` and that of a `lambda`. -/
def Closing (closing : String) (annotated : Bool) : Prop :=
  (closing, annotated) ∈ [(")", true), (":", false)]

theorem Closing.cases (h : Closing closing annotated) :
    closing = ")" ∧ annotated = true ∨ closing = ":" ∧ annotated = false := by
  simpa [Closing] using h

/-- A word before which an entry of a parameter list ends. -/
structure Stops (annotated : Bool) (w : Word) : Prop where
  ends : Rule.Ends .test w
  colon : annotated = true → w ≠ .op ":"
  equals : w ≠ .op "="
  kind : w.kind = .op

theorem Closing.stops {w : Word} (h : Closing closing annotated)
    (hw : w = .op "," ∨ w = .op closing) : Stops annotated w := by
  rcases h.cases with ⟨rfl, rfl⟩ | ⟨rfl, rfl⟩ <;> rcases hw with rfl | rfl <;>
    exact ⟨by decide, by decide, by decide, rfl⟩

/-- No mark of a parameter list closes it. -/
theorem Closing.isOp {t : Token} {mark : String} (h : Closing closing annotated)
    (ht : t.word = .op mark) (hmark : mark ∈ ["/", "*", "**"]) : t.isOp closing = false := by
  refine Token.isOp_of_word ht ?_
  rintro rfl
  rcases h.cases with ⟨rfl, -⟩ | ⟨rfl, -⟩ <;> exact absurd hmark (by decide)

theorem Closing.isOp_comma {t : Token} (h : Closing closing annotated)
    (ht : t.word = .op closing) : t.isOp "," = false := by
  refine Token.isOp_of_word ht ?_
  rcases h.cases with ⟨rfl, -⟩ | ⟨rfl, -⟩ <;> decide

/-- From this many levels on, every rule of operator expressions takes a name. -/
def enough : Nat := Rule.ladder.length

theorem loadName_take (hfuel : enough ≤ fuel) (he : e.IsLoadName)
    (hts : ts.map Token.word = e.words) (hends : Rule.Ends .test next.word) (more : List Token) :
    outcome (Rule.run spell fuel .test) n (ts ++ next :: more) = .ok (e.known, next :: more) := by
  obtain ⟨id, rfl, hkeyword⟩ := he
  rw [Expr.words] at hts
  obtain ⟨t, rfl, ht⟩ := List.map_eq_singleton_iff.mp hts
  have hlevels : enough = 1 + (Rule.place .atom - Rule.place .test) := by decide
  obtain ⟨k, rfl⟩ : ∃ k, fuel = k + 1 + (Rule.place .atom - Rule.place .test) :=
    ⟨fuel - enough, by omega⟩
  have hatom : outcome (Rule.run spell (k + 1) .atom) n (t :: next :: more) =
      .ok (Expr.known (.name id .load), next :: more) :=
    Rule.run_name ht hkeyword (List.cons_ne_nil _ _) k
  refine Rule.run_loosen (by decide) (by decide) ?_ hends hatom
  show Rule.Begins .atom t.word
  rw [ht]
  exact .name hkeyword

/-- What stands after a mark is read, and if there is no mark then nothing is. -/
theorem marked_take (hfuel : enough ≤ fuel) {mark : String} {e? : Option Expr}
    (he : ∀ e ∈ e?, e.IsLoadName) (hts : ts.map Token.word = markedWords mark e?)
    (hends : Rule.Ends .test next.word) (hmark : next.word ≠ .op mark) (more : List Token) :
    outcome (Parser.optional (eatOp mark) (Rule.run spell fuel .test)) n (ts ++ next :: more) =
      .ok (e?.map Expr.known, next :: more) := by
  cases e? with
  | none =>
    obtain rfl := List.map_eq_nil_iff.mp hts
    have hcurrent : (current ([] ++ next :: more)).isOp mark = false := Token.isOp_eq_false hmark
    exact (ifEatOp_neg hcurrent).trans (outcome_pure _)
  | some e =>
    obtain ⟨t, us, rfl, ht, hus⟩ := List.map_eq_cons_iff.mp hts
    have hcurrent : (current (t :: us ++ next :: more)).isOp mark = true := Token.isOp_iff.mpr ht
    refine (ifEatOp_pos hcurrent).trans ?_
    rw [List.cons_append, dropCurrent_cons (by simp),
      outcome_bind_of (loadName_take hfuel (he e rfl) hus hends more)]
    rfl

theorem parameter_take (hfuel : enough ≤ fuel) (hp : p.IsPlain annotated)
    (hts : ts.map Token.word = p.words) (hends : Rule.Ends .test next.word)
    (hcolon : annotated = true → next.word ≠ .op ":") (more : List Token) :
    outcome (parameter (Rule.run spell fuel) annotated) n (ts ++ next :: more) =
      .ok (p.known, next :: more) := by
  obtain ⟨name, annotation?⟩ := p
  obtain ⟨hkeyword, hplain⟩ := hp
  obtain ⟨t, us, rfl, ht, hus⟩ := List.map_eq_cons_iff.mp hts
  obtain ⟨hkind, rfl⟩ := Word.mk.inj ht
  have hident : (current (t :: us ++ next :: more)).isIdentifier = true := by
    show (t.kind == .name && !isKeyword t.text) = true
    rw [hkind, show isKeyword t.text = false from hkeyword]
    rfl
  have hrest : outcome (typeHint (Rule.run spell fuel) annotated) n (us ++ next :: more) =
      .ok (annotation?.map Expr.known, next :: more) := by
    cases annotated with
    | true => exact marked_take hfuel (fun e he => (hplain e he).2) hus hends (hcolon rfl) more
    | false =>
      obtain rfl : annotation? = none := by
        cases annotation? with
        | none => rfl
        | some e => cases (hplain e rfl).1
      obtain rfl := List.map_eq_nil_iff.mp hus
      rfl
  have hdrop : dropCurrent (t :: us ++ next :: more) = us ++ next :: more :=
    dropCurrent_cons (by simp)
  rw [parameter, outcome_bind_of (outcome_identifier hident), hdrop, outcome_bind_of hrest]
  rfl

/-! ## Reading entries -/

theorem slash_take {rule : Rule → Parser Expr} {t : Token} {s : Parameters}
    (hclosing : Closing closing annotated) (hs : s.Admits .slash) (ht : t.word = .op "/")
    (hts : ts ≠ []) : outcome (parameterEntry rule closing annotated s) n (t :: ts) =
      .ok (afterComma (s.addEntry .slash) ts) := by
  have hfirst : (current (t :: ts)).word = .op "/" := ht
  have hcondition : (s.seenSlash || s.seenStar || s.arguments.args.isEmpty) = false := by
    simp [hs.1, hs.2.1, hs.2.2]
  rw [parameterEntry, ifAtOp_neg (hclosing.isOp hfirst (by decide)), outcome_peek_bind,
    ifEatOp_pos (Token.isOp_iff.mpr hfirst), dropCurrent_cons hts, hcondition]
  exact outcome_comma s.addSlash

/-- The parameter after a star, or none. -/
theorem vararg_take (hfuel : enough ≤ fuel) {vararg : Option Arg}
    (hp : ∀ p ∈ vararg, p.IsPlain annotated) (hts : ts.map Token.word = vararg.elim [] Arg.words)
    (hnext : Stops annotated next.word) (more : List Token) :
    outcome (Parser.optional (atKind .name) (parameter (Rule.run spell fuel) annotated)) n
      (ts ++ next :: more) = .ok (vararg.map Arg.known, next :: more) := by
  show outcome (if ((current (ts ++ next :: more)).kind == .name) = true then
    (do return some (← parameter (Rule.run spell fuel) annotated)) else pure none) n
    (ts ++ next :: more) = _
  cases vararg with
  | none =>
    obtain rfl := List.map_eq_nil_iff.mp hts
    have hkind : (current ([] ++ next :: more)).kind = .op := hnext.kind
    rw [hkind]
    rfl
  | some p =>
    have hkind : (current (ts ++ next :: more)).kind = .name := by
      obtain ⟨t, us, rfl, ht, -⟩ := List.map_eq_cons_iff.mp hts
      exact congrArg Word.kind ht
    rw [hkind, if_pos (beq_self_eq_true _),
      outcome_bind_of (parameter_take hfuel (hp p rfl) hts hnext.ends hnext.colon more)]
    rfl

theorem star_take (hfuel : enough ≤ fuel) {vararg : Option Arg} {s : Parameters}
    (hclosing : Closing closing annotated) (hs : s.Admits (ParameterEntry.known (.star vararg)))
    (hp : ∀ p ∈ vararg, p.IsPlain annotated)
    (hts : ts.map Token.word = ParameterEntry.words (.star vararg))
    (hnext : Stops annotated next.word) (more : List Token) :
    outcome (parameterEntry (Rule.run spell fuel) closing annotated s) n (ts ++ next :: more) =
      .ok (afterComma (s.addEntry (ParameterEntry.known (.star vararg))) (next :: more)) := by
  obtain ⟨t, us, rfl, ht, hus⟩ := List.map_eq_cons_iff.mp hts
  have hfirst : (current (t :: us ++ next :: more)).word = .op "*" := ht
  have hdrop : dropCurrent (t :: us ++ next :: more) = us ++ next :: more :=
    dropCurrent_cons (by simp)
  have hstar : s.seenStar = false := hs
  rw [parameterEntry, ifAtOp_neg (hclosing.isOp hfirst (by decide)), outcome_peek_bind,
    ifEatOp_neg (Token.isOp_of_word hfirst (by decide)),
    ifEatOp_neg (Token.isOp_of_word hfirst (by decide)), ifEatOp_pos (Token.isOp_iff.mpr hfirst),
    hdrop, hstar, if_neg Bool.false_ne_true, outcome_bind_of (vararg_take hfuel hp hus hnext more)]
  exact outcome_comma (s.addEntry (ParameterEntry.known (.star vararg)))

theorem plain_take (hfuel : enough ≤ fuel) {default? : Option Expr} {s : Parameters}
    (hs : s.Admits (ParameterEntry.known (.plain p default?))) (hp : p.IsPlain annotated)
    (hdefault : ∀ e ∈ default?, e.IsLoadName)
    (hts : ts.map Token.word = ParameterEntry.words (.plain p default?))
    (hnext : Stops annotated next.word) (more : List Token) :
    outcome (parameterEntry (Rule.run spell fuel) closing annotated s) n (ts ++ next :: more) =
      .ok (afterComma (s.addEntry (ParameterEntry.known (.plain p default?))) (next :: more)) := by
  obtain ⟨left, right, rfl, hleft, hright⟩ := List.map_eq_append_iff.mp hts
  -- what follows the parameter is the mark of its default, or what follows the entry
  obtain ⟨next', more', hmore', hends, hcolon⟩ : ∃ next' more',
      right ++ next :: more = next' :: more' ∧ Rule.Ends .test next'.word ∧
        (annotated = true → next'.word ≠ .op ":") := by
    cases default? with
    | none =>
      obtain rfl := List.map_eq_nil_iff.mp hright
      exact ⟨next, more, rfl, hnext.ends, hnext.colon⟩
    | some e =>
      obtain ⟨t, us, rfl, ht, -⟩ := List.map_eq_cons_iff.mp hright
      refine ⟨t, us ++ next :: more, rfl, ?_, fun _ => ?_⟩ <;> rw [ht] <;> decide
  have hparameter : outcome (parameter (Rule.run spell fuel) annotated) n (left ++ next' :: more') =
      .ok (p.known, next' :: more') := parameter_take hfuel hp hleft hends hcolon more'
  have hmarked : outcome (Parser.optional (eatOp "=") (Rule.run spell fuel .test)) n
      (right ++ next :: more) = .ok (default?.map Expr.known, next :: more) :=
    marked_take hfuel hdefault hright hnext.ends hnext.equals more
  have hname : ∀ op, (current (left ++ next' :: more')).isOp op = false := by
    obtain ⟨t, us, rfl, ht, -⟩ := List.map_eq_cons_iff.mp hleft
    exact fun op => Token.isOp_eq_false fun hop => nomatch congrArg Word.kind (hop.symm.trans ht)
  have hcondition : (!s.seenStar && (default?.map Expr.known).isNone &&
      !s.arguments.defaults.isEmpty) = false := by
    cases default? with
    | some e => simp
    | none => rcases hs rfl with h | h <;> simp [h]
  rw [hmore'] at hmarked
  rw [List.append_assoc, hmore', parameterEntry, ifAtOp_neg (hname closing), outcome_peek_bind,
    ifEatOp_neg (hname "/"), ifEatOp_neg (hname "**"), ifEatOp_neg (hname "*"),
    outcome_bind_of hparameter, outcome_bind_of hmarked, hcondition]
  exact outcome_comma (s.add p.known (default?.map Expr.known))

/-- An entry that is no double star is read up to a comma or the end of the list. -/
theorem entry_take (hfuel : enough ≤ fuel) {s : Parameters} (hclosing : Closing closing annotated)
    (hs : s.Admits x.known) (hx : x.IsPlain annotated) (hts : ts.map Token.word = x.words)
    (hnext : next.word = .op "," ∨ next.word = .op closing) (more : List Token) :
    outcome (parameterEntry (Rule.run spell fuel) closing annotated s) n (ts ++ next :: more) =
      .ok (afterComma (s.addEntry x.known) (next :: more)) := by
  have hstops := hclosing.stops hnext
  cases x with
  | plain p default? => exact plain_take hfuel hs hx.1 hx.2 hts hstops more
  | slash =>
    obtain ⟨t, rfl, ht⟩ := List.map_eq_singleton_iff.mp hts
    exact slash_take hclosing hs ht (List.cons_ne_nil _ _)
  | star vararg => exact star_take hfuel hclosing hs hx hts hstops more
  | doubleStar kwarg => exact hs.elim

/-- The last entry, with no comma behind it. -/
theorem entry_take_last (hfuel : enough ≤ fuel) {s : Parameters} {close : Token}
    (hclosing : Closing closing annotated) (hs : s.Admits x.known) (hx : x.IsPlain annotated)
    (hts : ts.map Token.word = x.words) (hclose : close.word = .op closing) (more : List Token) :
    outcome (parameterEntry (Rule.run spell fuel) closing annotated s) n (ts ++ close :: more) =
      .ok ((s.addEntry x.known, false), close :: more) := by
  have hnone : (current (close :: more)).isOp "," = false := hclosing.isOp_comma hclose
  rw [entry_take hfuel hclosing hs hx hts (.inr hclose), afterComma, hnone]
  rfl

/-- An entry with a comma behind it. -/
theorem entry_take_comma (hfuel : enough ≤ fuel) {s : Parameters} {comma : Token}
    (hclosing : Closing closing annotated) (hs : s.Admits x.known) (hx : x.IsPlain annotated)
    (hts : ts.map Token.word = x.words) (hcomma : comma.word = .op ",") (hmore : more ≠ []) :
    outcome (parameterEntry (Rule.run spell fuel) closing annotated s) n (ts ++ comma :: more) =
      .ok ((s.addEntry x.known, true), more) := by
  have hsome : (current (comma :: more)).isOp "," = true := Token.isOp_iff.mpr hcomma
  rw [entry_take hfuel hclosing hs hx hts (.inl hcomma), afterComma, hsome, dropCurrent_cons hmore]
  rfl

/-- A double star is the last entry; a comma may follow it. -/
theorem doubleStar_take (hfuel : enough ≤ fuel) {commas rest : List Token} {close : Token}
    (s : Parameters) (hclosing : Closing closing annotated) (hp : p.IsPlain annotated)
    (hts : ts.map Token.word = ParameterEntry.words (.doubleStar p))
    (hcommas : commas = [] ∨ ∃ t, commas = [t] ∧ t.word = .op ",")
    (hclose : close.word = .op closing) :
    outcome (parameterEntry (Rule.run spell fuel) closing annotated s) n
      (ts ++ (commas ++ close :: rest)) =
      .ok ((s.addEntry (ParameterEntry.known (.doubleStar p)), false), close :: rest) := by
  obtain ⟨t, us, rfl, ht, hus⟩ := List.map_eq_cons_iff.mp hts
  obtain ⟨next, more, hmore, hnext⟩ : ∃ next more, commas ++ close :: rest = next :: more ∧
      (next.word = .op "," ∨ next.word = .op closing) := by
    rcases hcommas with rfl | ⟨u, rfl, hu⟩
    · exact ⟨close, rest, rfl, .inr hclose⟩
    · exact ⟨u, close :: rest, rfl, .inl hu⟩
  have hstops := hclosing.stops hnext
  have hparameter : outcome (parameter (Rule.run spell fuel) annotated) n
      (us ++ (commas ++ close :: rest)) = .ok (p.known, commas ++ close :: rest) := by
    rw [hmore]
    exact parameter_take hfuel hp hus hstops.ends hstops.colon more
  have hcomma : outcome (eatOp ",") n (commas ++ close :: rest) =
      .ok (!commas.isEmpty, close :: rest) := by
    rcases hcommas with rfl | ⟨u, rfl, hu⟩
    · have hnone : (current (close :: rest)).isOp "," = false := hclosing.isOp_comma hclose
      exact outcome_eatOp_neg hnone
    · have hsome : (current (u :: close :: rest)).isOp "," = true := Token.isOp_iff.mpr hu
      exact outcome_eatOp_pos hsome
  have hfirst : (current (t :: us ++ (commas ++ close :: rest))).word = .op "**" := ht
  have hdrop : dropCurrent (t :: us ++ (commas ++ close :: rest)) =
      us ++ (commas ++ close :: rest) := dropCurrent_cons (by simp)
  have hend : (current (close :: rest)).isOp closing = true := Token.isOp_iff.mpr hclose
  rw [parameterEntry, ifAtOp_neg (hclosing.isOp hfirst (by decide)), outcome_peek_bind,
    ifEatOp_neg (Token.isOp_of_word hfirst (by decide)), ifEatOp_pos (Token.isOp_iff.mpr hfirst),
    hdrop, outcome_bind_of hparameter, outcome_bind_of hcomma, ifAtOp_pos hend]
  rfl

/-! ## Reading lists -/

/-- The entries of a list are read one after another, up to the token that closes it. -/
theorem Parameters.Steps.read (hfuel : enough ≤ fuel) {s s' : Parameters}
    {xs : List ParameterEntry} {trailing : Bool} {close : Token} {rest bound : List Token}
    (h : Steps s (xs.map .known) s') (hclosing : Closing closing annotated)
    (hxs : ∀ x ∈ xs, x.IsPlain annotated)
    (hts : ts.map Token.word = ParameterEntry.listWords trailing xs)
    (hclose : close.word = .op closing) (hbound : ts.length < bound.length) :
    outcome (iterateUpTo (parameterEntry (Rule.run spell fuel) closing annotated) bound s) n
      (ts ++ close :: rest) = .ok (s', close :: rest) := by
  obtain ⟨b, bound, rfl⟩ := List.exists_cons_of_length_pos (Nat.zero_lt_of_lt hbound)
  induction xs generalizing ts b bound s with
  | nil =>
    cases h
    obtain rfl := List.map_eq_nil_iff.mp hts
    have hend : (current (close :: rest)).isOp closing = true := Token.isOp_iff.mpr hclose
    exact outcome_iterateUpTo_stop ((ifAtOp_pos hend).trans (outcome_pure _))
  | cons x xs ih =>
    rw [List.forall_mem_cons] at hxs
    obtain ⟨left, right, rfl, hleft, hright⟩ := List.map_eq_append_iff.mp hts
    rw [List.map_cons] at h
    generalize hys : xs.map ParameterEntry.known = ys at h
    generalize hy : x.known = y at h
    cases h with
    | last =>
      obtain rfl := List.map_eq_nil_iff.mp hys
      cases x <;> cases hy
      have hcommas : right = [] ∨ ∃ t, right = [t] ∧ t.word = .op "," := by
        cases trailing with
        | false => exact .inl (List.map_eq_nil_iff.mp hright)
        | true => exact .inr (List.map_eq_singleton_iff.mp hright)
      rw [List.append_assoc]
      exact outcome_iterateUpTo_stop (doubleStar_take hfuel _ hclosing hxs.1 hleft hcommas hclose)
    | more hx hsteps =>
      subst hys hy
      split at hright
      · next hlast =>
        rw [Bool.and_eq_true, List.isEmpty_iff] at hlast
        obtain rfl := hlast.1
        cases hsteps
        obtain rfl := List.map_eq_nil_iff.mp hright
        rw [List.append_nil]
        exact outcome_iterateUpTo_stop (entry_take_last hfuel hclosing hx hxs.1 hleft hclose rest)
      · obtain ⟨comma, right, rfl, hcomma, hright⟩ := List.map_eq_cons_iff.mp hright
        simp only [List.length_append, List.length_cons] at hbound
        obtain ⟨b', bound', rfl⟩ := List.exists_cons_of_length_pos (l := bound) (by omega)
        rw [List.append_assoc, List.cons_append, outcome_iterateUpTo_goOn
          (entry_take_comma hfuel hclosing hx hxs.1 hleft hcomma (by simp))]
        refine ih hsteps hxs.2 hright b' bound' ?_
        simp only [List.length_cons] at hbound ⊢
        omega

/-- What is written of well-aligned arguments is read as these, with names as they are known. -/
theorem parameters_take (hfuel : enough ≤ fuel) {a : Arguments} {trailing : Bool} {close : Token}
    {rest : List Token} (hclosing : Closing closing annotated) (haligned : a.Aligned)
    (hplain : a.IsPlain annotated) (hts : ts.map Token.word = a.words trailing)
    (hclose : close.word = .op closing) :
    outcome (parameters (Rule.run spell fuel) closing annotated) n (ts ++ close :: rest) =
      .ok (a.known, close :: rest) := by
  let s := Parameters.final a.known
  have hsteps := Parameters.steps_entries haligned.known
  rw [Arguments.entries_known] at hsteps
  let step := parameterEntry (Rule.run spell fuel) closing annotated
  have hread : outcome (iterate step Parameters.start) n (ts ++ close :: rest) =
      .ok (s, close :: rest) := by
    have hbound : ts.length < (current (ts ++ close :: rest) :: (ts ++ close :: rest)).length := by
      simp only [List.length_cons, List.length_append]
      omega
    exact hsteps.read hfuel hclosing hplain.entries hts hclose hbound
  have hbare : (s.seenStar && s.arguments.vararg.isNone && s.arguments.kwOnly.isEmpty) = false := by
    show (!(a.known.vararg.isNone && a.known.kwOnly.isEmpty) && a.known.vararg.isNone &&
      a.known.kwOnly.isEmpty) = false
    rw [Bool.and_assoc, Bool.not_and_self]
  show outcome (iterate step Parameters.start >>= _) n _ = _
  rw [outcome_bind_of hread]
  show outcome (if (s.seenStar && s.arguments.vararg.isNone && s.arguments.kwOnly.isEmpty) = true
    then fail .bareStar else pure s.arguments) n (close :: rest) = _
  rw [hbare]
  rfl

/-! ## What is read is aligned -/

/-- Well-aligned defaults, and before a slash no parameter that is positional only. -/
structure Parameters.Aligned (s : Parameters) : Prop where
  arguments : s.arguments.Aligned
  posOnly : s.seenSlash = false → s.arguments.posOnly = []

/-- An entry keeps the defaults aligned, if it is not a second slash. -/
theorem Parameters.Aligned.addEntry {s : Parameters} (h : s.Aligned)
    (hslash : x = .slash → s.seenSlash = false) : (s.addEntry x).Aligned := by
  obtain ⟨⟨hkw, hdefaults⟩, hpos⟩ := h
  cases x with
  | plain p default? =>
    show (s.add p default?).Aligned
    unfold Parameters.add
    cases s.seenStar with
    | true => exact ⟨⟨by simp [hkw], hdefaults⟩, hpos⟩
    | false =>
      refine ⟨⟨hkw, ?_⟩, hpos⟩
      cases default? <;> simp <;> omega
  | slash =>
    -- the parameters so far become positional only, of which there were none
    rw [hpos (hslash rfl), List.length_nil, Nat.zero_add] at hdefaults
    exact ⟨⟨hkw, hdefaults⟩, nofun⟩
  | star vararg => exact ⟨⟨hkw, hdefaults⟩, hpos⟩
  | doubleStar kwarg => exact ⟨⟨hkw, hdefaults⟩, hpos⟩

theorem returns_parameterEntry (rule : Rule → Parser Expr) {s : Parameters} (h : s.Aligned) :
    Returns (fun r => r.1.Aligned) (parameterEntry rule closing annotated s) := by
  refine .bind fun _ => .ite (.pure h) (.bind fun _ => .bind fun _ => .ite ?slash (.bind fun _ =>
    .ite ?doubleStar (.bind fun _ => .ite ?star ?plain)))
  case slash =>
    refine .ite_of_not .failAt fun hc => .bind fun _ => .pure (h.addEntry (x := .slash) fun _ => ?_)
    simp only [Bool.or_eq_true, not_or, Bool.not_eq_true] at hc
    exact hc.1.1
  case doubleStar =>
    refine .bind fun kwarg => .bind fun _ => .bind fun _ => .ite (.pure ?_) .unexpected
    exact h.addEntry (x := .doubleStar kwarg) nofun
  case star =>
    refine .ite .failAt (.bind fun vararg => .bind fun _ => .pure ?_)
    exact h.addEntry (x := .star vararg) nofun
  case plain =>
    refine .bind fun p => .bind fun default? => .ite .failAt (.bind fun _ => .pure ?_)
    exact h.addEntry (x := .plain p default?) nofun

theorem returns_parameters (rule : Rule → Parser Expr) :
    Returns Arguments.Aligned (parameters rule closing annotated) := by
  have hstart : Parameters.start.Aligned := ⟨⟨rfl, Nat.le_refl 0⟩, fun _ => rfl⟩
  exact (Returns.iterate hstart fun s hs => returns_parameterEntry rule hs).bind_of
    fun s hs => .ite .fail (.pure hs.arguments)

/-! ## Main result -/

/-- What is written of arguments with well-aligned defaults is read as these, with every name in
normal form: as the very same arguments, if their names are.  And all that is ever read has
well-aligned defaults. -/
theorem parameters_written (spell : List Char → List Char) :
    (∀ closing annotated (a : Arguments) trailing ts close rest n fuel, Closing closing annotated →
      a.Aligned → a.IsPlain annotated → ts.map Token.word = a.words trailing →
      close.word = .op closing → enough ≤ fuel →
      outcome (parameters (Rule.run spell fuel) closing annotated) n (ts ++ close :: rest) =
        .ok (a.known, close :: rest)) ∧
    (∀ a : Arguments, (∀ id ∈ a.ids, normalizeIdentifier id = id) → a.known = a) ∧
    ∀ rule closing annotated n ts a us,
      outcome (parameters rule closing annotated) n ts = .ok (a, us) → a.Aligned :=
  ⟨fun _ _ _ _ _ _ _ _ _ hclosing haligned hplain hts hclose hfuel =>
      parameters_take hfuel hclosing haligned hplain hts hclose,
    fun _ => Arguments.known_eq_self, fun rule _ _ => returns_parameters rule⟩

/-- A `def` with parameters of every kind, and what is read of it: its names are in normal form. -/
theorem parameters_written_kinds :
    let name (id : String) : Expr := .name id .load
    let a : Arguments := ⟨[⟨"a", some (name "A")⟩], [⟨"b", none⟩], some ⟨"c", none⟩,
      [⟨"d", none⟩, ⟨"e", none⟩], [none, some (name "E")], some ⟨"f", none⟩, [name "B"]⟩
    let token (w : Word) : Token := ⟨w.kind, w.text, ⟨0, 0⟩⟩
    Closing ")" true ∧ a.Aligned ∧ a.IsPlain true ∧ (∀ id ∈ a.ids, normalizeIdentifier id = id) ∧
      outcome (parameters (Rule.run id enough) ")" true) ⟨200, 0⟩
        ((a.words true).map token ++ [token (.op ")")]) = .ok (a, [token (.op ")")]) := by
  intro name a token
  have hload : ∀ id, isKeyword id = false → (name id).IsLoadName := fun id hid => ⟨id, rfl, hid⟩
  have hbare : ∀ id, isKeyword id = false → Arg.IsPlain true ⟨id, none⟩ :=
    fun id hid => ⟨hid, nofun⟩
  have hclosing : Closing ")" true := List.mem_cons_self
  have haligned : a.Aligned := ⟨rfl, by decide⟩
  have hplain : a.IsPlain true := by
    refine ⟨?_, List.forall_mem_singleton.mpr (hload "B" (by decide)), ?_⟩
    · show ∀ p ∈ [(⟨"a", some (name "A")⟩ : Arg), ⟨"b", none⟩, ⟨"c", none⟩, ⟨"d", none⟩,
        ⟨"e", none⟩, ⟨"f", none⟩], p.IsPlain true
      simp only [List.forall_mem_cons]
      refine ⟨⟨by decide, ?_⟩, hbare "b" (by decide), hbare "c" (by decide), hbare "d" (by decide),
        hbare "e" (by decide), hbare "f" (by decide), nofun⟩
      rintro e ⟨⟩
      exact ⟨rfl, hload "A" (by decide)⟩
    · simp only [a, List.forall_mem_cons]
      refine ⟨nofun, ?_, nofun⟩
      rintro e ⟨⟩
      exact hload "E" (by decide)
  have hnormal : ∀ id ∈ a.ids, normalizeIdentifier id = id := by
    show ∀ id ∈ ["a", "A", "b", "c", "d", "e", "f", "B", "E"], normalizeIdentifier id = id
    decide +kernel
  have hwords : ((a.words true).map token).map Token.word = a.words true := by
    rw [List.map_map]
    exact List.map_id' _
  have hwritten := parameters_written id
  refine ⟨hclosing, haligned, hplain, hnormal, ?_⟩
  have hread := hwritten.1 ")" true a true _ (token (.op ")")) [] ⟨200, 0⟩ enough hclosing haligned
    hplain hwords rfl (Nat.le_refl _)
  rwa [hwritten.2.1 a hnormal] at hread

/-- What is not read as it is written: the micro sign is read as the letter mu, and a reserved word
as a default is read as a constant. -/
theorem parameters_changed :
    let a : Arguments := ⟨[], [⟨"µ", none⟩], none, [], [], none, []⟩
    let b : Arguments := ⟨[], [⟨"μ", none⟩], none, [], [], none, []⟩
    let c : Arguments := ⟨[], [⟨"x", none⟩], none, [], [], none, [.name "None" .load]⟩
    let token (w : Word) : Token := ⟨w.kind, w.text, ⟨0, 0⟩⟩
    let read (a : Arguments) := outcome (parameters (Rule.run id enough) ")" true) ⟨200, 0⟩
      ((a.words false).map token ++ [token (.op ")")])
    Closing ")" true ∧
      (Lexeme.name "µ".toList = some "µ".length ∧ isKeyword "µ" = false ∧ a.Aligned ∧
        a.IsPlain true ∧ read a = .ok (b, [token (.op ")")]) ∧ b ≠ a) ∧
      c.Aligned ∧ isKeyword "x" = false ∧ ∃ d ts, read c = .ok (d, ts) ∧ d ≠ c := by
  intro a b c token read
  have hknown : a.known = b := by
    have hmu : normalizeIdentifier "µ" = "μ" := by decide +kernel
    show (⟨[], [⟨normalizeIdentifier "µ", none⟩], none, [], [], none, []⟩ : Arguments) = b
    rw [hmu]
  have hclosing : Closing ")" true := List.mem_cons_self
  have haligned : a.Aligned := ⟨rfl, by decide⟩
  have hplain : a.IsPlain true := by
    refine ⟨?_, nofun, nofun⟩
    show ∀ p ∈ [(⟨"µ", none⟩ : Arg)], p.IsPlain true
    exact List.forall_mem_singleton.mpr ⟨by decide, nofun⟩
  have hwords : ((a.words false).map token).map Token.word = a.words false := by
    rw [List.map_map]
    exact List.map_id' _
  have hread : read a = .ok (a.known, [token (.op ")")]) :=
    parameters_take (Nat.le_refl enough) hclosing haligned hplain hwords rfl
  have hne : b ≠ a := by
    intro heq
    have hnames : b.args.map Arg.name = a.args.map Arg.name := by rw [heq]
    exact absurd hnames (by decide)
  -- the names of what is read do not include the reserved word
  have hids : ((read c).toOption.map fun r => r.1.ids) = some ["x"] := by decide +kernel
  obtain ⟨⟨d, ts⟩, hd, hnames⟩ := Option.map_eq_some_iff.mp hids
  have hreserved : read c = .ok (d, ts) := by
    cases heq : read c with
    | error err => rw [heq] at hd; cases hd
    | ok r => rw [heq] at hd; cases hd; rfl
  have hne' : d ≠ c := by
    intro heq
    have hnames' : c.ids = ["x"] := heq ▸ hnames
    exact absurd hnames' (by decide)
  rw [hknown] at hread
  exact ⟨hclosing, ⟨by decide +kernel, by decide, haligned, hplain, hread, hne⟩,
    ⟨rfl, by decide⟩, by decide, d, ts, hreserved, hne'⟩

end Parser

end PythonSyntax
