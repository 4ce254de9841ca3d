import Mathlib.Data.List.Induction
import PythonSyntax.Proofs.Spelling.ParameterList

/-
Argument lists are read in the legal orders, and in no others.

The arguments here are made of names, and are of all the kinds that the order speaks of.  `Legal` says
which orders are legal, and `fault?` says of one argument, from those before and after it, which rule
it breaks.  What has been read of a list is all that an argument is judged by, so each of them is taken
or refused as `fault?` says; a list is read up to its first fault.
-/

namespace PythonSyntax

open PythonSyntax.Parser

/-! ## Writing arguments -/

/-- An argument of a call that is made of names. -/
inductive CallArgument where
  | positional (name : String)
  | starred (name : String)
  | keyword (name value : String)
  | doubleStar (name : String)
  /-- A generator without parentheses of its own. -/
  | generator (elt target iter : String)
deriving DecidableEq, Repr

namespace CallArgument

/-- The names in an argument. -/
def names : CallArgument → List String
  | positional name => [name]
  | starred name => [name]
  | keyword name value => [name, value]
  | doubleStar name => [name]
  | generator elt target iter => [elt, target, iter]

/-- Whether no name in an argument is reserved. -/
def IsPlain (x : CallArgument) : Prop := ∀ name ∈ x.names, isKeyword name = false

instance (x : CallArgument) : Decidable x.IsPlain := by
  unfold IsPlain
  infer_instance

/-- The words of an argument. -/
def words : CallArgument → List Word
  | positional name => [⟨.name, name⟩]
  | starred name => [.op "*", ⟨.name, name⟩]
  | keyword name value => [⟨.name, name⟩, .op "=", ⟨.name, value⟩]
  | doubleStar name => [.op "**", ⟨.name, name⟩]
  | generator elt target iter =>
    [⟨.name, elt⟩, .reserved "for", ⟨.name, target⟩, .reserved "in", ⟨.name, iter⟩]

/-- The words of some arguments, with a comma after each.  The last comma may be left out. -/
def listWords (trailing : Bool) : List CallArgument → List Word
  | [] => []
  | x :: xs => x.words ++ if xs.isEmpty && !trailing then [] else .op "," :: listWords trailing xs

/-- A name that is read, in normal form. -/
def loaded (name : String) : Expr := .name (normalizeIdentifier name) .load

/-- What an argument adds to the positional arguments. -/
def arg? : CallArgument → Option Expr
  | positional name => some (loaded name)
  | starred name => some (.starred (loaded name) .load)
  | generator elt target iter => some (.generatorExp (loaded elt)
      [⟨.name (normalizeIdentifier target) .store, loaded iter, [], false⟩])
  | keyword .. | doubleStar _ => none

/-- What an argument adds to the keyword arguments. -/
def keyword? : CallArgument → Option Keyword
  | keyword name value => some ⟨some (normalizeIdentifier name), loaded value⟩
  | doubleStar name => some ⟨none, loaded name⟩
  | positional _ | starred _ | generator .. => none

/-- The arguments of a call that has these. -/
def taken (xs : List CallArgument) : CallArguments := ⟨xs.filterMap arg?, xs.filterMap keyword?⟩

/-! ## Legal orders -/

/-- Whether an argument is one by position. -/
def isPositional : CallArgument → Bool
  | positional _ => true
  | _ => false

/-- Whether an argument is starred. -/
def isStarred : CallArgument → Bool
  | starred _ => true
  | _ => false

/-- Whether an argument is double-starred. -/
def isDoubleStar : CallArgument → Bool
  | doubleStar _ => true
  | _ => false

/-- Whether an argument is a keyword or double-starred one. -/
def isNamed (x : CallArgument) : Bool := x.keyword?.isSome

/-- Whether an argument is a generator. -/
def isGenerator : CallArgument → Bool
  | generator .. => true
  | _ => false

/-- The legal orders of arguments. -/
structure Legal (xs : List CallArgument) : Prop where
  /-- A generator is the sole argument. -/
  generator : ∀ x ∈ xs, x.isGenerator = true → xs = [x]
  /-- No positional argument follows a keyword or double-starred one. -/
  positional : xs.Pairwise fun x y => x.isNamed = true → y.isPositional = false
  /-- No starred argument follows a double-starred one. -/
  starred : xs.Pairwise fun x y => x.isDoubleStar = true → y.isStarred = false

instance (xs : List CallArgument) : Decidable (Legal xs) :=
  decidable_of_iff ((∀ x ∈ xs, x.isGenerator = true → xs = [x]) ∧
    (xs.Pairwise fun x y => (x.isNamed && y.isPositional) = false) ∧
    xs.Pairwise fun x y => (x.isDoubleStar && y.isStarred) = false) <| by
      simp only [Bool.and_eq_false_imp]
      exact ⟨fun h => ⟨h.1, h.2.1, h.2.2⟩, fun h => ⟨h.generator, h.positional, h.starred⟩⟩

/-- Why an argument is refused between those before and after it, if it breaks a rule. -/
def fault? (before after : List CallArgument) : CallArgument → Option Cause
  | generator .. => if before = [] ∧ after = [] then none else some .bareGenerator
  | positional _ =>
    if before.any isDoubleStar then some .positionalAfterDoubleStar
    else if before.any isNamed then some .positionalAfterKeyword
    else none
  | starred _ => if before.any isDoubleStar then some .starAfterDoubleStar else none
  | keyword .. | doubleStar _ => none

variable {xs before after : List CallArgument} {x : CallArgument}

theorem Legal.fault?_eq_none (h : Legal xs) (hxs : xs = before ++ x :: after) :
    fault? before after x = none := by
  subst hxs
  obtain ⟨hgenerator, hpositional, hstarred⟩ := h
  rw [List.pairwise_append] at hpositional hstarred
  have hkeyword : x.isPositional = true → before.any isNamed = false := fun hx => by
    refine List.any_eq_false.mpr fun y hy hkey => ?_
    rw [hpositional.2.2 y hy x List.mem_cons_self hkey] at hx
    cases hx
  cases x with
  | positional name =>
    have hstar : before.any isDoubleStar = false := by
      refine List.any_eq_false.mpr fun y hy hdouble => ?_
      have hkey := List.any_eq_false.mp (hkeyword rfl) y hy
      cases y <;> first | (cases hdouble; done) | exact hkey rfl
    simp only [fault?, hstar, hkeyword rfl, if_neg Bool.false_ne_true]
  | starred name =>
    have hstar : before.any isDoubleStar = false := by
      refine List.any_eq_false.mpr fun y hy hdouble => ?_
      cases hstarred.2.2 y hy _ List.mem_cons_self hdouble
    simp only [fault?, hstar, if_neg Bool.false_ne_true]
  | keyword name value => rfl
  | doubleStar name => rfl
  | generator elt target iter =>
    have hsole := hgenerator _ (List.mem_append_right _ List.mem_cons_self) rfl
    have hlength := congrArg List.length hsole
    rw [List.length_append, List.length_cons, List.length_singleton] at hlength
    exact if_pos ⟨List.eq_nil_of_length_eq_zero (by omega), List.eq_nil_of_length_eq_zero (by omega)⟩

/-- What holds of each entry with those before it holds of all pairs. -/
theorem pairwise_of_splits {α : Type} {R : α → α → Prop} {xs : List α}
    (h : ∀ before x after, xs = before ++ x :: after → ∀ y ∈ before, R y x) : xs.Pairwise R := by
  induction xs using List.reverseRecOn with
  | nil => exact .nil
  | append_singleton xs x ih =>
    refine List.pairwise_append.mpr ⟨ih fun before y after hxs => ?_, List.pairwise_singleton .., ?_⟩
    · exact h before y (after ++ [x]) (by rw [hxs, List.append_assoc, List.cons_append])
    · intro y hy z hz
      rw [List.mem_singleton.mp hz]
      exact h xs x [] rfl y hy

/-- An order is legal if no argument breaks a rule. -/
theorem legal_of_faultless
    (h : ∀ before x after, xs = before ++ x :: after → fault? before after x = none) : Legal xs := by
  refine ⟨fun x hx hgen => ?_, ?_, ?_⟩
  · obtain ⟨before, after, rfl⟩ := List.append_of_mem hx
    have hnone := h before x after rfl
    cases x <;> cases hgen
    rw [fault?] at hnone
    split at hnone
    · next hsole => rw [hsole.1, hsole.2, List.nil_append]
    · cases hnone
  · refine pairwise_of_splits fun before x after hxs y hy hkey => ?_
    have hnone := h before x after hxs
    cases x with
    | positional name =>
      have hany : before.any isNamed = true := List.any_eq_true.mpr ⟨y, hy, hkey⟩
      rw [fault?, hany] at hnone
      split at hnone <;> cases hnone
    | _ => rfl
  · refine pairwise_of_splits fun before x after hxs y hy hdouble => ?_
    have hnone := h before x after hxs
    cases x with
    | starred name =>
      have hany : before.any isDoubleStar = true := List.any_eq_true.mpr ⟨y, hy, hdouble⟩
      rw [fault?, hany] at hnone
      cases hnone
    | _ => rfl

/-- Where something is the matter with an entry of a list, there is a first such entry. -/
theorem exists_first {α : Type} {P : List α → α → List α → Prop} {xs : List α}
    (h : ∃ before x after, xs = before ++ x :: after ∧ P before x after) :
    ∃ before x after, xs = before ++ x :: after ∧ P before x after ∧
      ∀ b y a, before = b ++ y :: a → ¬ P b y (a ++ x :: after) := by
  induction xs generalizing P with
  | nil =>
    obtain ⟨before, x, after, hxs, -⟩ := h
    cases before <;> cases hxs
  | cons y ys ih =>
    by_cases hy : P [] y ys
    · refine ⟨[], y, ys, rfl, hy, fun b z a hb => ?_⟩
      cases b <;> cases hb
    · obtain ⟨before, x, after, hxs, hP⟩ := h
      obtain ⟨b, rfl, hys⟩ : ∃ b, before = y :: b ∧ ys = b ++ x :: after := by
        cases before with
        | nil =>
          cases hxs
          exact absurd hP hy
        | cons z b =>
          cases hxs
          exact ⟨b, rfl, rfl⟩
      obtain ⟨before, x, after, rfl, hP, hfirst⟩ := ih (P := fun b x a => P (y :: b) x a)
        ⟨b, x, after, hys, hP⟩
      refine ⟨y :: before, x, after, rfl, hP, fun b z a hb => ?_⟩
      cases b with
      | nil =>
        cases hb
        exact hy
      | cons w b =>
        cases hb
        exact hfirst b z a rfl

/-- An order that is not legal has a first argument that breaks a rule. -/
theorem exists_fault (h : ¬ Legal xs) :
    ∃ before x after cause, xs = before ++ x :: after ∧ fault? before after x = some cause ∧
      ∀ b y a, before = b ++ y :: a → fault? b (a ++ x :: after) y = none := by
  have hsome : ∃ before x after, xs = before ++ x :: after ∧ fault? before after x ≠ none := by
    by_contra hnone
    refine h (legal_of_faultless fun before x after hxs => ?_)
    by_contra hfault
    exact hnone ⟨before, x, after, hxs, hfault⟩
  obtain ⟨before, x, after, hxs, hfault, hfirst⟩ := exists_first hsome
  obtain ⟨cause, hcause⟩ := Option.ne_none_iff_exists'.mp hfault
  exact ⟨before, x, after, cause, hxs, hcause, fun b y a hb => not_not.mp (hfirst b y a hb)⟩

/-! ## What has been read -/

theorem taken_concat (xs : List CallArgument) (x : CallArgument) :
    taken (xs ++ [x]) =
      ⟨(taken xs).args ++ x.arg?.toList, (taken xs).keywords ++ x.keyword?.toList⟩ := by
  unfold taken
  rw [List.filterMap_append, List.filterMap_append]
  cases x <;> rfl

theorem hasDoubleStar_taken (xs : List CallArgument) :
    (taken xs).hasDoubleStar = xs.any isDoubleStar := by
  unfold CallArguments.hasDoubleStar taken
  rw [List.any_filterMap]
  congr 1
  funext x
  cases x <;> rfl

theorem isEmpty_keywords_taken (xs : List CallArgument) :
    (taken xs).keywords.isEmpty = !xs.any isNamed := by
  rw [Bool.eq_iff_iff, List.isEmpty_iff, Bool.not_eq_true', List.any_eq_false]
  show xs.filterMap keyword? = [] ↔ _
  rw [List.filterMap_eq_nil_iff]
  simp [isNamed]

/-- Each argument adds to one of the two lists. -/
theorem isEmpty_taken (xs : List CallArgument) :
    ((taken xs).args.isEmpty && (taken xs).keywords.isEmpty) = xs.isEmpty := by
  cases xs with
  | nil => rfl
  | cons x xs => cases x <;> simp [taken, arg?, keyword?]

end CallArgument

/-! ## Reading names -/

namespace Parser

variable {spell : List Char → List Char} {fuel : Nat} {n : Nesting} {r : Rule}
  {t next : Token} {ts more : List Token} {name : String}

/-- A name is read by every rule of operator expressions, up to a word at which its phrases end. -/
theorem name_take (hfuel : enough ≤ fuel) (hr : r ∈ Rule.ladder) (hname : isKeyword name = false)
    (ht : t.word = ⟨.name, name⟩) (hends : r.Ends next.word) (more : List Token) :
    outcome (Rule.run spell fuel r) n (t :: next :: more) =
      .ok (CallArgument.loaded name, next :: more) := by
  have hlevels : ∀ r ∈ Rule.ladder, r.place ≤ Rule.place .atom ∧
      1 + (Rule.place .atom - r.place) ≤ enough := by decide
  obtain ⟨hplace, hle⟩ := hlevels r hr
  obtain ⟨k, rfl⟩ : ∃ k, fuel = k + 1 + (Rule.place .atom - r.place) :=
    ⟨fuel - (1 + (Rule.place .atom - r.place)), by omega⟩
  refine Rule.run_loosen (by decide) hplace ?_ hends
    (Rule.run_name ht hname (List.cons_ne_nil _ _) k)
  show Rule.Begins .atom t.word
  rw [ht]
  exact .name hname

theorem isOp_name (ht : t.word = ⟨.name, name⟩) (op : String) (ts : List Token) :
    (current (t :: ts)).isOp op = false :=
  Token.isOp_eq_false fun hop => nomatch congrArg Word.kind (hop.symm.trans ht)

theorem named_name (hfuel : enough ≤ fuel) (hname : isKeyword name = false)
    (ht : t.word = ⟨.name, name⟩) (hends : Rule.Ends .test next.word)
    (hwalrus : next.isOp ":=" = false) (more : List Token) :
    outcome (Rule.run spell (fuel + 1) .named) n (t :: next :: more) =
      .ok (CallArgument.loaded name, next :: more) :=
  named_plain (name_take hfuel (by decide) hname ht hends more) hwalrus

/-- A single name as the target of a clause. -/
theorem exprList_name (hfuel : enough ≤ fuel) (hname : isKeyword name = false)
    (ht : t.word = ⟨.name, name⟩) (hends : Rule.Ends .bitOr next.word)
    (hcomma : next.isOp "," = false) (more : List Token) :
    outcome (Rule.run spell (fuel + 2) .exprList) n (t :: next :: more) =
      .ok (CallArgument.loaded name, next :: more) := by
  have hitem : outcome (Rule.run spell (fuel + 1) .starOrExpr) n (t :: next :: more) =
      .ok (CallArgument.loaded name, next :: more) :=
    starOr_plain (isOp_name ht "*" _) (name_take hfuel (by decide) hname ht hends more)
  exact listOrTuple_single hitem hcomma

/-! ## Reading clauses -/

/-- The words of a clause whose target and iterable are names. -/
def clauseWords (target iter : String) : List Word :=
  [.reserved "for", ⟨.name, target⟩, .reserved "in", ⟨.name, iter⟩]

variable (spell n) in
theorem clause_take {target iter : String} (hfuel : enough ≤ fuel)
    (htarget : isKeyword target = false) (hiter : isKeyword iter = false)
    (hts : ts.map Token.word = clauseWords target iter) (hends : Rule.Ends .test next.word)
    (more : List Token) :
    outcome (clause (Rule.run spell (fuel + 2))) n (ts ++ next :: more) =
      .ok (⟨.name (normalizeIdentifier target) .store, CallArgument.loaded iter, [], false⟩,
        next :: more) := by
  obtain ⟨for', ts, rfl, hfor, hts⟩ := List.map_eq_cons_iff.mp hts
  obtain ⟨t, ts, rfl, ht, hts⟩ := List.map_eq_cons_iff.mp hts
  obtain ⟨in', ts, rfl, hin, hts⟩ := List.map_eq_cons_iff.mp hts
  obtain ⟨i, rfl, hi⟩ := List.map_eq_singleton_iff.mp hts
  show outcome _ n (for' :: t :: in' :: i :: next :: more) = _
  have hasync : (current (for' :: t :: in' :: i :: next :: more)).isWord "async" = false :=
    Token.isWord_eq_false fun hw => absurd (hw.symm.trans hfor) (by decide)
  have hfor' : (current (for' :: t :: in' :: i :: next :: more)).isWord "for" = true :=
    Token.isWord_iff.mpr hfor
  have hin' : (current (in' :: i :: next :: more)).isWord "in" = true := Token.isWord_iff.mpr hin
  have hif : (current (next :: more)).isWord "if" = false := hends.isWord (by decide) (by decide)
  have htarget' : outcome (Rule.run spell (fuel + 2) .exprList) n (t :: in' :: i :: next :: more) =
      .ok (CallArgument.loaded target, in' :: i :: next :: more) :=
    exprList_name hfuel htarget ht (by rw [hin]; decide)
      (Token.isOp_eq_false fun hop => absurd (hop.symm.trans hin) (by decide)) _
  have hiter' : outcome (Rule.run spell (fuel + 2) .orTest) n (i :: next :: more) =
      .ok (CallArgument.loaded iter, next :: more) :=
    name_take (by omega) (by decide) hiter hi (hends.mono (by decide)) more
  have hifs : outcome (many (Parser.optional (eatWord "if") (Rule.run spell (fuel + 2) .testNoCond)))
      n (next :: more) = .ok ([], next :: more) :=
    (Items.done ((ifEatWord_neg hif).trans (outcome_pure _))).many
  rw [clause, outcome_bind_of (outcome_eatWord_neg hasync),
    outcome_bind_of (outcome_expectWord hfor'), dropCurrent_cons (List.cons_ne_nil _ _),
    outcome_peek_bind, outcome_bind_of htarget', outcome_bind_of (outcome_ofExcept _),
    outcome_bind_of (outcome_expectWord hin'), dropCurrent_cons (List.cons_ne_nil _ _),
    outcome_bind_of hiter', outcome_bind_of hifs]
  rfl

theorem clauses_take {target iter : String} (hfuel : enough ≤ fuel)
    (htarget : isKeyword target = false) (hiter : isKeyword iter = false)
    (hts : ts.map Token.word = clauseWords target iter) {op : String} (hnext : next.word = .op op)
    (hends : Rule.Ends .test (.op op)) (more : List Token) :
    outcome (clauses (Rule.run spell (fuel + 2))) n (ts ++ next :: more) =
      .ok ([⟨.name (normalizeIdentifier target) .store, CallArgument.loaded iter, [], false⟩],
        next :: more) := by
  have hclause := clause_take spell n hfuel htarget hiter hts
    (by rw [hnext]; exact hends) more
  have hbegins : beginsClause (ts ++ next :: more) = true := by
    obtain ⟨t, us, rfl, ht, -⟩ := List.map_eq_cons_iff.mp hts
    show (t.isWord "for" || _) = true
    rw [Token.isWord_iff.mpr ht]
    rfl
  have hlength : (next :: more).length < (ts ++ next :: more).length := by
    have hts' := congrArg List.length hts
    rw [List.length_map] at hts'
    rw [List.length_append, hts']
    exact Nat.lt_add_of_pos_left (Nat.zero_lt_succ _)
  have hfirst : outcome (Parser.optional startsClause (clause (Rule.run spell (fuel + 2)))) n
      (ts ++ next :: more) = .ok (some ⟨.name (normalizeIdentifier target) .store,
        CallArgument.loaded iter, [], false⟩, next :: more) := by
    rw [Parser.optional, outcome_bind_of outcome_startsClause, hbegins, if_pos rfl,
      outcome_bind_of hclause]
    rfl
  have hlast : outcome (Parser.optional startsClause (clause (Rule.run spell (fuel + 2)))) n
      (next :: more) = .ok (none, next :: more) :=
    (ifStartsClause_neg (Rule.beginsClause_of_op hnext more)).trans (outcome_pure _)
  exact (Items.more hfirst hlength (.done hlast)).many

/-! ## Reading arguments -/

open CallArgument

variable {before after xs : List CallArgument} {x : CallArgument} {close : Token}
  {rest bound : List Token} {trailing : Bool}

/-- What stands behind an argument: a comma, behind which the list ends just if no argument comes
`after` this one, or the end of the list. -/
structure Behind (after : List CallArgument) (next : Token) (more : List Token) : Prop where
  word : next.word = .op "," ∨ next.word = .op ")"
  goesOn : ((current (next :: more)).isOp "," &&
    !(current (dropCurrent (next :: more))).isOp ")") = !after.isEmpty

theorem Behind.ends (h : Behind after next more) : Rule.Ends .test next.word := by
  rcases h.word with h | h <;> rw [h] <;> decide

theorem Behind.isOp (h : Behind after next more) {op : String} (hcomma : op ≠ ",") (hclose : op ≠ ")") :
    (current (next :: more)).isOp op = false := by
  show next.isOp op = false
  rcases h.word with h | h
  · exact Token.isOp_of_word h hcomma
  · exact Token.isOp_of_word h hclose

theorem Behind.beginsClause (h : Behind after next more) : beginsClause (next :: more) = false := by
  rcases h.word with h | h <;> exact Rule.beginsClause_of_op h more

/-- What becomes of an argument: it is taken, or refused where it begins. -/
def Judged (before after : List CallArgument) (x : CallArgument) (here : Span) (rest : List Token)
    (r : Except SyntaxError (CallArguments × List Token)) : Prop :=
  r = (fault? before after x).elim (.ok (taken (before ++ [x]), rest)) fun cause =>
    .error ⟨cause, here⟩

theorem argument_starred (hfuel : enough ≤ fuel) (hx : (CallArgument.starred name).IsPlain)
    (hts : (t :: ts).map Token.word = (CallArgument.starred name).words)
    (hnext : Behind after next more) (before : List CallArgument) :
    Judged before after (.starred name) t.span (next :: more)
      (outcome (argument (Rule.run spell (fuel + 2)) (taken before)) n (t :: ts ++ next :: more)) := by
  rw [List.map_cons] at hts
  obtain ⟨hstar, hts⟩ := List.cons.inj hts
  obtain ⟨u, rfl, hu⟩ := List.map_eq_singleton_iff.mp hts
  have hfirst : (current (t :: [u] ++ next :: more)).isOp "*" = true := Token.isOp_iff.mpr hstar
  have hdrop : dropCurrent (t :: [u] ++ next :: more) = u :: next :: more := rfl
  rw [argument, outcome_peek_bind, ifEatOp_pos hfirst, hdrop, hasDoubleStar_taken, Judged, fault?,
    taken_concat]
  cases before.any isDoubleStar with
  | true => rfl
  | false =>
    have hread : outcome (Rule.run spell (fuel + 2) .test) n (u :: next :: more) =
        .ok (loaded name, next :: more) :=
      name_take (by omega) (by decide) (hx name List.mem_cons_self) hu hnext.ends more
    rw [if_neg Bool.false_ne_true, if_neg Bool.false_ne_true, outcome_bind_of hread]
    show Except.ok (CallArguments.mk _ _, _) = .ok (CallArguments.mk _ (_ ++ []), _)
    rw [List.append_nil]
    rfl

theorem argument_doubleStar (hfuel : enough ≤ fuel) (hx : (CallArgument.doubleStar name).IsPlain)
    (hts : (t :: ts).map Token.word = (CallArgument.doubleStar name).words)
    (hnext : Behind after next more) (before : List CallArgument) :
    Judged before after (.doubleStar name) t.span (next :: more)
      (outcome (argument (Rule.run spell (fuel + 2)) (taken before)) n (t :: ts ++ next :: more)) := by
  rw [List.map_cons] at hts
  obtain ⟨hstars, hts⟩ := List.cons.inj hts
  obtain ⟨u, rfl, hu⟩ := List.map_eq_singleton_iff.mp hts
  have hfirst : (current (t :: [u] ++ next :: more)).isOp "**" = true := Token.isOp_iff.mpr hstars
  have hstar : (current (t :: [u] ++ next :: more)).isOp "*" = false :=
    Token.isOp_of_word hstars (by decide)
  have hread : outcome (Rule.run spell (fuel + 2) .test) n (u :: next :: more) =
      .ok (loaded name, next :: more) :=
    name_take (by omega) (by decide) (hx name List.mem_cons_self) hu hnext.ends more
  rw [argument, outcome_peek_bind, ifEatOp_neg hstar, ifEatOp_pos hfirst,
    show dropCurrent (t :: [u] ++ next :: more) = u :: next :: more from rfl, outcome_bind_of hread,
    Judged, taken_concat]
  show Except.ok (CallArguments.mk _ _, _) = .ok (CallArguments.mk (_ ++ []) _, _)
  rw [List.append_nil]
  rfl

/-- An argument that begins with a name is not starred. -/
theorem argument_of_name {rule : Rule → Parser Expr} {s : CallArguments}
    (ht : t.word = ⟨.name, name⟩) (ts : List Token) :
    outcome (argument rule s) n (t :: ts) = outcome (plainArgument rule s t.span) n (t :: ts) := by
  rw [argument, outcome_peek_bind, ifEatOp_neg (isOp_name ht "*" ts),
    ifEatOp_neg (isOp_name ht "**" ts)]
  rfl

theorem argument_positional (hfuel : enough ≤ fuel) (hx : (CallArgument.positional name).IsPlain)
    (hts : (t :: ts).map Token.word = (CallArgument.positional name).words)
    (hnext : Behind after next more) (before : List CallArgument) :
    Judged before after (.positional name) t.span (next :: more)
      (outcome (argument (Rule.run spell (fuel + 2)) (taken before)) n (t :: ts ++ next :: more)) := by
  rw [List.map_cons] at hts
  obtain ⟨ht, hts⟩ := List.cons.inj hts
  obtain rfl := List.map_eq_nil_iff.mp hts
  have hread : outcome (Rule.run spell (fuel + 2) .named) n (t :: next :: more) =
      .ok (loaded name, next :: more) :=
    named_name (by omega) (hx name List.mem_cons_self) ht hnext.ends
      (hnext.isOp (by decide) (by decide)) more
  rw [Judged, List.cons_append, List.nil_append, argument_of_name ht, plainArgument,
    outcome_bind_of hread, ifEatOp_neg (hnext.isOp (by decide) (by decide)),
    ifStartsClause_neg hnext.beginsClause, hasDoubleStar_taken, isEmpty_keywords_taken, Bool.not_not,
    fault?, taken_concat]
  cases before.any isDoubleStar with
  | true => rfl
  | false =>
    cases before.any isNamed with
    | true => rfl
    | false =>
      show Except.ok (CallArguments.mk _ _, _) = .ok (CallArguments.mk _ (_ ++ []), _)
      rw [List.append_nil]
      rfl

theorem argument_keyword {value : String} (hfuel : enough ≤ fuel)
    (hx : (CallArgument.keyword name value).IsPlain)
    (hts : (t :: ts).map Token.word = (CallArgument.keyword name value).words)
    (hnext : Behind after next more) (before : List CallArgument) :
    Judged before after (.keyword name value) t.span (next :: more)
      (outcome (argument (Rule.run spell (fuel + 2)) (taken before)) n (t :: ts ++ next :: more)) := by
  rw [List.map_cons] at hts
  obtain ⟨ht, hts⟩ := List.cons.inj hts
  obtain ⟨equals, ts, rfl, hequals, hts⟩ := List.map_eq_cons_iff.mp hts
  obtain ⟨u, rfl, hu⟩ := List.map_eq_singleton_iff.mp hts
  rw [IsPlain, names, List.forall_mem_cons, List.forall_mem_singleton] at hx
  have hname : outcome (Rule.run spell (fuel + 2) .named) n (t :: equals :: u :: next :: more) =
      .ok (loaded name, equals :: u :: next :: more) :=
    named_name (by omega) hx.1 ht (by rw [hequals]; decide)
      (Token.isOp_of_word hequals (by decide)) (u :: next :: more)
  have hvalue : outcome (Rule.run spell (fuel + 2) .test) n (u :: next :: more) =
      .ok (loaded value, next :: more) :=
    name_take (by omega) (by decide) hx.2 hu hnext.ends more
  have hequals' : (current (equals :: u :: next :: more)).isOp "=" = true := Token.isOp_iff.mpr hequals
  show outcome _ n (t :: equals :: u :: next :: more) = _
  rw [argument_of_name ht, plainArgument, outcome_bind_of hname, ifEatOp_pos hequals',
    dropCurrent_cons (List.cons_ne_nil _ _)]
  show outcome (Rule.run spell (fuel + 2) .test >>= fun e =>
    pure ((taken before).addKeyword (some (normalizeIdentifier name)) e)) n _ = _
  rw [outcome_bind_of hvalue, taken_concat]
  show Except.ok (CallArguments.mk _ _, _) = .ok (CallArguments.mk (_ ++ []) _, _)
  rw [List.append_nil]
  rfl

theorem argument_generator {target iter : String} (hfuel : enough ≤ fuel)
    (hx : (CallArgument.generator name target iter).IsPlain)
    (hts : (t :: ts).map Token.word = (CallArgument.generator name target iter).words)
    (hnext : Behind after next more) (before : List CallArgument) :
    Judged before after (.generator name target iter) t.span (next :: more)
      (outcome (argument (Rule.run spell (fuel + 2)) (taken before)) n (t :: ts ++ next :: more)) := by
  rw [List.map_cons] at hts
  obtain ⟨ht, hts⟩ := List.cons.inj hts
  obtain ⟨u, us, rfl, hu, -⟩ := List.map_eq_cons_iff.mp hts
  rw [IsPlain, names, List.forall_mem_cons, List.forall_mem_cons, List.forall_mem_singleton] at hx
  obtain ⟨hname, htarget, hiter⟩ := hx
  have hother : ∀ op, (current (u :: us ++ next :: more)).isOp op = false := fun op =>
    Token.isOp_eq_false fun hop => nomatch congrArg Word.kind (hop.symm.trans hu)
  have hread : outcome (Rule.run spell (fuel + 2) .named) n (t :: u :: (us ++ next :: more)) =
      .ok (loaded name, u :: (us ++ next :: more)) :=
    named_name (by omega) hname ht (show Rule.Ends .test u.word by rw [hu]; decide) (hother ":=")
      (us ++ next :: more)
  have hbegins : outcome startsClause n (u :: us ++ next :: more) =
      .ok (true, u :: us ++ next :: more) := by
    rw [outcome_startsClause]
    show Except.ok (u.isWord "for" || _, _) = _
    rw [Token.isWord_iff.mpr hu]
    rfl
  have hclauses : outcome (clauses (Rule.run spell (fuel + 2))) n (u :: us ++ next :: more) =
      .ok ([⟨.name (normalizeIdentifier target) .store, loaded iter, [], false⟩], next :: more) := by
    rcases hnext.word with h | h <;>
      exact clauses_take hfuel htarget hiter hts h (by decide) more
  have hempty : (!(taken before).args.isEmpty || !(taken before).keywords.isEmpty ||
      !after.isEmpty) = !(before.isEmpty && after.isEmpty) := by
    rw [← isEmpty_taken before, Bool.not_and, Bool.not_and]
  show outcome _ n (t :: u :: (us ++ next :: more)) = _
  rw [argument_of_name ht, plainArgument, outcome_bind_of hread, ← List.cons_append,
    ifEatOp_neg (hother "="), outcome_bind_of hbegins, if_pos rfl,
    outcome_bind_of hclauses, outcome_bind_of outcome_atOp, outcome_peekNext_bind, hnext.goesOn]
  dsimp only
  rw [hempty, fault?, taken_concat]
  by_cases hsole : before = [] ∧ after = []
  · obtain ⟨rfl, rfl⟩ := hsole
    rfl
  · have hmany : (before.isEmpty && after.isEmpty) = false := by
      rw [← Bool.not_eq_true, Bool.and_eq_true, List.isEmpty_iff, List.isEmpty_iff]
      exact hsole
    rw [hmany, if_neg hsole]
    rfl

variable (spell n) in
/-- Each argument is taken, or refused where it begins, as the order demands. -/
theorem argument_judged (hfuel : enough ≤ fuel) (hx : x.IsPlain)
    (hts : (t :: ts).map Token.word = x.words) (hnext : Behind after next more)
    (before : List CallArgument) :
    Judged before after x t.span (next :: more)
      (outcome (argument (Rule.run spell (fuel + 2)) (taken before)) n (t :: ts ++ next :: more)) := by
  cases x with
  | positional name => exact argument_positional hfuel hx hts hnext before
  | starred name => exact argument_starred hfuel hx hts hnext before
  | keyword name value => exact argument_keyword hfuel hx hts hnext before
  | doubleStar name => exact argument_doubleStar hfuel hx hts hnext before
  | generator elt target iter => exact argument_generator hfuel hx hts hnext before

/-! ## Reading lists -/

theorem exists_words (x : CallArgument) : ∃ w ws, x.words = w :: ws ∧ w ≠ .op ")" := by
  cases x <;> exact ⟨_, _, rfl, by simp⟩

/-- The words of a list are those of its first arguments, each with a comma behind it, and of the
others. -/
theorem listWords_append (trailing : Bool) (x : CallArgument) (before after : List CallArgument) :
    listWords trailing (before ++ x :: after) =
      listWords true before ++ listWords trailing (x :: after) := by
  induction before with
  | nil => rfl
  | cons y before ih =>
    rw [List.cons_append, listWords, listWords, ih, List.append_assoc]
    cases before <;> simp

/-- With a comma at its end a list is one argument after another, each with a comma behind it. -/
theorem listWords_cons (x : CallArgument) (after : List CallArgument) :
    listWords true (x :: after) = x.words ++ .op "," :: listWords true after := by
  rw [listWords, Bool.not_true, Bool.and_false, if_neg Bool.false_ne_true]

variable (spell n) in
/-- A step at an argument does with it what is to be done, and goes on after a comma. -/
theorem argumentStep_judged (hfuel : enough ≤ fuel) (hx : x.IsPlain)
    (hts : ts.map Token.word = x.words) (hnext : Behind after next more)
    (before : List CallArgument) :
    ∃ t us, ts = t :: us ∧
      outcome (argumentStep (Rule.run spell (fuel + 2)) (taken before)) n (ts ++ next :: more) =
        (fault? before after x).elim (.ok (afterComma (taken (before ++ [x])) (next :: more)))
          fun cause => .error ⟨cause, t.span⟩ := by
  obtain ⟨w, ws, hwords, hw⟩ := exists_words x
  obtain ⟨t, us, rfl, ht, -⟩ := List.map_eq_cons_iff.mp (hts.trans hwords)
  have hjudged : outcome _ _ _ = _ :=
    argument_judged spell n hfuel hx hts hnext before
  have hopen : (current (t :: us ++ next :: more)).isOp ")" = false :=
    Token.isOp_eq_false fun hclose => hw (ht.symm.trans hclose)
  refine ⟨t, us, rfl, ?_⟩
  cases hfault : fault? before after x with
  | none =>
    rw [hfault] at hjudged
    exact argumentStep_take hopen hjudged
  | some cause =>
    rw [hfault] at hjudged
    rw [argumentStep, ifAtOp_neg hopen, outcome_bind, hjudged]
    rfl

variable (spell n before after bound) in
/-- Arguments that break no rule are read one after another, with a comma behind each. -/
theorem arguments_skip (hfuel : enough ≤ fuel) (hxs : ∀ x ∈ xs, x.IsPlain)
    (hts : ts.map Token.word = listWords true xs) (hmore : more ≠ [])
    (hafter : (current more).isOp ")" = after.isEmpty)
    (hfault : ∀ b x a, xs = b ++ x :: a → fault? (before ++ b) (a ++ after) x = none)
    (hbound : ts.length < bound.length) :
    ∃ b bound', outcome (iterateUpTo (argumentStep (Rule.run spell (fuel + 2))) bound (taken before))
      n (ts ++ more) = outcome (iterateUpTo (argumentStep (Rule.run spell (fuel + 2))) (b :: bound')
        (taken (before ++ xs))) n more := by
  induction xs generalizing before ts bound with
  | nil =>
    obtain rfl := List.map_eq_nil_iff.mp hts
    obtain ⟨b, bound, rfl⟩ := List.exists_cons_of_length_pos (Nat.zero_lt_of_lt hbound)
    exact ⟨b, bound, by rw [List.append_nil]; rfl⟩
  | cons x xs ih =>
    rw [List.forall_mem_cons] at hxs
    rw [listWords_cons] at hts
    obtain ⟨left, right, rfl, hleft, hright⟩ := List.map_eq_append_iff.mp hts
    obtain ⟨comma, right, rfl, hcomma, hright⟩ := List.map_eq_cons_iff.mp hright
    have hnone : fault? before (xs ++ after) x = none := by
      have hfirst := hfault [] x xs rfl
      rwa [List.append_nil] at hfirst
    have hstop : (current (right ++ more)).isOp ")" = (xs ++ after).isEmpty := by
      cases xs with
      | nil =>
        obtain rfl := List.map_eq_nil_iff.mp hright
        exact hafter
      | cons y ys =>
        obtain ⟨w, ws, hwords, hw⟩ := exists_words y
        rw [listWords_cons, hwords] at hright
        obtain ⟨t, us, rfl, ht, -⟩ := List.map_eq_cons_iff.mp hright
        exact Token.isOp_eq_false fun hclose => hw (ht.symm.trans hclose)
    have hcomma' : (current (comma :: (right ++ more))).isOp "," = true := Token.isOp_iff.mpr hcomma
    have hdrop : dropCurrent (comma :: (right ++ more)) = right ++ more :=
      dropCurrent_cons (List.append_ne_nil_of_right_ne_nil _ hmore)
    have hnext : Behind (xs ++ after) comma (right ++ more) := by
      refine ⟨.inl hcomma, ?_⟩
      rw [hcomma', hdrop, hstop, Bool.true_and]
    obtain ⟨t, us, -, hstep⟩ :=
      argumentStep_judged spell n hfuel hxs.1 hleft hnext before
    rw [hnone, afterComma, hcomma', hdrop] at hstep
    simp only [List.length_append, List.length_cons] at hbound
    obtain ⟨b, bound, rfl⟩ := List.exists_cons_of_length_pos (l := bound) (by omega)
    rw [List.length_cons] at hbound
    obtain ⟨b', bound', hread⟩ := ih (before ++ [x]) bound hxs.2 hright
      (fun b y a hb => by
        have hlater := hfault (x :: b) y a (by rw [hb, List.cons_append])
        rwa [List.append_cons] at hlater)
      (by omega)
    refine ⟨b', bound', ?_⟩
    rw [List.append_assoc, List.cons_append, outcome_iterateUpTo_goOn hstep, hread,
      ← List.append_cons]

variable (spell n more after) in
/-- The first arguments of a call, if they break no rule. -/
theorem arguments_prefix (hfuel : enough ≤ fuel) (hxs : ∀ x ∈ before, x.IsPlain)
    (hts : ts.map Token.word = listWords true before) (hmore : more ≠ [])
    (hafter : (current more).isOp ")" = after.isEmpty)
    (hfault : ∀ b x a, before = b ++ x :: a → fault? b (a ++ after) x = none) :
    ∃ b bound, outcome (arguments (Rule.run spell (fuel + 2))) n (ts ++ more) =
      outcome (iterateUpTo (argumentStep (Rule.run spell (fuel + 2))) (b :: bound) (taken before))
        n more := by
  have hbound : ts.length < (current (ts ++ more) :: (ts ++ more)).length := by
    rw [List.length_cons, List.length_append]
    omega
  exact arguments_skip spell n [] after _ hfuel hxs hts hmore hafter hfault hbound

/-- The first argument of some is not the end of the list. -/
theorem not_closing {w : Word} {us : List Token} (hw : w ≠ .op ")") (ht : t.word = w) :
    (current (t :: us)).isOp ")" = (x :: after).isEmpty :=
  Token.isOp_eq_false fun hclose => hw (ht.symm.trans hclose)

/-- In a legal order all arguments are read, up to the closing parenthesis. -/
theorem arguments_of_legal (hfuel : enough ≤ fuel) (hxs : ∀ x ∈ xs, x.IsPlain)
    (hts : ts.map Token.word = listWords trailing xs) (hclose : close.word = .op ")")
    (hlegal : Legal xs) :
    outcome (arguments (Rule.run spell (fuel + 2))) n (ts ++ close :: rest) =
      .ok (taken xs, close :: rest) := by
  have hparen : (current (close :: rest)).isOp ")" = true := Token.isOp_iff.mpr hclose
  by_cases hlast : trailing = true ∨ xs = []
  · -- a comma stands behind each argument
    have hts' : ts.map Token.word = listWords true xs := by
      rcases hlast with rfl | rfl
      · exact hts
      · exact hts
    obtain ⟨b, bound, hread⟩ := arguments_prefix spell n _ [] hfuel hxs hts'
      (List.cons_ne_nil close rest) hparen
      fun b x a hb => hlegal.fault?_eq_none (by rw [List.append_nil]; exact hb)
    rw [hread]
    exact outcome_iterateUpTo_stop (argumentStep_close hparen)
  · -- no comma stands behind the last argument
    obtain ⟨hfalse, hne⟩ := not_or.mp hlast
    obtain rfl : trailing = false := Bool.eq_false_iff.mpr hfalse
    obtain ⟨xs, x, rfl⟩ : ∃ ys x, xs = ys ++ [x] := ⟨_, _, (List.dropLast_append_getLast hne).symm⟩
    have hlistWords : listWords false [x] = x.words := List.append_nil _
    rw [listWords_append, hlistWords] at hts
    obtain ⟨left, right, rfl, hleft, hright⟩ := List.map_eq_append_iff.mp hts
    obtain ⟨hxs, hx⟩ := List.forall_mem_append.mp hxs
    obtain ⟨w, ws, hwords, hw⟩ := exists_words x
    obtain ⟨t, us, rfl, ht, -⟩ := List.map_eq_cons_iff.mp (hright.trans hwords)
    obtain ⟨b, bound, hread⟩ := arguments_prefix spell n (t :: us ++ close :: rest) [x] hfuel hxs hleft
      (List.cons_ne_nil _ _) (not_closing hw ht) fun b y a hb => hlegal.fault?_eq_none (by rw [hb]; simp)
    have hnone : (current (close :: rest)).isOp "," = false := Token.isOp_of_word hclose (by decide)
    have hnext : Behind [] close rest := ⟨.inr hclose, by rw [hnone]; rfl⟩
    obtain ⟨_, _, -, hstep⟩ := argumentStep_judged spell n hfuel
      (hx x List.mem_cons_self) hright hnext xs
    rw [hlegal.fault?_eq_none rfl, afterComma, hnone] at hstep
    rw [List.append_assoc, hread]
    exact outcome_iterateUpTo_stop hstep

/-- The first argument that breaks a rule is refused where it begins. -/
theorem arguments_of_fault (hfuel : enough ≤ fuel) {cause : Cause}
    (hxs : ∀ y ∈ before ++ x :: after, y.IsPlain)
    (hts : ts.map Token.word = listWords trailing (before ++ x :: after))
    (hclose : close.word = .op ")") (hfault : fault? before after x = some cause)
    (hfirst : ∀ b y a, before = b ++ y :: a → fault? b (a ++ x :: after) y = none) :
    ∃ left t right, ts = left ++ t :: right ∧ left.map Token.word = listWords true before ∧
      outcome (arguments (Rule.run spell (fuel + 2))) n (ts ++ close :: rest) =
        .error ⟨cause, t.span⟩ := by
  rw [listWords_append] at hts
  obtain ⟨left, right, rfl, hleft, hothers⟩ := List.map_eq_append_iff.mp hts
  rw [listWords] at hothers
  obtain ⟨own, right, rfl, hown, hright⟩ := List.map_eq_append_iff.mp hothers
  rw [List.forall_mem_append, List.forall_mem_cons] at hxs
  obtain ⟨w, ws, hwords, hw⟩ := exists_words x
  obtain ⟨t, us, rfl, ht, -⟩ := List.map_eq_cons_iff.mp (hown.trans hwords)
  obtain ⟨b, bound, hread⟩ := arguments_prefix spell n (t :: us ++ right ++ close :: rest) (x :: after)
    hfuel hxs.1 hleft (by simp)
    (not_closing hw ht) hfirst
  -- what stands behind the argument
  obtain ⟨next, more, hmore, hnext⟩ : ∃ next more, right ++ close :: rest = next :: more ∧
      Behind after next more := by
    by_cases hlast : (after.isEmpty && !trailing) = true
    · rw [if_pos hlast] at hright
      obtain rfl := List.map_eq_nil_iff.mp hright
      obtain ⟨hempty, -⟩ := Bool.and_eq_true_iff.mp hlast
      obtain rfl := List.isEmpty_iff.mp hempty
      have hnone : (current (close :: rest)).isOp "," = false :=
        Token.isOp_of_word hclose (by decide)
      exact ⟨close, rest, rfl, .inr hclose, by rw [hnone]; rfl⟩
    · rw [if_neg hlast] at hright
      obtain ⟨comma, right, rfl, hcomma, hright⟩ := List.map_eq_cons_iff.mp hright
      refine ⟨comma, right ++ close :: rest, rfl, .inl hcomma, ?_⟩
      have hcomma' : (current (comma :: (right ++ close :: rest))).isOp "," = true :=
        Token.isOp_iff.mpr hcomma
      rw [hcomma', Bool.true_and, dropCurrent_cons (by simp)]
      congr 1
      cases after with
      | nil =>
        obtain rfl := List.map_eq_nil_iff.mp hright
        exact Token.isOp_iff.mpr hclose
      | cons y ys =>
        obtain ⟨w, ws, hwords, hw⟩ := exists_words y
        rw [listWords, hwords] at hright
        obtain ⟨t, us, rfl, ht, -⟩ := List.map_eq_cons_iff.mp hright
        exact not_closing hw ht
  obtain ⟨t', us', heq, hstep⟩ :=
    argumentStep_judged spell n hfuel hxs.2.1 hown hnext before
  cases heq
  rw [hfault] at hstep
  refine ⟨left, t, us ++ right, rfl, hleft, ?_⟩
  rw [List.append_assoc, hread, List.append_assoc, hmore, iterateUpTo, outcome_bind, hstep]
  rfl

/-! ## Main result -/

/-- Arguments made of names are read just in the legal orders: the positional, starred and generator
ones are listed in their order, and so are the keyword and double-starred ones.  Otherwise the first
argument that breaks a rule is refused where it begins. -/
theorem arguments_written (spell : List Char → List Char) (n : Nesting) (hfuel : enough + 2 ≤ fuel)
    (hxs : ∀ x ∈ xs, x.IsPlain) (hts : ts.map Token.word = listWords trailing xs)
    (hclose : close.word = .op ")") (rest : List Token) :
    let result := outcome (arguments (Rule.run spell fuel)) n (ts ++ close :: rest)
    ((∃ r, result = .ok r) ↔ Legal xs) ∧
      (Legal xs → result = .ok (⟨xs.filterMap arg?, xs.filterMap keyword?⟩, close :: rest)) ∧
      (¬ Legal xs → ∃ before x after cause, xs = before ++ x :: after ∧
        fault? before after x = some cause ∧
        (∀ b y a, before = b ++ y :: a → fault? b (a ++ x :: after) y = none) ∧
        ∃ left t right, ts = left ++ t :: right ∧ left.map Token.word = listWords true before ∧
          result = .error ⟨cause, t.span⟩) := by
  intro result
  obtain ⟨fuel, rfl⟩ : ∃ k, fuel = k + 2 := ⟨fuel - 2, by omega⟩
  have hfuel : enough ≤ fuel := by omega
  have hok : Legal xs → result = .ok (taken xs, close :: rest) :=
    arguments_of_legal hfuel hxs hts hclose
  have herror : ¬ Legal xs → ∃ before x after cause, xs = before ++ x :: after ∧
      fault? before after x = some cause ∧
      (∀ b y a, before = b ++ y :: a → fault? b (a ++ x :: after) y = none) ∧
      ∃ left t right, ts = left ++ t :: right ∧ left.map Token.word = listWords true before ∧
        result = .error ⟨cause, t.span⟩ := by
    intro hillegal
    obtain ⟨before, x, after, cause, rfl, hfault, hfirst⟩ := exists_fault hillegal
    exact ⟨before, x, after, cause, rfl, hfault, hfirst,
      arguments_of_fault hfuel hxs hts hclose hfault hfirst⟩
  refine ⟨⟨fun ⟨r, hr⟩ => ?_, fun hlegal => ⟨_, hok hlegal⟩⟩, hok, herror⟩
  by_contra hillegal
  obtain ⟨_, _, _, _, -, -, -, _, _, _, -, -, hresult⟩ := herror hillegal
  cases hr.symm.trans hresult

/-- A starred argument between keywords is read, and a positional one behind a keyword is not. -/
theorem arguments_written_starred :
    let token (w : Word) : Token := ⟨w.kind, w.text, ⟨0, 0⟩⟩
    let read (xs : List CallArgument) := outcome (arguments (Rule.run id (enough + 2))) ⟨200, 0⟩
      ((listWords true xs).map token ++ [token (.op ")")])
    let xs : List CallArgument := [.keyword "k" "a", .starred "b", .doubleStar "c"]
    let ys : List CallArgument := [.keyword "k" "a", .positional "b"]
    (∀ x ∈ xs, x.IsPlain) ∧ (∀ y ∈ ys, y.IsPlain) ∧ Legal xs ∧ ¬ Legal ys ∧
      read xs = .ok (⟨xs.filterMap arg?, xs.filterMap keyword?⟩, [token (.op ")")]) ∧
      ∃ cause span, read ys = .error ⟨cause, span⟩ := by
  intro token read xs ys
  have hxs : ∀ x ∈ xs, x.IsPlain := by decide
  have hys : ∀ y ∈ ys, y.IsPlain := by decide
  have hwords : ∀ ws : List Word, (ws.map token).map Token.word = ws := fun ws => by
    rw [List.map_map]
    exact List.map_id' ws
  have hlegal : Legal xs := by decide
  have hillegal : ¬ Legal ys := by decide
  have hclose : (token (.op ")")).word = .op ")" := rfl
  obtain ⟨-, hread, -⟩ := arguments_written id ⟨200, 0⟩ (Nat.le_refl _) hxs (hwords _) hclose []
  obtain ⟨-, -, hrefused⟩ := arguments_written id ⟨200, 0⟩ (Nat.le_refl _) hys (hwords _) hclose []
  obtain ⟨_, _, _, cause, -, -, -, _, t, _, -, -, hresult⟩ := hrefused hillegal
  exact ⟨hxs, hys, hlegal, hillegal, hread hlegal, cause, t.span, hresult⟩

end Parser

end PythonSyntax
