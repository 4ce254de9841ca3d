import PythonSyntax.Proofs.Origin.FormattedString

/-
Expressions whose names and stars come from tokens.

If the rules yield trees that are shown by the streams of a program, so does what each of them says, in the
order of `Rule.body`.  A starred item stays a starred item only where a rule hands on what another one has
taken, and parentheses around it are the only tokens that are added on the way.  So where it becomes the
element of a comprehension, it stands right behind the bracket and in front of the clause.
-/

namespace PythonSyntax

open PythonSyntax.Parser PythonSyntax.Parser.Likeness Node

variable {root ts us : List Token} {spell : List Char → List Char} {rule : Rule → Parser Expr}
  {e : Expr}

/-! ## Items -/

theorem IsItem.of_shown (hs : isStarred e = false) (h : Shown root (.expr e)) : IsItem root ts e us :=
  ⟨h, by rw [hs]; nofun⟩

theorem isStarred_foldl {α : Type} {f : Expr → α → Expr} (hf : ∀ e a, isStarred (f e a) = false)
    {as : List α} (has : as ≠ []) (e : Expr) : isStarred (as.foldl f e) = false := by
  obtain rfl | ⟨as, a, rfl⟩ := List.eq_nil_or_concat as
  · exact absurd rfl has
  · rw [List.concat_eq_append, List.foldl_append]
    exact hf _ a

theorem shown_foldl {α : Type} {f : Expr → α → Expr} {as : List α}
    (hf : ∀ a ∈ as, ∀ e, Shown root (.expr e) → Shown root (.expr (f e a))) {e : Expr}
    (he : Shown root (.expr e)) : Shown root (.expr (as.foldl f e)) := by
  induction as generalizing e with
  | nil => exact he
  | cons a as ih =>
    rw [List.forall_mem_cons] at hf
    exact ih hf.2 (hf.1 e he)

/-- An item and what is done with it in turn: without that it is the item that was taken. -/
theorem isItem_foldl {α : Type} {f : Expr → α → Expr} {as : List α} {vs : List Token}
    (hf : ∀ e a, isStarred (f e a) = false) (he : IsItem root ts e us) (hnil : as = [] → vs = us)
    (has : ∀ a ∈ as, ∀ e, Shown root (.expr e) → Shown root (.expr (f e a))) :
    IsItem root ts (as.foldl f e) vs := by
  by_cases h : as = []
  · rw [hnil h, h]
    exact he
  · exact .of_shown (isStarred_foldl hf h e) (shown_foldl has he.shown)

theorem Ahead.behind (h : Ahead root ts) (ht : (current ts).opens = true) :
    Behind root (Parser.dropCurrent ts) := by
  refine ⟨current ts, ht, ?_⟩
  rw [← h.eq_cons]
  · exact h
  · rw [(Token.opens_iff.mp ht).1]
    nofun

/-- A starred item behind a bracket and in front of a clause. -/
theorem unpacks_of_behind (hts : Behind root ts) (he : IsItem root ts e us) (hs : isStarred e = true)
    (hclause : beginsClause us = true) : ∃ src, IsStreamOf root src ∧ Unpacks src := by
  obtain ⟨t, ht, hahead⟩ := hts
  obtain ⟨src, hsrc, hsuffix⟩ := hahead.suffix
  obtain ⟨w, rfl, hw⟩ := he.starred hs
  exact ⟨src, hsrc, t, w, us, ht, hw, hclause, hsuffix⟩

namespace RulesShow

variable (h : RulesShow root rule)
include h

/-! ## Lists of expressions -/

theorem listItems {item : Rule} (hitem : isWhole item = true) :
    Ensures root ts (listItems rule item) fun r us =>
      (∀ e ∈ r.1, Shown root (.expr e)) ∧ ∀ e, r = ([e], false) → IsItem root ts e us := by
  refine (h.below hitem).bind fun first us hfirst => .atOp_bind ?_
  refine (Ensures.manyOrNone (N := fun vs => (current us).isOp "," = false → vs = us)
    (P := fun e => Shown root (.expr e)) (fun vs => ?_) ?_).bind fun rest vs hrest => .pure ⟨?_, ?_⟩
  · exact .ifEatIf (fun _ => (Ensures.optionalLook fun _ => h.tree hitem _).mono fun _ _ ho => ho.1)
      fun _ => .pure nofun
  · refine .ifEatIf (fun ht => ?_) fun _ => .pure fun _ _ => rfl
    exact (Ensures.optionalLook fun _ => h.tree hitem _).mono fun _ _ _ _ hcomma =>
      nomatch ht.symm.trans hcomma
  · exact List.forall_mem_cons.mpr ⟨hfirst.shown, hrest.1⟩
  · intro e heq
    obtain ⟨hlist, hcomma⟩ := Prod.mk.inj heq
    obtain ⟨rfl, hnil⟩ := List.cons.inj hlist
    rw [hrest.2 hnil hcomma]
    exact hfirst

theorem listOrTuple {item : Rule} (hitem : isWhole item = true) :
    Ensures root ts (listOrTuple rule item) (IsItem root ts) := by
  refine (h.listItems hitem).bind fun r us hr => ?_
  split
  · exact .pure (hr.2 _ rfl)
  · exact .pure (.of_shown rfl (shown_tuple hr.1))

theorem starOr {item : Rule} (hitem : isWhole item = true) :
    Ensures root ts (starOr rule item) (IsItem root ts) :=
  .atOp_bind (.ite (fun _ => h.below rfl) fun _ => h.below hitem)

/-- A star and an operand. -/
theorem star (htight : ∀ {n ts e us}, Readable ts → outcome (rule .bitOr) n ts = .ok (e, us) →
      ∃ w, ts = w ++ us ∧ IsTight w) :
    Ensures root ts (star rule) (IsItem root ts) := by
  refine .of_ahead fun hts => .expectOp_bind fun hstar => ?_
  have hoperand : Ensures root (dropCurrent ts) (rule .bitOr) fun e us =>
      Shown root (.expr e) ∧ ∃ w, dropCurrent ts = w ++ us ∧ IsTight w :=
    fun hahead n e us ho => ⟨(h.below rfl hahead n e us ho).1, (h.below rfl hahead n e us ho).2.shown,
      htight hahead.readable ho⟩
  refine hoperand.bind fun e us he => .pure ⟨shown_starred he.1, fun _ => ?_⟩
  obtain ⟨w, hw, hcounts⟩ := he.2
  refine ⟨current ts :: w, ?_, .star hstar hcounts⟩
  rw [List.cons_append, ← hw]
  exact hts.eq_cons (Reads.not_endMarker_of_isOp _ hstar)

theorem itemsUntil (closing : String) {item : Rule} (hitem : isWhole item = true) :
    Ensures root ts (itemsUntil closing (rule item)) fun es us =>
      (∀ e ∈ es, Shown root (.expr e)) ∧ (es = [] → (current ts).isOp "," = false → us = ts) := by
  refine Ensures.manyOrNone (fun vs => ?_) ?_
  · refine .ifEatIf (fun _ => .atOp_bind (.ite (fun _ => .pure nofun) fun _ => ?_)) fun _ => .pure nofun
    refine (h.tree hitem _).bind fun e _ he => .pure ?_
    rintro _ ⟨⟩
    exact he
  · refine .ifEatIf (fun ht => .atOp_bind (.ite (fun _ => .pure fun _ hcomma => ?_) fun _ => ?_))
      fun _ => .pure fun _ _ => rfl
    · exact nomatch ht.symm.trans hcomma
    · exact (h.tree hitem _).bind fun _ _ _ => .pure nofun

/-! ## Parameters -/

/-- An expression behind a token that may be missing. -/
theorem testAfter {test : Token → Bool} :
    Ensures root ts (optional (eatIf test) (rule .test)) fun o _ => ∀ e ∈ o, Shown root (.expr e) :=
  (Ensures.optional fun us => h.tree rfl us).mono fun _ _ ho => ho.1

theorem parameter (annotated : Bool) :
    Ensures root ts (parameter rule annotated) fun p _ => Shown root (.arg p) := by
  have hnotes : ∀ us, Ensures root us (typeHint rule annotated) fun o _ =>
      ∀ e ∈ o, Shown root (.expr e) := fun us => .ite (fun _ => h.testAfter) fun _ => .pure nofun
  refine Ensures.identifier.bind fun name us hname => (hnotes us).bind fun note vs hnote => .pure ?_
  refine shown_of_names rfl rfl (List.forall_mem_singleton.mpr hname) (forall_exprs.mpr fun e he => ?_)
  exact hnote e (Option.mem_toList.mp he)

end RulesShow

/-- All that is in parameters is shown. -/
structure ArgumentsShown (root : List Token) (a : Arguments) : Prop where
  posOnly : ∀ p ∈ a.posOnly, Shown root (.arg p)
  args : ∀ p ∈ a.args, Shown root (.arg p)
  vararg : ∀ p ∈ a.vararg, Shown root (.arg p)
  kwOnly : ∀ p ∈ a.kwOnly, Shown root (.arg p)
  kwDefaults : ∀ o ∈ a.kwDefaults, ∀ e ∈ o, Shown root (.expr e)
  kwarg : ∀ p ∈ a.kwarg, Shown root (.arg p)
  defaults : ∀ e ∈ a.defaults, Shown root (.expr e)

theorem ArgumentsShown.nil : ArgumentsShown root ⟨[], [], none, [], [], none, []⟩ := by
  constructor <;> exact nofun

theorem ArgumentsShown.shown {a : Arguments} (h : ArgumentsShown root a) : Shown root (.arguments a) := by
  refine shown_of_parts rfl ?_
  simp only [parts, List.forall_mem_append, List.forall_mem_map, Option.mem_toList, forall_exprs,
    List.mem_filterMap, id]
  refine ⟨⟨⟨⟨⟨h.posOnly, h.args⟩, h.vararg⟩, h.kwOnly⟩, h.kwarg⟩, h.defaults, ?_⟩
  rintro e ⟨_, ho, rfl⟩
  exact h.kwDefaults _ ho e rfl

theorem ArgumentsShown.add {s : Parameters} (h : ArgumentsShown root s.arguments) {p : Arg}
    {default? : Option Expr} (hp : Shown root (.arg p)) (hd : ∀ e ∈ default?, Shown root (.expr e)) :
    ArgumentsShown root (s.add p default?).arguments := by
  unfold Parameters.add
  dsimp only
  split
  · exact { h with
      kwOnly := List.forall_mem_append.mpr ⟨h.kwOnly, List.forall_mem_singleton.mpr hp⟩
      kwDefaults := List.forall_mem_append.mpr ⟨h.kwDefaults, List.forall_mem_singleton.mpr hd⟩ }
  · exact { h with
      args := List.forall_mem_append.mpr ⟨h.args, List.forall_mem_singleton.mpr hp⟩
      defaults := List.forall_mem_append.mpr ⟨h.defaults, fun e he => hd e (Option.mem_toList.mp he)⟩ }

namespace RulesShow

variable (h : RulesShow root rule)
include h

theorem parameterEntry (closing : String) (annotated : Bool) (s : Parameters)
    (hs : ArgumentsShown root s.arguments) :
    Ensures root ts (parameterEntry rule closing annotated s) fun r _ =>
      ArgumentsShown root r.1.arguments := by
  refine .atOp_bind (.ite (fun _ => .pure hs) fun _ => .peek_bind ?_)
  refine .ifEatIf (fun _ => .ite (fun _ => .failAt) fun _ => Ensures.eatIf.bind fun _ _ _ => .pure ?_)
    fun _ => ?_
  · exact { hs with posOnly := hs.args, args := nofun }
  refine .ifEatIf (fun _ => (h.parameter annotated).bind fun p us hp => Ensures.eatIf.bind fun _ vs _ =>
    .atOp_bind (.ite (fun _ => .pure ?_) fun _ => .unexpected)) fun _ => ?_
  · refine { hs with kwarg := ?_ }
    rintro _ ⟨⟩
    exact hp
  refine .ifEatIf (fun _ => .ite (fun _ => .failAt) fun _ => ?_) fun _ => ?_
  · refine (Ensures.optionalLook fun _ => h.parameter annotated).bind fun vararg us hvararg => ?_
    exact Ensures.eatIf.bind fun _ _ _ => .pure { hs with vararg := hvararg.1 }
  · refine (h.parameter annotated).bind fun p us hp => h.testAfter.bind fun default? vs hd => ?_
    exact .ite (fun _ => .failAt) fun _ => Ensures.eatIf.bind fun _ _ _ => .pure (hs.add hp hd)

theorem parameters (closing : String) (annotated : Bool) :
    Ensures root ts (parameters rule closing annotated) fun a _ => Shown root (.arguments a) := by
  refine (Ensures.iterate (I := fun s _ => ArgumentsShown root s.arguments) .nil fun s us hs =>
    h.parameterEntry closing annotated s hs).bind fun s us hs => ?_
  exact .ite (fun _ => .fail) fun _ => .pure hs.shown

/-! ## Conditions, lambdas and boolean operators -/

theorem named : Ensures root ts (named rule) (IsItem root ts) := by
  refine .peek_bind ((h.below rfl).bind fun e us he => .ifEatIf (fun _ => ?_) fun _ => .pure he)
  split
  · refine (h.tree rfl _).bind fun v vs hv => .pure (.of_shown rfl (shown_of_parts rfl ?_))
    refine List.forall_mem_cons.mpr ⟨shown_name ?_, List.forall_mem_singleton.mpr hv⟩
    exact he.shown.explained.identifiers _ List.mem_cons_self
  · exact .failAt

theorem test : Ensures root ts (test rule) (IsItem root ts) := by
  refine .atWord_bind (.ite (fun _ => h.below rfl) fun _ => ?_)
  refine (h.below rfl).bind fun body us hbody => .ifEatIf (fun _ => ?_) fun _ => .pure hbody
  refine (h.tree rfl _).bind fun condition vs hcondition => .expectWord_bind ?_
  refine (Ensures.nested (h.tree rfl _)).bind fun orelse ws horelse => .pure (.of_shown rfl ?_)
  exact shown_expr rfl rfl (List.forall_mem_cons.mpr ⟨hcondition, shown_pair hbody.shown horelse⟩)

theorem testNoCond : Ensures root ts (testNoCond rule) (IsItem root ts) :=
  .atWord_bind (.ite (fun _ => h.below rfl) fun _ => h.below rfl)

theorem lambda {body : Rule} (hbody : isWhole body = true) :
    Ensures root ts (lambda rule body) (IsItem root ts) := by
  refine .expectWord_bind ((h.parameters ":" false).bind fun a us ha => .expectOp_bind fun _ => ?_)
  refine (Ensures.nested (h.tree hbody _)).bind fun e vs he => .pure (.of_shown rfl (shown_of_parts rfl ?_))
  exact List.forall_mem_cons.mpr ⟨ha, List.forall_mem_singleton.mpr he⟩

theorem boolChain (word : String) (op : BoolOperator) {operand : Rule} (hoperand : isWhole operand = true) :
    Ensures root ts (boolChain rule word op operand) (IsItem root ts) := by
  refine (Ensures.sepBy (P := fun e => Shown root (.expr e)) (h.below hoperand) (fun e us he => he.shown)
    fun us => h.tree hoperand us).bind fun es us hes => ?_
  split
  · exact .pure (hes.2.2 _ rfl)
  · exact .pure (.of_shown rfl (shown_expr rfl rfl hes.1))

theorem notTest : Ensures root ts (notTest rule) (IsItem root ts) :=
  .ifEatIf (fun _ => (Ensures.nested (h.tree rfl _)).bind fun _ _ he =>
    .pure (.of_shown rfl (shown_expr rfl rfl (List.forall_mem_singleton.mpr he)))) fun _ => h.below rfl

theorem comparisonTail : Ensures root ts (comparisonTail rule) fun o us =>
    (∀ r ∈ o, Shown root (.expr r.2)) ∧ (o = none → us = ts) := by
  refine .peek_bind (.peekNext_bind fun next => ?_)
  split
  · exact .pure ⟨nofun, fun _ => rfl⟩
  · refine .advance_bind (Ensures.advanceIf.bind fun _ us _ => (h.tree rfl us).bind fun e vs he => ?_)
    refine .pure ⟨?_, nofun⟩
    rintro _ ⟨⟩
    exact he

theorem comparison : Ensures root ts (comparison rule) (IsItem root ts) := by
  refine (h.below rfl).bind fun left us hleft => ?_
  refine (Ensures.manyOrNone (fun vs => h.comparisonTail.mono fun _ _ ho => ho.1)
    (h.comparisonTail.mono fun _ _ ho => ho.2)).bind fun rest vs hrest => ?_
  split
  · rw [hrest.2 rfl]
    exact .pure hleft
  · refine .pure (.of_shown rfl (shown_expr rfl rfl (List.forall_mem_cons.mpr ⟨hleft.shown, ?_⟩)))
    exact List.forall_mem_map.mpr hrest.1

/-! ## Arithmetic -/

theorem operatorTail (operators : List String) {operand : Rule} (hoperand : isWhole operand = true) :
    Ensures root ts (operatorTail rule operators operand) fun o us =>
      (∀ r ∈ o, Shown root (.expr r.2)) ∧ (o = none → us = ts) := by
  refine .peek_bind ?_
  split
  · exact .pure ⟨nofun, fun _ => rfl⟩
  · refine .advance_bind ((h.tree hoperand _).bind fun e us he => .pure ⟨?_, nofun⟩)
    rintro _ ⟨⟩
    exact he

theorem operatorChain (operators : List String) {operand : Rule} (hoperand : isWhole operand = true) :
    Ensures root ts (operatorChain rule operators operand) (IsItem root ts) := by
  refine (h.below hoperand).bind fun first us hfirst => ?_
  refine (Ensures.manyOrNone (fun vs => (h.operatorTail operators hoperand).mono fun _ _ ho => ho.1)
    ((h.operatorTail operators hoperand).mono fun _ _ ho => ho.2)).bind fun rest vs hrest => .pure ?_
  refine isItem_foldl (fun _ _ => rfl) hfirst hrest.2 fun r hr e he => ?_
  exact shown_expr rfl rfl (shown_pair he (hrest.1 r hr))

theorem factor : Ensures root ts (factor rule) (IsItem root ts) := by
  refine .peek_bind ?_
  split
  · exact .advance_bind ((Ensures.nested (h.tree rfl _)).bind fun _ _ he =>
      .pure (.of_shown rfl (shown_expr rfl rfl (List.forall_mem_singleton.mpr he))))
  · exact h.below rfl

theorem power : Ensures root ts (power rule) (IsItem root ts) :=
  (h.below rfl).bind fun _ _ hbase => .ifEatIf (fun _ => (Ensures.nested (h.tree rfl _)).bind fun _ _ he =>
    .pure (.of_shown rfl (shown_expr rfl rfl (shown_pair hbase.shown he)))) fun _ => .pure hbase

/-! ## Comprehensions -/

theorem clause : Ensures root ts (clause rule) fun c _ => Shown root (.comprehension c) := by
  refine Ensures.eatIf.bind fun isAsync us _ => .expectWord_bind (.peek_bind ?_)
  refine (h.tree rfl _).bind fun e vs he => .ofExcept_bind fun target htarget => .expectWord_bind ?_
  refine (h.tree rfl _).bind fun iter ws hiter => ?_
  refine (Ensures.many fun xs => (Ensures.optional fun ys => h.tree rfl ys).mono fun _ _ ho => ho.1).bind
    fun ifs xs hifs => .pure (shown_of_parts rfl ?_)
  exact List.forall_mem_cons.mpr ⟨shown_of_asTarget htarget he,
    List.forall_mem_cons.mpr ⟨hiter, forall_exprs.mpr hifs⟩⟩

theorem clauses : Ensures root ts (clauses rule) fun cs _ => ∀ c ∈ cs, Shown root (.comprehension c) := by
  refine .many fun us => .startsClause_bind (.ite (fun _ => h.clause.bind fun c vs hc => .pure ?_)
    fun _ => .pure nofun)
  rintro _ ⟨⟩
  exact hc

end RulesShow

end PythonSyntax
