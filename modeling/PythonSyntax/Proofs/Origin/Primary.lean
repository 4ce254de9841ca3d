import PythonSyntax.Proofs.Origin.Expression

/-
Primaries and brackets whose names and stars come from tokens.

These are the rules that make comprehensions.  The element of one is the item that a bracket begins with:
in a call it is the first argument, and in a display what stands behind the opening bracket.  With them all
rules are accounted for, and `rulesShow_run` says so of the parser.
-/

namespace PythonSyntax

open PythonSyntax.Parser PythonSyntax.Parser.Likeness Node

variable {root ts us : List Token} {spell : List Char → List Char} {rule : Rule → Parser Expr}
  {e : Expr}

/-! ## What is handed on -/

/-- All that is in the arguments of a call is shown. -/
structure CallShown (root : List Token) (s : CallArguments) : Prop where
  args : ∀ e ∈ s.args, Shown root (.expr e)
  keywords : ∀ k ∈ s.keywords, Shown root (.keyword k)

namespace CallShown

variable {s : CallArguments}

theorem nil : CallShown root ⟨[], []⟩ := by
  constructor <;> exact nofun

theorem addArg (h : CallShown root s) (he : Shown root (.expr e)) : CallShown root (s.addArg e) :=
  ⟨List.forall_mem_append.mpr ⟨h.args, List.forall_mem_singleton.mpr he⟩, h.keywords⟩

theorem addKeyword {name : Option String} (h : CallShown root s) (hname : ∀ n ∈ name, IsSpelled root n)
    (he : Shown root (.expr e)) : CallShown root (s.addKeyword name e) := by
  refine ⟨h.args, List.forall_mem_append.mpr ⟨h.keywords, List.forall_mem_singleton.mpr ?_⟩⟩
  exact shown_of_names rfl rfl (fun n hn => hname n (Option.mem_toList.mp hn))
    (List.forall_mem_singleton.mpr he)

/-- A call with these arguments. -/
theorem call (h : CallShown root s) (he : Shown root (.expr e)) :
    Shown root (.expr (.call e s.args s.keywords)) := by
  refine shown_of_parts rfl (List.forall_mem_append.mpr ⟨?_, List.forall_mem_map.mpr h.keywords⟩)
  exact forall_exprs.mpr (List.forall_mem_cons.mpr ⟨he, h.args⟩)

end CallShown

/-- What stands in brackets is shown, and an only item without a comma is the item that was taken. -/
def BracketedShown (root ts : List Token) (b : Bracketed) (us : List Token) : Prop :=
  match b with
  | .comprehension elt generators =>
    Shown root (.expr elt) ∧ (∀ c ∈ generators, Shown root (.comprehension c)) ∧
      (isStarred elt = true → ∃ src, IsStreamOf root src ∧ Unpacks src)
  | .items elts comma =>
    (∀ e ∈ elts, Shown root (.expr e)) ∧ ∀ e, elts = [e] → comma = false → IsItem root ts e us

/-- An entry of a dictionary is shown. -/
def EntryShown (root : List Token) (entry : Option Expr × Expr) : Prop :=
  (∀ k ∈ entry.1, Shown root (.expr k)) ∧ Shown root (.expr entry.2)

theorem shown_dict {entries : List (Option Expr × Expr)} (h : ∀ x ∈ entries, EntryShown root x) :
    Shown root (.expr (.dict (entries.map Prod.fst) (entries.map Prod.snd))) := by
  refine shown_of_parts rfl (List.forall_mem_append.mpr ⟨forall_exprs.mpr fun e he => ?_, ?_⟩)
  · obtain ⟨_, hk, rfl⟩ := List.mem_filterMap.mp he
    obtain ⟨x, hx, hxk⟩ := List.mem_map.mp hk
    exact (h x hx).1 e hxk
  · exact forall_exprs.mpr (List.forall_mem_map.mpr fun x hx => (h x hx).2)

/-- A starred item and the parenthesis behind it. -/
theorem IsItem.closed (he : IsItem root ts e us) (hus : Ahead root us)
    (hclose : (current us).isOp ")" = true) (hs : isStarred e = true) :
    ∃ w t, ts = w ++ t :: dropCurrent us ∧ t.isOp ")" = true ∧ IsStarItem w := by
  obtain ⟨w, rfl, hw⟩ := he.starred hs
  exact ⟨w, current us, congrArg (w ++ ·) (hus.eq_cons (Reads.not_endMarker_of_isOp _ hclose)), hclose, hw⟩

/-- A literal is of the stream. -/
theorem ensures_stringToken : Ensures root ts (optional (atKind .string) advance) fun o _ =>
    ∀ t ∈ o, t.kind = .string ∧ ∃ src, IsStreamOf root src ∧ t ∈ src := by
  refine .of_ahead fun hts => (Ensures.optionalLook fun hk => ?_).mono fun _ _ ho => ho.1
  have hk : (current ts).kind = .string := beq_iff_eq.mp hk
  refine Ensures.advance.mono fun t us ht => ?_
  rw [ht.1]
  refine ⟨hk, hts.exists_mem ?_⟩
  rw [hts.eq_cons (by rw [hk]; nofun)]
  exact List.mem_cons_self

namespace RulesShow

variable (h : RulesShow root rule)
include h

/-! ## Calls and subscripts -/

/-- The first argument begins right behind the bracket. -/
theorem plainArgument {s : CallArguments} {here : Span} (hs : CallShown root s)
    (hfirst : s.args = [] → s.keywords = [] → Behind root ts) :
    Ensures root ts (plainArgument rule s here) fun s _ =>
      CallShown root s ∧ (s.args = [] → s.keywords ≠ []) := by
  refine (h.below rfl).bind fun e us he => .ifEatIf (fun _ => ?_) fun _ => ?_
  · split
    · refine (h.tree rfl _).bind fun v vs hv => .pure ⟨hs.addKeyword ?_ hv, fun _ => List.concat_ne_nil _ _⟩
      rintro _ ⟨⟩
      exact he.shown.explained.identifiers _ List.mem_cons_self
    · exact .failAt
  refine .startsClause_bind (.ite (fun hclause => ?_) fun _ => .ite (fun _ => .failAt) fun _ =>
    .ite (fun _ => .failAt) fun _ =>
      .pure ⟨hs.addArg he.shown, fun hnil => absurd hnil (List.concat_ne_nil _ _)⟩)
  refine h.clauses.bind fun generators vs hgenerators => .atOp_bind (.peekNext_bind fun next => ?_)
  refine .ite (fun _ => .failAt) fun hnot =>
    .pure ⟨hs.addArg ?_, fun hnil => absurd hnil (List.concat_ne_nil _ _)⟩
  simp only [Bool.or_eq_true, not_or, Bool.not_eq_true', Bool.not_eq_false, List.isEmpty_iff] at hnot
  exact shown_comprehension rfl rfl (unpacks_of_behind (hfirst hnot.1.1 hnot.1.2) he · hclause)
    (List.forall_mem_singleton.mpr he.shown) hgenerators

theorem argument {s : CallArguments} (hs : CallShown root s)
    (hfirst : s.args = [] → s.keywords = [] → Behind root ts) :
    Ensures root ts (argument rule s) fun s _ => CallShown root s ∧ (s.args = [] → s.keywords ≠ []) := by
  refine .peek_bind (.ifEatIf (fun _ => .ite (fun _ => .failAt) fun _ => ?_) fun _ =>
    .ifEatIf (fun _ => ?_) fun _ => h.plainArgument hs hfirst)
  · exact (h.tree rfl _).bind fun e us he =>
      .pure ⟨hs.addArg (shown_starred he), fun hnil => absurd hnil (List.concat_ne_nil _ _)⟩
  · exact (h.tree rfl _).bind fun e us he =>
      .pure ⟨hs.addKeyword nofun he, fun _ => List.concat_ne_nil _ _⟩

/-- Arguments begin behind a bracket. -/
theorem arguments (hts : Behind root ts) :
    Ensures root ts (arguments rule) fun s _ => CallShown root s := by
  refine (Ensures.iterate (I := fun s us => CallShown root s ∧
    (s.args = [] → s.keywords = [] → Behind root us)) ⟨.nil, fun _ _ => hts⟩
      fun s us hs => ?_).mono fun _ _ => And.left
  refine .atOp_bind (.ite (fun _ => .pure hs) fun _ => (h.argument hs.1 hs.2).bind fun s vs hs => ?_)
  exact Ensures.eatIf.bind fun _ _ _ => .pure ⟨hs.1, fun hargs hkeywords => absurd hkeywords (hs.2 hargs)⟩

theorem optionalTest :
    Ensures root ts (optionalTest rule) fun o _ => ∀ e ∈ o, Shown root (.expr e) :=
  .atOp_bind (.ite (fun _ => .pure nofun) fun _ =>
    (Ensures.optionalLook fun _ => h.tree rfl _).mono fun _ _ ho => ho.1)

theorem subscript : Ensures root ts (subscript rule) (IsItem root ts) := by
  have hlower : Ensures root ts (lowerBound rule) fun o us => ∀ e ∈ o, IsItem root ts e us := by
    refine .atOp_bind (.ite (fun _ => .pure nofun) fun _ => (h.below rfl).bind fun e us he => .pure ?_)
    rintro _ ⟨⟩
    exact he
  refine hlower.bind fun lower us hlower => .ifEatIf (fun _ => ?_) fun _ => ?_
  · refine h.optionalTest.bind fun upper vs hupper => ?_
    have hstep : Ensures root vs (sliceStep rule) fun o _ => ∀ e ∈ o, Shown root (.expr e) :=
      .ifEatIf (fun _ => h.optionalTest) fun _ => .pure nofun
    refine hstep.bind fun step ws hstep => .pure (.of_shown rfl (shown_expr rfl rfl fun e he => ?_))
    simp only [List.mem_append, Option.mem_toList] at he
    rcases he with (he | he) | he
    · exact (hlower e he).shown
    · exact hupper e he
    · exact hstep e he
  · split
    · exact .pure (hlower _ rfl)
    · exact .unexpected

theorem subscripts : Ensures root ts (subscripts rule) (IsItem root ts) := by
  refine (h.below rfl).bind fun first us hfirst => .atOp_bind (.ite (fun _ => ?_) fun _ => .pure hfirst)
  exact (h.itemsUntil "]" rfl).bind fun rest vs hrest =>
    .pure (.of_shown rfl (shown_tuple (List.forall_mem_cons.mpr ⟨hfirst.shown, hrest.1⟩)))

/-! ## Primaries -/

theorem trailer : Ensures root ts (trailer rule) fun o us =>
    (∀ t ∈ o, ∀ e, Shown root (.expr e) → Shown root (.expr (t.apply e))) ∧ (o = none → us = ts) := by
  refine .of_ahead fun hts => .atOp_bind (.ite (fun ht => .nested (.advance_bind ?_)) fun _ =>
    .atOp_bind (.ite (fun _ => .nested (.advance_bind ?_)) fun _ => .ifEatIf (fun _ => ?_) fun _ => ?_))
  · refine (h.arguments (hts.behind ?_)).bind fun s us hs => .expectOp_bind fun _ => .pure ⟨?_, nofun⟩
    · exact Token.opens_of_isOp ht rfl
    · rintro _ ⟨⟩ e he
      exact hs.call he
  · refine (h.tree rfl _).bind fun slice us hslice => .expectOp_bind fun _ => .pure ⟨?_, nofun⟩
    rintro _ ⟨⟩ e he
    exact shown_of_parts rfl (List.forall_mem_cons.mpr ⟨he, List.forall_mem_singleton.mpr hslice⟩)
  · refine Ensures.identifier.bind fun name us hname => .pure ⟨?_, nofun⟩
    rintro _ ⟨⟩ e he
    exact shown_attr he hname
  · exact .pure ⟨nofun, fun _ => rfl⟩

theorem primary : Ensures root ts (primary rule) (IsItem root ts) := by
  refine Ensures.eatIf.bind fun awaited us hus => (h.below rfl).bind fun atom vs hatom => ?_
  refine (Ensures.manyOrNone (fun xs => h.trailer.mono fun _ _ ho => ho.1)
    (h.trailer.mono fun _ _ ho => ho.2)).bind fun trailers ws htrailers => .pure ?_
  have he : IsItem root us (trailers.foldl Trailer.apply atom) ws := by
    refine isItem_foldl (fun e t => ?_) hatom htrailers.2 htrailers.1
    cases t <;> rfl
  cases awaited with
  | true => exact .of_shown rfl (shown_expr rfl rfl (List.forall_mem_singleton.mpr he.shown))
  | false =>
    rw [hus rfl] at he
    exact he

theorem atom : Ensures root ts (atom spell rule) (IsItem root ts) := by
  refine .of_ahead fun hts => .peek_bind ?_
  split
  · next hk =>
    refine .ite (fun ht => .nested (h.bracketed ?_)) fun _ => .ifEatIf (fun _ => ?_) fun _ => .unexpected
    · exact Token.opens_iff.mpr ⟨hk, ht⟩
    · exact .pure (.of_shown rfl shown_constant)
  · refine .advance_bind ?_
    split
    · exact .pure (.of_shown rfl shown_constant)
    · exact .failAt
  · refine (Ensures.many fun _ => ensures_stringToken).bind fun tokens us htokens => ?_
    exact (ensures_strings h htokens).mono fun e vs he => .of_shown he.2 he.1
  · split
    · exact .advance_bind (.pure (.of_shown rfl shown_constant))
    · exact Ensures.identifier.bind fun id us hid => .pure (.of_shown rfl (shown_name hid))
  · exact .unexpected

/-! ## Brackets -/

theorem inside (closing : String) (hts : Behind root ts) :
    Ensures root ts (inside rule closing) (BracketedShown root ts) := by
  refine (h.below rfl).bind fun first us hfirst => .startsClause_bind (.ite (fun hclause => ?_) fun _ => ?_)
  · exact h.clauses.bind fun generators vs hgenerators =>
      .pure ⟨hfirst.shown, hgenerators, (unpacks_of_behind hts hfirst · hclause)⟩
  · refine .atOp_bind ((h.itemsUntil closing rfl).bind fun rest vs hrest => .pure ⟨?_, ?_⟩)
    · exact List.forall_mem_cons.mpr ⟨hfirst.shown, hrest.1⟩
    · intro e heq hcomma
      obtain ⟨rfl, hnil⟩ := List.cons.inj heq
      rw [hrest.2 hnil hcomma]
      exact hfirst

theorem parenthesized (hts : Behind root ts) :
    Ensures root ts (parenthesized rule) fun e us => Shown root (.expr e) ∧
      (isStarred e = true → ∃ w t, ts = w ++ t :: us ∧ t.isOp ")" = true ∧ IsStarItem w) := by
  refine .ifEatIf (fun _ => .pure ⟨shown_tuple nofun, nofun⟩) fun _ =>
    .atWord_bind (.ite (fun _ => (h.below rfl).bind fun e us he => ?_) fun _ =>
      (h.inside ")" hts).bind fun content us hcontent => ?_)
  · exact .of_ahead fun hus => .expectOp_bind fun hclose => .pure ⟨he.shown, he.closed hus hclose⟩
  · refine .of_ahead fun hus => .expectOp_bind fun hclose => ?_
    split
    · refine .pure ⟨?_, nofun⟩
      exact shown_comprehension rfl rfl hcontent.2.2 (List.forall_mem_singleton.mpr hcontent.1) hcontent.2.1
    · have he := hcontent.2 _ rfl rfl
      exact .pure ⟨he.shown, he.closed hus hclose⟩
    · exact .pure ⟨shown_tuple hcontent.1, nofun⟩

theorem listDisplay (hts : Behind root ts) :
    Ensures root ts (listDisplay rule) fun e _ => Shown root (.expr e) ∧ isStarred e = false := by
  refine .ifEatIf (fun _ => .pure ⟨shown_list nofun, rfl⟩) fun _ =>
    (h.inside "]" hts).bind fun content us hcontent => .expectOp_bind fun _ => ?_
  split
  · refine .pure ⟨?_, rfl⟩
    exact shown_comprehension rfl rfl hcontent.2.2 (List.forall_mem_singleton.mpr hcontent.1) hcontent.2.1
  · exact .pure ⟨shown_list hcontent.1, rfl⟩

theorem dictEntry : Ensures root ts (dictEntry rule) fun x _ => EntryShown root x := by
  refine .ifEatIf (fun _ => (h.tree rfl _).bind fun e us he => .pure ⟨nofun, he⟩) fun _ => ?_
  refine (h.tree rfl _).bind fun key us hkey => .expectOp_bind fun _ =>
    (h.tree rfl _).bind fun value vs hvalue => .pure ⟨?_, hvalue⟩
  rintro _ ⟨⟩
  exact hkey

theorem dictRest {first : Option Expr × Expr} (hfirst : EntryShown root first) :
    Ensures root ts (dictRest rule first) fun e _ => Shown root (.expr e) ∧ isStarred e = false := by
  refine (Ensures.many (P := EntryShown root) fun us => .ifEatIf (fun _ => ?_) fun _ => .pure ?_).bind
    fun rest us hrest => .expectOp_bind fun _ => .pure ⟨?_, rfl⟩
  · refine .atOp_bind (.ite (fun _ => .pure ?_) fun _ => h.dictEntry.bind fun x vs hx => .pure ?_)
    · exact nofun
    · rintro _ ⟨⟩
      exact hx
  · exact nofun
  · exact shown_dict (List.forall_mem_cons.mpr ⟨hfirst, hrest⟩)

/-- The first item of a set begins right behind the brace. -/
theorem setRest (hts : Behind root ts) (he : IsItem root ts e us) :
    Ensures root us (setRest rule e) fun e _ => Shown root (.expr e) ∧ isStarred e = false := by
  refine .startsClause_bind (.ite (fun hclause => ?_) fun _ => ?_)
  · refine h.clauses.bind fun generators vs hgenerators => .expectOp_bind fun _ => .pure ⟨?_, rfl⟩
    exact shown_comprehension rfl rfl (unpacks_of_behind hts he · hclause)
      (List.forall_mem_singleton.mpr he.shown) hgenerators
  · refine (h.itemsUntil "\x7d" rfl).bind fun rest vs hrest => .expectOp_bind fun _ => .pure ⟨?_, rfl⟩
    exact shown_expr rfl rfl (List.forall_mem_cons.mpr ⟨he.shown, hrest.1⟩)

theorem braced (hts : Behind root ts) :
    Ensures root ts (Parser.dictOrSet rule) fun e _ => Shown root (.expr e) ∧ isStarred e = false := by
  refine .ifEatIf (fun _ => .pure ⟨shown_of_parts rfl nofun, rfl⟩) fun _ => .ifEatIf (fun _ => ?_) fun _ => ?_
  · exact (h.tree rfl _).bind fun e us he => h.dictRest ⟨nofun, he⟩
  refine (h.below rfl).bind fun first us hfirst => .ite (fun _ => h.setRest hts hfirst) fun _ =>
    .ifEatIf (fun _ => (h.tree rfl _).bind fun value vs hvalue => ?_) fun _ => h.setRest hts hfirst
  refine .startsClause_bind (.ite (fun _ => ?_) fun _ => h.dictRest ⟨?_, hvalue⟩)
  · refine h.clauses.bind fun generators ws hgenerators => .expectOp_bind fun _ => .pure ⟨?_, rfl⟩
    exact shown_comprehension rfl rfl nofun (shown_pair hfirst.shown hvalue) hgenerators
  · rintro _ ⟨⟩
    exact hfirst.shown

/-- Parentheses around a starred item hand it on, and the other brackets make something else of it. -/
theorem opened (ht : (current ts).opens = true) :
    Ensures root ts (Parser.bracketed rule) (IsItem root ts) := by
  refine .of_ahead fun hts => .advance_bind ?_
  have hbehind := hts.behind ht
  refine .ite (fun hparen => (h.parenthesized hbehind).mono fun e us he => ⟨he.1, fun hs => ?_⟩) fun _ =>
    .ite (fun _ => (h.listDisplay hbehind).mono fun e us he => .of_shown he.2 he.1) fun _ =>
      (h.dictOrSet hbehind).mono fun e us he => .of_shown he.2 he.1
  obtain ⟨w, t, hw, hclose, hitem⟩ := he.2 hs
  refine ⟨current ts :: (w ++ [t]), ?_, .group ?_ hitem hclose⟩
  · rw [List.cons_append, List.append_assoc, List.singleton_append, ← hw]
    exact hts.eq_cons (by rw [(Token.opens_iff.mp ht).1]; nofun)
  · rw [Token.isOp, (Token.opens_iff.mp ht).1, hparen]
    rfl

theorem yielding : Ensures root ts (yielding rule) (IsItem root ts) := by
  refine .expectWord_bind (.ifEatIf (fun _ => ?_) fun _ => ?_)
  · exact (h.tree rfl _).bind fun e us he =>
      .pure (.of_shown rfl (shown_expr rfl rfl (List.forall_mem_singleton.mpr he)))
  · refine (Ensures.optionalLook fun _ => h.tree rfl _).bind fun value us hvalue => .pure (.of_shown rfl ?_)
    exact shown_expr rfl rfl fun e he => hvalue.1 e (Option.mem_toList.mp he)

/-! ## All rules -/

theorem body (htight : ∀ {n ts e us}, Readable ts → outcome (rule .bitOr) n ts = .ok (e, us) →
      ∃ w, ts = w ++ us ∧ IsTight w) : RulesShow root (Rule.body spell rule) where
  below {r} _ hr := by
    cases r with
    | starTestList => exact h.listOrTuple rfl
    | testList => exact h.listOrTuple rfl
    | exprList => exact h.listOrTuple rfl
    | starOrTest => exact h.starOr rfl
    | starOrExpr => exact h.starOr rfl
    | starOrNamed => exact h.starOr rfl
    | star => exact h.star htight
    | named => exact h.named
    | test => exact h.test
    | testNoCond => exact h.testNoCond
    | lambda => exact h.lambda rfl
    | lambdaNoCond => exact h.lambda rfl
    | orTest => exact h.boolChain _ _ rfl
    | andTest => exact h.boolChain _ _ rfl
    | notTest => exact h.notTest
    | comparison => exact h.comparison
    | bitOr => exact h.operatorChain _ rfl
    | bitXor => exact h.operatorChain _ rfl
    | bitAnd => exact h.operatorChain _ rfl
    | shift => exact h.operatorChain _ rfl
    | sum => exact h.operatorChain _ rfl
    | term => exact h.operatorChain _ rfl
    | factor => exact h.factor
    | power => exact h.power
    | primary => exact h.primary
    | atom => exact h.atom
    | bracketed => cases hr
    | dictOrSet => cases hr
    | subscripts => exact h.subscripts
    | subscript => exact h.subscript
    | yielding => exact h.yielding
  bracketed := h.opened
  dictOrSet := h.braced

end RulesShow

/-- All rules yield items of the streams of a program. -/
theorem rulesShow_run (fuel : Nat) : RulesShow root (Rule.run spell fuel) := by
  induction fuel with
  | zero => exact ⟨fun _ => .fail, fun _ => .fail, fun _ => .fail⟩
  | succ fuel ih => exact ih.body exists_tight

end PythonSyntax
