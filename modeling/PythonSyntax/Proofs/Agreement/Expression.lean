import PythonSyntax.Parser.Expression
import PythonSyntax.Proofs.Agreement.Logic
import PythonSyntax.Proofs.Target

/-
The rules of expressions agree.

If all the rules agree below, so does what each of them says, in the order of `Rule.body`.  Runs of
string literals look into the texts of their tokens, so that they agree is an assumption here: each
likeness has its own reason for it.
-/

namespace PythonSyntax.Parser

namespace Likeness

open TokenLikeness

variable {c : Likeness} {rule rule' : Rule → Parser Expr}

/-- Whether a rule opens no bracket that it does not close, nor closes one that it does not open. -/
def isWhole : Rule → Bool
  | .bracketed | .dictOrSet => false
  | _ => true

/-- The rules of two families do alike and have equal values.  That of brackets takes whatever token
comes first, so it does on streams that begin with an opening bracket, and that of braces goes on
behind one. -/
structure Rules (c : Likeness) (rule rule' : Rule → Parser Expr) : Prop where
  below {r : Rule} : isWhole r = true → c.Agrees (rule r) (rule' r) Eq
  bracketed : c.AgreesWhen (fun t => t.kind = .op ∧ Layout.isOpening t.text = true)
    (rule .bracketed) (rule' .bracketed) Eq
  dictOrSet : c.Closes (rule .dictOrSet) (rule' .dictOrSet) Eq

namespace Rules

theorem inside (h : c.Rules rule rule') : c.inside.Rules rule rule' :=
  ⟨fun hr => (h.below hr).inside, h.bracketed.inside, h.dictOrSet.inside⟩

/-! ## Lists of expressions -/

theorem listItems (h : c.Rules rule rule') {item : Rule} (hitem : isWhole item = true) :
    c.Agrees (listItems rule item) (listItems rule' item) Eq := by
  refine .bind_eq (h.below hitem) fun first => .bind_eq (.atOp (.of rfl)) fun comma => ?_
  refine .bind_eq (.many_eq ?_) fun rest => .pure rfl
  refine .bind_eq (.eatOp rfl) fun _ => .ite ?_ (.pure rfl)
  exact .optional_eq .startsExpression (h.below hitem)

theorem listOrTuple (h : c.Rules rule rule') {item : Rule} (hitem : isWhole item = true) :
    c.Agrees (listOrTuple rule item) (listOrTuple rule' item) Eq := by
  refine .bind_eq (h.listItems hitem) fun r => ?_
  split <;> exact .pure rfl

theorem yieldOr (h : c.Rules rule rule') {item : Rule} (hitem : isWhole item = true) :
    c.Agrees (yieldOr rule item) (yieldOr rule' item) Eq :=
  .bind_eq (.atWord _) fun _ => .ite (h.below rfl) (h.below hitem)

theorem starOr (h : c.Rules rule rule') {item : Rule} (hitem : isWhole item = true) :
    c.Agrees (starOr rule item) (starOr rule' item) Eq :=
  .bind_eq (.atOp (.of rfl)) fun _ => .ite (h.below rfl) (h.below hitem)

theorem star (h : c.Rules rule rule') : c.Agrees (star rule) (star rule') Eq :=
  .bind_eq (.expectOp rfl) fun _ => .bind_eq (h.below rfl) fun _ => .pure rfl

theorem itemsUntil {closing : String} (hclosing : c.Passes closing)
    {item item' : Parser Expr} (h : c.Agrees item item' Eq) :
    c.Agrees (itemsUntil closing item) (itemsUntil closing item') Eq := by
  refine .many_eq (.bind_eq (.eatOp rfl) fun _ => .ite ?_ (.pure rfl))
  exact .bind_eq (.atOp hclosing) fun _ => .ite (.pure rfl) (.bind_eq h fun _ => .pure rfl)

/-! ## Parameters -/

theorem parameter (h : c.Rules rule rule') (annotated : Bool) :
    c.Agrees (parameter rule annotated) (parameter rule' annotated) Eq := by
  refine .bind_eq .identifier fun name => .bind_eq (.ite ?_ (.pure rfl)) fun _ => .pure rfl
  exact .optional_eq (.eatOp rfl) (h.below rfl)

theorem parameterEntry (h : c.Rules rule rule') {closing : String}
    (hclosing : c.Passes closing) (annotated : Bool) (s : Parameters) :
    c.Agrees (parameterEntry rule closing annotated s) (parameterEntry rule' closing annotated s)
      Eq := by
  refine .bind_eq (.atOp hclosing) fun _ => .ite (.pure rfl) (.bind .peek fun t u ht => ?_)
  have hplaces := places_of_sees ht
  refine .bind_eq (.eatOp rfl) fun _ => .ite ?_ (.bind_eq (.eatOp rfl) fun _ => .ite ?_ ?_)
  · exact .ite (.failAt rfl hplaces) (.bind_eq (.eatOp rfl) fun _ => .pure rfl)
  · refine .bind_eq (h.parameter annotated) fun arg => .bind_eq (.eatOp rfl) fun _ => ?_
    exact .bind_eq (.atOp hclosing) fun _ => .ite (.pure rfl) .unexpected
  · refine .bind_eq (.eatOp rfl) fun _ => .ite (.ite (.failAt rfl hplaces) ?_) ?_
    · refine .bind_eq (.optional_eq (.look fun _ _ ht => kind_eq_of_sees ht rfl (by decide))
        (h.parameter annotated)) ?_
      exact fun vararg => .bind_eq (.eatOp rfl) fun _ => .pure rfl
    · refine .bind_eq (h.parameter annotated) fun arg => ?_
      refine .bind_eq (.optional_eq (.eatOp rfl) (h.below rfl)) fun default? => ?_
      refine .ite (.failAt rfl hplaces) ?_
      exact .bind_eq (.eatOp rfl) fun _ => .pure rfl

theorem parameters (h : c.Rules rule rule') {closing : String}
    (hclosing : c.Passes closing) (annotated : Bool) :
    c.Agrees (parameters rule closing annotated) (parameters rule' closing annotated) Eq := by
  refine .bind_eq (.iterate_eq fun s => h.parameterEntry hclosing annotated s) fun s => ?_
  exact .ite (.fail rfl) (.pure rfl)

/-! ## Conditions, lambdas and boolean operators -/

theorem named (h : c.Rules rule rule') : c.Agrees (named rule) (named rule') Eq := by
  refine .bind .peek fun t u ht => .bind_eq (h.below rfl) fun e => ?_
  refine .bind_eq (.eatOp rfl) fun _ => .ite ?_ (.pure rfl)
  cases e
  case name => exact .bind_eq (h.below rfl) fun _ => .pure rfl
  all_goals exact .failAt rfl (places_of_sees ht)

theorem test (h : c.Rules rule rule') : c.Agrees (test rule) (test rule') Eq := by
  refine .bind_eq (.atWord _) fun _ => .ite (h.below rfl) (.bind_eq (h.below rfl) fun body => ?_)
  refine .bind_eq (.eatWord _) fun _ => .ite ?_ (.pure rfl)
  refine .bind_eq (h.below rfl) fun condition => .bind_eq (.expectWord _) fun _ => ?_
  exact .bind_eq (.nested rfl (h.below rfl)) fun _ => .pure rfl

theorem testNoCond (h : c.Rules rule rule') : c.Agrees (testNoCond rule) (testNoCond rule') Eq :=
  .bind_eq (.atWord _) fun _ => .ite (h.below rfl) (h.below rfl)

theorem lambda (h : c.Rules rule rule') {body : Rule} (hbody : isWhole body = true) :
    c.Agrees (lambda rule body) (lambda rule' body) Eq := by
  refine .bind_eq (.expectWord _) fun _ => .bind_eq (h.parameters (.of rfl) _) fun args => ?_
  exact .bind_eq (.expectOp rfl) fun _ => .bind_eq (.nested rfl (h.below hbody)) fun _ => .pure rfl

theorem boolChain (h : c.Rules rule rule') (word : String) (op : BoolOperator) {operand : Rule}
    (hoperand : isWhole operand = true) :
    c.Agrees (boolChain rule word op operand) (boolChain rule' word op operand) Eq := by
  refine .bind_eq (.sepBy (.eatWord _) (h.below hoperand)) fun es => ?_
  split <;> exact .pure rfl

theorem notTest (h : c.Rules rule rule') : c.Agrees (notTest rule) (notTest rule') Eq :=
  .bind_eq (.eatWord _) fun _ =>
    .ite (.bind_eq (.nested rfl (h.below rfl)) fun _ => .pure rfl) (h.below rfl)

theorem comparison?_congr {t u : Token} (h : c.Sees t u) (next : Token) :
    comparison? t next = comparison? u next :=
  congr_of_sees_stops (comparison? · next) h (fun _ _ _ _ => rfl) (fun _ _ _ => rfl)
    ⟨none, fun _ _ => ⟨rfl, rfl⟩, fun _ => ⟨rfl, rfl⟩⟩

/-- First tokens that match spell the same comparison. -/
theorem comparison?_eq {t u t' u' : Token} (h : c.Sees t u) (h' : c.Sees t' u') :
    comparison? t t' = comparison? u u' := by
  have hnext : ∀ v : Token, comparison? v t' = comparison? v u' := by
    intro v
    unfold comparison?
    rw [isWord_of_sees h' "in", isWord_of_sees h' "not"]
  rw [hnext]
  exact comparison?_congr h u'

/-- Only a token with text that is no bracket spells a comparison, and if it takes the next one, so
is that. -/
theorem isPlain_of_comparison? {t next : Token} {op : Comparison} {both : Bool}
    (h : comparison? t next = some (op, both)) :
    t.isPlain = true ∧ (both = true → next.isPlain = true) := by
  have hop : ∀ text, t.kind = .op → t.text = text → Layout.isBracketText text = false →
      t.isPlain = true := fun text hk ht hb => isPlain_of_isOp (isOp_of_kind hk ht) hb
  have hname : t.kind = .name → t.isPlain = true := fun hk =>
    isPlain_of_kind (by rw [hk]; rfl) (by rw [hk]; exact nofun)
  unfold comparison? at h
  split at h
  · next hk ht => cases h; exact ⟨hop _ hk ht rfl, nofun⟩
  · next hk ht => cases h; exact ⟨hop _ hk ht rfl, nofun⟩
  · next hk ht => cases h; exact ⟨hop _ hk ht rfl, nofun⟩
  · next hk ht => cases h; exact ⟨hop _ hk ht rfl, nofun⟩
  · next hk ht => cases h; exact ⟨hop _ hk ht rfl, nofun⟩
  · next hk ht => cases h; exact ⟨hop _ hk ht rfl, nofun⟩
  · next hk _ => cases h; exact ⟨hname hk, nofun⟩
  · next hk _ =>
    split at h
    · next hnext => exact ⟨hname hk, fun _ => isPlain_of_isWord hnext⟩
    · exact nomatch h
  · next hk _ =>
    split at h
    · next hnext => exact ⟨hname hk, fun _ => isPlain_of_isWord hnext⟩
    · cases h
      exact ⟨hname hk, nofun⟩
  · exact nomatch h

/-- Only a token with text that is no bracket spells a comparison. -/
theorem comparison?_eq_none {t : Token} (ht : t.isPlain = false) (next : Token) :
    comparison? t next = none := by
  cases h : comparison? t next with
  | none => rfl
  | some r => exact absurd (isPlain_of_comparison? h).1 (by rw [ht]; exact nofun)

theorem comparisonTail (h : c.Rules rule rule') :
    c.Agrees (comparisonTail rule) (comparisonTail rule') Eq := by
  intro k ts us n m hs hn
  have ht := sees hs
  rw [Parser.comparisonTail, Parser.comparisonTail, outcome_peek_bind, outcome_peekNext_bind,
    outcome_peek_bind, outcome_peekNext_bind]
  cases hplain : (current ts).isPlain with
  | false =>
    rw [← comparison?_congr ht, comparison?_eq_none hplain, comparison?_eq_none hplain]
    exact .ok ⟨rfl, hs⟩
  | true =>
    have hdrop := c.plain hs hplain
    rw [← comparison?_eq ht (sees hdrop)]
    cases hspelled : comparison? (current ts) (current (dropCurrent ts)) with
    | none => exact .ok ⟨rfl, hs⟩
    | some r =>
      obtain ⟨op, both⟩ := r
      have hoperand : c.Agrees (do return some (op, ← rule .bitOr))
          (do return some (op, ← rule' .bitOr)) Eq := .bind_eq (h.below rfl) fun _ => .pure rfl
      cases both with
      | false => exact hoperand k _ _ n m hdrop hn
      | true =>
        have hnext := (isPlain_of_comparison? hspelled).2 rfl
        exact hoperand k _ _ n m (c.plain hdrop hnext) hn

theorem comparison (h : c.Rules rule rule') : c.Agrees (comparison rule) (comparison rule') Eq := by
  refine .bind_eq (h.below rfl) fun left => .bind_eq (.many_eq h.comparisonTail) fun rest => ?_
  split <;> exact .pure rfl

/-! ## Arithmetic -/

/-- No operator of a level is a bracket. -/
theorem isBracketText_of_ofToken? {text : String} {op : Operator}
    (h : Operator.ofToken? text = some op) : Layout.isBracketText text = false := by
  unfold Operator.ofToken? at h
  split at h
  all_goals first | rfl | exact nomatch h

theorem operatorTail (h : c.Rules rule rule') (operators : List String) {operand : Rule}
    (hoperand : isWhole operand = true) :
    c.Agrees (operatorTail rule operators operand) (operatorTail rule' operators operand) Eq := by
  refine .peek_bind fun t u ht => ?_
  have heq : (if t.kind == .op && operators.contains t.text then Operator.ofToken? t.text else none)
      = if u.kind == .op && operators.contains u.text then Operator.ofToken? u.text else none := by
    refine congr_of_sees_stops (fun t => if t.kind == .op && operators.contains t.text
      then Operator.ofToken? t.text else none) ht (fun _ _ _ _ => rfl) (fun _ _ _ => rfl)
      ⟨none, fun _ _ => ⟨rfl, rfl⟩, fun _ => ⟨?_, ?_⟩⟩
    · show (if _ then Operator.ofToken? ")" else none) = none
      split <;> rfl
    · show (if _ then Operator.ofToken? ";" else none) = none
      split <;> rfl
  rw [← heq]
  split
  · exact AgreesWhen.of (.pure rfl)
  · next hop =>
    have hplain : t.isPlain = true := by
      split at hop
      · next hcond =>
        rw [Bool.and_eq_true, beq_iff_eq] at hcond
        exact isPlain_of_isOp (isOp_of_kind hcond.1 rfl) (isBracketText_of_ofToken? hop)
      · exact nomatch hop
    refine AgreesWhen.advance_bind (fun _ hv => hv ▸ hplain) fun _ _ _ _ => ?_
    exact Agrees.bind_eq (h.below hoperand) fun _ => .pure rfl

theorem operatorChain (h : c.Rules rule rule') (operators : List String) {operand : Rule}
    (hoperand : isWhole operand = true) :
    c.Agrees (operatorChain rule operators operand) (operatorChain rule' operators operand) Eq :=
  .bind_eq (h.below hoperand) fun _ => .bind_eq (.many_eq (h.operatorTail operators hoperand))
    fun _ => .pure rfl

theorem isPlain_of_sign? {t : Token} {op : UnaryOperator} (h : sign? t = some op) :
    t.isPlain = true := by
  unfold sign? at h
  split at h
  · next hk ht => exact isPlain_of_isOp (isOp_of_kind hk ht) rfl
  · next hk ht => exact isPlain_of_isOp (isOp_of_kind hk ht) rfl
  · next hk ht => exact isPlain_of_isOp (isOp_of_kind hk ht) rfl
  · exact nomatch h

theorem factor (h : c.Rules rule rule') : c.Agrees (factor rule) (factor rule') Eq := by
  refine .peek_bind fun t u ht => ?_
  rw [← show sign? t = sign? u from
    congr_of_sees_stops sign? ht (fun _ _ _ _ => rfl) (fun _ _ _ => rfl)
      ⟨none, fun _ _ => ⟨rfl, rfl⟩, fun _ => ⟨rfl, rfl⟩⟩]
  cases hsign : sign? t with
  | none => exact AgreesWhen.of (h.below rfl)
  | some op =>
    refine AgreesWhen.advance_bind (fun _ hv => hv ▸ isPlain_of_sign? hsign) fun _ _ _ _ => ?_
    exact Agrees.bind_eq (.nested rfl (h.below rfl)) fun _ => .pure rfl

theorem power (h : c.Rules rule rule') : c.Agrees (power rule) (power rule') Eq := by
  refine .bind_eq (h.below rfl) fun base => .bind_eq (.eatOp rfl) fun _ => .ite ?_ (.pure rfl)
  exact .bind_eq (.nested rfl (h.below rfl)) fun _ => .pure rfl

/-! ## Comprehensions -/

/-- An expression becomes the same target, or is refused for the same cause. -/
theorem asTarget {here there : Span} (hp : c.Places here there) (u : Usage) (e : Expr) :
    c.Results Eq (e.asTarget u here) (e.asTarget u there) := by
  have hspec := retarget_spec u e
  unfold Expr.asTarget
  split
  · exact .ok rfl
  · next heq =>
    rw [heq] at hspec
    obtain ⟨what, rfl⟩ := hspec
    exact .error (hp _ (by cases u <;> rfl))

theorem clause (h : c.Rules rule rule') : c.Agrees (clause rule) (clause rule') Eq := by
  refine .bind_eq (.eatWord _) fun isAsync => .bind_eq (.expectWord _) fun _ => ?_
  refine .bind .peek fun t u ht => .bind_eq (h.below rfl) fun e => ?_
  refine .bind_eq (.ofExcept (asTarget (places_of_sees ht) _ _)) fun target => ?_
  refine .bind_eq (.expectWord _) fun _ => .bind_eq (h.below rfl) fun iter => ?_
  exact .bind_eq (.many_eq (.optional_eq (.eatWord _) (h.below rfl))) fun ifs => .pure rfl

theorem clauses (h : c.Rules rule rule') : c.Agrees (clauses rule) (clauses rule') Eq :=
  .many_eq (.optional_eq .startsClause h.clause)

/-! ## Calls and subscripts -/

/-- Whether a comma and then no closing parenthesis comes first. -/
theorem isOp_and_isOp_eq {k : Nat} {ts us : List Token} (hs : c.streams (k + 1) ts us) :
    ((current ts).isOp "," && !(current (dropCurrent ts)).isOp ")") =
      ((current us).isOp "," && !(current (dropCurrent us)).isOp ")") := by
  rw [← isOp_of_inside hs]
  cases hop : (current ts).isOp "," with
  | false => rfl
  | true => rw [isOp_of_inside (c.plain hs (isPlain_of_isOp hop rfl))]

theorem plainArgument (h : c.Rules rule rule') (s : CallArguments) {here there : Span}
    (hp : c.Places here there) :
    c.inside.Agrees (plainArgument rule s here) (plainArgument rule' s there) Eq := by
  have hp : c.inside.Places here there := hp
  refine .bind_eq (h.inside.below rfl) fun e => .bind_eq (.eatOp rfl) fun _ => .ite ?_ ?_
  · cases e
    case name => exact .bind_eq (h.inside.below rfl) fun _ => .pure rfl
    all_goals exact .failAt rfl hp
  · refine .bind_eq .startsClause fun _ => .ite ?_ ?_
    swap
    · exact .ite (.failAt rfl hp) (.ite (.failAt rfl hp) (.pure rfl))
    refine .bind_eq h.inside.clauses fun generators k ts us n m hs hn => ?_
    show c.Results _
      (outcome (if (!s.args.isEmpty || !s.keywords.isEmpty ||
          ((current ts).isOp "," && !(current (dropCurrent ts)).isOp ")")) = true
        then failAt here .bareGenerator else pure (s.addArg (.generatorExp _ generators))) n ts)
      (outcome (if (!s.args.isEmpty || !s.keywords.isEmpty ||
          ((current us).isOp "," && !(current (dropCurrent us)).isOp ")")) = true
        then failAt there .bareGenerator else pure (s.addArg (.generatorExp _ generators))) m us)
    rw [isOp_and_isOp_eq hs]
    exact Agrees.ite (.failAt rfl hp) (.pure rfl) k ts us n m hs hn

theorem argument (h : c.Rules rule rule') (s : CallArguments) :
    c.inside.Agrees (argument rule s) (argument rule' s) Eq := by
  refine .bind .peek fun t u ht => .bind_eq (.eatOp rfl) fun _ => .ite ?_ ?_
  · refine .ite (.failAt rfl (places_of_sees ht)) ?_
    exact .bind_eq (h.inside.below rfl) fun _ => .pure rfl
  · refine .bind_eq (.eatOp rfl) fun _ => .ite (.bind_eq (h.inside.below rfl) fun _ => .pure rfl) ?_
    exact h.plainArgument s (places_of_sees (c := c.inside) ht)

theorem arguments (h : c.Rules rule rule') :
    c.inside.Agrees (arguments rule) (arguments rule') Eq := by
  refine .iterate_eq fun s => .bind_eq (.atOp_inside _) fun _ => .ite (.pure rfl) ?_
  exact .bind_eq (h.argument s) fun _ => .bind_eq (.eatOp rfl) fun _ => .pure rfl

theorem optionalTest (h : c.Rules rule rule') :
    c.Agrees (optionalTest rule) (optionalTest rule') Eq :=
  .bind_eq (.atOp (.of rfl)) fun _ =>
    .ite (.pure rfl) (.optional_eq .startsExpression (h.below rfl))

theorem subscript (h : c.Rules rule rule') : c.Agrees (subscript rule) (subscript rule') Eq := by
  refine .bind_eq (.bind_eq (.atOp (.of rfl)) fun _ =>
    .ite (.pure rfl) (.bind_eq (h.below rfl) fun _ => .pure rfl))
    fun lower => .bind_eq (.eatOp rfl) fun _ => .ite ?_ ?_
  · refine .bind_eq h.optionalTest fun upper => .bind_eq ?_ fun step => .pure rfl
    exact .bind_eq (.eatOp rfl) fun _ => .ite h.optionalTest (.pure rfl)
  · cases lower with
    | none => exact .unexpected
    | some e => exact .pure rfl

theorem subscripts (h : c.Rules rule rule') :
    c.Agrees (subscripts rule) (subscripts rule') Eq := by
  refine .bind_eq (h.below rfl) fun first => .bind_eq (.atOp (.of rfl)) fun _ => ?_
  refine .ite ?_ (.pure rfl)
  exact .bind_eq (itemsUntil (.of rfl) (h.below rfl)) fun _ => .pure rfl

/-! ## Primaries -/

theorem opens_of_isOp {op : String} (hop : Layout.isOpening op = true) (t : Token)
    (h : t.isOp op = true) : t.kind = .op ∧ Layout.isOpening t.text = true := by
  obtain ⟨hkind, htext⟩ := kind_text_of_isOp h
  exact ⟨hkind, htext ▸ hop⟩

theorem trailer (h : c.Rules rule rule') : c.Agrees (trailer rule) (trailer rule') Eq := by
  refine .ifAtOp (.of rfl) (.nested rfl ?_) (.ifAtOp (.of rfl) (.nested rfl ?_) ?_)
  · refine AgreesWhen.opening_bind (opens_of_isOp rfl) fun _ _ _ _ => ?_
    exact Closes.bind_eq h.arguments fun a => .then_eq (.expectOp rfl) fun _ => .pure rfl
  · refine AgreesWhen.opening_bind (opens_of_isOp rfl) fun _ _ _ _ => ?_
    exact Closes.bind_eq (h.inside.below rfl) fun slice =>
      .then_eq (.expectOp rfl) fun _ => .pure rfl
  · exact .bind_eq (.eatOp rfl) fun _ => .ite (.bind_eq .identifier fun _ => .pure rfl) (.pure rfl)

theorem primary (h : c.Rules rule rule') : c.Agrees (primary rule) (primary rule') Eq := by
  refine .bind_eq (.eatWord _) fun awaited => .bind_eq (h.below rfl) fun atom => ?_
  exact .bind_eq (.many_eq h.trailer) fun trailers => .pure rfl

/-- Runs of literals that match are read alike. -/
def Strings (c : Likeness) (read read' : List Token → Parser Expr) : Prop :=
  ∀ ts us, List.Forall₂ (fun t u => c.token t u ∧ t.kind = .string) ts us →
    c.Agrees (read ts) (read' us) Eq

/-- No literals at all are no expression, so runs need to be read alike only if there is one. -/
theorem Strings.of_ne_nil {spell spell' : List Char → List Char}
    (h : ∀ ts us, List.Forall₂ (fun t u => c.token t u ∧ t.kind = .string) ts us → ts ≠ [] →
      c.Agrees (strings spell rule ts) (strings spell' rule' us) Eq) :
    Strings c (strings spell rule) (strings spell' rule') := by
  intro ts us hts
  by_cases hne : ts = []
  · subst hne
    cases hts
    exact .unexpected
  · exact h ts us hts hne

theorem atom {spell spell' : List Char → List Char} (h : c.Rules rule rule')
    (hs : Strings c (strings spell rule) (strings spell' rule')) :
    c.Agrees (atom spell rule) (atom spell' rule') Eq := by
  refine .peek_bind fun t u ht => ?_
  rcases ht with ht | ⟨stop, hstop, hu⟩
  swap
  · -- the first run is at its end, where the second one goes on with no operator
    rintro k ts us n m ⟨rfl, hts⟩ hn
    obtain ⟨hop, htext⟩ := kind_text_of_isOp hu
    obtain ⟨hkinds, hstops⟩ := c.stops_cases hstop
    have hdots : (current us).isOp "..." = false := by
      rw [← isOp_of_sees (sees hts) (.of rfl), Token.isOp]
      rcases hkinds with hkind | hkind <;> rw [hkind] <;> rfl
    have hopening : ¬ (u.text = "(" ∨ u.text = "[" ∨ u.text = "\x7b") := by
      rw [htext]
      rcases hstops with rfl | rfl <;> decide
    rw [hop]
    dsimp only
    rw [if_neg hopening, outcome_bind (eatOp "..."), eatOp, outcome_eatIf, hdots]
    rcases hkinds with hkind | hkind <;> rw [hkind] <;>
    · show c.Results _ (outcome Parser.unexpected n ts) (outcome Parser.unexpected m us)
      rw [outcome_unexpected, outcome_unexpected]
      exact refused hts
  have hknown : ∀ {k : TokenKind}, t.kind = k → k.isContent = true → k ≠ .op →
      ∀ v, v = t → v.isPlain = true := by
    rintro _ rfl hk hop _ rfl
    exact isPlain_of_kind hk hop
  rw [← c.kind ht]
  split
  · next hop =>
    rw [← text_eq ht (by rw [hop]; decide) (by rw [hop]; decide)]
    split
    · next hopen =>
      refine .nested rfl (h.bracketed.mono ?_)
      rintro _ rfl
      refine ⟨hop, ?_⟩
      rcases hopen with hopen | hopen | hopen <;> rw [hopen] <;> rfl
    · refine AgreesWhen.of ?_
      exact Agrees.bind_eq (.eatOp rfl) fun _ => .ite (.pure rfl) .unexpected
  · next hnumber =>
    rw [← text_eq ht (by rw [hnumber]; decide) (by rw [hnumber]; decide)]
    refine AgreesWhen.advance_bind (hknown hnumber rfl (by decide)) fun _ _ _ _ => ?_
    split
    · exact Agrees.pure rfl
    · exact Agrees.failAt rfl (places_of_token ht)
  · exact AgreesWhen.of (.bind (.many (.optionalKind rfl (by decide))) fun ts us hts => hs ts us hts)
  · next hname =>
    rw [← text_eq ht (by rw [hname]; decide) (by rw [hname]; decide)]
    split
    · exact AgreesWhen.advance_bind (hknown hname rfl (by decide)) fun _ _ _ _ => Agrees.pure rfl
    · exact AgreesWhen.of (.bind_eq .identifier fun _ => .pure rfl)
  · exact AgreesWhen.of .unexpected

/-! ## Brackets -/

theorem inside_agrees (h : c.Rules rule rule') (closing : String) :
    c.inside.Agrees (Parser.inside rule closing) (Parser.inside rule' closing) Eq := by
  refine .bind_eq (h.inside.below rfl) fun first => .bind_eq .startsClause fun _ => .ite ?_ ?_
  · exact .bind_eq h.inside.clauses fun _ => .pure rfl
  · refine .bind_eq (.atOp_inside _) fun _ => ?_
    exact .bind_eq (itemsUntil (c := c.inside) (fun _ _ hs => hs.elim) (h.inside.below rfl)) fun _ => .pure rfl

theorem parenthesized (h : c.Rules rule rule') :
    c.Closes (parenthesized rule) (parenthesized rule') Eq := by
  refine .ifEatOp rfl (.pure rfl) (.bind_eq (.atWord _) fun _ => .ite ?_ ?_)
  · exact .bind_eq (h.inside.below rfl) fun _ => .then_eq (.expectOp rfl) fun _ => .pure rfl
  · refine .bind_eq (h.inside_agrees _) fun content => .then_eq (.expectOp rfl) fun _ => ?_
    split <;> exact .pure rfl

theorem listDisplay (h : c.Rules rule rule') :
    c.Closes (listDisplay rule) (listDisplay rule') Eq := by
  refine .ifEatOp rfl (.pure rfl) (.bind_eq (h.inside_agrees _) fun content => ?_)
  refine .then_eq (.expectOp rfl) fun _ => ?_
  split <;> exact .pure rfl

theorem brackets (h : c.Rules rule rule') :
    c.AgreesWhen (fun t => t.kind = .op ∧ Layout.isOpening t.text = true) (Parser.bracketed rule)
      (Parser.bracketed rule') Eq := by
  refine AgreesWhen.opening_bind (fun _ ht => ht) fun t u ht _ => ?_
  simp only [text_eq_iff ht (show Layout.isOpening "(" = true from rfl),
    text_eq_iff ht (show Layout.isOpening "[" = true from rfl)]
  exact Closes.ite h.parenthesized (.ite h.listDisplay h.dictOrSet)

theorem dictEntry (h : c.Rules rule rule') : c.Agrees (dictEntry rule) (dictEntry rule') Eq := by
  refine .bind_eq (.eatOp rfl) fun _ => .ite (.bind_eq (h.below rfl) fun _ => .pure rfl) ?_
  refine .bind_eq (h.below rfl) fun key => ?_
  exact .bind_eq (.expectOp rfl) fun _ => .bind_eq (h.below rfl) fun _ => .pure rfl

theorem dictRest (h : c.Rules rule rule') (first : Option Expr × Expr) :
    c.Closes (dictRest rule first) (dictRest rule' first) Eq := by
  refine .bind_eq (.many_eq (.bind_eq (.eatOp rfl) fun _ => .ite ?_ (.pure rfl))) fun rest => ?_
  · refine .bind_eq (.atOp_inside _) fun _ => .ite (.pure rfl) ?_
    exact .bind_eq h.inside.dictEntry fun _ => .pure rfl
  · exact .then_eq (.expectOp rfl) fun _ => .pure rfl

theorem setRest (h : c.Rules rule rule') (first : Expr) :
    c.Closes (setRest rule first) (setRest rule' first) Eq := by
  refine .bind_eq .startsClause fun _ => .ite (.bind_eq h.inside.clauses fun _ => ?_)
    (.bind_eq (itemsUntil (c := c.inside) (fun _ _ hs => hs.elim) (h.inside.below rfl)) fun _ => ?_)
  · exact .then_eq (.expectOp rfl) fun _ => .pure rfl
  · exact .then_eq (.expectOp rfl) fun _ => .pure rfl

theorem braces (h : c.Rules rule rule') :
    c.Closes (Parser.dictOrSet rule) (Parser.dictOrSet rule') Eq := by
  refine .ifEatOp rfl (.pure rfl) (.bind_eq (.eatOp rfl) fun _ => .ite ?_ ?_)
  · exact .bind_eq (h.inside.below rfl) fun _ => h.dictRest _
  · refine .bind_eq (h.inside.below rfl) fun first => .ite (h.setRest first) ?_
    refine .bind_eq (.eatOp rfl) fun _ => .ite ?_ ?_
    · refine .bind_eq (h.inside.below rfl) fun value => .bind_eq .startsClause fun _ =>
        .ite ?_ (h.dictRest _)
      exact .bind_eq h.inside.clauses fun _ => .then_eq (.expectOp rfl) fun _ => .pure rfl
    · exact h.setRest first

theorem yielding (h : c.Rules rule rule') : c.Agrees (yielding rule) (yielding rule') Eq := by
  refine .bind_eq (.expectWord _) fun _ => .bind_eq (.eatWord _) fun _ => .ite ?_ ?_
  · exact .bind_eq (h.below rfl) fun _ => .pure rfl
  · exact .bind_eq (.optional_eq .startsExpression (h.below rfl)) fun _ => .pure rfl

/-! ## All rules -/

/-- What the rules say agrees if the rules below and runs of literals do. -/
theorem body {spell spell' : List Char → List Char} (h : c.Rules rule rule')
    (hs : Strings c (strings spell rule) (strings spell' rule')) :
    c.Rules (Rule.body spell rule) (Rule.body spell' rule') := by
  refine ⟨fun {r} hr => ?_, h.brackets, h.braces⟩
  cases r with
  | starTestList => exact h.listOrTuple rfl
  | testList => exact h.listOrTuple rfl
  | exprList => exact h.listOrTuple rfl
  | starOrTest => exact h.starOr rfl
  | starOrExpr => exact h.starOr rfl
  | starOrNamed => exact h.starOr rfl
  | star => exact h.star
  | named => exact h.named
  | test => exact h.test
  | testNoCond => exact h.testNoCond
  | lambda => exact h.lambda rfl
  | lambdaNoCond => exact h.lambda rfl
  | orTest => exact h.boolChain _ _ rfl
  | andTest => exact h.boolChain _ _ rfl
  | notTest => exact h.notTest
  | comparison => exact h.comparison
  | bitOr => exact h.operatorChain _ rfl
  | bitXor => exact h.operatorChain _ rfl
  | bitAnd => exact h.operatorChain _ rfl
  | shift => exact h.operatorChain _ rfl
  | sum => exact h.operatorChain _ rfl
  | term => exact h.operatorChain _ rfl
  | factor => exact h.factor
  | power => exact h.power
  | primary => exact h.primary
  | atom => exact h.atom hs
  | bracketed => exact nomatch hr
  | dictOrSet => exact nomatch hr
  | subscripts => exact h.subscripts
  | subscript => exact h.subscript
  | yielding => exact h.yielding

end Rules

/-- The rules agree at all levels of references, if runs of literals do whenever the rules below
them do.  The second run may go deeper.  As a literal may hold expressions that are alike in another
sense than the literal itself, there is a likeness for each sense. -/
theorem rules_run {ι : Type} {c : ι → Likeness} {spell spell' : List Char → List Char}
    (hs : ∀ rule rule', (∀ i, (c i).Rules rule rule') →
      ∀ i, Rules.Strings (c i) (strings spell rule) (strings spell' rule'))
    {fuel fuel' : Nat} (hle : fuel ≤ fuel') (i : ι) :
    (c i).Rules (Rule.run spell fuel) (Rule.run spell' fuel') := by
  induction fuel generalizing fuel' i with
  | zero =>
    exact ⟨fun _ _ _ _ _ _ _ _ => .excused (c i).fuel, fun _ _ _ _ _ _ _ => .excused (c i).fuel,
      fun _ _ _ _ _ _ _ => .excused (c i).fuel⟩
  | succ fuel ih =>
    cases fuel' with
    | zero => exact absurd hle (Nat.not_succ_le_zero fuel)
    | succ fuel' =>
      have hbelow := fun j => ih (Nat.le_of_succ_le_succ hle) j
      exact (hbelow i).body (hs _ _ hbelow i)

end Likeness

/-- The expression of a field is read alike if its tokens match, whatever stands around it. -/
theorem TokenLikeness.embedded {c : TokenLikeness} {eof : c.token (current []) (current [])}
    {rule rule' : Rule → Parser Expr} (h : (c.throughout eof).Rules rule rule')
    {text text' : List Char} {base base' : Nat}
    (htokens : ∀ n m, c.nesting n m → c.Results (List.Forall₂ c.token)
      (tokenizeEmbedded text base (n.limit - n.depth))
      (tokenizeEmbedded text' base' (m.limit - m.depth))) (S : Streams) :
    c.Relates S (embedded rule text base) (embedded rule' text' base')
      fun e e' ts us => e = e' ∧ S ts us := by
  have hvalue : (c.throughout eof).Agrees
      (do
        if ← atKind .endMarker then fail .fieldEmpty
        else
          let value ← yieldOr rule .starTestList
          if ← atKind .endMarker then return value else fail .fieldTrailing)
      (do
        if ← atKind .endMarker then fail .fieldEmpty
        else
          let value ← yieldOr rule' .starTestList
          if ← atKind .endMarker then return value else fail .fieldTrailing) Eq := by
    refine .bind_eq (.atKind fun _ _ hs => hs.elim) fun _ => .ite (.fail rfl) ?_
    refine .bind_eq (h.yieldOr rfl) fun value => .bind_eq (.atKind fun _ _ hs => hs.elim) fun _ => ?_
    exact .ite (.pure rfl) (.fail rfl)
  refine Relates.read_bind fun ts us n m hs hn => ?_
  refine (Relates.withTokens_ofExcept (S := S) (htokens n m hn) (hvalue 0) ts us n m hs hn).mono ?_
  rintro r r' ⟨⟨_, _, heq, -⟩, hs⟩
  exact ⟨heq, hs⟩

end PythonSyntax.Parser
