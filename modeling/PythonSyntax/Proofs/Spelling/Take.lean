import PythonSyntax.Parser.Statement
import PythonSyntax.Proofs.Parser.Outcome

/-
What the rules take.

For each rule of operator expressions, and each form of it, the outcome on a stream is put together
from the outcomes of the rules that it refers to.  Nothing is said of how these come about, so the
lemmas hold of any family of rules.
-/

namespace PythonSyntax.Parser

variable {α β : Type} {n : Nesting} {ts us vs : List Token} {rule : Rule → Parser Expr}
  {e e' : Expr}

/-! ## Looking ahead -/

theorem outcome_bind_of {p : Parser α} {a : α} (h : outcome p n ts = .ok (a, us))
    (f : α → Parser β) : outcome (p >>= f) n ts = outcome (f a) n us := by
  rw [outcome_bind, h]
  rfl

section

variable {p q : Parser α} {op word : String}

theorem ifAtOp_pos (h : (current ts).isOp op = true) :
    outcome (do if ← atOp op then p else q) n ts = outcome p n ts := by
  show outcome (if (current ts).isOp op = true then p else q) n ts = _
  rw [if_pos h]

theorem ifAtOp_neg (h : (current ts).isOp op = false) :
    outcome (do if ← atOp op then p else q) n ts = outcome q n ts := by
  show outcome (if (current ts).isOp op = true then p else q) n ts = _
  rw [if_neg (by rw [h]; exact Bool.false_ne_true)]

theorem ifAtWord_pos (h : (current ts).isWord word = true) :
    outcome (do if ← atWord word then p else q) n ts = outcome p n ts := by
  show outcome (if (current ts).isWord word = true then p else q) n ts = _
  rw [if_pos h]

theorem ifAtWord_neg (h : (current ts).isWord word = false) :
    outcome (do if ← atWord word then p else q) n ts = outcome q n ts := by
  show outcome (if (current ts).isWord word = true then p else q) n ts = _
  rw [if_neg (by rw [h]; exact Bool.false_ne_true)]

theorem outcome_advanceIf {condition : Bool} : outcome (advanceIf condition) n ts =
    .ok ((), if condition then dropCurrent ts else ts) := by
  cases condition <;> rfl

theorem outcome_atOp : outcome (atOp op) n ts = .ok ((current ts).isOp op, ts) := rfl

theorem outcome_eatOp_pos (h : (current ts).isOp op = true) :
    outcome (eatOp op) n ts = .ok (true, dropCurrent ts) := by
  rw [eatOp, outcome_eatIf, if_pos h]

theorem outcome_eatOp_neg (h : (current ts).isOp op = false) :
    outcome (eatOp op) n ts = .ok (false, ts) := by
  rw [eatOp, outcome_eatIf, if_neg (by rw [h]; exact Bool.false_ne_true)]

theorem outcome_eatWord_pos (h : (current ts).isWord word = true) :
    outcome (eatWord word) n ts = .ok (true, dropCurrent ts) := by
  rw [eatWord, outcome_eatIf, if_pos h]

theorem outcome_eatWord_neg (h : (current ts).isWord word = false) :
    outcome (eatWord word) n ts = .ok (false, ts) := by
  rw [eatWord, outcome_eatIf, if_neg (by rw [h]; exact Bool.false_ne_true)]

theorem outcome_expectOp (h : (current ts).isOp op = true) :
    outcome (expectOp op) n ts = .ok ((), dropCurrent ts) := by
  rw [expectOp, outcome_bind, outcome_expect, if_pos h]
  rfl

theorem outcome_expectWord (h : (current ts).isWord word = true) :
    outcome (expectWord word) n ts = .ok ((), dropCurrent ts) := by
  rw [expectWord, outcome_bind, outcome_expect, if_pos h]
  rfl

theorem ifEatOp_pos (h : (current ts).isOp op = true) :
    outcome (do if ← eatOp op then p else q) n ts = outcome p n (dropCurrent ts) := by
  rw [outcome_bind_of (outcome_eatOp_pos h), if_pos rfl]

theorem ifEatOp_neg (h : (current ts).isOp op = false) :
    outcome (do if ← eatOp op then p else q) n ts = outcome q n ts := by
  rw [outcome_bind_of (outcome_eatOp_neg h), if_neg Bool.false_ne_true]

theorem ifEatWord_pos (h : (current ts).isWord word = true) :
    outcome (do if ← eatWord word then p else q) n ts = outcome p n (dropCurrent ts) := by
  rw [outcome_bind_of (outcome_eatWord_pos h), if_pos rfl]

theorem ifEatWord_neg (h : (current ts).isWord word = false) :
    outcome (do if ← eatWord word then p else q) n ts = outcome q n ts := by
  rw [outcome_bind_of (outcome_eatWord_neg h), if_neg Bool.false_ne_true]

theorem ifStartsClause_neg (h : beginsClause ts = false) :
    outcome (do if ← startsClause then p else q) n ts = outcome q n ts := by
  rw [outcome_bind_of outcome_startsClause, if_neg (by rw [h]; exact Bool.false_ne_true)]

theorem outcome_deeper (cause : Cause) (h : n.depth < n.limit) :
    outcome (nested cause p) n ts = outcome p ⟨n.limit, n.depth + 1⟩ ts := by
  rw [outcome_nested, if_neg (by omega)]

end

/-! ## Items -/

/-- An item is taken again and again, until there is none. -/
inductive Items (item : Parser (Option α)) (n : Nesting) : List Token → List α → List Token → Prop
    where
  | done {s t} : outcome item n s = .ok (none, t) → Items item n s [] t
  | more {s t t' a as} : outcome item n s = .ok (some a, t) → t.length < s.length →
      Items item n t as t' → Items item n s (a :: as) t'

theorem Items.manyUpTo {item : Parser (Option α)} {as : List α} (h : Items item n ts as us)
    {bound : List Token} (hbound : ts.length < bound.length) :
    outcome (manyUpTo item bound) n ts = .ok (as, us) := by
  induction h generalizing bound with
  | done h =>
    cases bound with
    | nil => cases hbound
    | cons t bound =>
      rw [Parser.manyUpTo, outcome_bind_of h]
      rfl
  | more h hlt _ ih =>
    cases bound with
    | nil => cases hbound
    | cons t bound =>
      rw [List.length_cons] at hbound
      rw [Parser.manyUpTo, outcome_bind_of h]
      dsimp only
      rw [outcome_bind_of (ih (by omega))]
      rfl

theorem Items.many {item : Parser (Option α)} {as : List α} (h : Items item n ts as us) :
    outcome (many item) n ts = .ok (as, us) := by
  have hlength : ts.length < (current ts :: ts).length := Nat.lt_succ_self _
  exact h.manyUpTo hlength

/-! ## Conditions and boolean operators -/

/-- A condition may be left out. -/
theorem test_plain (hl : (current ts).isWord "lambda" = false)
    (hbody : outcome (rule .orTest) n ts = .ok (e, us)) (hif : (current us).isWord "if" = false) :
    outcome (test rule) n ts = .ok (e, us) := by
  rw [test, ifAtWord_neg hl, outcome_bind_of hbody, ifEatWord_neg hif]
  rfl

theorem test_condition {condition orelse : Expr} {ws : List Token}
    (hl : (current ts).isWord "lambda" = false)
    (hbody : outcome (rule .orTest) n ts = .ok (e, us)) (hif : (current us).isWord "if" = true)
    (hcondition : outcome (rule .orTest) n (dropCurrent us) = .ok (condition, vs))
    (helse : (current vs).isWord "else" = true) (hn : n.depth < n.limit)
    (horelse : outcome (rule .test) ⟨n.limit, n.depth + 1⟩ (dropCurrent vs) = .ok (orelse, ws)) :
    outcome (test rule) n ts = .ok (.ifExp condition e orelse, ws) := by
  rw [test, ifAtWord_neg hl, outcome_bind_of hbody, ifEatWord_pos hif, outcome_bind_of hcondition,
    outcome_bind_of (outcome_expectWord helse),
    outcome_bind_of ((outcome_deeper _ hn).trans horelse)]
  rfl

/-- The operands of a chain, of which there is at least one. -/
theorem boolChain_take {word : String} {op : BoolOperator} {operand : Rule} {es : List Expr}
    (hfirst : outcome (rule operand) n ts = .ok (e, us))
    (hrest : Items (optional (eatWord word) (rule operand)) n us es vs) :
    outcome (boolChain rule word op operand) n ts =
      .ok (if es = [] then e else .boolOp op (e :: es), vs) := by
  have hitems : outcome (sepBy (eatWord word) (rule operand)) n ts = .ok (e :: es, vs) := by
    rw [sepBy, outcome_bind_of hfirst, outcome_bind_of hrest.many]
    rfl
  rw [boolChain, outcome_bind_of hitems]
  cases es <;> rfl

theorem notTest_plain (h : (current ts).isWord "not" = false)
    (hbody : outcome (rule .comparison) n ts = .ok (e, us)) :
    outcome (notTest rule) n ts = .ok (e, us) := by
  rw [notTest, ifEatWord_neg h, hbody]

theorem notTest_not (h : (current ts).isWord "not" = true) (hn : n.depth < n.limit)
    (hbody : outcome (rule .notTest) ⟨n.limit, n.depth + 1⟩ (dropCurrent ts) = .ok (e, us)) :
    outcome (notTest rule) n ts = .ok (.unaryOp .not e, us) := by
  rw [notTest, ifEatWord_pos h, outcome_bind_of ((outcome_deeper _ hn).trans hbody)]
  rfl

/-! ## Comparisons -/

theorem comparisonTail_none (h : comparison? (current ts) (current (dropCurrent ts)) = none) :
    outcome (comparisonTail rule) n ts = .ok (none, ts) := by
  rw [comparisonTail, outcome_peek_bind, outcome_peekNext_bind, h]
  rfl

/-- A comparison of one word or two. -/
theorem comparisonTail_some {op : Comparison} {both : Bool}
    (h : comparison? (current ts) (current (dropCurrent ts)) = some (op, both))
    (hright : outcome (rule .bitOr) n
      (if both then dropCurrent (dropCurrent ts) else dropCurrent ts) = .ok (e, us)) :
    outcome (comparisonTail rule) n ts = .ok (some (op, e), us) := by
  rw [comparisonTail, outcome_peek_bind, outcome_peekNext_bind, h]
  dsimp only
  rw [outcome_bind_of outcome_advance, outcome_bind_of outcome_advanceIf, outcome_bind_of hright]
  rfl

theorem comparison_take {rest : List (Comparison × Expr)}
    (hfirst : outcome (rule .bitOr) n ts = .ok (e, us))
    (hrest : Items (comparisonTail rule) n us rest vs) :
    outcome (comparison rule) n ts =
      .ok (if rest = [] then e else .compare e (rest.map Prod.fst) (rest.map Prod.snd), vs) := by
  rw [comparison, outcome_bind_of hfirst, outcome_bind_of hrest.many]
  cases rest <;> rfl

/-! ## Arithmetic -/

theorem operatorTail_none {operators : List String} {operand : Rule}
    (h : ∀ op ∈ operators, (current ts).isOp op = false) :
    outcome (operatorTail rule operators operand) n ts = .ok (none, ts) := by
  have hnone : ((current ts).kind == .op && operators.contains (current ts).text) = false := by
    rw [Bool.and_eq_false_iff, Classical.or_iff_not_imp_left, Bool.not_eq_false]
    intro hkind
    rw [Bool.eq_false_iff, ne_eq, List.contains_iff_mem]
    intro hmem
    have := h _ hmem
    rw [Token.isOp, hkind, beq_self_eq_true] at this
    cases this
  rw [operatorTail, outcome_peek_bind, hnone]
  rfl

theorem operatorTail_some {operators : List String} {operand : Rule} {op : Operator}
    (hkind : (current ts).kind = .op) (hmem : (current ts).text ∈ operators)
    (hop : Operator.ofToken? (current ts).text = some op)
    (hright : outcome (rule operand) n (dropCurrent ts) = .ok (e, us)) :
    outcome (operatorTail rule operators operand) n ts = .ok (some (op, e), us) := by
  have hsome : ((current ts).kind == .op && operators.contains (current ts).text) = true := by
    rw [Bool.and_eq_true, beq_iff_eq, List.contains_iff_mem]
    exact ⟨hkind, hmem⟩
  rw [operatorTail, outcome_peek_bind, if_pos hsome, hop]
  dsimp only
  rw [outcome_bind_of outcome_advance, outcome_bind_of hright]
  rfl

/-- Operands of a level of arithmetic are joined from the left. -/
abbrev joinLeft (e : Expr) (rest : List (Operator × Expr)) : Expr :=
  rest.foldl (fun left (op, right) => .binOp left op right) e

theorem operatorChain_take {operators : List String} {operand : Rule}
    {rest : List (Operator × Expr)} (hfirst : outcome (rule operand) n ts = .ok (e, us))
    (hrest : Items (operatorTail rule operators operand) n us rest vs) :
    outcome (operatorChain rule operators operand) n ts = .ok (joinLeft e rest, vs) := by
  rw [operatorChain, outcome_bind_of hfirst, outcome_bind_of hrest.many]
  rfl

theorem factor_plain (h : sign? (current ts) = none)
    (hbody : outcome (rule .power) n ts = .ok (e, us)) :
    outcome (factor rule) n ts = .ok (e, us) := by
  rw [factor, outcome_peek_bind, h]
  exact hbody

theorem factor_sign {op : UnaryOperator} (h : sign? (current ts) = some op) (hn : n.depth < n.limit)
    (hbody : outcome (rule .factor) ⟨n.limit, n.depth + 1⟩ (dropCurrent ts) = .ok (e, us)) :
    outcome (factor rule) n ts = .ok (.unaryOp op e, us) := by
  rw [factor, outcome_peek_bind, h]
  dsimp only
  rw [outcome_bind_of outcome_advance, outcome_bind_of ((outcome_deeper _ hn).trans hbody)]
  rfl

theorem power_plain (hbase : outcome (rule .primary) n ts = .ok (e, us))
    (h : (current us).isOp "**" = false) : outcome (power rule) n ts = .ok (e, us) := by
  rw [power, outcome_bind_of hbase, ifEatOp_neg h]
  rfl

theorem power_take (hbase : outcome (rule .primary) n ts = .ok (e, us))
    (h : (current us).isOp "**" = true) (hn : n.depth < n.limit)
    (hexponent : outcome (rule .factor) ⟨n.limit, n.depth + 1⟩ (dropCurrent us) = .ok (e', vs)) :
    outcome (power rule) n ts = .ok (.binOp e .pow e', vs) := by
  rw [power, outcome_bind_of hbase, ifEatOp_pos h,
    outcome_bind_of ((outcome_deeper _ hn).trans hexponent)]
  rfl

/-! ## Calls, subscripts and attributes -/

theorem primary_take {trailers : List Trailer} (h : (current ts).isWord "await" = false)
    (hatom : outcome (rule .atom) n ts = .ok (e, us))
    (htrailers : Items (trailer rule) n us trailers vs) :
    outcome (primary rule) n ts = .ok (trailers.foldl Trailer.apply e, vs) := by
  rw [primary, outcome_bind_of (outcome_eatWord_neg h), outcome_bind_of hatom,
    outcome_bind_of htrailers.many]
  rfl

theorem trailer_none (hcall : (current ts).isOp "(" = false)
    (hsubscript : (current ts).isOp "[" = false) (hattr : (current ts).isOp "." = false) :
    outcome (trailer rule) n ts = .ok (none, ts) := by
  rw [trailer, ifAtOp_neg hcall, ifAtOp_neg hsubscript, ifEatOp_neg hattr]
  rfl

theorem outcome_identifier (h : (current ts).isIdentifier = true) :
    outcome identifier n ts = .ok (normalizeIdentifier (current ts).text, dropCurrent ts) := by
  rw [identifier, outcome_bind, outcome_expect, if_pos h]
  rfl

theorem trailer_attr (hcall : (current ts).isOp "(" = false)
    (hsubscript : (current ts).isOp "[" = false) (h : (current ts).isOp "." = true)
    (hname : (current (dropCurrent ts)).isIdentifier = true) :
    outcome (trailer rule) n ts =
      .ok (some (.attr (normalizeIdentifier (current (dropCurrent ts)).text)),
        dropCurrent (dropCurrent ts)) := by
  rw [trailer, ifAtOp_neg hcall, ifAtOp_neg hsubscript, ifEatOp_pos h,
    outcome_bind_of (outcome_identifier hname)]
  rfl

theorem trailer_subscript (hcall : (current ts).isOp "(" = false)
    (h : (current ts).isOp "[" = true) (hn : n.depth < n.limit)
    (hslice : outcome (rule .subscripts) ⟨n.limit, n.depth + 1⟩ (dropCurrent ts) = .ok (e, us))
    (hclose : (current us).isOp "]" = true) :
    outcome (trailer rule) n ts = .ok (some (.subscript e), dropCurrent us) := by
  rw [trailer, ifAtOp_neg hcall, ifAtOp_pos h, outcome_deeper _ hn, outcome_bind_of outcome_advance,
    outcome_bind_of hslice, outcome_bind_of (outcome_expectOp hclose)]
  rfl

theorem trailer_call {es : List Expr} {keywords : List Keyword} (h : (current ts).isOp "(" = true)
    (hn : n.depth < n.limit)
    (hargs : outcome (arguments rule) ⟨n.limit, n.depth + 1⟩ (dropCurrent ts) =
      .ok (⟨es, keywords⟩, us))
    (hclose : (current us).isOp ")" = true) :
    outcome (trailer rule) n ts = .ok (some (.call es keywords), dropCurrent us) := by
  rw [trailer, ifAtOp_pos h, outcome_deeper _ hn, outcome_bind_of outcome_advance,
    outcome_bind_of hargs, outcome_bind_of (outcome_expectOp hclose)]
  rfl

/-- A subscript that is no slice. -/
theorem subscript_plain (hfirst : (current ts).isOp ":" = false)
    (h : outcome (rule .test) n ts = .ok (e, us)) (hlast : (current us).isOp ":" = false) :
    outcome (subscript rule) n ts = .ok (e, us) := by
  have hlower : outcome (lowerBound rule) n ts = .ok (some e, us) := by
    rw [lowerBound, ifAtOp_neg hfirst, outcome_bind_of h]
    rfl
  rw [subscript, outcome_bind_of hlower, ifEatOp_neg hlast]
  rfl

theorem subscripts_single (h : outcome (rule .subscript) n ts = .ok (e, us))
    (hcomma : (current us).isOp "," = false) :
    outcome (subscripts rule) n ts = .ok (e, us) := by
  rw [subscripts, outcome_bind_of h, ifAtOp_neg hcomma]
  rfl

theorem named_plain (h : outcome (rule .test) n ts = .ok (e, us))
    (hwalrus : (current us).isOp ":=" = false) : outcome (named rule) n ts = .ok (e, us) := by
  rw [named, outcome_peek_bind, outcome_bind_of h, ifEatOp_neg hwalrus]
  rfl

/-! ## Steps with commas between them -/

section

variable {σ : Type} {step : σ → Parser (σ × Bool)} {s s' : σ} {b : Token} {bound : List Token}

theorem outcome_iterateUpTo_stop (h : outcome (step s) n ts = .ok ((s', false), us)) :
    outcome (iterateUpTo step (b :: bound) s) n ts = .ok (s', us) := by
  rw [iterateUpTo, outcome_bind_of h]
  rfl

theorem outcome_iterateUpTo_goOn (h : outcome (step s) n ts = .ok ((s', true), us)) :
    outcome (iterateUpTo step (b :: bound) s) n ts = outcome (iterateUpTo step bound s') n us := by
  rw [iterateUpTo, outcome_bind_of h]
  rfl

/-- A state, whether a comma stands behind it, and what stands behind the comma. -/
def afterComma (s : σ) (ts : List Token) : (σ × Bool) × List Token :=
  if (current ts).isOp "," then ((s, true), dropCurrent ts) else ((s, false), ts)

theorem outcome_comma (s : σ) :
    outcome (do return (s, ← eatOp ",")) n ts = .ok (afterComma s ts) := by
  unfold afterComma
  cases h : (current ts).isOp "," with
  | false => rw [outcome_bind_of (outcome_eatOp_neg h)]; rfl
  | true => rw [outcome_bind_of (outcome_eatOp_pos h)]; rfl

end

/-! ## Arguments -/

/-- A positional argument, among others that are positional. -/
theorem argument_plain {es : List Expr} (hstar : (current ts).isOp "*" = false)
    (hstars : (current ts).isOp "**" = false) (h : outcome (rule .named) n ts = .ok (e, us))
    (hkeyword : (current us).isOp "=" = false) (hclause : beginsClause us = false) :
    outcome (argument rule ⟨es, []⟩) n ts = .ok (⟨es ++ [e], []⟩, us) := by
  rw [argument, outcome_peek_bind, ifEatOp_neg hstar, ifEatOp_neg hstars, plainArgument,
    outcome_bind_of h, ifEatOp_neg hkeyword, ifStartsClause_neg hclause]
  rfl

/-- A step through the arguments of a call: it goes on after a comma. -/
def argumentStep (rule : Rule → Parser Expr) (s : CallArguments) :
    Parser (CallArguments × Bool) := do
  if ← atOp ")" then return (s, false)
  else return (← argument rule s, ← eatOp ",")

theorem argumentStep_close {s : CallArguments} (h : (current ts).isOp ")" = true) :
    outcome (argumentStep rule s) n ts = .ok ((s, false), ts) :=
  (ifAtOp_pos h).trans (outcome_pure _)

theorem argumentStep_take {s s' : CallArguments} (h : (current ts).isOp ")" = false)
    (harg : outcome (argument rule s) n ts = .ok (s', us)) :
    outcome (argumentStep rule s) n ts = .ok (afterComma s' us) := by
  rw [argumentStep, ifAtOp_neg h, outcome_bind_of harg]
  exact outcome_comma s'

/-- Positional arguments with commas between them, up to the closing parenthesis. -/
inductive Args (rule : Rule → Parser Expr) (n : Nesting) :
    List Expr → List Token → List Expr → List Token → Prop where
  | done {as s} : (current s).isOp ")" = true → Args rule n as s as s
  | last {as a s t} : (current s).isOp ")" = false →
      outcome (argument rule ⟨as, []⟩) n s = .ok (⟨as ++ [a], []⟩, t) →
      (current t).isOp "," = false → Args rule n as s (as ++ [a]) t
  | more {as bs a s t t'} : (current s).isOp ")" = false →
      outcome (argument rule ⟨as, []⟩) n s = .ok (⟨as ++ [a], []⟩, t) →
      (current t).isOp "," = true → (dropCurrent t).length < s.length →
      Args rule n (as ++ [a]) (dropCurrent t) bs t' → Args rule n as s bs t'

theorem Args.iterateUpTo {es es' : List Expr} (h : Args rule n es ts es' us) {bound : List Token}
    (hbound : ts.length < bound.length) :
    outcome (iterateUpTo (argumentStep rule) bound ⟨es, []⟩) n ts = .ok (⟨es', []⟩, us) := by
  induction h generalizing bound with
  | done hclose =>
    cases bound with
    | nil => cases hbound
    | cons t bound =>
      exact outcome_iterateUpTo_stop (argumentStep_close hclose)
  | last hclose harg hcomma =>
    cases bound with
    | nil => cases hbound
    | cons t bound =>
      have hstep := argumentStep_take hclose harg
      rw [afterComma, hcomma] at hstep
      exact outcome_iterateUpTo_stop hstep
  | more hclose harg hcomma hlt _ ih =>
    cases bound with
    | nil => cases hbound
    | cons t bound =>
      rw [List.length_cons] at hbound
      have hstep := argumentStep_take hclose harg
      rw [afterComma, hcomma] at hstep
      rw [outcome_iterateUpTo_goOn hstep]
      exact ih (by omega)

theorem Args.arguments {es : List Expr} (h : Args rule n [] ts es us) :
    outcome (arguments rule) n ts = .ok (⟨es, []⟩, us) := by
  have hlength : ts.length < (current ts :: ts).length := Nat.lt_succ_self _
  exact h.iterateUpTo hlength

/-! ## Atoms -/

section

variable {spell : List Char → List Char}

theorem atom_name (h : (current ts).isIdentifier = true)
    (hword : wordConstant? (current ts).text = none) :
    outcome (atom spell rule) n ts =
      .ok (.name (normalizeIdentifier (current ts).text) .load, dropCurrent ts) := by
  have hkind : (current ts).kind = .name := by
    rw [Token.isIdentifier, Bool.and_eq_true, beq_iff_eq] at h
    exact h.1
  rw [atom, outcome_peek_bind]
  simp only [hkind, hword]
  rw [outcome_bind_of (outcome_identifier h)]
  rfl

theorem atom_number {c : Constant} (hkind : (current ts).kind = .number)
    (h : Number.parse (current ts).text.toList = .ok c) :
    outcome (atom spell rule) n ts = .ok (.constant c, dropCurrent ts) := by
  rw [atom, outcome_peek_bind]
  simp only [hkind]
  rw [outcome_bind_of outcome_advance, h]
  rfl

/-- A run of literals, which is all the tokens of strings that stand next to each other. -/
theorem atom_strings {tokens : List Token} (hkind : (current ts).kind = .string)
    (hitems : Items (optional (atKind .string) advance) n ts tokens us)
    (h : outcome (strings spell rule tokens) n us = .ok (e, vs)) :
    outcome (atom spell rule) n ts = .ok (e, vs) := by
  rw [atom, outcome_peek_bind]
  simp only [hkind]
  rw [outcome_bind_of hitems.many, h]

theorem atom_group (h : (current ts).isOp "(" = true) (hn : n.depth < n.limit)
    (hbody : outcome (rule .bracketed) ⟨n.limit, n.depth + 1⟩ ts = .ok (e, us)) :
    outcome (atom spell rule) n ts = .ok (e, us) := by
  rw [Token.isOp, Bool.and_eq_true, beq_iff_eq, beq_iff_eq] at h
  rw [atom, outcome_peek_bind]
  simp only [h.1]
  rw [if_pos (.inl h.2), outcome_deeper _ hn, hbody]

/-- An expression in parentheses. -/
theorem bracketed_group (hopen : (current ts).isOp "(" = true)
    (hempty : (current (dropCurrent ts)).isOp ")" = false)
    (hyield : (current (dropCurrent ts)).isWord "yield" = false)
    (h : outcome (rule .starOrNamed) n (dropCurrent ts) = .ok (e, us))
    (hclause : beginsClause us = false) (hclose : (current us).isOp ")" = true)
    (hcomma : (current us).isOp "," = false) :
    outcome (bracketed rule) n ts = .ok (e, dropCurrent us) := by
  have hparen : (current ts).text = "(" := by
    rw [Token.isOp, Bool.and_eq_true, beq_iff_eq, beq_iff_eq] at hopen
    exact hopen.2
  have hrest : outcome (itemsUntil ")" (rule .starOrNamed)) n us = .ok ([], us) :=
    (Items.done ((ifEatOp_neg hcomma).trans (outcome_pure _))).many
  have hinside : outcome (inside rule ")") n (dropCurrent ts) = .ok (.items [e] false, us) := by
    rw [inside, outcome_bind_of h, ifStartsClause_neg hclause,
      outcome_bind_of outcome_atOp, hcomma, outcome_bind_of hrest]
    rfl
  rw [bracketed, outcome_bind_of outcome_advance, if_pos hparen, parenthesized, ifEatOp_neg hempty,
    ifAtWord_neg hyield, outcome_bind_of hinside, outcome_bind_of (outcome_expectOp hclose)]
  rfl

end

/-! ## Lists and statements -/

theorem starOr_plain {item : Rule} (hstar : (current ts).isOp "*" = false)
    (h : outcome (rule item) n ts = .ok (e, us)) :
    outcome (starOr rule item) n ts = .ok (e, us) := by
  rw [starOr, ifAtOp_neg hstar, h]

theorem yieldOr_plain {item : Rule} (hyield : (current ts).isWord "yield" = false)
    (h : outcome (rule item) n ts = .ok (e, us)) : outcome (yieldOr rule item) n ts = .ok (e, us) :=
  (ifAtWord_neg hyield).trans h

theorem listOrTuple_single {item : Rule} (h : outcome (rule item) n ts = .ok (e, us))
    (hcomma : (current us).isOp "," = false) :
    outcome (listOrTuple rule item) n ts = .ok (e, us) := by
  have hitems : outcome (listItems rule item) n ts = .ok (([e], false), us) := by
    rw [listItems, outcome_bind_of h, outcome_bind_of outcome_atOp, hcomma,
      outcome_bind_of (Items.done ((ifEatOp_neg hcomma).trans (outcome_pure _))).many]
    rfl
  rw [listOrTuple, outcome_bind_of hitems]
  rfl

end PythonSyntax.Parser
