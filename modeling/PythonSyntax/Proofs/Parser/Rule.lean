import PythonSyntax.Proofs.Grammar.Expression
import PythonSyntax.Proofs.Parser.Reads

/-
References from rule to rule.

A rule refers to others before it takes a token, but only to rules of lower rank.  So the weight of
a stream and the rank of a rule bound the number of levels of references that can follow, and
`Below rule b` says that the rules do what they should wherever that number is below `b`.
-/

namespace PythonSyntax

/-- The rank of a rule: it is above those of the rules that the rule may begin with. -/
def Rule.rank : Rule → Nat
  | bracketed | star | lambda | lambdaNoCond | yielding => 0
  | atom => 1
  | primary => 2
  | power => 3
  | factor => 4
  | term => 5
  | sum => 6
  | shift => 7
  | bitAnd => 8
  | bitXor => 9
  | bitOr => 10
  | comparison => 11
  | notTest => 12
  | andTest => 13
  | orTest => 14
  | test | testNoCond => 15
  | named => 16
  | starOrTest | starOrExpr | starOrNamed => 17
  | starTestList | testList | exprList | subscript | dictOrSet => 18
  | subscripts => 19

theorem Rule.rank_lt (r : Rule) : r.rank < 20 := by
  cases r <;> decide

namespace Parser

variable {ts : List Token} {rule : Rule → Parser Expr} {b : Nat}

/-- The expression is a tree of the rule, and a token has been taken. -/
def Yields (r : Rule) (ts : List Token) (e : Expr) (us : List Token) : Prop :=
  weight us < weight ts ∧ Derives (.expr r e)

/-- The rules yield trees of theirs wherever weight and rank are below a bound.  The rule for
brackets may count on a bracket. -/
def Below (rule : Rule → Parser Expr) (b : Nat) : Prop :=
  ∀ r ts, 32 * weight ts + r.rank < b → (r = .bracketed → (current ts).kind ≠ .endMarker) →
    Reads ts (rule r) (Yields r ts)

/-- A rule of lower rank may stand at the front of another one. -/
theorem Below.front (h : Below rule b) {r : Rule} {s : List Token} {k : Nat}
    (hb : 32 * weight s + k ≤ b) (hk : r.rank < k) (hr : r ≠ .bracketed) :
    Reads s (rule r) (Yields r s) :=
  h r s (by omega) fun hr' => absurd hr' hr

/-- After a token any rule may stand. -/
theorem Below.later (h : Below rule b) {r : Rule} {s : List Token} (hb : 32 * weight s + 32 ≤ b)
    (hr : r ≠ .bracketed) : Reads s (rule r) (Yields r s) :=
  h r s (by have := r.rank_lt; omega) fun hr' => absurd hr' hr

end Parser

end PythonSyntax
