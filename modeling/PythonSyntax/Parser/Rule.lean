import PythonSyntax.Parser.Basic
import PythonSyntax.Tree.Expr

/-
The rules of the expression grammar, from lists of expressions down to atoms.

A rule refers to others, so each is written against a family `rule : Rule → Parser Expr` of all of
them; a finite number of levels of such references is then a parser.
-/

namespace PythonSyntax

/-- The rules whose trees are expressions. -/
inductive Rule where
  /-- Expressions and starred items, a tuple if there is a comma. -/
  | starTestList
  /-- Expressions, a tuple if there is a comma. -/
  | testList
  /-- Expressions without comparisons and conditions, and starred items: loop targets. -/
  | exprList
  /-- A starred item or an expression. -/
  | starOrTest
  /-- A starred item or an expression without comparisons and conditions. -/
  | starOrExpr
  /-- A starred item or an expression that may assign to a name. -/
  | starOrNamed
  /-- A starred item. -/
  | star
  /-- An expression that may assign to a name. -/
  | named
  /-- A conditional expression or a `lambda`. -/
  | test
  /-- `test` without a condition at its end. -/
  | testNoCond
  | lambda
  | lambdaNoCond
  | orTest
  | andTest
  | notTest
  | comparison
  | bitOr
  | bitXor
  | bitAnd
  | shift
  | sum
  | term
  /-- An operand of a product, with its signs. -/
  | factor
  | power
  /-- An atom with its calls, subscripts and attributes. -/
  | primary
  | atom
  /-- What begins with an opening bracket. -/
  | bracketed
  | dictOrSet
  | subscripts
  | subscript
  | yielding
deriving DecidableEq, Repr

namespace Parser

/-- The reserved words that can begin an expression. -/
def startingWords : List String := ["None", "True", "False", "not", "lambda", "await"]

/-- The operators and brackets that can begin an expression. -/
def startingOps : List String := ["(", "[", "\x7b", "-", "+", "~", "...", "*"]

/-- Whether a token can begin an expression. -/
def beginsExpression (t : Token) : Bool :=
  match t.kind with
  | .number | .string => true
  | .name => !isKeyword t.text || startingWords.contains t.text
  | .op => startingOps.contains t.text
  | _ => false

/-- Whether the current token can begin an expression. -/
def startsExpression : Parser Bool := return beginsExpression (← peek)

/-- Whether the current token begins a clause of a comprehension. -/
def startsClause : Parser Bool := do
  if ← atWord "for" then return true
  else if ← atWord "async" then return (← peekNext).isWord "for"
  else return false

/-- A `yield`, or what a rule says. -/
def yieldOr (rule : Rule → Parser Expr) (item : Rule) : Parser Expr := do
  if ← atWord "yield" then rule .yielding else rule item

end Parser

end PythonSyntax
