import PythonSyntax.Tree.Constant

/-
Expression trees.

An `Expr` is the abstract syntax of an expression.  Names, attributes, subscripts, starred items
and displays say whether they are read, assigned or deleted by a `Usage`.
-/

namespace PythonSyntax

/-- Whether an expression is read, assigned or deleted. -/
inductive Usage where
  | load
  | store
  | del
deriving DecidableEq, Repr

/-- The operators that join conditions. -/
inductive BoolOperator where
  | and
  | or
deriving DecidableEq, Repr

/-- The binary operators on values. -/
inductive Operator where
  | add
  | sub
  | mult
  | matMult
  | div
  | mod
  | pow
  | lShift
  | rShift
  | bitOr
  | bitXor
  | bitAnd
  | floorDiv
deriving DecidableEq, Repr

/-- The unary operators. -/
inductive UnaryOperator where
  | invert
  | not
  | plus
  | minus
deriving DecidableEq, Repr

/-- The comparisons. -/
inductive Comparison where
  | eq
  | notEq
  | lt
  | ltE
  | gt
  | gtE
  | same
  | notSame
  | isIn
  | notIn
deriving DecidableEq, Repr

mutual

/-- An expression. -/
inductive Expr where
  | boolOp (op : BoolOperator) (values : List Expr)
  | namedExpr (target value : Expr)
  | binOp (left : Expr) (op : Operator) (right : Expr)
  | unaryOp (op : UnaryOperator) (operand : Expr)
  | lambda (args : Arguments) (body : Expr)
  | ifExp (test body orelse : Expr)
  /-- A key of `none` marks an entry that unpacks a mapping. -/
  | dict (keys : List (Option Expr)) (values : List Expr)
  | set (elts : List Expr)
  | listComp (elt : Expr) (generators : List Comprehension)
  | setComp (elt : Expr) (generators : List Comprehension)
  | dictComp (key value : Expr) (generators : List Comprehension)
  | generatorExp (elt : Expr) (generators : List Comprehension)
  | await (value : Expr)
  | yield (value : Option Expr)
  | yieldFrom (value : Expr)
  | compare (left : Expr) (ops : List Comparison) (comparators : List Expr)
  | call (func : Expr) (args : List Expr) (keywords : List Keyword)
  /-- The letter of a conversion says how the value becomes text before it is formatted. -/
  | formattedValue (value : Expr) (conversion : Option Char) (formatSpec : Option Expr)
  | joinedStr (values : List Expr)
  | constant (value : Constant)
  | attr (value : Expr) (name : String) (usage : Usage)
  | subscript (value slice : Expr) (usage : Usage)
  | starred (value : Expr) (usage : Usage)
  | name (id : String) (usage : Usage)
  | list (elts : List Expr) (usage : Usage)
  | tuple (elts : List Expr) (usage : Usage)
  | slice (lower upper step : Option Expr)

/-- The parameters of a function.  `kwDefaults` has an entry for every keyword-only parameter;
`defaults` belong to the last positional ones. -/
structure Arguments where
  posOnly : List Arg
  args : List Arg
  vararg : Option Arg
  kwOnly : List Arg
  kwDefaults : List (Option Expr)
  kwarg : Option Arg
  defaults : List Expr

/-- One parameter. -/
structure Arg where
  name : String
  annotation : Option Expr

/-- A `name=value` argument of a call; without a name it unpacks a mapping. -/
structure Keyword where
  name : Option String
  value : Expr

/-- One `for ... in ... if ...` clause of a comprehension. -/
structure Comprehension where
  target : Expr
  iter : Expr
  ifs : List Expr
  isAsync : Bool

end

namespace Operator

/-- The operator of a token. -/
def ofToken? (text : String) : Option Operator :=
  match text with
  | "+" => some add
  | "-" => some sub
  | "*" => some mult
  | "@" => some matMult
  | "/" => some div
  | "%" => some mod
  | "**" => some pow
  | "<<" => some lShift
  | ">>" => some rShift
  | "|" => some bitOr
  | "^" => some bitXor
  | "&" => some bitAnd
  | "//" => some floorDiv
  | _ => none

/-- The operator of an augmented assignment token: the token of the operator, and `=`. -/
def ofAugmented? (text : String) : Option Operator :=
  match text.toList.reverse with
  | '=' :: r => ofToken? (String.ofList r.reverse)
  | _ => none

end Operator

namespace Expr

/-- A name that is read. -/
def load (id : String) : Expr := .name id .load

/-- What error messages call an expression. -/
def describe : Expr → String
  | boolOp .. | binOp .. | unaryOp .. => "operator"
  | namedExpr .. => "named expression"
  | lambda .. => "lambda"
  | ifExp .. => "conditional expression"
  | dict .. => "dict display"
  | set .. => "set display"
  | listComp .. => "list comprehension"
  | setComp .. => "set comprehension"
  | dictComp .. => "dict comprehension"
  | generatorExp .. => "generator expression"
  | await .. => "await expression"
  | yield .. | yieldFrom .. => "yield expression"
  | compare .. => "comparison"
  | call .. => "function call"
  | formattedValue .. | joinedStr .. => "f-string expression"
  | constant .none => "None"
  | constant (.bool true) => "True"
  | constant (.bool false) => "False"
  | constant .ellipsis => "Ellipsis"
  | constant _ => "literal"
  | attr .. => "attribute"
  | subscript .. => "subscript"
  | starred .. => "starred"
  | name .. => "name"
  | list .. => "list"
  | tuple .. => "tuple"
  | slice .. => "slice"

/-- Whether the expression can be the target of an augmented assignment, or be annotated. -/
def isSingleTarget : Expr → Bool
  | name .. | attr .. | subscript .. => true
  | _ => false

end Expr

end PythonSyntax
