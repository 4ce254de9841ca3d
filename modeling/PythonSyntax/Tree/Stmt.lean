import PythonSyntax.Tree.Expr

/-
Statement trees.
-/

namespace PythonSyntax

/-- An imported name and the name it is bound to, if that is another one. -/
structure Alias where
  name : String
  asName : Option String
deriving DecidableEq, Repr

/-- An item of a `with` statement. -/
structure WithItem where
  context : Expr
  vars : Option Expr

mutual

/-- A statement. -/
inductive Stmt where
  | functionDef (isAsync : Bool) (name : String) (args : Arguments) (body : List Stmt)
      (decorators : List Expr) (returns : Option Expr)
  | classDef (name : String) (bases : List Expr) (keywords : List Keyword) (body : List Stmt)
      (decorators : List Expr)
  | returning (value : Option Expr)
  | delete (targets : List Expr)
  | assign (targets : List Expr) (value : Expr)
  | augAssign (target : Expr) (op : Operator) (value : Expr)
  /-- `simple` holds when the target is a bare name. -/
  | annAssign (target annotation : Expr) (value : Option Expr) (simple : Bool)
  | forLoop (isAsync : Bool) (target iter : Expr) (body orelse : List Stmt)
  | whileLoop (test : Expr) (body orelse : List Stmt)
  | ifElse (test : Expr) (body orelse : List Stmt)
  | withBlock (isAsync : Bool) (items : List WithItem) (body : List Stmt)
  | raising (exc cause : Option Expr)
  | tryBlock (body : List Stmt) (handlers : List ExceptHandler) (orelse finalbody : List Stmt)
  | asserting (test : Expr) (msg : Option Expr)
  | importing (names : List Alias)
  /-- `level` counts the dots in front of the module. -/
  | importFrom (module? : Option String) (names : List Alias) (level : Nat)
  | globals (names : List String)
  | nonlocals (names : List String)
  | expr (value : Expr)
  | pass
  | breaking
  | continuing

/-- An `except` clause. -/
structure ExceptHandler where
  exception : Option Expr
  name : Option String
  body : List Stmt

end

/-- The tree of a whole program. -/
structure Module where
  body : List Stmt

end PythonSyntax
