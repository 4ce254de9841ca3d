import PythonSyntax.Parser.Expression
import PythonSyntax.Tree.Stmt

/-
Parsing statements.

A statement may hold blocks of statements, so the rules for them refer to each other as those for
expressions do.  `expr` is the family of the expression rules.
-/

namespace PythonSyntax

/-- The rules whose trees are lists of statements. -/
inductive StmtRule where
  /-- A compound statement, or a line of simple ones. -/
  | statement
  /-- A colon, and a line of simple statements or an indented block. -/
  | suite
  /-- An `if` or `elif`, with all that belongs to it. -/
  | conditional
deriving DecidableEq, Repr

namespace Parser

section

variable (expr : Rule → Parser Expr)

/-! ## Imports and names -/

/-- Names with commas between them. -/
def nameList : Parser (List String) := sepBy (eatOp ",") identifier

/-- A name, or names with dots between them. -/
def dottedName : Parser String := return ".".intercalate (← sepBy (eatOp ".") identifier)

/-- A name after `as`, if there is one. -/
def asName : Parser (Option String) := optional (eatWord "as") identifier

/-- `'import' dotted_name ['as' name] (',' ...)*` -/
def importing : Parser Stmt := do
  expectWord "import"
  return .importing (← sepBy (eatOp ",") (return ⟨← dottedName, ← asName⟩))

/-- The dots in front of a module: how many, in one token. -/
def dots : Parser (Option Nat) := do
  if ← eatOp "." then return some 1
  else if ← eatOp "..." then return some 3
  else return none

/-- A name that is imported from a module. -/
def importAlias : Parser Alias := return ⟨← identifier, ← asName⟩

/-- A further name that is imported, after a comma; in parentheses the last comma may stand before
the closing one. -/
def importRest (inParens : Bool) : Parser (Option Alias) := do
  if ← eatOp "," then
    if inParens && (← atOp ")") then return none
    else if !inParens && (← atKind .newline) then fail .trailingImportComma
    else return some (← importAlias)
  else return none

/-- The module after `level` dots; after at least one dot it may be missing. -/
def importedModule (level : Nat) : Parser (Option String) := do
  if (← atWord "import") && 0 < level then return none else return some (← dottedName)

/-- Names with commas between them, up to the closing parenthesis if there is one. -/
def aliasList (inParens : Bool) : Parser (List Alias) := do
  let first ← importAlias
  return first :: (← many (importRest inParens))

/-- The names that are imported from a module: a star, or a list that may be in parentheses. -/
def importedNames : Parser (List Alias) := do
  if ← eatOp "*" then return [⟨"*", none⟩]
  else if ← eatOp "(" then
    let names ← aliasList true
    expectOp ")"
    return names
  else aliasList false

/-- `'from' dots module 'import' names` -/
def importFrom : Parser Stmt := do
  expectWord "from"
  let level := (← many dots).foldl (· + ·) 0
  let module? ← importedModule level
  expectWord "import"
  return .importFrom module? (← importedNames) level

/-! ## Assignments -/

/-- Why an expression cannot be annotated, if it cannot. -/
def annotationRefusal? : Expr → Option Cause
  | .name .. | .attr .. | .subscript .. => none
  | .tuple .. => some .cannotAnnotateTuple
  | .list .. => some .cannotAnnotateList
  | e => some (.cannotAnnotate e.describe)

/-- Whether an expression is a name. -/
def isName : Expr → Bool
  | .name .. => true
  | _ => false

/-- The rest of an annotated assignment, after its target, which begins with `start`. -/
def annotated (target : Expr) (start : Token) : Parser Stmt := do
  expectOp ":"
  match annotationRefusal? target with
  | some cause => failAt start.span cause
  | none =>
    let simple := isName target && !start.isOp "("
    let target ← ofExcept (target.asTarget .store start.span)
    let annotation ← expr .test
    let value ← optional (eatOp "=") (yieldOr expr .starTestList)
    return .annAssign target annotation value simple

/-- The rest of an augmented assignment, from its operator on. -/
def augmented (target : Expr) (op : Operator) (start : Token) : Parser Stmt := do
  let _ ← advance
  if target.isSingleTarget then
    let target ← ofExcept (target.asTarget .store start.span)
    return .augAssign target op (← yieldOr expr .testList)
  else failAt start.span .cannotAugment

/-- A further value of a chain of assignments, with the place where it begins. -/
def assigned : Parser (Option (Expr × Span)) := do
  if ← eatOp "=" then
    let here := (← peek).span
    return some (← yieldOr expr .starTestList, here)
  else return none

/-- The assignment of the last of some values to all before it. -/
def assignment (first : Expr × Span) (rest : List (Expr × Span)) : Except SyntaxError Stmt := do
  let targets ← (first :: rest.dropLast).mapM fun (e, here) => e.asTarget .store here
  return .assign targets ((rest.getLast?.map Prod.fst).getD first.1)

/-- The operator of an augmented assignment token. -/
def augmentedOperator? (t : Token) : Option Operator :=
  if t.kind = .op then Operator.ofAugmented? t.text else none

/-- An expression, or an assignment of any kind. -/
def exprStatement : Parser Stmt := do
  let start ← peek
  let first ← yieldOr expr .starTestList
  if ← atOp ":" then annotated expr first start
  else
    match augmentedOperator? (← peek) with
    | some op => augmented expr first op start
    | none =>
      match ← many (assigned expr) with
      | [] => return .expr first
      | rest => ofExcept (assignment (first, start.span) rest)

/-! ## Simple statements -/

/-- `'raise' [test ['from' test]]` -/
def raising : Parser Stmt := do
  expectWord "raise"
  if ← startsExpression then
    let exc ← expr .test
    let cause ← optional (eatWord "from") (expr .test)
    return .raising (some exc) cause
  else return .raising none none

/-- `'del' targets` -/
def deleting : Parser Stmt := do
  expectWord "del"
  let here := (← peek).span
  let (items, _) ← listItems expr .starOrExpr
  return .delete (← ofExcept (items.mapM (Expr.asTarget .del here)))

/-- `'assert' test [',' test]` -/
def asserting : Parser Stmt := do
  expectWord "assert"
  let condition ← expr .test
  return .asserting condition (← optional (eatOp ",") (expr .test))

/-- `'return' [expressions]` -/
def returning : Parser Stmt := do
  expectWord "return"
  return .returning (← optional startsExpression (expr .starTestList))

/-- A statement that is one word. -/
def oneWord (s : Stmt) : Parser Stmt := do
  let _ ← advance
  return s

/-- A statement without blocks. -/
def smallStatement : Parser Stmt := do
  let t ← peek
  if t.kind = .name then
    match t.text with
    | "pass" => oneWord .pass
    | "break" => oneWord .breaking
    | "continue" => oneWord .continuing
    | "return" => returning expr
    | "raise" => raising expr
    | "global" =>
      let _ ← advance
      return .globals (← nameList)
    | "nonlocal" =>
      let _ ← advance
      return .nonlocals (← nameList)
    | "del" => deleting expr
    | "assert" => asserting expr
    | "import" => importing
    | "from" => importFrom
    | _ => exprStatement expr
  else exprStatement expr

/-- A line of simple statements with semicolons between them, and perhaps one after the last. -/
def simpleStatements : Parser (List Stmt) := do
  let first ← smallStatement expr
  let rest ← many do
    if ← eatOp ";" then
      if ← atKind .newline then return none else return some (← smallStatement expr)
    else return none
  expectNewline
  return first :: rest

/-! ## Compound statements -/

variable (rule : StmtRule → Parser (List Stmt))

/-- The block of an `else`, if there is one. -/
def elseSuite : Parser (List Stmt) := do
  if ← eatWord "else" then rule .suite else return []

/-- What follows the block of an `if` or `elif`. -/
def elifOrElse : Parser (List Stmt) := do
  if ← atWord "elif" then rule .conditional else elseSuite rule

/-- An `if` or `elif`, its block, and what follows it. -/
def conditional : Parser Stmt := do
  let _ ← advance
  let condition ← expr .named
  let body ← rule .suite
  return .ifElse condition body (← elifOrElse rule)

/-- `'while' test suite ['else' suite]` -/
def whileLoop : Parser Stmt := do
  expectWord "while"
  let condition ← expr .named
  let body ← rule .suite
  return .whileLoop condition body (← elseSuite rule)

/-- `'for' targets 'in' expressions suite ['else' suite]` -/
def forLoop (isAsync : Bool) : Parser Stmt := do
  expectWord "for"
  let here := (← peek).span
  let target ← ofExcept ((← expr .exprList).asTarget .store here)
  expectWord "in"
  let iter ← expr .testList
  let body ← rule .suite
  return .forLoop isAsync target iter body (← elseSuite rule)

/-- The handlers read so far, and the place of the one that catches everything. -/
structure Handlers where
  handlers : List ExceptHandler
  bare : Option Span

/-- An `except` clause, if there is one. -/
def handler (s : Handlers) : Parser (Handlers × Bool) := do
  let here := (← peek).span
  if ← eatWord "except" then
    match s.bare with
    | some span => failAt span .bareExceptNotLast
    | none =>
      if ← atOp ":" then
        let body ← rule .suite
        return (⟨s.handlers ++ [⟨none, none, body⟩], some here⟩, true)
      else
        let exception ← expr .test
        let name ← asName
        let body ← rule .suite
        return (⟨s.handlers ++ [⟨some exception, name, body⟩], none⟩, true)
  else return (s, false)

/-- The block of an `else` after handlers, if there are any. -/
def elseAfter (handlers : List ExceptHandler) : Parser (List Stmt) :=
  if handlers.isEmpty then return [] else elseSuite rule

/-- The block of a `finally`, if there is one. -/
def finalSuite : Parser (List Stmt) := do
  if ← eatWord "finally" then rule .suite else return []

/-- A `try` with its handlers and final block, one of which there must be. -/
def tryBlock : Parser Stmt := do
  expectWord "try"
  let body ← rule .suite
  let handlers := (← iterate (handler expr rule) ⟨[], none⟩).handlers
  let orelse ← elseAfter rule handlers
  let finalbody ← finalSuite rule
  if handlers.isEmpty && finalbody.isEmpty then unexpected
  else return .tryBlock body handlers orelse finalbody

/-- `test ['as' target]` -/
def withItem : Parser WithItem := do
  let context ← expr .test
  if ← eatWord "as" then
    let here := (← peek).span
    let target ← ofExcept ((← expr .bitOr).asTarget .store here)
    return ⟨context, some target⟩
  else return ⟨context, none⟩

/-- `'with' items suite` -/
def withBlock (isAsync : Bool) : Parser Stmt := do
  expectWord "with"
  let items ← sepBy (eatOp ",") (withItem expr)
  return .withBlock isAsync items (← rule .suite)

/-- `'def' name '(' parameters ')' ['->' test] suite` -/
def functionDef (decorators : List Expr) (isAsync : Bool) : Parser Stmt := do
  expectWord "def"
  let name ← identifier
  expectOp "("
  let args ← parameters expr ")" true
  expectOp ")"
  let returns ← optional (eatOp "->") (expr .test)
  let body ← rule .suite
  return .functionDef isAsync name args body decorators returns

/-- Arguments in parentheses, if there are any. -/
def optionalArguments : Parser (Option CallArguments) := do
  if ← eatOp "(" then
    let a ← arguments expr
    expectOp ")"
    return some a
  else return none

/-- `'class' name ['(' arguments ')'] suite` -/
def classDef (decorators : List Expr) : Parser Stmt := do
  expectWord "class"
  let name ← identifier
  let a := (← optionalArguments expr).getD ⟨[], []⟩
  return .classDef name a.args a.keywords (← rule .suite) decorators

/-- `dotted_name ['(' arguments ')']` -/
def decorator : Parser Expr := do
  let first ← identifier
  let attrs ← many (optional (eatOp ".") identifier)
  let e := attrs.foldl (fun e name => .attr e name .load) (Expr.load first)
  match ← optionalArguments expr with
  | some a => return .call e a.args a.keywords
  | none => return e

/-- A decorator on its line, if there is one. -/
def decoratorLine : Parser (Option Expr) := do
  if ← eatOp "@" then
    let e ← decorator expr
    expectNewline
    return some e
  else return none

/-- Decorators, and the definition that they belong to. -/
def decorated : Parser Stmt := do
  let decorators ← many (decoratorLine expr)
  let t ← peek
  if t.isWord "def" then functionDef expr rule decorators false
  else if t.isWord "class" then classDef expr rule decorators
  else if t.isWord "async" && (← peekNext).isWord "def" then
    let _ ← advance
    functionDef expr rule decorators true
  else unexpected

/-- `'async'` before a definition, a loop or a `with`. -/
def asyncStatement : Parser Stmt := do
  expectWord "async"
  let t ← peek
  if t.isWord "def" then functionDef expr rule [] true
  else if t.isWord "for" then forLoop expr rule true
  else if t.isWord "with" then withBlock expr rule true
  else unexpected

/-- A compound statement, or a line of simple ones. -/
def statement : Parser (List Stmt) := do
  let t ← peek
  if t.isOp "@" then return [← decorated expr rule]
  else if t.kind = .name then
    match t.text with
    | "if" => rule .conditional
    | "while" => return [← whileLoop expr rule]
    | "for" => return [← forLoop expr rule false]
    | "try" => return [← tryBlock expr rule]
    | "with" => return [← withBlock expr rule false]
    | "def" => return [← functionDef expr rule [] false]
    | "class" => return [← classDef expr rule []]
    | "async" => return [← asyncStatement expr rule]
    | _ => simpleStatements expr
  else simpleStatements expr

/-- A statement of an indented block; `none` at the end of the block. -/
def blockItem : Parser (Option (List Stmt)) := do
  match (← peek).kind with
  | .dedent =>
    let _ ← advance
    return none
  | .endMarker => return none
  | _ => return some (← rule .statement)

/-- A colon, and a line of simple statements or an indented block. -/
def suite : Parser (List Stmt) := do
  expectOp ":"
  if ← eatIf (·.kind == .newline) then
    if ← eatIf (·.kind == .indent) then
      nested .tooManyLevels (return (← many (blockItem rule)).flatten)
    else fail .missingBlock
  else simpleStatements expr

/-- A statement of a program, or nothing for an empty line; `none` at the end. -/
def fileItem : Parser (Option (List Stmt)) := do
  match (← peek).kind with
  | .endMarker => return none
  | .newline =>
    let _ ← advance
    return some []
  | _ => return some (← rule .statement)

/-- A program. -/
def file : Parser Module := return ⟨(← many (fileItem rule)).flatten⟩

end

end Parser

namespace StmtRule

/-- What a rule says, in terms of all the rules. -/
def body (expr : Rule → Parser Expr) (rule : StmtRule → Parser (List Stmt)) :
    StmtRule → Parser (List Stmt)
  | statement => Parser.statement expr rule
  | suite => Parser.suite expr rule
  | conditional => return [← Parser.conditional expr rule]

/-- A rule, with references to rules followed at most `fuel` levels deep. -/
def run (spell : List Char → List Char) : Nat → StmtRule → Parser (List Stmt)
  | 0, _ => Parser.fail .outOfFuel
  | fuel + 1, r => body (Rule.run spell fuel) (run spell fuel) r

end StmtRule

/-! ## Programs -/

/-- The default limit on nested brackets, blocks and chains of operators. -/
def defaultMaxNesting : Nat := 50

/-- Enough levels for any stream of tokens.  A rule refers to at most thirty others before it takes
a token, and the expressions in a string have at most as many tokens as the string has
characters. -/
def parseFuel (tokens : List Token) : Nat :=
  32 * tokens.foldl (fun n t => n + max 1 t.text.length) 1

/-- The tree of a program, in which the texts that fields show of themselves are as `spell` writes
them. -/
def parseSpelled (spell : List Char → List Char) (source : List Char) (maxNesting : Nat) :
    Except SyntaxError Module := do
  let tokens ← tokenize source maxNesting
  let program := Parser.file (StmtRule.run spell (parseFuel tokens))
  (program.exec maxNesting (.start tokens 0)).1

/-- The tree of a program. -/
def parseModule (source : List Char) (maxNesting : Nat) : Except SyntaxError Module :=
  parseSpelled id source maxNesting

end PythonSyntax
