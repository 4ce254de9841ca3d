import PythonSyntax.Json
import PythonSyntax.Tree.Stmt

/-
Trees as JSON.

Every node is an object whose first field is `type`.  The other fields follow in a fixed order;
empty lists and absent parts are left out where the description of a node below uses `many` or
`maybe`.
-/

namespace PythonSyntax

/-! ## Nodes and fields -/

namespace Json

/-- A node: an object that names its type first. -/
def node (type : String) (fields : List (String × Json)) : Json :=
  obj (("type", ofString type) :: fields)

/-- A node that says nothing but its type. -/
def tag (type : String) : Json := node type []

/-- A list that is left out when it is empty. -/
def many (key : String) (items : List Json) : List (String × Json) :=
  if items.isEmpty then [] else [(key, arr items)]

/-- A part that may be absent. -/
def maybe (key : String) (value? : Option Json) : List (String × Json) :=
  (value?.map fun v => (key, v)).toList

end Json

open Json (node tag many maybe)

/-! ## Tags and constants -/

/-- The node of a usage. -/
def Usage.toJson : Usage → Json
  | .load => tag "Load"
  | .store => tag "Store"
  | .del => tag "Del"

/-- The node of a boolean operator. -/
def BoolOperator.toJson : BoolOperator → Json
  | .and => tag "And"
  | .or => tag "Or"

/-- The node of a binary operator. -/
def Operator.toJson : Operator → Json
  | .add => tag "Add"
  | .sub => tag "Sub"
  | .mult => tag "Mult"
  | .matMult => tag "MatMult"
  | .div => tag "Div"
  | .mod => tag "Mod"
  | .pow => tag "Pow"
  | .lShift => tag "LShift"
  | .rShift => tag "RShift"
  | .bitOr => tag "BitOr"
  | .bitXor => tag "BitXor"
  | .bitAnd => tag "BitAnd"
  | .floorDiv => tag "FloorDiv"

/-- The node of a unary operator. -/
def UnaryOperator.toJson : UnaryOperator → Json
  | .invert => tag "Invert"
  | .not => tag "Not"
  | .plus => tag "UAdd"
  | .minus => tag "USub"

/-- The node of a comparison. -/
def Comparison.toJson : Comparison → Json
  | .eq => tag "Eq"
  | .notEq => tag "NotEq"
  | .lt => tag "Lt"
  | .ltE => tag "LtE"
  | .gt => tag "Gt"
  | .gtE => tag "GtE"
  | .same => tag "Is"
  | .notSame => tag "IsNot"
  | .isIn => tag "In"
  | .notIn => tag "NotIn"

/-- The value of a constant. -/
def Constant.toJson : Constant → Json
  | none | ellipsis => .null
  | bool b => .bool b
  | int n => .nat n.toNat
  | bigInt text => .ofString text
  | float x | complex x => .ofBinary64 x
  | str t => .str t
  | bytes cs => .str (Text.ofChars cs)

/-! ## Expressions -/

mutual

/-- The node of an expression. -/
def Expr.toJson : Expr → Json
  | .boolOp op values => node "BoolOp" [("op", op.toJson), ("values", .arr (exprsToJson values))]
  | .namedExpr target value =>
    node "NamedExpr" [("target", target.toJson), ("value", value.toJson)]
  | .binOp left op right =>
    node "BinOp" [("left", left.toJson), ("op", op.toJson), ("right", right.toJson)]
  | .unaryOp op operand => node "UnaryOp" [("op", op.toJson), ("operand", operand.toJson)]
  | .lambda args body => node "Lambda" [("args", args.toJson), ("body", body.toJson)]
  | .ifExp test body orelse =>
    node "IfExp" [("test", test.toJson), ("body", body.toJson), ("orelse", orelse.toJson)]
  | .dict keys values =>
    node "Dict" (many "keys" (keysToJson keys) ++ many "values" (exprsToJson values))
  | .set elts => node "Set" [("elts", .arr (exprsToJson elts))]
  | .listComp elt gens =>
    node "ListComp" [("elt", elt.toJson), ("generators", .arr (comprehensionsToJson gens))]
  | .setComp elt gens =>
    node "SetComp" [("elt", elt.toJson), ("generators", .arr (comprehensionsToJson gens))]
  | .dictComp key value gens =>
    node "DictComp" [("key", key.toJson), ("value", value.toJson),
      ("generators", .arr (comprehensionsToJson gens))]
  | .generatorExp elt gens =>
    node "GeneratorExp" [("elt", elt.toJson), ("generators", .arr (comprehensionsToJson gens))]
  | .await value => node "Await" [("value", value.toJson)]
  | .yield value => node "Yield" (maybe "value" (exprToJson? value))
  | .yieldFrom value => node "YieldFrom" [("value", value.toJson)]
  | .compare left ops comparators =>
    node "Compare" [("left", left.toJson), ("ops", .arr (ops.map Comparison.toJson)),
      ("comparators", .arr (exprsToJson comparators))]
  | .call func args keywords =>
    node "Call" ([("func", func.toJson)] ++ many "args" (exprsToJson args)
      ++ many "keywords" (keywordsToJson keywords))
  | .formattedValue value conversion formatSpec =>
    node "FormattedValue" ([("value", value.toJson)]
      ++ maybe "conversion" (conversion.map Json.ofChar)
      ++ maybe "format_spec" (exprToJson? formatSpec))
  | .joinedStr values => node "JoinedStr" (many "values" (exprsToJson values))
  | .constant c => node "Constant" [("value", c.toJson), ("kind", .ofString c.kind)]
  | .attr value name usage =>
    node "Attribute" [("value", value.toJson), ("attr", .ofString name), ("ctx", usage.toJson)]
  | .subscript value slice usage =>
    node "Subscript" [("value", value.toJson), ("slice", slice.toJson), ("ctx", usage.toJson)]
  | .starred value usage => node "Starred" [("value", value.toJson), ("ctx", usage.toJson)]
  | .name id usage => node "Name" [("id", .ofString id), ("ctx", usage.toJson)]
  | .list elts usage => node "List" (many "elts" (exprsToJson elts) ++ [("ctx", usage.toJson)])
  | .tuple elts usage => node "Tuple" (many "elts" (exprsToJson elts) ++ [("ctx", usage.toJson)])
  | .slice lower upper step =>
    node "Slice" (maybe "lower" (exprToJson? lower) ++ maybe "upper" (exprToJson? upper)
      ++ maybe "step" (exprToJson? step))

/-- The node of a parameter list. -/
def Arguments.toJson : Arguments → Json
  | ⟨posOnly, args, vararg, kwOnly, kwDefaults, kwarg, defaults⟩ =>
    node "arguments" (many "posonlyargs" (argsToJson posOnly) ++ many "args" (argsToJson args)
      ++ maybe "vararg" (argToJson? vararg) ++ many "kwonlyargs" (argsToJson kwOnly)
      ++ many "kw_defaults" (keysToJson kwDefaults) ++ maybe "kwarg" (argToJson? kwarg)
      ++ many "defaults" (exprsToJson defaults))

/-- The node of a parameter. -/
def Arg.toJson : Arg → Json
  | ⟨name, annotation⟩ =>
    node "arg" ([("arg", .ofString name)] ++ maybe "annotation" (exprToJson? annotation))

/-- The node of a keyword argument. -/
def Keyword.toJson : Keyword → Json
  | ⟨name, value⟩ =>
    node "keyword" (maybe "arg" (name.map Json.ofString) ++ [("value", value.toJson)])

/-- The node of a comprehension clause. -/
def Comprehension.toJson : Comprehension → Json
  | ⟨target, iter, ifs, isAsync⟩ =>
    node "comprehension" ([("target", target.toJson), ("iter", iter.toJson)]
      ++ many "ifs" (exprsToJson ifs) ++ if isAsync then [("is_async", .bool true)] else [])

/-- The nodes of expressions. -/
def exprsToJson : List Expr → List Json
  | [] => []
  | e :: es => e.toJson :: exprsToJson es

/-- The node of an expression that may be absent. -/
def exprToJson? : Option Expr → Option Json
  | none => none
  | some e => some e.toJson

/-- The nodes of expressions, with null for an absent one. -/
def keysToJson : List (Option Expr) → List Json
  | [] => []
  | none :: es => .null :: keysToJson es
  | some e :: es => e.toJson :: keysToJson es

/-- The nodes of comprehension clauses. -/
def comprehensionsToJson : List Comprehension → List Json
  | [] => []
  | c :: cs => c.toJson :: comprehensionsToJson cs

/-- The nodes of keyword arguments. -/
def keywordsToJson : List Keyword → List Json
  | [] => []
  | k :: ks => k.toJson :: keywordsToJson ks

/-- The nodes of parameters. -/
def argsToJson : List Arg → List Json
  | [] => []
  | a :: as => a.toJson :: argsToJson as

/-- The node of a parameter that may be absent. -/
def argToJson? : Option Arg → Option Json
  | none => none
  | some a => some a.toJson

end

/-! ## Statements -/

/-- The node of an imported name. -/
def Alias.toJson (a : Alias) : Json :=
  node "alias" ([("name", .ofString a.name)] ++ maybe "asname" (a.asName.map Json.ofString))

/-- The node of an item of a `with` statement. -/
def WithItem.toJson (w : WithItem) : Json :=
  node "withitem" ([("context_expr", w.context.toJson)]
    ++ maybe "optional_vars" (w.vars.map Expr.toJson))

mutual

/-- The node of a statement. -/
def Stmt.toJson : Stmt → Json
  | .functionDef isAsync name args body decorators returns =>
    node (if isAsync then "AsyncFunctionDef" else "FunctionDef")
      ([("name", .ofString name), ("args", args.toJson), ("body", .arr (stmtsToJson body))]
        ++ many "decorator_list" (decorators.map Expr.toJson)
        ++ maybe "returns" (returns.map Expr.toJson))
  | .classDef name bases keywords body decorators =>
    node "ClassDef" ([("name", .ofString name)] ++ many "bases" (bases.map Expr.toJson)
      ++ many "keywords" (keywords.map Keyword.toJson) ++ [("body", .arr (stmtsToJson body))]
      ++ many "decorator_list" (decorators.map Expr.toJson))
  | .returning value => node "Return" (maybe "value" (value.map Expr.toJson))
  | .delete targets => node "Delete" [("targets", .arr (targets.map Expr.toJson))]
  | .assign targets value =>
    node "Assign" [("targets", .arr (targets.map Expr.toJson)), ("value", value.toJson)]
  | .augAssign target op value =>
    node "AugAssign" [("target", target.toJson), ("op", op.toJson), ("value", value.toJson)]
  | .annAssign target annotation value simple =>
    node "AnnAssign" ([("target", target.toJson), ("annotation", annotation.toJson)]
      ++ maybe "value" (value.map Expr.toJson) ++ [("simple", .bool simple)])
  | .forLoop isAsync target iter body orelse =>
    node (if isAsync then "AsyncFor" else "For")
      ([("target", target.toJson), ("iter", iter.toJson), ("body", .arr (stmtsToJson body))]
        ++ many "orelse" (stmtsToJson orelse))
  | .whileLoop test body orelse =>
    node "While" ([("test", test.toJson), ("body", .arr (stmtsToJson body))]
      ++ many "orelse" (stmtsToJson orelse))
  | .ifElse test body orelse =>
    node "If" ([("test", test.toJson), ("body", .arr (stmtsToJson body))]
      ++ many "orelse" (stmtsToJson orelse))
  | .withBlock isAsync items body =>
    node (if isAsync then "AsyncWith" else "With")
      [("items", .arr (items.map WithItem.toJson)), ("body", .arr (stmtsToJson body))]
  | .raising exc cause =>
    node "Raise" (maybe "exc" (exc.map Expr.toJson) ++ maybe "cause" (cause.map Expr.toJson))
  | .tryBlock body handlers orelse finalbody =>
    node "Try" ([("body", .arr (stmtsToJson body))] ++ many "handlers" (handlersToJson handlers)
      ++ many "orelse" (stmtsToJson orelse) ++ many "finalbody" (stmtsToJson finalbody))
  | .asserting test msg =>
    node "Assert" ([("test", test.toJson)] ++ maybe "msg" (msg.map Expr.toJson))
  | .importing names => node "Import" [("names", .arr (names.map Alias.toJson))]
  | .importFrom module? names level =>
    node "ImportFrom" (maybe "module" (module?.map Json.ofString)
      ++ [("names", .arr (names.map Alias.toJson)), ("level", .nat level)])
  | .globals names => node "Global" [("names", .arr (names.map Json.ofString))]
  | .nonlocals names => node "Nonlocal" [("names", .arr (names.map Json.ofString))]
  | .expr value => node "Expr" [("value", value.toJson)]
  | .pass => tag "Pass"
  | .breaking => tag "Break"
  | .continuing => tag "Continue"

/-- The node of an `except` clause. -/
def ExceptHandler.toJson : ExceptHandler → Json
  | ⟨exception, name, body⟩ =>
    node "ExceptHandler" (maybe "exception" (exception.map Expr.toJson)
      ++ maybe "name" (name.map Json.ofString) ++ [("body", .arr (stmtsToJson body))])

/-- The nodes of statements. -/
def stmtsToJson : List Stmt → List Json
  | [] => []
  | s :: ss => s.toJson :: stmtsToJson ss

/-- The nodes of `except` clauses. -/
def handlersToJson : List ExceptHandler → List Json
  | [] => []
  | h :: hs => h.toJson :: handlersToJson hs

end

/-- The node of a program. -/
def Module.toJson (m : Module) : Json := node "Module" (many "body" (stmtsToJson m.body))

/-- A program as a document: an array with the program's node as its only item. -/
def Module.document (m : Module) : Json := .arr [m.toJson]

end PythonSyntax
