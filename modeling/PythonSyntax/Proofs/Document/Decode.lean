import PythonSyntax.Proofs.Json.Value
import PythonSyntax.Tree.Stmt

/-
Trees from documents.

What a document says is turned back into a tree from the leaves up: the parts of a node are decoded
first, and the node is put together from them by its type.  Nothing is assumed of how floats are
written: `readFloat` says which float a token of a number stands for.
-/

namespace PythonSyntax

/-- A decoded part of a document. -/
inductive Decoded where
  | null
  | bool (b : Bool)
  | number (token : List Char)
  | text (t : Text)
  | list (parts : List Decoded)
  | usage (u : Usage)
  | boolOp (op : BoolOperator)
  | operator (op : Operator)
  | unary (op : UnaryOperator)
  | comparison (op : Comparison)
  | expr (e : Expr)
  | arguments (a : Arguments)
  | arg (a : Arg)
  | keyword (k : Keyword)
  | comprehension (c : Comprehension)
  | imported (a : Alias)
  | withItem (i : WithItem)
  | stmt (s : Stmt)
  | handler (h : ExceptHandler)
  | module (m : Module)

namespace Decoded

/-! ## Kinds of parts -/

def bool? : Decoded → Option Bool
  | bool b => some b
  | _ => none

def nat? : Decoded → Option Nat
  | number token => natOfDigits? 10 token
  | _ => none

def string? : Decoded → Option String
  | text t => t.toString?
  | _ => none

def usage? : Decoded → Option Usage
  | usage u => some u
  | _ => none

def boolOp? : Decoded → Option BoolOperator
  | boolOp op => some op
  | _ => none

def operator? : Decoded → Option Operator
  | operator op => some op
  | _ => none

def unary? : Decoded → Option UnaryOperator
  | unary op => some op
  | _ => none

def comparison? : Decoded → Option Comparison
  | comparison op => some op
  | _ => none

def expr? : Decoded → Option Expr
  | expr e => some e
  | _ => none

/-- An expression, or null for an absent one. -/
def key? : Decoded → Option (Option Expr)
  | null => some none
  | expr e => some (some e)
  | _ => none

def arguments? : Decoded → Option Arguments
  | arguments a => some a
  | _ => none

def arg? : Decoded → Option Arg
  | arg a => some a
  | _ => none

def keyword? : Decoded → Option Keyword
  | keyword k => some k
  | _ => none

def comprehension? : Decoded → Option Comprehension
  | comprehension c => some c
  | _ => none

def imported? : Decoded → Option Alias
  | imported a => some a
  | _ => none

def withItem? : Decoded → Option WithItem
  | withItem i => some i
  | _ => none

def stmt? : Decoded → Option Stmt
  | stmt s => some s
  | _ => none

def handler? : Decoded → Option ExceptHandler
  | handler h => some h
  | _ => none

def module? : Decoded → Option Module
  | module m => some m
  | _ => none

/-- The character of a string with one. -/
def char? (p : Decoded) : Option Char :=
  match p.string?.map String.toList with
  | some [c] => some c
  | _ => none

/-- A float: an infinity is a word, and any other one a number. -/
def float? (readFloat : List Char → Option Binary64) (p : Decoded) : Option Binary64 :=
  match p with
  | number token => readFloat token
  | p =>
    match p.string? with
    | some "inf" => some (Binary64.infinity false)
    | some "-inf" => some (Binary64.infinity true)
    | _ => none

/-- An integer: a number if it fits in 64 bits, and otherwise a text. -/
def int? (p : Decoded) : Option Constant :=
  match p with
  | number token => (natOfDigits? 10 token).map fun n => .int (UInt64.ofNat n)
  | p => p.string?.map .bigInt

/-- The constant of a kind. -/
def constant? (readFloat : List Char → Option Binary64) (p : Decoded) (kind : String) :
    Option Constant :=
  match kind with
  | "None" => some .none
  | "bool" => p.bool?.map .bool
  | "int" => p.int?
  | "float" => (p.float? readFloat).map .float
  | "complex" => (p.float? readFloat).map .complex
  | "str" => match p with
    | text t => some (.str t)
    | _ => none
  | "bytes" => match p with
    | text t => some (.bytes t.lossy)
    | _ => none
  | "Ellipsis" => some .ellipsis
  | _ => none

end Decoded

/-! ## Fields -/

/-- The decoded fields of a node. -/
abbrev Fields := List (Text × Decoded)

namespace Fields

variable {α : Type}

/-- The part of a key. -/
def find (f : Fields) (key : String) : Option Decoded := f.lookup (Text.ofString key)

/-- A part that every node of the type has. -/
@[simp] def get (f : Fields) (key : String) (reader : Decoded → Option α) : Option α :=
  f.find key >>= reader

/-- The elements of a list that may be left out when it is empty. -/
def readItems (reader : Decoded → Option α) : Option Decoded → Option (List α)
  | none => some []
  | some (.list ps) => ps.mapM reader
  | some _ => none

/-- A list. -/
@[simp] def items (f : Fields) (key : String) (reader : Decoded → Option α) : Option (List α) :=
  readItems reader (f.find key)

/-- A part that may be absent. -/
def readMaybe (reader : Decoded → Option α) : Option Decoded → Option (Option α)
  | none => some none
  | some p => (reader p).map some

/-- A part that may be left out. -/
@[simp] def maybe (f : Fields) (key : String) (reader : Decoded → Option α) : Option (Option α) :=
  readMaybe reader (f.find key)

/-! ## Nodes -/

/-- The part of a node that says nothing but its type. -/
def tag? (type : String) : Option Decoded :=
  match type with
  | "Load" => some (.usage .load)
  | "Store" => some (.usage .store)
  | "Del" => some (.usage .del)
  | "And" => some (.boolOp .and)
  | "Or" => some (.boolOp .or)
  | "Add" => some (.operator .add)
  | "Sub" => some (.operator .sub)
  | "Mult" => some (.operator .mult)
  | "MatMult" => some (.operator .matMult)
  | "Div" => some (.operator .div)
  | "Mod" => some (.operator .mod)
  | "Pow" => some (.operator .pow)
  | "LShift" => some (.operator .lShift)
  | "RShift" => some (.operator .rShift)
  | "BitOr" => some (.operator .bitOr)
  | "BitXor" => some (.operator .bitXor)
  | "BitAnd" => some (.operator .bitAnd)
  | "FloorDiv" => some (.operator .floorDiv)
  | "Invert" => some (.unary .invert)
  | "Not" => some (.unary .not)
  | "UAdd" => some (.unary .plus)
  | "USub" => some (.unary .minus)
  | "Eq" => some (.comparison .eq)
  | "NotEq" => some (.comparison .notEq)
  | "Lt" => some (.comparison .lt)
  | "LtE" => some (.comparison .ltE)
  | "Gt" => some (.comparison .gt)
  | "GtE" => some (.comparison .gtE)
  | "Is" => some (.comparison .same)
  | "IsNot" => some (.comparison .notSame)
  | "In" => some (.comparison .isIn)
  | "NotIn" => some (.comparison .notIn)
  | "Pass" => some (.stmt .pass)
  | "Break" => some (.stmt .breaking)
  | "Continue" => some (.stmt .continuing)
  | _ => none

/-- The expression of a node. -/
def expr? (readFloat : List Char → Option Binary64) (f : Fields) (type : String) : Option Expr :=
  match type with
  | "BoolOp" => return .boolOp (← f.get "op" Decoded.boolOp?) (← f.items "values" Decoded.expr?)
  | "NamedExpr" => do
    return .namedExpr (← f.get "target" Decoded.expr?) (← f.get "value" Decoded.expr?)
  | "BinOp" => do
    return .binOp (← f.get "left" Decoded.expr?) (← f.get "op" Decoded.operator?)
      (← f.get "right" Decoded.expr?)
  | "UnaryOp" => return .unaryOp (← f.get "op" Decoded.unary?) (← f.get "operand" Decoded.expr?)
  | "Lambda" => return .lambda (← f.get "args" Decoded.arguments?) (← f.get "body" Decoded.expr?)
  | "IfExp" => do
    return .ifExp (← f.get "test" Decoded.expr?) (← f.get "body" Decoded.expr?)
      (← f.get "orelse" Decoded.expr?)
  | "Dict" => return .dict (← f.items "keys" Decoded.key?) (← f.items "values" Decoded.expr?)
  | "Set" => return .set (← f.items "elts" Decoded.expr?)
  | "ListComp" => do
    return .listComp (← f.get "elt" Decoded.expr?)
      (← f.items "generators" Decoded.comprehension?)
  | "SetComp" => do
    return .setComp (← f.get "elt" Decoded.expr?)
      (← f.items "generators" Decoded.comprehension?)
  | "DictComp" => do
    return .dictComp (← f.get "key" Decoded.expr?) (← f.get "value" Decoded.expr?)
      (← f.items "generators" Decoded.comprehension?)
  | "GeneratorExp" => do
    return .generatorExp (← f.get "elt" Decoded.expr?)
      (← f.items "generators" Decoded.comprehension?)
  | "Await" => return .await (← f.get "value" Decoded.expr?)
  | "Yield" => return .yield (← f.maybe "value" Decoded.expr?)
  | "YieldFrom" => return .yieldFrom (← f.get "value" Decoded.expr?)
  | "Compare" => do
    return .compare (← f.get "left" Decoded.expr?) (← f.items "ops" Decoded.comparison?)
      (← f.items "comparators" Decoded.expr?)
  | "Call" => do
    return .call (← f.get "func" Decoded.expr?) (← f.items "args" Decoded.expr?)
      (← f.items "keywords" Decoded.keyword?)
  | "FormattedValue" => do
    return .formattedValue (← f.get "value" Decoded.expr?)
      (← f.maybe "conversion" Decoded.char?) (← f.maybe "format_spec" Decoded.expr?)
  | "JoinedStr" => return .joinedStr (← f.items "values" Decoded.expr?)
  | "Constant" => do
    return .constant (← (← f.find "value").constant? readFloat
      (← f.get "kind" Decoded.string?))
  | "Attribute" => do
    return .attr (← f.get "value" Decoded.expr?) (← f.get "attr" Decoded.string?)
      (← f.get "ctx" Decoded.usage?)
  | "Subscript" => do
    return .subscript (← f.get "value" Decoded.expr?) (← f.get "slice" Decoded.expr?)
      (← f.get "ctx" Decoded.usage?)
  | "Starred" => return .starred (← f.get "value" Decoded.expr?) (← f.get "ctx" Decoded.usage?)
  | "Name" => return .name (← f.get "id" Decoded.string?) (← f.get "ctx" Decoded.usage?)
  | "List" => return .list (← f.items "elts" Decoded.expr?) (← f.get "ctx" Decoded.usage?)
  | "Tuple" => return .tuple (← f.items "elts" Decoded.expr?) (← f.get "ctx" Decoded.usage?)
  | "Slice" => do
    return .slice (← f.maybe "lower" Decoded.expr?) (← f.maybe "upper" Decoded.expr?)
      (← f.maybe "step" Decoded.expr?)
  | _ => none

/-- A function definition. -/
def functionDef? (f : Fields) (isAsync : Bool) : Option Stmt := do
  return .functionDef isAsync (← f.get "name" Decoded.string?) (← f.get "args" Decoded.arguments?)
    (← f.items "body" Decoded.stmt?) (← f.items "decorator_list" Decoded.expr?)
    (← f.maybe "returns" Decoded.expr?)

/-- A loop over values. -/
def forLoop? (f : Fields) (isAsync : Bool) : Option Stmt := do
  return .forLoop isAsync (← f.get "target" Decoded.expr?) (← f.get "iter" Decoded.expr?)
    (← f.items "body" Decoded.stmt?) (← f.items "orelse" Decoded.stmt?)

/-- A block with resources. -/
def withBlock? (f : Fields) (isAsync : Bool) : Option Stmt := do
  return .withBlock isAsync (← f.items "items" Decoded.withItem?) (← f.items "body" Decoded.stmt?)

/-- The statement of a node. -/
def stmt? (f : Fields) (type : String) : Option Stmt :=
  match type with
  | "FunctionDef" => f.functionDef? false
  | "AsyncFunctionDef" => f.functionDef? true
  | "ClassDef" => do
    return .classDef (← f.get "name" Decoded.string?) (← f.items "bases" Decoded.expr?)
      (← f.items "keywords" Decoded.keyword?) (← f.items "body" Decoded.stmt?)
      (← f.items "decorator_list" Decoded.expr?)
  | "Return" => return .returning (← f.maybe "value" Decoded.expr?)
  | "Delete" => return .delete (← f.items "targets" Decoded.expr?)
  | "Assign" => return .assign (← f.items "targets" Decoded.expr?) (← f.get "value" Decoded.expr?)
  | "AugAssign" => do
    return .augAssign (← f.get "target" Decoded.expr?) (← f.get "op" Decoded.operator?)
      (← f.get "value" Decoded.expr?)
  | "AnnAssign" => do
    return .annAssign (← f.get "target" Decoded.expr?)
      (← f.get "annotation" Decoded.expr?) (← f.maybe "value" Decoded.expr?)
      (← f.get "simple" Decoded.bool?)
  | "For" => f.forLoop? false
  | "AsyncFor" => f.forLoop? true
  | "While" => do
    return .whileLoop (← f.get "test" Decoded.expr?) (← f.items "body" Decoded.stmt?)
      (← f.items "orelse" Decoded.stmt?)
  | "If" => do
    return .ifElse (← f.get "test" Decoded.expr?) (← f.items "body" Decoded.stmt?)
      (← f.items "orelse" Decoded.stmt?)
  | "With" => f.withBlock? false
  | "AsyncWith" => f.withBlock? true
  | "Raise" => return .raising (← f.maybe "exc" Decoded.expr?) (← f.maybe "cause" Decoded.expr?)
  | "Try" => do
    return .tryBlock (← f.items "body" Decoded.stmt?) (← f.items "handlers" Decoded.handler?)
      (← f.items "orelse" Decoded.stmt?) (← f.items "finalbody" Decoded.stmt?)
  | "Assert" => return .asserting (← f.get "test" Decoded.expr?) (← f.maybe "msg" Decoded.expr?)
  | "Import" => return .importing (← f.items "names" Decoded.imported?)
  | "ImportFrom" => do
    return .importFrom (← f.maybe "module" Decoded.string?)
      (← f.items "names" Decoded.imported?) (← f.get "level" Decoded.nat?)
  | "Global" => return .globals (← f.items "names" Decoded.string?)
  | "Nonlocal" => return .nonlocals (← f.items "names" Decoded.string?)
  | "Expr" => return .expr (← f.get "value" Decoded.expr?)
  | _ => none

/-- The part of a node that is neither an expression nor a statement. -/
def other? (f : Fields) (type : String) : Option Decoded :=
  match type with
  | "arguments" => do
    return .arguments ⟨← f.items "posonlyargs" Decoded.arg?, ← f.items "args" Decoded.arg?,
      ← f.maybe "vararg" Decoded.arg?, ← f.items "kwonlyargs" Decoded.arg?,
      ← f.items "kw_defaults" Decoded.key?, ← f.maybe "kwarg" Decoded.arg?,
      ← f.items "defaults" Decoded.expr?⟩
  | "arg" => return .arg ⟨← f.get "arg" Decoded.string?, ← f.maybe "annotation" Decoded.expr?⟩
  | "keyword" => return .keyword ⟨← f.maybe "arg" Decoded.string?, ← f.get "value" Decoded.expr?⟩
  | "comprehension" => do
    return .comprehension ⟨← f.get "target" Decoded.expr?,
      ← f.get "iter" Decoded.expr?, ← f.items "ifs" Decoded.expr?, (f.find "is_async").isSome⟩
  | "alias" => return .imported ⟨← f.get "name" Decoded.string?, ← f.maybe "asname" Decoded.string?⟩
  | "withitem" => do
    return .withItem ⟨← f.get "context_expr" Decoded.expr?,
      ← f.maybe "optional_vars" Decoded.expr?⟩
  | "ExceptHandler" => do
    return .handler ⟨← f.maybe "exception" Decoded.expr?,
      ← f.maybe "name" Decoded.string?, ← f.items "body" Decoded.stmt?⟩
  | "Module" => return .module ⟨← f.items "body" Decoded.stmt?⟩
  | _ => none

/-- The part of a node of some type. -/
def node? (readFloat : List Char → Option Binary64) (f : Fields) (type : String) : Option Decoded :=
  ((f.expr? readFloat type).map .expr).or <| ((f.stmt? type).map .stmt).or <|
    (f.other? type).or (tag? type)

/-- The part of an object, whose first field is its type. -/
def object? (readFloat : List Char → Option Binary64) : Fields → Option Decoded
  | (_, .text type) :: f => type.toString? >>= node? readFloat f
  | _ => none

end Fields

/-! ## Documents -/

namespace JsonValue

variable (readFloat : List Char → Option Binary64)

mutual

/-- The part that a value says. -/
def decode : JsonValue → Option Decoded
  | null => some .null
  | bool b => some (.bool b)
  | number token => some (.number token)
  | string t => some (.text t)
  | array items => (decodeItems items).map .list
  | object members => decodeMembers members >>= Fields.object? readFloat

/-- `decode` of every item of an array. -/
def decodeItems : List JsonValue → Option (List Decoded)
  | [] => some []
  | v :: vs => return (← v.decode) :: (← decodeItems vs)

/-- `decode` of the value of every member of an object. -/
def decodeMembers : List (Text × JsonValue) → Option Fields
  | [] => some []
  | (k, v) :: ms => return (k, ← v.decode) :: (← decodeMembers ms)

end

/-- The program whose document says the value. -/
def document? (v : JsonValue) : Option Module :=
  match v.decode readFloat with
  | some (.list [p]) => p.module?
  | _ => none

end JsonValue

end PythonSyntax
