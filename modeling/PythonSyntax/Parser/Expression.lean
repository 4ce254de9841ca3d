import PythonSyntax.Literal.Number
import PythonSyntax.Parser.FormattedString
import PythonSyntax.Target

/-
Parsing expressions.

`Rule.body` says what each rule of the expression grammar is, in terms of the others, and
`Rule.run` unfolds the references a given number of levels deep.  Operators of one level are read
as a list and then folded, comparisons and boolean operators into one node and the others to the
left.
-/

namespace PythonSyntax.Parser

section

variable (spell : List Char → List Char) (rule : Rule → Parser Expr)

/-! ## Lists of expressions -/

/-- The items of a list with commas, in which the last one may be followed by a comma too, and
whether there is a comma. -/
def listItems (item : Rule) : Parser (List Expr × Bool) := do
  let first ← rule item
  let comma ← atOp ","
  let rest ← many do
    if ← eatOp "," then optional startsExpression (rule item) else return none
  return (first :: rest, comma)

/-- The only item of a list without a comma, or a tuple of the items. -/
def listOrTuple (item : Rule) : Parser Expr := do
  match ← listItems rule item with
  | ([e], false) => return e
  | (elts, _) => return .tuple elts .load

/-- A starred item, or what another rule says. -/
def starOr (item : Rule) : Parser Expr := do
  if ← atOp "*" then rule .star else rule item

/-- `'*' expr` -/
def star : Parser Expr := do
  expectOp "*"
  return .starred (← rule .bitOr) .load

/-- The items of a list that ends at a closing bracket, after the first; the last one may be
followed by a comma. -/
def itemsUntil (closing : String) (item : Parser Expr) : Parser (List Expr) :=
  many do
    if ← eatOp "," then
      if ← atOp closing then return none else return some (← item)
    else return none

/-! ## Parameters -/

/-- The annotation of a parameter, where one is allowed. -/
def typeHint (annotated : Bool) : Parser (Option Expr) :=
  if annotated then optional (eatOp ":") (rule .test) else return none

/-- A parameter, with an annotation where one is allowed. -/
def parameter (annotated : Bool) : Parser Arg := do
  let name ← identifier
  return ⟨name, ← typeHint rule annotated⟩

/-- The parameters read so far, and whether a slash and a star stood among them. -/
structure Parameters where
  arguments : Arguments
  seenSlash : Bool
  seenStar : Bool

/-- A slash: the parameters before it are positional only. -/
def Parameters.addSlash (s : Parameters) : Parameters :=
  let a := s.arguments
  { s with arguments := { a with posOnly := a.args, args := [] }, seenSlash := true }

/-- A parameter with or without a default, after a star or before one. -/
def Parameters.add (s : Parameters) (arg : Arg) (default? : Option Expr) : Parameters :=
  let a := s.arguments
  let a := if s.seenStar then
      { a with kwOnly := a.kwOnly ++ [arg], kwDefaults := a.kwDefaults ++ [default?] }
    else { a with args := a.args ++ [arg], defaults := a.defaults ++ default?.toList }
  { s with arguments := a }

/-- One entry of a parameter list. -/
def parameterEntry (closing : String) (annotated : Bool) (s : Parameters) :
    Parser (Parameters × Bool) := do
  if ← atOp closing then return (s, false)
  else
    let here := (← peek).span
    if ← eatOp "/" then
      if s.seenSlash || s.seenStar || s.arguments.args.isEmpty then failAt here .unexpectedToken
      else return (s.addSlash, ← eatOp ",")
    else if ← eatOp "**" then
      let arg ← parameter rule annotated
      let _ ← eatOp ","
      if ← atOp closing then
        return ({ s with arguments := { s.arguments with kwarg := some arg } }, false)
      else unexpected
    else if ← eatOp "*" then
      if s.seenStar then failAt here .unexpectedToken
      else
        let vararg ← optional (atKind .name) (parameter rule annotated)
        let a := { s.arguments with vararg := vararg }
        return ({ s with arguments := a, seenStar := true }, ← eatOp ",")
    else
      let arg ← parameter rule annotated
      let default? ← optional (eatOp "=") (rule .test)
      if !s.seenStar && default?.isNone && !s.arguments.defaults.isEmpty then
        failAt here .defaultBeforePlain
      else return (s.add arg default?, ← eatOp ",")

/-- The parameters of a `def`, which may be annotated, or of a `lambda`, up to the token that
closes the list. -/
def parameters (closing : String) (annotated : Bool) : Parser Arguments := do
  let s ← iterate (parameterEntry rule closing annotated)
    ⟨⟨[], [], none, [], [], none, []⟩, false, false⟩
  let a := s.arguments
  if s.seenStar && a.vararg.isNone && a.kwOnly.isEmpty then fail .bareStar else return a

/-! ## Conditions, lambdas and boolean operators -/

/-- `test [':=' test]`, where a plain name takes the value. -/
def named : Parser Expr := do
  let here := (← peek).span
  let e ← rule .test
  if ← eatOp ":=" then
    match e with
    | .name id _ => return .namedExpr (.name id .store) (← rule .test)
    | e => failAt here (.cannotName e.describe)
  else return e

/-- `or_test ['if' or_test 'else' test] | lambda` -/
def test : Parser Expr := do
  if ← atWord "lambda" then rule .lambda
  else
    let body ← rule .orTest
    if ← eatWord "if" then
      let condition ← rule .orTest
      expectWord "else"
      let orelse ← nested .tooManyLevels (rule .test)
      return .ifExp condition body orelse
    else return body

/-- `or_test | lambda`, the latter with a body of this kind. -/
def testNoCond : Parser Expr := do
  if ← atWord "lambda" then rule .lambdaNoCond else rule .orTest

/-- `'lambda' parameters ':' body` -/
def lambda (body : Rule) : Parser Expr := do
  expectWord "lambda"
  let args ← parameters rule ":" false
  expectOp ":"
  return .lambda args (← nested .tooManyLevels (rule body))

/-- Operands joined by a word; a single one stays as it is. -/
def boolChain (word : String) (op : BoolOperator) (operand : Rule) : Parser Expr := do
  match ← sepBy (eatWord word) (rule operand) with
  | [e] => return e
  | values => return .boolOp op values

/-- `'not' not_test | comparison` -/
def notTest : Parser Expr := do
  if ← eatWord "not" then
    return .unaryOp .not (← nested .tooManyLevels (rule .notTest))
  else rule .comparison

/-- The comparison that a token and the next one spell, and whether it takes both. -/
def comparison? (t next : Token) : Option (Comparison × Bool) :=
  match t.kind, t.text with
  | .op, "<" => some (.lt, false)
  | .op, ">" => some (.gt, false)
  | .op, "==" => some (.eq, false)
  | .op, ">=" => some (.gtE, false)
  | .op, "<=" => some (.ltE, false)
  | .op, "!=" => some (.notEq, false)
  | .name, "in" => some (.isIn, false)
  | .name, "not" => if next.isWord "in" then some (.notIn, true) else none
  | .name, "is" => if next.isWord "not" then some (.notSame, true) else some (.same, false)
  | _, _ => none

/-- A comparison and its right operand. -/
def comparisonTail : Parser (Option (Comparison × Expr)) := do
  match comparison? (← peek) (← peekNext) with
  | none => return none
  | some (op, both) =>
    let _ ← advance
    advanceIf both
    return some (op, ← rule .bitOr)

/-- `expr (comparison expr)*` -/
def comparison : Parser Expr := do
  let left ← rule .bitOr
  match ← many (comparisonTail rule) with
  | [] => return left
  | rest => return .compare left (rest.map Prod.fst) (rest.map Prod.snd)

/-! ## Arithmetic -/

/-- An operator of a level and its right operand. -/
def operatorTail (operators : List String) (operand : Rule) :
    Parser (Option (Operator × Expr)) := do
  let t ← peek
  match if t.kind == .op && operators.contains t.text then Operator.ofToken? t.text else none with
  | none => return none
  | some op =>
    let _ ← advance
    return some (op, ← rule operand)

/-- Operands joined by the operators of a level, from the left. -/
def operatorChain (operators : List String) (operand : Rule) : Parser Expr := do
  let first ← rule operand
  let rest ← many (operatorTail rule operators operand)
  return rest.foldl (fun left (op, right) => .binOp left op right) first

/-- The unary operator of a sign. -/
def sign? (t : Token) : Option UnaryOperator :=
  match t.kind, t.text with
  | .op, "+" => some .plus
  | .op, "-" => some .minus
  | .op, "~" => some .invert
  | _, _ => none

/-- `sign factor | power` -/
def factor : Parser Expr := do
  match sign? (← peek) with
  | some op =>
    let _ ← advance
    return .unaryOp op (← nested .tooManyLevels (rule .factor))
  | none => rule .power

/-- `primary ['**' factor]`: the operator binds tighter than a sign on its left, and looser than
one on its right. -/
def power : Parser Expr := do
  let base ← rule .primary
  if ← eatOp "**" then
    return .binOp base .pow (← nested .tooManyLevels (rule .factor))
  else return base

/-! ## Comprehensions -/

/-- One clause `['async'] 'for' targets 'in' or_test ('if' test_nocond)*`. -/
def clause : Parser Comprehension := do
  let isAsync ← eatWord "async"
  expectWord "for"
  let here := (← peek).span
  let target ← ofExcept ((← rule .exprList).asTarget .store here)
  expectWord "in"
  let iter ← rule .orTest
  let ifs ← many (optional (eatWord "if") (rule .testNoCond))
  return ⟨target, iter, ifs, isAsync⟩

/-- The clauses of a comprehension. -/
def clauses : Parser (List Comprehension) := many (optional startsClause (clause rule))

/-! ## Calls and subscripts -/

/-- The arguments of a call read so far. -/
structure CallArguments where
  args : List Expr
  keywords : List Keyword

/-- Whether one of the arguments unpacks a mapping. -/
def CallArguments.hasDoubleStar (s : CallArguments) : Bool :=
  s.keywords.any (·.name.isNone)

/-- One more positional argument. -/
def CallArguments.addArg (s : CallArguments) (e : Expr) : CallArguments :=
  { s with args := s.args ++ [e] }

/-- One more keyword argument. -/
def CallArguments.addKeyword (s : CallArguments) (name : Option String) (value : Expr) :
    CallArguments :=
  { s with keywords := s.keywords ++ [⟨name, value⟩] }

/-- An argument that is not starred, from its first expression on; it begins at `here`. -/
def plainArgument (s : CallArguments) (here : Span) : Parser CallArguments := do
  let e ← rule .named
  if ← eatOp "=" then
    match e with
    | .name id _ => return s.addKeyword (some id) (← rule .test)
    | _ => failAt here .keywordNotName
  else if ← startsClause then
    let generators ← clauses rule
    let more := (← atOp ",") && !(← peekNext).isOp ")"
    if !s.args.isEmpty || !s.keywords.isEmpty || more then failAt here .bareGenerator
    else return s.addArg (.generatorExp e generators)
  else if s.hasDoubleStar then failAt here .positionalAfterDoubleStar
  else if !s.keywords.isEmpty then failAt here .positionalAfterKeyword
  else return s.addArg e

/-- One argument of a call. -/
def argument (s : CallArguments) : Parser CallArguments := do
  let here := (← peek).span
  if ← eatOp "*" then
    if s.hasDoubleStar then failAt here .starAfterDoubleStar
    else return s.addArg (.starred (← rule .test) .load)
  else if ← eatOp "**" then return s.addKeyword none (← rule .test)
  else plainArgument rule s here

/-- The arguments of a call, up to the closing bracket. -/
def arguments : Parser CallArguments :=
  iterate (fun s => do
    if ← atOp ")" then return (s, false)
    else return (← argument rule s, ← eatOp ",")) ⟨[], []⟩

/-- A `test`, unless something else stands there. -/
def optionalTest : Parser (Option Expr) := do
  if ← atOp "*" then return none else optional startsExpression (rule .test)

/-- What stands before the first colon of a slice; without a colon it is the whole subscript. -/
def lowerBound : Parser (Option Expr) := do
  if ← atOp ":" then return none else return some (← rule .test)

/-- What follows the second colon of a slice, if there is one. -/
def sliceStep : Parser (Option Expr) := do
  if ← eatOp ":" then optionalTest rule else return none

/-- `test | [test] ':' [test] [':' [test]]` -/
def subscript : Parser Expr := do
  let lower ← lowerBound rule
  if ← eatOp ":" then
    let upper ← optionalTest rule
    return .slice lower upper (← sliceStep rule)
  else
    match lower with
    | some e => return e
    | none => unexpected

/-- Subscripts with commas, a tuple if there is a comma. -/
def subscripts : Parser Expr := do
  let first ← rule .subscript
  if ← atOp "," then
    return .tuple (first :: (← itemsUntil "]" (rule .subscript))) .load
  else return first

/-! ## Primaries -/

/-- What may follow an atom: a call, a subscript or an attribute. -/
inductive Trailer where
  | call (args : List Expr) (keywords : List Keyword)
  | subscript (slice : Expr)
  | attr (name : String)

/-- The expression with a trailer. -/
def Trailer.apply (e : Expr) : Trailer → Expr
  | call args keywords => .call e args keywords
  | subscript slice => .subscript e slice .load
  | attr name => .attr e name .load

/-- A trailer, if there is one. -/
def trailer : Parser (Option Trailer) := do
  if ← atOp "(" then
    nested .tooManyBrackets do
      let _ ← advance
      let a ← arguments rule
      expectOp ")"
      return some (.call a.args a.keywords)
  else if ← atOp "[" then
    nested .tooManyBrackets do
      let _ ← advance
      let slice ← rule .subscripts
      expectOp "]"
      return some (.subscript slice)
  else if ← eatOp "." then return some (.attr (← identifier))
  else return none

/-- `['await'] atom trailer*` -/
def primary : Parser Expr := do
  let awaited ← eatWord "await"
  let atom ← rule .atom
  let e := (← many (trailer rule)).foldl Trailer.apply atom
  return if awaited then .await e else e

/-- The constant of a reserved word. -/
def wordConstant? (word : String) : Option Constant :=
  match word with
  | "None" => some .none
  | "True" => some (.bool true)
  | "False" => some (.bool false)
  | _ => none

/-- A name, a literal, or what stands in brackets. -/
def atom : Parser Expr := do
  let t ← peek
  match t.kind with
  | .op =>
    if t.text = "(" ∨ t.text = "[" ∨ t.text = "\x7b" then nested .tooManyBrackets (rule .bracketed)
    else if ← eatOp "..." then return .constant .ellipsis
    else unexpected
  | .number =>
    let _ ← advance
    match Number.parse t.text.toList with
    | .ok c => return .constant c
    | .error fault => failAt t.span (.number fault)
  | .string =>
    let tokens ← many (optional (atKind .string) advance)
    strings spell rule tokens
  | .name =>
    match wordConstant? t.text with
    | some c =>
      let _ ← advance
      return .constant c
    | none => return .load (← identifier)
  | _ => unexpected

/-! ## Brackets -/

/-- What stands in brackets: a comprehension, or items and whether there is a comma. -/
inductive Bracketed where
  | comprehension (elt : Expr) (generators : List Comprehension)
  | items (elts : List Expr) (comma : Bool)

/-- The inside of brackets that are not empty. -/
def inside (closing : String) : Parser Bracketed := do
  let first ← rule .starOrNamed
  if ← startsClause then return .comprehension first (← clauses rule)
  else
    let comma ← atOp ","
    return .items (first :: (← itemsUntil closing (rule .starOrNamed))) comma

/-- A tuple, a generator expression, a `yield`, or an expression in parentheses. -/
def parenthesized : Parser Expr := do
  if ← eatOp ")" then return .tuple [] .load
  else if ← atWord "yield" then
    let e ← rule .yielding
    expectOp ")"
    return e
  else
    let content ← inside rule ")"
    expectOp ")"
    match content with
    | .comprehension elt generators => return .generatorExp elt generators
    | .items [e] false => return e
    | .items elts _ => return .tuple elts .load

/-- A list or a list comprehension. -/
def listDisplay : Parser Expr := do
  if ← eatOp "]" then return .list [] .load
  else
    let content ← inside rule "]"
    expectOp "]"
    match content with
    | .comprehension elt generators => return .listComp elt generators
    | .items elts _ => return .list elts .load

/-- What begins with an opening bracket. -/
def bracketed : Parser Expr := do
  let t ← advance
  if t.text = "(" then parenthesized rule
  else if t.text = "[" then listDisplay rule
  else rule .dictOrSet

/-- An entry of a dictionary: a key and a value, or a mapping to unpack. -/
def dictEntry : Parser (Option Expr × Expr) := do
  if ← eatOp "**" then return (none, ← rule .bitOr)
  else
    let key ← rule .test
    expectOp ":"
    return (some key, ← rule .test)

/-- A dictionary, after its first entry. -/
def dictRest (first : Option Expr × Expr) : Parser Expr := do
  let rest ← many do
    if ← eatOp "," then
      if ← atOp "\x7d" then return none else return some (← dictEntry rule)
    else return none
  expectOp "\x7d"
  let entries := first :: rest
  return .dict (entries.map Prod.fst) (entries.map Prod.snd)

/-- A set or a set comprehension, after its first item. -/
def setRest (first : Expr) : Parser Expr := do
  if ← startsClause then
    let generators ← clauses rule
    expectOp "\x7d"
    return .setComp first generators
  else
    let rest ← itemsUntil "\x7d" (rule .starOrTest)
    expectOp "\x7d"
    return .set (first :: rest)

/-- Whether an expression is a starred item. -/
def isStarred : Expr → Bool
  | .starred .. => true
  | _ => false

/-- What stands in braces, after the opening one. -/
def dictOrSet : Parser Expr := do
  if ← eatOp "\x7d" then return .dict [] []
  else if ← eatOp "**" then dictRest rule (none, ← rule .bitOr)
  else
    let first ← rule .starOrTest
    if isStarred first then setRest rule first
    else if ← eatOp ":" then
      let value ← rule .test
      if ← startsClause then
        let generators ← clauses rule
        expectOp "\x7d"
        return .dictComp first value generators
      else dictRest rule (some first, value)
    else setRest rule first

/-- `'yield' ['from' test | expressions]` -/
def yielding : Parser Expr := do
  expectWord "yield"
  if ← eatWord "from" then return .yieldFrom (← rule .test)
  else return .yield (← optional startsExpression (rule .starTestList))

end

end PythonSyntax.Parser

namespace PythonSyntax.Rule

open PythonSyntax.Parser

/-- What a rule says, in terms of all the rules. -/
def body (spell : List Char → List Char) (rule : Rule → Parser Expr) : Rule → Parser Expr
  | starTestList => listOrTuple rule .starOrTest
  | testList => listOrTuple rule .test
  | exprList => listOrTuple rule .starOrExpr
  | starOrTest => starOr rule .test
  | starOrExpr => starOr rule .bitOr
  | starOrNamed => starOr rule .named
  | star => Parser.star rule
  | named => Parser.named rule
  | test => Parser.test rule
  | testNoCond => Parser.testNoCond rule
  | lambda => Parser.lambda rule .test
  | lambdaNoCond => Parser.lambda rule .testNoCond
  | orTest => boolChain rule "or" .or .andTest
  | andTest => boolChain rule "and" .and .notTest
  | notTest => Parser.notTest rule
  | comparison => Parser.comparison rule
  | bitOr => operatorChain rule ["|"] .bitXor
  | bitXor => operatorChain rule ["^"] .bitAnd
  | bitAnd => operatorChain rule ["&"] .shift
  | shift => operatorChain rule ["<<", ">>"] .sum
  | sum => operatorChain rule ["+", "-"] .term
  | term => operatorChain rule ["*", "@", "/", "%", "//"] .factor
  | factor => Parser.factor rule
  | power => Parser.power rule
  | primary => Parser.primary rule
  | atom => Parser.atom spell rule
  | bracketed => Parser.bracketed rule
  | dictOrSet => Parser.dictOrSet rule
  | subscripts => Parser.subscripts rule
  | subscript => Parser.subscript rule
  | yielding => Parser.yielding rule

/-- A rule, with references to rules followed at most `fuel` levels deep. -/
def run (spell : List Char → List Char) : Nat → Rule → Parser Expr
  | 0, _ => fail .outOfFuel
  | fuel + 1, r => body spell (run spell fuel) r

end PythonSyntax.Rule
