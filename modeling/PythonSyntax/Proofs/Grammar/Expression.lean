import PythonSyntax.Parser.Expression
import PythonSyntax.Proofs.Target

/-
The grammar of expression trees.

`Derives` says which trees each rule of the expression grammar may yield, with no word about tokens.
It is what every later fact about the trees of a program is proved from: a parser yields derived
trees only, and a fact holds of derived trees by induction on the derivation.
-/

namespace PythonSyntax

open PythonSyntax.Parser

/-- Whether a text is how a name that is not reserved is known. -/
def IsIdentifier (s : String) : Prop :=
  ∃ t : Token, t.isIdentifier = true ∧ s = normalizeIdentifier t.text

namespace Rule

/-! ## What rules share -/

/-- The rules whose trees are trees of a rule as they stand. -/
def units : Rule → List Rule
  | starTestList => [starOrTest]
  | testList => [test]
  | exprList => [starOrExpr]
  | starOrTest => [star, test]
  | starOrExpr => [star, bitOr]
  | starOrNamed => [star, named]
  | named => [test]
  | test => [lambda, orTest]
  | testNoCond => [lambdaNoCond, orTest]
  | orTest => [andTest]
  | andTest => [notTest]
  | notTest => [comparison]
  | comparison => [bitOr]
  | bitOr => [bitXor]
  | bitXor => [bitAnd]
  | bitAnd => [shift]
  | shift => [sum]
  | sum => [term]
  | term => [factor]
  | factor => [power]
  | power => [primary]
  | atom => [bracketed]
  | bracketed => [dictOrSet, yielding, starOrNamed]
  | subscripts => [subscript]
  | subscript => [test]
  | star | lambda | lambdaNoCond | primary | dictOrSet | yielding => []

/-- The rule of the elements of the tuples of a rule. -/
def element? : Rule → Option Rule
  | starTestList => some starOrTest
  | testList => some test
  | exprList => some starOrExpr
  | bracketed => some starOrNamed
  | subscripts => some subscript
  | _ => none

/-- The operators of a level of arithmetic, and the rule of its operands. -/
def level? : Rule → Option (List String × Rule)
  | bitOr => some (["|"], bitXor)
  | bitXor => some (["^"], bitAnd)
  | bitAnd => some (["&"], shift)
  | shift => some (["<<", ">>"], sum)
  | sum => some (["+", "-"], term)
  | term => some (["*", "@", "/", "%", "//"], factor)
  | _ => none

/-- The boolean operator of a rule, its word, and the rule of its operands. -/
def joiner? : Rule → Option (String × BoolOperator × Rule)
  | orTest => some ("or", .or, andTest)
  | andTest => some ("and", .and, notTest)
  | _ => none

/-- The rule of the body of a `lambda`. -/
def lambdaBody? : Rule → Option Rule
  | lambda => some test
  | lambdaNoCond => some testNoCond
  | _ => none

end Rule

/-! ## Derivations -/

/-- What the grammar derives: an expression by a rule, or a part of one. -/
inductive Phrase where
  | expr (r : Rule) (e : Expr)
  /-- An atom with its calls, subscripts and attributes. -/
  | trailed (e : Expr)
  | clause (c : Comprehension)
  | param (annotated : Bool) (p : Arg)
  | params (annotated : Bool) (a : Arguments)
  /-- A positional argument of a call. -/
  | arg (e : Expr)
  | keyword (k : Keyword)
  | piece (p : Piece)

/-- The phrases of the grammar. -/
inductive Derives : Phrase → Prop where
  -- lists, starred items, names that take a value
  | unit {r s e} : s ∈ r.units → Derives (.expr s e) → Derives (.expr r e)
  | tuple {r s elts} : r.element? = some s → (∀ e ∈ elts, Derives (.expr s e)) →
      Derives (.expr r (.tuple elts .load))
  | star {e} : Derives (.expr .bitOr e) → Derives (.expr .star (.starred e .load))
  | named {id usage e} : Derives (.expr .test (.name id usage)) → Derives (.expr .test e) →
      Derives (.expr .named (.namedExpr (.name id .store) e))
  -- conditions, lambdas, boolean operators, comparisons
  | condition {condition body orelse} : Derives (.expr .orTest condition) →
      Derives (.expr .orTest body) → Derives (.expr .test orelse) →
      Derives (.expr .test (.ifExp condition body orelse))
  | lambda {r s args body} : r.lambdaBody? = some s → Derives (.params false args) →
      Derives (.expr s body) → Derives (.expr r (.lambda args body))
  | joined {r word op s values} : r.joiner? = some (word, op, s) → 2 ≤ values.length →
      (∀ e ∈ values, Derives (.expr s e)) → Derives (.expr r (.boolOp op values))
  | negation {e} : Derives (.expr .notTest e) → Derives (.expr .notTest (.unaryOp .not e))
  | comparison {left ops comparators} : Derives (.expr .bitOr left) → comparators ≠ [] →
      ops.length = comparators.length → (∀ e ∈ comparators, Derives (.expr .bitOr e)) →
      Derives (.expr .comparison (.compare left ops comparators))
  -- arithmetic
  | chain {r operators text op s left right} : r.level? = some (operators, s) →
      text ∈ operators → Operator.ofToken? text = some op → Derives (.expr r left) →
      Derives (.expr s right) → Derives (.expr r (.binOp left op right))
  | sign {t op e} : sign? t = some op → Derives (.expr .factor e) →
      Derives (.expr .factor (.unaryOp op e))
  | power {base exponent} : Derives (.expr .primary base) → Derives (.expr .factor exponent) →
      Derives (.expr .power (.binOp base .pow exponent))
  -- primaries
  | trailed {e} : Derives (.trailed e) → Derives (.expr .primary e)
  | awaited {e} : Derives (.trailed e) → Derives (.expr .primary (.await e))
  | atom {e} : Derives (.expr .atom e) → Derives (.trailed e)
  | call {f args keywords} : Derives (.trailed f) → (∀ e ∈ args, Derives (.arg e)) →
      (∀ k ∈ keywords, Derives (.keyword k)) → Derives (.trailed (.call f args keywords))
  | subscript {e slice} : Derives (.trailed e) → Derives (.expr .subscripts slice) →
      Derives (.trailed (.subscript e slice .load))
  | attr {e name} : Derives (.trailed e) → IsIdentifier name →
      Derives (.trailed (.attr e name .load))
  -- calls and subscripts
  | argNamed {e} : Derives (.expr .named e) → Derives (.arg e)
  | argStarred {e} : Derives (.expr .test e) → Derives (.arg (.starred e .load))
  | argGenerator {elt generators} : Derives (.expr .named elt) → generators ≠ [] →
      (∀ c ∈ generators, Derives (.clause c)) → Derives (.arg (.generatorExp elt generators))
  | keyword {id usage value} : Derives (.expr .named (.name id usage)) →
      Derives (.expr .test value) → Derives (.keyword ⟨some id, value⟩)
  | doubleStar {value} : Derives (.expr .test value) → Derives (.keyword ⟨none, value⟩)
  | slice {lower upper step : Option Expr} : (∀ e ∈ lower, Derives (.expr .test e)) →
      (∀ e ∈ upper, Derives (.expr .test e)) → (∀ e ∈ step, Derives (.expr .test e)) →
      Derives (.expr .subscript (.slice lower upper step))
  -- atoms
  | ellipsis : Derives (.expr .atom (.constant .ellipsis))
  | number {text c} : Number.parse text = .ok c → Derives (.expr .atom (.constant c))
  | word {w c} : wordConstant? w = some c → Derives (.expr .atom (.constant c))
  | name {id} : IsIdentifier id → Derives (.expr .atom (.name id .load))
  | str {value} : Derives (.expr .atom (.constant (.str value)))
  | bytes {value : List Char} : (∀ c ∈ value, c.toNat < 256) →
      Derives (.expr .atom (.constant (.bytes value)))
  | formatted {ps} : (∀ p ∈ ps, Derives (.piece p)) →
      Derives (.expr .atom (.joinedStr (merge ps)))
  | text {value} : Derives (.piece (.text value))
  | field {r e} {conversion : Option Char} {spec : Option (List Piece)} :
      r = .starTestList ∨ r = .yielding → Derives (.expr r e) →
      (∀ c ∈ conversion, isConversion c = true) → (∀ ps ∈ spec, ∀ p ∈ ps, Derives (.piece p)) →
      Derives (.piece (.value
        (.formattedValue e conversion (spec.map fun ps => .joinedStr (merge ps)))))
  -- brackets
  | list {elts} : (∀ e ∈ elts, Derives (.expr .starOrNamed e)) →
      Derives (.expr .bracketed (.list elts .load))
  | listComp {elt generators} : Derives (.expr .starOrNamed elt) → generators ≠ [] →
      (∀ c ∈ generators, Derives (.clause c)) →
      Derives (.expr .bracketed (.listComp elt generators))
  | generator {elt generators} : Derives (.expr .starOrNamed elt) → generators ≠ [] →
      (∀ c ∈ generators, Derives (.clause c)) →
      Derives (.expr .bracketed (.generatorExp elt generators))
  | dict {entries : List (Option Expr × Expr)} :
      (∀ entry ∈ entries, ∀ e ∈ entry.1, Derives (.expr .test e)) →
      (∀ entry ∈ entries, entry.1 = none → Derives (.expr .bitOr entry.2)) →
      (∀ entry ∈ entries, entry.1 ≠ none → Derives (.expr .test entry.2)) →
      Derives (.expr .dictOrSet (.dict (entries.map Prod.fst) (entries.map Prod.snd)))
  | dictComp {key value generators} : Derives (.expr .test key) → Derives (.expr .test value) →
      generators ≠ [] → (∀ c ∈ generators, Derives (.clause c)) →
      Derives (.expr .dictOrSet (.dictComp key value generators))
  | set {elts} : elts ≠ [] → (∀ e ∈ elts, Derives (.expr .starOrTest e)) →
      Derives (.expr .dictOrSet (.set elts))
  | setComp {elt generators} : Derives (.expr .starOrTest elt) → generators ≠ [] →
      (∀ c ∈ generators, Derives (.clause c)) →
      Derives (.expr .dictOrSet (.setComp elt generators))
  | yieldFrom {e} : Derives (.expr .test e) → Derives (.expr .yielding (.yieldFrom e))
  | yield {value : Option Expr} : (∀ e ∈ value, Derives (.expr .starTestList e)) →
      Derives (.expr .yielding (.yield value))
  | clause {e target iter ifs isAsync} : Derives (.expr .exprList e) →
      Retargets .store e target → Derives (.expr .orTest iter) →
      (∀ c ∈ ifs, Derives (.expr .testNoCond c)) → Derives (.clause ⟨target, iter, ifs, isAsync⟩)
  -- parameters
  | param {annotated name} {hint : Option Expr} : IsIdentifier name →
      (annotated = false → hint = none) → (∀ e ∈ hint, Derives (.expr .test e)) →
      Derives (.param annotated ⟨name, hint⟩)
  | params {annotated} {a : Arguments} :
      (∀ p ∈ a.posOnly ++ a.args ++ a.vararg.toList ++ a.kwOnly ++ a.kwarg.toList,
        Derives (.param annotated p)) →
      (∀ e ∈ a.defaults, Derives (.expr .test e)) →
      (∀ default? ∈ a.kwDefaults, ∀ e ∈ default?, Derives (.expr .test e)) →
      a.defaults.length ≤ a.posOnly.length + a.args.length →
      a.kwDefaults.length = a.kwOnly.length → Derives (.params annotated a)

/-- A tree of a rule, or one of a `yield`. -/
def YieldOr (r : Rule) (e : Expr) : Prop := Derives (.expr r e) ∨ Derives (.expr .yielding e)

/-- A tree that a rule may begin with a star and does not is one without. -/
theorem Derives.test_of_starOrTest {e : Expr} (h : Derives (.expr .starOrTest e))
    (hs : isStarred e = false) : Derives (.expr .test e) := by
  cases h with
  | unit hr hd =>
    rcases List.mem_cons.mp hr with rfl | hr
    · cases hd with
      | unit hr => exact nomatch hr
      | star => exact nomatch hs
      | tuple hr => exact nomatch hr
      | lambda hr => exact nomatch hr
      | joined hr => exact nomatch hr
      | chain hr => exact nomatch hr
    · rw [List.mem_singleton] at hr
      subst hr
      exact hd
  | tuple hr => exact nomatch hr
  | lambda hr => exact nomatch hr
  | joined hr => exact nomatch hr
  | chain hr => exact nomatch hr

end PythonSyntax
