import PythonSyntax.Parser.Statement
import PythonSyntax.Proofs.Grammar.Expression

/-
The grammar of statement trees.

`DerivesStmt` says which statements the rules of the statement grammar may yield.  A target is given
by the expression that was read and by what has become of it.
-/

namespace PythonSyntax

open PythonSyntax.Parser

/-- Whether a text is a name, or names with dots between them. -/
def IsDottedName (s : String) : Prop :=
  ∃ parts, parts ≠ [] ∧ (∀ p ∈ parts, IsIdentifier p) ∧ s = ".".intercalate parts

/-- Whether the expressions of a list have become the targets in another one. -/
def RetargetsAll (u : Usage) (es targets : List Expr) : Prop :=
  es.length = targets.length ∧ ∀ p ∈ es.zip targets, Retargets u p.1 p.2

/-- Whether only the last handler catches everything, and it gives no name to what it catches. -/
def BareLast (handlers : List ExceptHandler) : Prop :=
  (∀ h ∈ handlers.dropLast, h.exception ≠ none) ∧
    ∀ h ∈ handlers, h.exception = none → h.name = none

/-- The statements of the grammar. -/
inductive DerivesStmt : Stmt → Prop where
  | functionDef {isAsync name args body decorators} {returns : Option Expr} :
      IsIdentifier name → Derives (.params true args) → body ≠ [] → (∀ s ∈ body, DerivesStmt s) →
      (∀ e ∈ decorators, Derives (.trailed e)) → (∀ e ∈ returns, Derives (.expr .test e)) →
      DerivesStmt (.functionDef isAsync name args body decorators returns)
  | classDef {name bases keywords body decorators} : IsIdentifier name →
      (∀ e ∈ bases, Derives (.arg e)) → (∀ k ∈ keywords, Derives (.keyword k)) → body ≠ [] →
      (∀ s ∈ body, DerivesStmt s) → (∀ e ∈ decorators, Derives (.trailed e)) →
      DerivesStmt (.classDef name bases keywords body decorators)
  | returning {value : Option Expr} : (∀ e ∈ value, Derives (.expr .starTestList e)) →
      DerivesStmt (.returning value)
  | delete {es targets} : es ≠ [] → (∀ e ∈ es, Derives (.expr .starOrExpr e)) →
      RetargetsAll .del es targets → DerivesStmt (.delete targets)
  | assign {es targets value} : es ≠ [] → (∀ e ∈ es, YieldOr .starTestList e) →
      RetargetsAll .store es targets → YieldOr .starTestList value →
      DerivesStmt (.assign targets value)
  | augAssign {e target op value} : YieldOr .starTestList e → e.isSingleTarget = true →
      Retargets .store e target → YieldOr .testList value →
      DerivesStmt (.augAssign target op value)
  | annAssign {e target annotation simple} {value : Option Expr} : YieldOr .starTestList e →
      annotationRefusal? e = none → Retargets .store e target →
      (simple = true → isName e = true) → Derives (.expr .test annotation) →
      (∀ v ∈ value, YieldOr .starTestList v) →
      DerivesStmt (.annAssign target annotation value simple)
  | forLoop {isAsync e target iter body orelse} : Derives (.expr .exprList e) →
      Retargets .store e target → Derives (.expr .testList iter) → body ≠ [] →
      (∀ s ∈ body, DerivesStmt s) → (∀ s ∈ orelse, DerivesStmt s) →
      DerivesStmt (.forLoop isAsync target iter body orelse)
  | whileLoop {condition body orelse} : Derives (.expr .named condition) → body ≠ [] →
      (∀ s ∈ body, DerivesStmt s) → (∀ s ∈ orelse, DerivesStmt s) →
      DerivesStmt (.whileLoop condition body orelse)
  | ifElse {condition body orelse} : Derives (.expr .named condition) → body ≠ [] →
      (∀ s ∈ body, DerivesStmt s) → (∀ s ∈ orelse, DerivesStmt s) →
      DerivesStmt (.ifElse condition body orelse)
  | withBlock {isAsync} {items : List WithItem} {body} : items ≠ [] →
      (∀ i ∈ items, Derives (.expr .test i.context)) →
      (∀ i ∈ items, ∀ t ∈ i.vars, ∃ e, Derives (.expr .bitOr e) ∧ Retargets .store e t) →
      body ≠ [] → (∀ s ∈ body, DerivesStmt s) → DerivesStmt (.withBlock isAsync items body)
  | raising {exc cause : Option Expr} : (∀ e ∈ exc, Derives (.expr .test e)) →
      (∀ e ∈ cause, Derives (.expr .test e)) → (exc = none → cause = none) →
      DerivesStmt (.raising exc cause)
  | tryBlock {body} {handlers : List ExceptHandler} {orelse finalbody} : body ≠ [] →
      (∀ s ∈ body, DerivesStmt s) → (∀ h ∈ handlers, ∀ e ∈ h.exception, Derives (.expr .test e)) →
      (∀ h ∈ handlers, ∀ name ∈ h.name, IsIdentifier name) → (∀ h ∈ handlers, h.body ≠ []) →
      (∀ h ∈ handlers, ∀ s ∈ h.body, DerivesStmt s) → BareLast handlers →
      (handlers = [] → orelse = []) → (∀ s ∈ orelse, DerivesStmt s) →
      (∀ s ∈ finalbody, DerivesStmt s) → (handlers = [] → finalbody ≠ []) →
      DerivesStmt (.tryBlock body handlers orelse finalbody)
  | asserting {condition} {msg : Option Expr} : Derives (.expr .test condition) →
      (∀ e ∈ msg, Derives (.expr .test e)) → DerivesStmt (.asserting condition msg)
  | importing {names : List Alias} : names ≠ [] → (∀ a ∈ names, IsDottedName a.name) →
      (∀ a ∈ names, ∀ name ∈ a.asName, IsIdentifier name) → DerivesStmt (.importing names)
  | importFrom {module? : Option String} {names : List Alias} {level} :
      (∀ m ∈ module?, IsDottedName m) → names ≠ [] →
      (names = [⟨"*", none⟩] ∨ ∀ a ∈ names, IsIdentifier a.name) →
      (∀ a ∈ names, ∀ name ∈ a.asName, IsIdentifier name) → (module? = none → 1 ≤ level) →
      DerivesStmt (.importFrom module? names level)
  | globals {names} : names ≠ [] → (∀ name ∈ names, IsIdentifier name) →
      DerivesStmt (.globals names)
  | nonlocals {names} : names ≠ [] → (∀ name ∈ names, IsIdentifier name) →
      DerivesStmt (.nonlocals names)
  | expr {e} : YieldOr .starTestList e → DerivesStmt (.expr e)
  | pass : DerivesStmt .pass
  | breaking : DerivesStmt .breaking
  | continuing : DerivesStmt .continuing

end PythonSyntax
