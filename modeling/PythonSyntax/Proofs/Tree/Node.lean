import Mathlib.Tactic.Common
import PythonSyntax.Tree.Stmt

/-
The nodes of a tree.

`Node` is any node of the tree of a program, and `Node.parts` is what stands right below one, each
part with its role in the node.  `Occurs u x v y` says that `y` stands somewhere in `x`, and how
each of them is to be used: a target is stored or deleted, what is in a display or behind a star is
used as the whole is, and anything else is read.
-/

namespace PythonSyntax

/-- A node of a tree. -/
inductive Node where
  | module (m : Module)
  | stmt (s : Stmt)
  | handler (h : ExceptHandler)
  | withItem (i : WithItem)
  | expr (e : Expr)
  | arguments (a : Arguments)
  | arg (a : Arg)
  | keyword (k : Keyword)
  | comprehension (c : Comprehension)

/-- The role of a part in the node above it. -/
inductive Role where
  /-- It is read. -/
  | value
  /-- It is read, and may be a slice. -/
  | slice
  /-- It is assigned or deleted. -/
  | target (u : Usage)
  /-- It is an element of a display or stands behind a star, and is used as the whole is. -/
  | element
deriving DecidableEq, Repr

/-- How a part is used if the node above it is used as `u`. -/
def Role.usage (u : Usage) : Role → Usage
  | value | slice => .load
  | target v => v
  | element => u

namespace Node

/-! ## Parts -/

/-- Expressions in a role. -/
def exprs (r : Role) (es : List Expr) : List (Role × Node) := es.map fun e => (r, expr e)

/-- Statements. -/
def block (ss : List Stmt) : List (Role × Node) := ss.map fun s => (.value, stmt s)

/-- The parts of a statement. -/
def ofStmt : Stmt → List (Role × Node)
  | .functionDef _ _ args body decorators returns =>
    (.value, arguments args) ::
      (exprs .value decorators ++ exprs .value returns.toList ++ block body)
  | .classDef _ bases keywords body decorators =>
    exprs .value bases ++ keywords.map (fun k => (.value, keyword k)) ++
      exprs .value decorators ++ block body
  | .returning value => exprs .value value.toList
  | .delete targets => exprs (.target .del) targets
  | .assign targets value => (.value, expr value) :: exprs (.target .store) targets
  | .augAssign target _ value => [(.target .store, expr target), (.value, expr value)]
  | .annAssign target annotation value _ =>
    (.target .store, expr target) :: (.value, expr annotation) :: exprs .value value.toList
  | .forLoop _ target iter body orelse =>
    (.target .store, expr target) :: (.value, expr iter) :: (block body ++ block orelse)
  | .whileLoop test body orelse | .ifElse test body orelse =>
    (.value, expr test) :: (block body ++ block orelse)
  | .withBlock _ items body => items.map (fun i => (.value, withItem i)) ++ block body
  | .raising exc cause => exprs .value exc.toList ++ exprs .value cause.toList
  | .tryBlock body handlers orelse finalbody =>
    block body ++ handlers.map (fun h => (.value, handler h)) ++ block orelse ++ block finalbody
  | .asserting test msg => (.value, expr test) :: exprs .value msg.toList
  | .expr value => [(.value, expr value)]
  | .importing .. | .importFrom .. | .globals .. | .nonlocals .. | .pass | .breaking
  | .continuing => []

/-- An expression and the clauses of a comprehension. -/
def comprehensions (elts : List Expr) (generators : List Comprehension) : List (Role × Node) :=
  exprs .value elts ++ generators.map fun c => (.value, comprehension c)

/-- The parts of an expression. -/
def ofExpr : Expr → List (Role × Node)
  | .boolOp _ values | .joinedStr values | .set values => exprs .value values
  | .namedExpr target value => [(.target .store, expr target), (.value, expr value)]
  | .binOp left _ right => exprs .value [left, right]
  | .unaryOp _ e | .await e | .yieldFrom e | .attr e .. => exprs .value [e]
  | .lambda args body => [(.value, arguments args), (.value, expr body)]
  | .ifExp test body orelse => exprs .value [test, body, orelse]
  | .dict keys values => exprs .value (keys.filterMap id) ++ exprs .value values
  | .listComp elt generators | .setComp elt generators | .generatorExp elt generators =>
    comprehensions [elt] generators
  | .dictComp key value generators => comprehensions [key, value] generators
  | .yield value => exprs .value value.toList
  | .compare left _ comparators => exprs .value (left :: comparators)
  | .call func args keywords =>
    exprs .value (func :: args) ++ keywords.map fun k => (.value, keyword k)
  | .formattedValue value _ formatSpec => exprs .value (value :: formatSpec.toList)
  | .subscript value slice _ => [(.value, expr value), (.slice, expr slice)]
  | .starred value _ => exprs .element [value]
  | .list elts _ | .tuple elts _ => exprs .element elts
  | .slice lower upper step => exprs .value (lower.toList ++ upper.toList ++ step.toList)
  | .name .. | .constant _ => []

/-- What stands right below a node. -/
def parts : Node → List (Role × Node)
  | module m => block m.body
  | stmt s => ofStmt s
  | handler h => exprs .value h.exception.toList ++ block h.body
  | withItem i => (.value, expr i.context) :: exprs (.target .store) i.vars.toList
  | expr e => ofExpr e
  | arguments a =>
    (a.posOnly ++ a.args ++ a.vararg.toList ++ a.kwOnly ++ a.kwarg.toList).map
      (fun p => (.value, arg p)) ++ exprs .value (a.defaults ++ a.kwDefaults.filterMap id)
  | arg ⟨_, note⟩ => exprs .value note.toList
  | keyword k => [(.value, expr k.value)]
  | comprehension c =>
    (.target .store, expr c.target) :: (.value, expr c.iter) :: exprs .value c.ifs

/-- The usage that a node says of itself, if it is of a kind that does. -/
def usage? : Node → Option Usage
  | expr (.name _ u) | expr (.attr _ _ u) | expr (.subscript _ _ u) | expr (.starred _ u)
  | expr (.list _ u) | expr (.tuple _ u) => some u
  | _ => none

theorem forall_exprs {P : Role × Node → Prop} {r : Role} {es : List Expr} :
    (∀ p ∈ exprs r es, P p) ↔ ∀ e ∈ es, P (r, expr e) := by simp [exprs]

theorem forall_block {P : Role × Node → Prop} {ss : List Stmt} :
    (∀ p ∈ block ss, P p) ↔ ∀ s ∈ ss, P (.value, stmt s) := by simp [block]

theorem forall_comprehensions {P : Role × Node → Prop} {elts : List Expr}
    {generators : List Comprehension} :
    (∀ p ∈ comprehensions elts generators, P p) ↔
      (∀ e ∈ elts, P (.value, expr e)) ∧ ∀ c ∈ generators, P (.value, comprehension c) := by
  simp [comprehensions, exprs, or_imp, forall_and]

/-- What is reached from an expression through the elements of tuples and lists and the values of
starred items. -/
inductive Spine (t : Expr) : Expr → Prop where
  | self : Spine t t
  | tuple {elts u e} : Spine t (.tuple elts u) → e ∈ elts → Spine t e
  | list {elts u e} : Spine t (.list elts u) → e ∈ elts → Spine t e
  | starred {e u} : Spine t (.starred e u) → Spine t e

/-! ## Occurrences -/

/-- In the node `x`, which is used as `u`, the node `y` stands where it is to be used as `v`. -/
inductive Occurs : Usage → Node → Usage → Node → Prop where
  | self {u x} : Occurs u x u x
  | part {u x r y v z} : (r, y) ∈ x.parts → Occurs (r.usage u) y v z → Occurs u x v z

theorem Occurs.trans {u v w : Usage} {x y z : Node} (h : Occurs u x v y) (h' : Occurs v y w z) :
    Occurs u x w z := by
  induction h with
  | self => exact h'
  | part hr _ ih => exact .part hr (ih h')

/-- All of a spine is used as its first expression is. -/
theorem occurs_of_spine {u : Usage} {t s : Expr} (h : Spine t s) : Occurs u (expr t) u (expr s) := by
  induction h with
  | self => exact .self
  | tuple _ he ih => exact ih.trans (.part (r := .element) (List.mem_map_of_mem he) .self)
  | list _ he ih => exact ih.trans (.part (r := .element) (List.mem_map_of_mem he) .self)
  | starred _ ih => exact ih.trans (.part (r := .element) (List.mem_singleton.mpr rfl) .self)

/-- Whether `P` holds of every node in `x` and its usage, where `x` is used as `u`. -/
def Every (P : Usage → Node → Prop) (u : Usage) (x : Node) : Prop :=
  ∀ v y, Occurs u x v y → P v y

theorem every_intro {P : Usage → Node → Prop} {u : Usage} {x : Node} (hx : P u x)
    (hparts : ∀ p ∈ x.parts, Every P (p.1.usage u) p.2) : Every P u x := by
  intro v y h
  cases h with
  | self => exact hx
  | part hr h => exact hparts _ hr v y h

theorem Every.root {P : Usage → Node → Prop} {u : Usage} {x : Node} (h : Every P u x) : P u x :=
  h u x .self

theorem Every.part {P : Usage → Node → Prop} {u : Usage} {x : Node} (h : Every P u x)
    {p : Role × Node} (hp : p ∈ x.parts) : Every P (p.1.usage u) p.2 :=
  fun v y hy => h v y (.part hp hy)

end Node

end PythonSyntax
