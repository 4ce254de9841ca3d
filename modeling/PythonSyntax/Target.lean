import PythonSyntax.SyntaxError
import PythonSyntax.Tree.Expr

/-
Targets: expressions that are assigned or deleted.

An expression becomes a target by giving a usage to it and, if it is a display or a starred item,
to the expressions in it.  `Expr.retarget` goes through them from left to right and stops at the
first one that cannot be a target; it answers with the tree as far as it came, and with the
expression that stopped it.
-/

namespace PythonSyntax

/-- Why an expression is no target of a usage. -/
def Usage.refusal (usage : Usage) (what : String) : Cause :=
  match usage with
  | .del => .cannotDelete what
  | _ => .cannotAssign what

mutual

/-- The expression with the usage on everything that it makes a target of, up to the first
expression that cannot be one; and why not, if there is one. -/
def Expr.retarget (usage : Usage) : Expr → Expr × Option Cause
  | .name id _ => (.name id usage, none)
  | .attr value name _ => (.attr value name usage, none)
  | .subscript value slice _ => (.subscript value slice usage, none)
  | .starred value old =>
    if usage = .del then (.starred value old, some (.cannotDelete "starred"))
    else
      let (value, refusal?) := value.retarget usage
      (.starred value usage, refusal?)
  | .list elts _ =>
    let (elts, refusal?) := retargetAll usage elts
    (.list elts usage, refusal?)
  | .tuple elts _ =>
    let (elts, refusal?) := retargetAll usage elts
    (.tuple elts usage, refusal?)
  | e => (e, some (usage.refusal e.describe))

/-- `Expr.retarget` on each expression in turn, up to the first refusal. -/
def retargetAll (usage : Usage) : List Expr → List Expr × Option Cause
  | [] => ([], none)
  | e :: es =>
    match e.retarget usage with
    | (e, some refusal) => (e :: es, some refusal)
    | (e, none) =>
      let (es, refusal?) := retargetAll usage es
      (e :: es, refusal?)

end

/-- The expression as a target of a usage, or the refusal at `span`. -/
def Expr.asTarget (usage : Usage) (span : Span) (e : Expr) : Except SyntaxError Expr :=
  match e.retarget usage with
  | (e, none) => .ok e
  | (_, some refusal) => .error ⟨refusal, span⟩

end PythonSyntax
