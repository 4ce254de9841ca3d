import PythonSyntax.Proofs.Enclosed.Group
import PythonSyntax.Proofs.Enclosed.Line
import PythonSyntax.Proofs.Suite.Line

/-
Parentheses around an expression statement.

A program that is an expression statement is a line of tokens that the expression takes to its end.  In
parentheses these are the tokens of a group, which is read one level deeper, and has the same value.
-/

namespace PythonSyntax

open PythonSyntax.Parser

variable {spell : List Char → List Char} {expr : Rule → Parser Expr} {n : Nesting}
  {ts us : List Token} {v : Expr} {e : List Char} {limit : Nat}

/-- Whether a statement is an expression. -/
def Stmt.isExpression : Stmt → Bool
  | .expr _ => true
  | _ => false

namespace Parser

/-! ## Simple statements that are expressions -/

/-- A parser that yields no expression statement. -/
abbrev NoExpression (p : Parser Stmt) : Prop := Returns (fun s => s.isExpression = false) p

theorem noExpression_annotated (target : Expr) (start : Token) :
    NoExpression (annotated expr target start) := by
  refine .bind fun _ => ?_
  split
  · exact .failAt
  · exact .bind fun _ => .bind fun _ => .bind fun _ => .pure rfl

theorem noExpression_augmented (target : Expr) (op : Operator) (start : Token) :
    NoExpression (augmented expr target op start) :=
  .bind fun _ => .ite (.bind fun _ => .bind fun _ => .pure rfl) .failAt

theorem noExpression_assignment (first : Expr × Span) (rest : List (Expr × Span)) :
    NoExpression (ofExcept (assignment first rest)) := by
  intro n ts s us h
  rw [outcome_ofExcept] at h
  obtain ⟨s', hs', heq⟩ := map_ok h
  cases heq
  obtain ⟨targets, -, hs'⟩ := bind_ok hs'
  cases hs'
  rfl

theorem noExpression_raising : NoExpression (raising expr) :=
  .bind fun _ => .bind fun _ => .ite (.bind fun _ => .bind fun _ => .pure rfl) (.pure rfl)

theorem noExpression_deleting : NoExpression (deleting expr) :=
  .bind fun _ => .bind fun _ => .bind fun _ => .bind fun _ => .pure rfl

theorem noExpression_asserting : NoExpression (asserting expr) :=
  .bind fun _ => .bind fun _ => .bind fun _ => .pure rfl

theorem noExpression_returning : NoExpression (returning expr) :=
  .bind fun _ => .bind fun _ => .pure rfl

theorem noExpression_importing : NoExpression importing := .bind fun _ => .bind fun _ => .pure rfl

theorem noExpression_importFrom : NoExpression importFrom :=
  .bind fun _ => .bind fun _ => .bind fun _ => .bind fun _ => .bind fun _ => .pure rfl

/-- An expression statement is an expression, with no operator of an assignment behind it. -/
theorem expression_of_exprStatement (h : outcome (exprStatement expr) n ts = .ok (.expr v, us)) :
    outcome (yieldOr expr .starTestList) n ts = .ok (v, us) := by
  have hnot : ∀ {p : Parser Stmt} {ts : List Token}, NoExpression p →
      outcome p n ts ≠ .ok (.expr v, us) := fun hp h => (by cases hp n _ _ _ h)
  rw [exprStatement, outcome_peek_bind, outcome_bind] at h
  obtain ⟨⟨first, ts₁⟩, hfirst, h⟩ := bind_ok h
  dsimp only at h
  cases hcolon : (current ts₁).isOp ":" with
  | true =>
    rw [ifAtOp_pos hcolon] at h
    exact absurd h (hnot (noExpression_annotated first _))
  | false =>
    rw [ifAtOp_neg hcolon, outcome_peek_bind] at h
    split at h
    · exact absurd h (hnot (noExpression_augmented first _ _))
    · rw [outcome_bind] at h
      obtain ⟨⟨rest, ts₂⟩, hrest, h⟩ := bind_ok h
      dsimp only at h
      split at h
      · cases h
        obtain ⟨-, hitem⟩ | ⟨_, _, _, _, hnil, -⟩ := manyUpTo_ok ((outcome_many _).symm.trans hrest)
        · -- the value of an assignment would have been one more
          cases hassign : (current ts₁).isOp "=" with
          | true =>
            rw [assigned, ifEatOp_pos hassign, outcome_peek_bind, outcome_bind] at hitem
            obtain ⟨_, -, hitem⟩ := bind_ok hitem
            cases hitem
          | false =>
            rw [assigned, ifEatOp_neg hassign] at hitem
            cases hitem
            exact hfirst
        · cases hnil
      · exact absurd h (hnot (noExpression_assignment _ _))

theorem expression_of_smallStatement (h : outcome (smallStatement expr) n ts = .ok (.expr v, us)) :
    outcome (yieldOr expr .starTestList) n ts = .ok (v, us) := by
  have hnot : ∀ {p : Parser Stmt}, NoExpression p → outcome p n ts ≠ .ok (.expr v, us) :=
    fun hp h => (by cases hp n _ _ _ h)
  have hword : ∀ s : Stmt, s.isExpression = false → NoExpression (oneWord s) :=
    fun s hs => .bind fun _ => .pure hs
  rw [smallStatement, outcome_peek_bind] at h
  split at h
  · split at h
    · exact absurd h (hnot (hword _ rfl))
    · exact absurd h (hnot (hword _ rfl))
    · exact absurd h (hnot (hword _ rfl))
    · exact absurd h (hnot noExpression_returning)
    · exact absurd h (hnot noExpression_raising)
    · exact absurd h (hnot (.bind fun _ => .bind fun _ => .pure rfl))
    · exact absurd h (hnot (.bind fun _ => .bind fun _ => .pure rfl))
    · exact absurd h (hnot noExpression_deleting)
    · exact absurd h (hnot noExpression_asserting)
    · exact absurd h (hnot noExpression_importing)
    · exact absurd h (hnot noExpression_importFrom)
    · exact expression_of_exprStatement h
  · exact expression_of_exprStatement h

end Parser

/-! ## Programs -/

/-- Enclosing parentheses are transparent: a program that is an expression statement, without a
semicolon behind it, is the same expression statement in parentheses, if one more level may be
nested. -/
theorem parseModule_inGroup (h : parseModule e limit = .ok ⟨[.expr v]⟩)
    (hsemi : ∀ ts, tokenize e limit = .ok ts → ∀ t ∈ ts, t.isOp ";" = false) :
    parseModule (inGroup e) (limit + 1) = .ok ⟨[.expr v]⟩ := by
  obtain ⟨ts, rest, hts, hfile⟩ := tokens_of_parseModule h
  obtain ⟨as, newline, eof, fuel, rfl, hne, has, hnewline, heof, hsmall⟩ :=
    line_of_file rfl (Layout.tokenize_stream e limit ts hts).1 (hsemi ts hts) hfile
  obtain ⟨t, us, newline', eof', htokens, ht, hnewline', heof', hstreams⟩ :=
    Layout.tokenize_inGroup hts has hne hnewline heof
  have hvalue := expression_of_smallStatement hsmall
  have hstart : (current (as ++ [newline, eof])).kind ≠ .newline := by
    obtain ⟨a, as, rfl⟩ := List.exists_cons_of_ne_nil hne
    intro hk
    have hcontent := has a List.mem_cons_self
    rw [show a.kind = .newline from hk] at hcontent
    cases hcontent
  have hend : outcome (yieldOr (Rule.run id fuel) .starTestList >>= endOfText .newline) ⟨limit, 0⟩
      (as ++ [newline, eof]) = .ok (v, [newline, eof]) := by
    rw [outcome_bind_of hvalue]
    show outcome (if (newline.kind == .newline) = true then pure v else _) _ _ = _
    rw [hnewline]
    rfl
  exact parseSpelled_grouped htokens ht hnewline' heof' hstreams hstart hend

/-- A tuple of one item, with a comment behind its comma. -/
def tupleSource : List Char := ['x', ',', ' ', '#', 'y']

/-- Whether a program is a tuple of one item. -/
def isSingleton (m : Module) : Bool :=
  match m.body with
  | [.expr (.tuple [_] _)] => true
  | _ => false

/-- The comma makes the tuple also in parentheses, which the comment does not reach. -/
theorem parseModule_inGroup_tuple :
    inGroup tupleSource = ['(', 'x', ',', ' ', '#', 'y', '\n', ')', '\n'] ∧
      ∃ item ctx, parseModule tupleSource 0 = .ok ⟨[.expr (.tuple [item] ctx)]⟩ ∧
        (∀ ts, tokenize tupleSource 0 = .ok ts → ∀ t ∈ ts, t.isOp ";" = false) ∧
        parseModule (inGroup tupleSource) 1 = .ok ⟨[.expr (.tuple [item] ctx)]⟩ := by
  obtain ⟨m, hparse, hm⟩ := exists_of_any (x := parseModule tupleSource 0) (p := isSingleton)
    (by decide +kernel)
  obtain ⟨us, hus, hall⟩ := exists_of_any (x := tokenize tupleSource 0)
    (p := fun ts => ts.all fun t => !t.isOp ";") (by decide +kernel)
  have hsemi : ∀ ts, tokenize tupleSource 0 = .ok ts → ∀ t ∈ ts, t.isOp ";" = false := by
    intro ts hts t ht
    rw [hts] at hus
    cases hus
    simpa using List.all_eq_true.mp hall t ht
  obtain ⟨stmts⟩ := m
  unfold isSingleton at hm
  dsimp only at hm
  split at hm
  · next item ctx => exact ⟨rfl, item, ctx, hparse, hsemi, parseModule_inGroup hparse hsemi⟩
  · cases hm

end PythonSyntax
