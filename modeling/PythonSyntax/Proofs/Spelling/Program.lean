import PythonSyntax.Proofs.Agreement.Verbatim
import PythonSyntax.Proofs.Parser.Statement
import PythonSyntax.Proofs.Spelling.Read

/-
A program that is one expression.

If the tokens of a program are those of some words and the end of a line, and the words are read to
a tree, the program is that tree as a statement.
-/

namespace PythonSyntax

open PythonSyntax.Parser Filter

variable {spell : List Char → List Char} {ws : List Word} {e : Expr} {n : Nesting}
  {ts us : List Token}

/-! ## Statements -/

namespace Rule

theorem Takes.starTestList (h : Takes spell .test n ts e us) (hstar : (current ts).isOp "*" = false)
    (hcomma : (current us).isOp "," = false) : Takes spell .starTestList n ts e us := by
  have hstarOr : Takes spell .starOrTest n ts e us :=
    takes_of_body (h.mono fun _ hfuel => starOr_plain hstar hfuel)
  exact takes_of_body (hstarOr.mono fun _ hfuel => listOrTuple_single hfuel hcomma)

end Rule

section

variable {expr : Rule → Parser Expr} {rule : StmtRule → Parser (List Stmt)}

theorem exprStatement_plain (hyield : (current ts).isWord "yield" = false)
    (h : outcome (expr .starTestList) n ts = .ok (e, us)) (hkind : (current us).kind = .newline) :
    outcome (exprStatement expr) n ts = .ok (.expr e, us) := by
  have hop : ∀ op, (current us).isOp op = false := fun op => by rw [Token.isOp, hkind]; rfl
  have haugmented : augmentedOperator? (current us) = none := by
    rw [augmentedOperator?, if_neg (by rw [hkind]; decide)]
  rw [exprStatement, outcome_peek_bind, outcome_bind_of (yieldOr_plain hyield h),
    ifAtOp_neg (hop _), outcome_peek_bind, haugmented]
  dsimp only
  have hassigned : outcome (many (assigned expr)) n us = .ok ([], us) :=
    (Items.done ((ifEatOp_neg (hop _)).trans (outcome_pure _))).many
  rw [outcome_bind_of hassigned]
  rfl

/-- No statement but an expression begins like one. -/
theorem smallStatement_expr (hb : Rule.Begins .test (current ts).word) :
    outcome (smallStatement expr) n ts = outcome (exprStatement expr) n ts := by
  rw [smallStatement, outcome_peek_bind]
  split
  · next hkind =>
    split
    case h_12 => rfl
    all_goals
      next heq => exact absurd heq (hb.ne_text hkind (by decide) (by decide))
  · rfl

theorem simpleStatements_expr (hb : Rule.Begins .test (current ts).word)
    (h : outcome (exprStatement expr) n ts = .ok (.expr e, us))
    (hkind : (current us).kind = .newline) :
    outcome (simpleStatements expr) n ts = .ok ([.expr e], dropCurrent us) := by
  have hop : ∀ op, (current us).isOp op = false := fun op => by rw [Token.isOp, hkind]; rfl
  have hnewline : outcome expectNewline n us = .ok ((), dropCurrent us) := by
    rw [expectNewline, outcome_bind, outcome_expect, if_pos (by rw [hkind]; rfl)]
    rfl
  rw [simpleStatements, outcome_bind_of ((smallStatement_expr hb).trans h),
    outcome_bind_of (Items.done ((ifEatOp_neg (hop _)).trans (outcome_pure _))).many,
    outcome_bind_of hnewline]
  rfl

theorem statement_expr (hb : Rule.Begins .test (current ts).word) :
    outcome (statement expr rule) n ts = outcome (simpleStatements expr) n ts := by
  rw [statement, outcome_peek_bind, if_neg]
  · split
    · next hkind =>
      split
      case h_9 => rfl
      all_goals
        next heq => exact absurd heq (hb.ne_text hkind (by decide) (by decide))
    · rfl
  · rw [hb.isOp (by decide) (by decide)]
    exact Bool.false_ne_true

end

/-! ## Programs -/

theorem StmtRule.eventually_of_body {r : StmtRule} {ss : List Stmt}
    (h : ∀ᶠ fuel in atTop, outcome (r.body (Rule.run spell fuel) (StmtRule.run spell fuel)) n ts =
      .ok (ss, us)) :
    ∀ᶠ fuel in atTop, outcome (r.run spell fuel) n ts = .ok (ss, us) := by
  obtain ⟨least, hleast⟩ := eventually_atTop.mp h
  refine eventually_atTop.mpr ⟨least + 1, fun fuel hle => ?_⟩
  cases fuel with
  | zero => cases hle
  | succ fuel => exact hleast fuel (by omega)

theorem fileItem_statement {rule : StmtRule → Parser (List Stmt)}
    (h : (current ts).kind.isContent = true) :
    outcome (fileItem rule) n ts = outcome (do return some (← rule .statement)) n ts := by
  rw [fileItem, outcome_peek_bind]
  split
  · next heq => rw [heq] at h; cases h
  · next heq => rw [heq] at h; cases h
  · rfl

/-- The only statement of a program that is an expression on a line. -/
theorem file_takes {newline eof : Token} (hnewline : newline.kind = .newline)
    (heof : eof.kind = .endMarker)
    (hb : Rule.Begins .test (current (ts ++ [newline, eof])).word)
    (h : Rule.Takes spell .test n (ts ++ [newline, eof]) e [newline, eof]) :
    ∀ᶠ fuel in atTop, outcome (file (StmtRule.run spell fuel)) n (ts ++ [newline, eof]) =
      .ok (⟨[.expr e]⟩, [eof]) := by
  have hop : ∀ op, newline.isOp op = false := fun op => by rw [Token.isOp, hnewline]; rfl
  have hlist := h.starTestList (hb.isOp (by decide) (by decide)) (hop _)
  have hstatement : ∀ᶠ fuel in atTop, outcome (StmtRule.run spell fuel .statement) n
      (ts ++ [newline, eof]) = .ok ([.expr e], [eof]) :=
    StmtRule.eventually_of_body (hlist.mono fun fuel hfuel => (statement_expr hb).trans
      (simpleStatements_expr hb (exprStatement_plain
        (hb.isWord (by decide) (by decide)) hfuel hnewline) hnewline))
  refine hstatement.mono fun fuel hfuel => ?_
  have hdone : outcome (fileItem (StmtRule.run spell fuel)) n [eof] = .ok (none, [eof]) := by
    rw [fileItem, outcome_peek_bind, show (current [eof]).kind = .endMarker from heof]
    rfl
  have hitem : outcome (fileItem (StmtRule.run spell fuel)) n (ts ++ [newline, eof]) =
      .ok (some [.expr e], [eof]) := by
    rw [fileItem_statement hb.isContent, outcome_bind_of hfuel]
    rfl
  have hitems : Items (fileItem (StmtRule.run spell fuel)) n (ts ++ [newline, eof]) [[.expr e]]
      [eof] :=
    .more hitem (by simp) (.done hdone)
  rw [file, outcome_bind_of hitems.many]
  rfl

/-- An expression ends before the end of its line. -/
theorem Rule.Ends.of_newline {newline : Token} (h : newline.kind = .newline) (r : Rule) :
    r.Ends newline.word :=
  .of_kind (show newline.kind ≠ .op by rw [h]; decide) (show newline.kind ≠ .name by rw [h]; decide)

/-- The only statement of a program whose tokens are those of an expression on a line. -/
theorem file_expr {newline eof : Token} (hnewline : newline.kind = .newline)
    (heof : eof.kind = .endMarker) (hts : ts.map Token.word = ws) (hb : Rule.BeginsAll .test ws)
    (h : Rule.Reads spell .test ws e) (hn : n.depth + ws.length ≤ n.limit) :
    ∀ᶠ fuel in atTop, outcome (file (StmtRule.run spell fuel)) n (ts ++ [newline, eof]) =
      .ok (⟨[.expr e]⟩, [eof]) :=
  file_takes hnewline heof (hb.current hts [newline, eof])
    (h ts [newline, eof] n hts (List.cons_ne_nil _ _) (.of_newline hnewline _) hn)

/-- A program whose tokens are read to a tree, followed deep enough, has that tree. -/
theorem parseSpelled_of_eventually {source : List Char} {limit : Nat} {m : Module}
    (ht : tokenize source limit = .ok ts)
    (h : ∀ᶠ fuel in atTop, outcome (file (StmtRule.run spell fuel)) ⟨limit, 0⟩ ts = .ok (m, us)) :
    parseSpelled spell source limit = .ok m := by
  obtain ⟨least, hleast⟩ := eventually_atTop.mp h
  have heq : parseSpelled spell source limit =
      (outcome (file (StmtRule.run spell (parseFuel ts))) ⟨limit, 0⟩ ts).map Prod.fst := by
    rw [parseSpelled_eq, ht]
    rfl
  have hfueled := (parseSpelled_spec spell source limit).1
  rw [heq] at hfueled ⊢
  have hfile : ((verbatim True False).throughout same_eof).Agrees
      (file (StmtRule.run spell (parseFuel ts)))
      (file (StmtRule.run spell (max least (parseFuel ts)))) Eq :=
    TokenLikeness.file_throughout same_eof (fun hle => rules_same _ hle) (Nat.le_max_right _ _)
  have hresults := hfile 0 ts ts ⟨limit, 0⟩ ⟨limit, 0⟩
    (List.forall₂_same.mpr fun _ _ => ⟨rfl, .inl rfl, fun _ => rfl⟩) ⟨Nat.le_refl _, .inr rfl⟩
  rw [hleast _ (Nat.le_max_left _ _)] at hresults
  generalize outcome (file (StmtRule.run spell (parseFuel ts))) ⟨limit, 0⟩ ts = result
    at hfueled hresults
  cases hresults with
  | ok hvalue => exact congrArg Except.ok hvalue.1
  | excused hexcused =>
    rcases hexcused with ⟨hfalse, -⟩ | hfuel | hexact
    · exact hfalse.elim
    · exact absurd hfuel (hfueled _ rfl)
    · exact absurd trivial hexact

end PythonSyntax
