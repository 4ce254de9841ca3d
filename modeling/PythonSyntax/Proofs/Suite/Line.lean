import PythonSyntax.Proofs.Concat.Program
import PythonSyntax.Proofs.Parser.Returns
import PythonSyntax.Proofs.Spelling.Take

/-
Programs of one simple statement.

If all that a program says is one statement without blocks, and no semicolon stands in it, then its
tokens are those of a line, which the statement takes up to its end.  For no compound statement yields a
tree without blocks, a simple statement ends on the line that it begins on, and whatever stands behind
the line would be another statement.
-/

namespace PythonSyntax

open PythonSyntax.Parser PythonSyntax.Parser.TokenLikeness PythonSyntax.Parser.Likeness

/-- Whether a statement has no blocks. -/
def Stmt.isSimple : Stmt → Bool
  | .functionDef .. | .classDef .. | .forLoop .. | .whileLoop .. | .ifElse .. | .withBlock ..
  | .tryBlock .. => false
  | _ => true

namespace Parser

variable {α : Type} {expr : Rule → Parser Expr} {rule : StmtRule → Parser (List Stmt)}
  {spell : List Char → List Char} {fuel : Nat} {n : Nesting} {ts us as tail : List Token} {s : Stmt}

/-! ## Compound statements -/

/-- A parser that yields no simple statement. -/
abbrev Compound (p : Parser Stmt) : Prop := Returns (fun s => s.isSimple = false) p

theorem compound_conditional : Compound (conditional expr rule) :=
  .bind fun _ => .bind fun _ => .bind fun _ => .bind fun _ => .pure rfl

theorem compound_whileLoop : Compound (whileLoop expr rule) :=
  .bind fun _ => .bind fun _ => .bind fun _ => .bind fun _ => .pure rfl

theorem compound_forLoop (isAsync : Bool) : Compound (forLoop expr rule isAsync) :=
  .bind fun _ => .bind fun _ => .bind fun _ => .bind fun _ => .bind fun _ => .bind fun _ =>
    .bind fun _ => .bind fun _ => .pure rfl

theorem compound_tryBlock : Compound (tryBlock expr rule) :=
  .bind fun _ => .bind fun _ => .bind fun _ => .bind fun _ => .bind fun _ =>
    .ite .unexpected (.pure rfl)

theorem compound_withBlock (isAsync : Bool) : Compound (withBlock expr rule isAsync) :=
  .bind fun _ => .bind fun _ => .bind fun _ => .pure rfl

theorem compound_functionDef (decorators : List Expr) (isAsync : Bool) :
    Compound (functionDef expr rule decorators isAsync) :=
  .bind fun _ => .bind fun _ => .bind fun _ => .bind fun _ => .bind fun _ => .bind fun _ =>
    .bind fun _ => .pure rfl

theorem compound_classDef (decorators : List Expr) : Compound (classDef expr rule decorators) :=
  .bind fun _ => .bind fun _ => .bind fun _ => .bind fun _ => .pure rfl

theorem compound_decorated : Compound (decorated expr rule) := by
  refine .bind fun decorators => .bind fun t => .ite (compound_functionDef decorators false)
    (.ite (compound_classDef decorators) (.bind fun next => .ite ?_ .unexpected))
  exact .bind fun _ => compound_functionDef decorators true

theorem compound_asyncStatement : Compound (asyncStatement expr rule) :=
  .bind fun _ => .bind fun _ => .ite (compound_functionDef [] true)
    (.ite (compound_forLoop true) (.ite (compound_withBlock true) .unexpected))

/-- A rule that yields one simple statement is a line of simple statements. -/
theorem simpleStatements_of_statement (hs : s.isSimple = true)
    (h : outcome (statement expr (StmtRule.run spell fuel)) n ts = .ok ([s], us)) :
    outcome (simpleStatements expr) n ts = .ok ([s], us) := by
  have hone : ∀ {p : Parser Stmt}, Compound p → outcome (do return [← p]) n ts ≠ .ok ([s], us) := by
    intro p hp h
    rw [outcome_bind] at h
    obtain ⟨⟨s', vs⟩, hs', h⟩ := bind_ok h
    cases h
    exact Bool.false_ne_true ((hp n ts _ _ hs').symm.trans hs)
  rw [statement, outcome_peek_bind] at h
  split at h
  · exact absurd h (hone compound_decorated)
  · split at h
    · split at h
      · cases fuel with
        | zero => cases h
        | succ fuel => exact absurd h (hone compound_conditional)
      · exact absurd h (hone compound_whileLoop)
      · exact absurd h (hone (compound_forLoop false))
      · exact absurd h (hone compound_tryBlock)
      · exact absurd h (hone (compound_withBlock false))
      · exact absurd h (hone (compound_functionDef [] false))
      · exact absurd h (hone (compound_classDef []))
      · exact absurd h (hone compound_asyncStatement)
      · exact h
    · exact h

/-! ## Lines -/

/-- Streams at the same place of a line, or at its end. -/
def OnLine (as tail : List Token) : Streams := fun ts us => ts = us ∧ ∃ done, done <:+ as ∧ ts = done ++ tail

/-- A line ends in a token without text. -/
structure IsLine (as tail : List Token) : Prop where
  content : ∀ t ∈ as, t.kind.isContent = true
  ends : (current tail).kind.isContent = false
  ne_nil : tail ≠ []

theorem IsLine.lasts (h : IsLine as tail) : Lasts (Same False) (OnLine as tail) where
  first := by
    rintro ts _ ⟨rfl, -⟩
    exact same_self _ _ False.elim
  drop := by
    rintro ts _ ⟨rfl, done, hdone, rfl⟩ hcontent
    cases done with
    | nil => cases hcontent.symm.trans h.ends
    | cons t done =>
      rw [List.cons_append, dropCurrent_cons (List.append_ne_nil_of_right_ne_nil _ h.ne_nil)]
      exact ⟨rfl, done, List.IsSuffix.trans (List.suffix_cons t done) hdone, rfl⟩
  length_le := by
    rintro ts _ ⟨rfl, -⟩
    exact Nat.le_refl _

/-- What is left of a stream after a rule that keeps to a line. -/
theorem IsLine.left_of_agrees (h : IsLine as tail) {p : Parser α} {a : α}
    (hp : ((sameText False False False).steady h.lasts).Agrees p p Eq)
    (ha : outcome p n (as ++ tail) = .ok (a, us)) : ∃ done, done <:+ as ∧ us = done ++ tail := by
  have hsame := hp 0 (as ++ tail) (as ++ tail) n n ⟨rfl, as, List.suffix_rfl, rfl⟩
    ⟨Nat.le_refl _, .inr rfl⟩
  rw [ha] at hsame
  obtain ⟨r, hr, -, -, done, hdone, heq⟩ := hsame.of_ok
  exact ⟨done, hdone, heq⟩

/-- A line with one simple statement, and no semicolon after it. -/
theorem IsLine.smallStatement (h : IsLine as tail) (hsemi : ∀ t ∈ as ++ tail, t.isOp ";" = false)
    (hs : outcome (simpleStatements (Rule.run spell fuel)) n (as ++ tail) = .ok ([s], us)) :
    (current tail).kind = .newline ∧ us = dropCurrent tail ∧
      outcome (smallStatement (Rule.run spell fuel)) n (as ++ tail) = .ok (s, tail) := by
  rw [simpleStatements, outcome_bind] at hs
  obtain ⟨⟨first, us₁⟩, hfirst, hs⟩ := bind_ok hs
  dsimp only at hs
  rw [outcome_bind] at hs
  obtain ⟨⟨rest, us₂⟩, hrest, hs⟩ := bind_ok hs
  dsimp only at hs
  rw [outcome_bind] at hs
  obtain ⟨⟨_, us₃⟩, hnewline, hs⟩ := bind_ok hs
  cases hs
  obtain ⟨done, hdone, rfl⟩ :=
    h.left_of_agrees (Likeness.smallStatement (rules_same h.lasts (Nat.le_refl fuel))) hfirst
  have hcurrent : current (done ++ tail) ∈ as ++ tail := by
    cases done with
    | nil =>
      obtain ⟨t, tail, rfl⟩ := List.exists_cons_of_ne_nil h.ne_nil
      exact List.mem_append_right _ List.mem_cons_self
    | cons t done => exact List.mem_append_left _ (hdone.subset List.mem_cons_self)
  obtain ⟨-, hitem⟩ | ⟨_, _, _, _, hnil, -⟩ := manyUpTo_ok ((outcome_many _).symm.trans hrest)
  · rw [ifEatOp_neg (hsemi _ hcurrent)] at hitem
    cases hitem
    rw [expectNewline, outcome_bind, outcome_expect] at hnewline
    split at hnewline
    · next hk =>
      cases hnewline
      have hk := beq_iff_eq.mp hk
      cases done with
      | nil => exact ⟨hk, rfl, hfirst⟩
      | cons t done =>
        have hcontent := h.content t (hdone.subset List.mem_cons_self)
        rw [show t.kind = .newline from hk] at hcontent
        cases hcontent
    · cases hnewline
  · cases hnil

/-! ## Programs -/

theorem fileItem_ok {ss : List Stmt} (h : outcome (fileItem rule) n ts = .ok (some ss, us)) :
    (current ts).kind = .newline ∨ outcome (rule .statement) n ts = .ok (ss, us) := by
  rw [fileItem, outcome_peek_bind] at h
  split at h
  · cases h
  · next hk => exact .inl hk
  · rw [outcome_bind] at h
    obtain ⟨⟨ss', vs⟩, hstatement, h⟩ := bind_ok h
    cases h
    exact .inr hstatement

/-- A stream is a line and what stands behind it. -/
theorem exists_line (h : Readable ts) : ∃ as tail, ts = as ++ tail ∧ IsLine as tail := by
  have hend : ts.dropWhile (·.kind.isContent) ≠ [] := by
    induction h with
    | last ht => simp [ht, TokenKind.isContent]
    | @cons t ts ht _ hts ih =>
      rw [List.dropWhile_cons]
      split
      · exact ih
      · exact List.cons_ne_nil _ _
  refine ⟨ts.takeWhile (·.kind.isContent), ts.dropWhile (·.kind.isContent),
    (List.takeWhile_append_dropWhile).symm, fun t ht => ?_, ?_, hend⟩
  · exact List.mem_takeWhile_imp (p := fun t : Token => t.kind.isContent) ht
  · have hhead := List.head_dropWhile_not (fun t : Token => t.kind.isContent) hend
    obtain ⟨t, tail, heq⟩ := List.exists_cons_of_ne_nil hend
    simp only [heq, List.head_cons] at hhead
    rw [heq]
    exact hhead

/-- Without statements no item of a program is left, but for its end. -/
theorem endMarker_of_items {bound : List Token} {sss : List (List Stmt)} (hreadable : Readable ts)
    (hfuel : 32 * weight ts + 21 < fuel) (hstart : (current ts).kind ≠ .newline)
    (h : outcome (manyUpTo (fileItem (StmtRule.run spell fuel)) bound) n ts = .ok (sss, us))
    (hsss : sss.flatten = []) : ∃ eof, ts = [eof] ∧ eof.kind = .endMarker := by
  obtain ⟨-, hitem⟩ | ⟨ss, rest, vs, bound', rfl, hitem, -⟩ := manyUpTo_ok h
  · have hk := endMarker_of_fileItem hitem
    cases hreadable with
    | last ht => exact ⟨_, rfl, ht⟩
    | cons ht => exact absurd hk ht
  · have hstatement := (fileItem_ok hitem).resolve_left hstart
    have hread := (belowStmt_run spell fuel .statement ts hfuel nofun).outcome hreadable n
    rw [hstatement] at hread
    exact absurd (List.append_eq_nil_iff.mp hsss).1 hread.2.2.2.1

/-- A line ends after a token with text, so no stream begins with the end of a line. -/
theorem current_ne_newline {limit : Nat} (h : Layout.Stream limit ts) :
    (current ts).kind ≠ .newline := by
  cases ts with
  | nil => exact nofun
  | cons t ts =>
    intro hk
    obtain ⟨pre, c, hpre, -⟩ := h.before_newline [] t ts rfl hk
    simp at hpre

/-- Behind the end of a line something stands, and it is not the end of another line. -/
theorem behind_newline {limit : Nat} {newline : Token}
    (h : Layout.Stream limit (as ++ newline :: tail)) (hk : newline.kind = .newline) :
    tail ≠ [] ∧ (current tail).kind ≠ .newline := by
  cases tail with
  | nil =>
    obtain ⟨body, e, hbody, he, -⟩ := h.endMarker
    obtain ⟨-, hlast⟩ := List.append_inj' hbody rfl
    obtain rfl := (List.cons.inj hlast).1
    cases hk.symm.trans he
  | cons t tail =>
    refine ⟨List.cons_ne_nil _ _, fun hk' => ?_⟩
    obtain ⟨pre, c, hpre, hc⟩ := h.before_newline (as ++ [newline]) t tail
      (List.append_cons as newline (t :: tail)) hk'
    obtain ⟨-, hlast⟩ := List.append_inj' hpre rfl
    obtain rfl := (List.cons.inj hlast).1
    rw [hk] at hc
    cases hc

/-- The first item of a program of a single statement is that statement, and no item behind it has
another one. -/
theorem statement_of_file {rest : List Token} (hreadable : Readable ts)
    (hstart : (current ts).kind ≠ .newline)
    (h : outcome (file (StmtRule.run spell (parseFuel ts))) n ts = .ok (⟨[s]⟩, rest)) :
    ∃ us bound sss, outcome (StmtRule.run spell (parseFuel ts) .statement) n ts = .ok ([s], us) ∧
      us <:+ ts ∧ Readable us ∧
      outcome (manyUpTo (fileItem (StmtRule.run spell (parseFuel ts))) bound) n us = .ok (sss, rest) ∧
      sss.flatten = [] := by
  obtain ⟨⟨sss, us⟩, hsss, h⟩ := bind_ok (h : outcome (many _) n ts >>= _ = _)
  obtain ⟨heq, rfl⟩ := Prod.mk.inj (Except.ok.inj h)
  replace heq : sss.flatten = [s] := congrArg Module.body heq
  obtain ⟨rfl, -⟩ | ⟨ss, sss, vs, bound, rfl, hitem, hrest⟩ := manyUpTo_ok ((outcome_many _).symm.trans hsss)
  · cases heq
  have hstatement := (fileItem_ok hitem).resolve_left hstart
  have hfuel : 32 * weight ts + 21 < parseFuel ts := by
    rw [parseFuel_eq]
    omega
  have hread := (belowStmt_run spell _ .statement _ hfuel nofun).outcome hreadable n
  rw [hstatement] at hread
  obtain ⟨hsuffix, hreadable', -, hne, -⟩ := hread
  obtain ⟨s', ss, rfl⟩ := List.exists_cons_of_ne_nil hne
  obtain ⟨rfl, hnil⟩ := List.cons.inj heq
  obtain ⟨rfl, hnone⟩ := List.append_eq_nil_iff.mp hnil
  exact ⟨vs, bound, sss, hstatement, hsuffix, hreadable', hrest, hnone⟩

/-- A program of a single statement without blocks, in which no semicolon stands, is that statement on
a line. -/
theorem line_of_file {limit : Nat} {rest : List Token} (hs : s.isSimple = true)
    (hstream : Layout.Stream limit ts) (hsemi : ∀ t ∈ ts, t.isOp ";" = false)
    (h : outcome (file (StmtRule.run spell (parseFuel ts))) n ts = .ok (⟨[s]⟩, rest)) :
    ∃ as newline eof fuel, ts = as ++ [newline, eof] ∧ as ≠ [] ∧
      (∀ t ∈ as, t.kind.isContent = true) ∧ newline.kind = .newline ∧ eof.kind = .endMarker ∧
      outcome (smallStatement (Rule.run spell fuel)) n ts = .ok (s, [newline, eof]) := by
  have hreadable := readable_of_stream hstream
  have hstart := current_ne_newline hstream
  obtain ⟨vs, bound, sss, hstatement, hsuffix, hreadable', hrest, hnone⟩ :=
    statement_of_file hreadable hstart h
  obtain ⟨as, tail, rfl, hline⟩ := exists_line hreadable
  have hfuel : 32 * weight (as ++ tail) + 21 < parseFuel (as ++ tail) := by
    rw [parseFuel_eq]
    omega
  obtain ⟨fuel, hfuel'⟩ : ∃ fuel, parseFuel (as ++ tail) = fuel + 1 :=
    Nat.exists_eq_succ_of_ne_zero (by omega)
  have hsimple : outcome (simpleStatements (Rule.run spell fuel)) n (as ++ tail) = .ok ([s], vs) := by
    rw [hfuel'] at hstatement
    exact simpleStatements_of_statement hs hstatement
  obtain ⟨hk, rfl, hsmall⟩ := hline.smallStatement hsemi hsimple
  have hne : as ≠ [] := by
    rintro rfl
    exact hstart hk
  obtain ⟨newline, tail, rfl⟩ := List.exists_cons_of_ne_nil hline.ne_nil
  obtain ⟨htail, hafter⟩ := behind_newline hstream hk
  rw [dropCurrent_cons htail] at hsuffix hreadable' hrest
  have hweight := weight_le_of_suffix hsuffix
  obtain ⟨eof, rfl, heof⟩ := endMarker_of_items hreadable' (by omega) hafter hrest hnone
  exact ⟨as, newline, eof, fuel, rfl, hne, hline.content, hk, heof, hsmall⟩

end Parser

end PythonSyntax
