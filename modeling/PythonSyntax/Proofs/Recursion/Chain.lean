import PythonSyntax.Proofs.Parser.Statement
import PythonSyntax.Proofs.Spelling.Line
import PythonSyntax.Proofs.Spelling.Take

/-
Recursion that the limit on nesting does not bound.

`parseWithin` reads a program with a bound on how deep rules may refer to rules.  The limit on
nesting is meant to bound that depth, but it is never compared with it where the default of a
parameter is read.  So `lambda`s in each other's defaults exhaust any bound, under every limit.
-/

namespace PythonSyntax

open PythonSyntax.Parser

variable {α β : Type} {spell : List Char → List Char} {n : Nesting} {ts us : List Token}

/-- The tree of a program whose rules follow references at most `fuel` levels deep. -/
def parseWithin (fuel : Nat) (source : List Char) (maxNesting : Nat) :
    Except SyntaxError Module := do
  let tokens ← tokenize source maxNesting
  ((file (StmtRule.run id fuel)).exec maxNesting (.start tokens 0)).1

theorem parseWithin_eq (fuel : Nat) (source : List Char) (maxNesting : Nat) :
    parseWithin fuel source maxNesting = tokenize source maxNesting >>= fun ts =>
      (outcome (file (StmtRule.run id fuel)) ⟨maxNesting, 0⟩ ts).map Prod.fst :=
  bind_congr fun ts => exec_start (file (StmtRule.run id fuel)) maxNesting ts

/-! ## Running out -/

/-- A parser runs out of fuel. -/
def Exhausts (p : Parser α) (n : Nesting) (ts : List Token) : Prop :=
  ∃ span, outcome p n ts = .error ⟨.outOfFuel, span⟩

theorem Exhausts.bind {p : Parser α} (h : Exhausts p n ts) (f : α → Parser β) :
    Exhausts (p >>= f) n ts := by
  obtain ⟨span, h⟩ := h
  exact ⟨span, by rw [outcome_bind, h]; rfl⟩

theorem Exhausts.after {p : Parser α} {a : α} {f : α → Parser β}
    (h : outcome p n ts = .ok (a, us)) (hf : Exhausts (f a) n us) : Exhausts (p >>= f) n ts := by
  obtain ⟨span, hf⟩ := hf
  exact ⟨span, (outcome_bind_of h f).trans hf⟩

theorem Exhausts.iterate {step : α → Parser (α × Bool)} {a : α} (h : Exhausts (step a) n ts) :
    Exhausts (iterate step a) n ts :=
  (h.bind _ : Exhausts (iterateUpTo step (current ts :: ts) a) n ts)

theorem Exhausts.many {item : Parser (Option α)} (h : Exhausts item n ts) :
    Exhausts (many item) n ts :=
  (h.bind _ : Exhausts (manyUpTo item (current ts :: ts)) n ts)

/-- A rule runs out of fuel if there is none, or if what it says runs out of the rest. -/
theorem exhausts_run {r : Rule} {fuel : Nat}
    (h : ∀ f, fuel = f + 1 → Exhausts (r.body spell (Rule.run spell f)) n ts) :
    Exhausts (Rule.run spell fuel r) n ts := by
  cases fuel with
  | zero => exact ⟨_, rfl⟩
  | succ f => exact h f rfl

/-! ## Defaults -/

section

variable {rule : Rule → Parser Expr}

theorem exhausts_parameterEntry {closing : String} {s : Parameters}
    (hname : (current ts).isIdentifier = true)
    (hequals : (current (dropCurrent ts)).isOp "=" = true)
    (h : Exhausts (rule .test) n (dropCurrent (dropCurrent ts))) :
    Exhausts (parameterEntry rule closing false s) n ts := by
  have hop : ∀ op, (current ts).isOp op = false := by
    intro op
    rw [Token.isIdentifier, Bool.and_eq_true, beq_iff_eq] at hname
    rw [Token.isOp, hname.1]
    rfl
  have hparameter : outcome (parameter rule false) n ts =
      .ok (⟨normalizeIdentifier (current ts).text, none⟩, dropCurrent ts) := by
    rw [parameter, outcome_bind_of (outcome_identifier hname)]
    rfl
  have hdefault : Exhausts (Parser.optional (eatOp "=") (rule .test)) n (dropCurrent ts) :=
    .after (outcome_eatOp_pos hequals) (h.bind _)
  rw [Exhausts, parameterEntry, ifAtOp_neg (hop closing), outcome_peek_bind, ifEatOp_neg (hop "/"),
    ifEatOp_neg (hop "**"), ifEatOp_neg (hop "*"), outcome_bind_of hparameter]
  exact hdefault.bind _

/-- A `lambda` runs out of fuel if the default of its first parameter does. -/
theorem exhausts_lambda {body : Rule} (hlambda : (current ts).isWord "lambda" = true)
    (hname : (current (dropCurrent ts)).isIdentifier = true)
    (hequals : (current (dropCurrent (dropCurrent ts))).isOp "=" = true)
    (h : Exhausts (rule .test) n (dropCurrent (dropCurrent (dropCurrent ts)))) :
    Exhausts (lambda rule body) n ts := by
  have hparameters : Exhausts (parameters rule ":" false) n (dropCurrent ts) :=
    (exhausts_parameterEntry hname hequals h).iterate.bind _
  exact Exhausts.after (outcome_expectWord hlambda) (hparameters.bind _)

end

/-! ## Chains -/

namespace Word

/-- `lambda`s, each in the default of the parameter of the one before. -/
def lambdaChain : Nat → List Word
  | 0 => [⟨.number, "0"⟩]
  | k + 1 => .reserved "lambda" :: ⟨.name, "a"⟩ :: .op "=" ::
      (lambdaChain k ++ [.op ":", ⟨.number, "0"⟩])

theorem zero_plain : Plain ⟨.number, "0"⟩ := by
  have htext : "0".toList = ['0'] := rfl
  refine .number ?_ ?_
  · exact List.cons_ne_nil _ _
  · show ∀ c ∈ "0".toList, c.isDigit = true
    rw [htext, List.forall_mem_singleton]
    rfl

theorem lambdaChain_plain (k : Nat) : ∀ w ∈ lambdaChain k, w.Plain ∧
    (w.kind = .op → (Layout.isOpening w.text || Layout.isClosing w.text) = false) := by
  induction k with
  | zero =>
    exact List.forall_mem_singleton.mpr ⟨zero_plain, nofun⟩
  | succ k ih =>
    have hlast : ∀ w ∈ [op ":", ⟨.number, "0"⟩], w.Plain ∧
        (w.kind = .op → (Layout.isOpening w.text || Layout.isClosing w.text) = false) := by
      simp only [List.forall_mem_cons]
      exact ⟨⟨.op (by decide), fun _ => by decide⟩, ⟨zero_plain, nofun⟩, nofun⟩
    simp only [lambdaChain, List.forall_mem_cons]
    exact ⟨⟨.name (by decide), nofun⟩, ⟨.name (by decide), nofun⟩,
      ⟨.op (by decide), fun _ => by decide⟩, List.forall_mem_append.mpr ⟨ih, hlast⟩⟩

end Word

theorem isIdentifier_of_word {t : Token} (h : t.word = ⟨.name, "a"⟩) : t.isIdentifier = true := by
  rw [Token.isIdentifier, show t.kind = .name from congrArg Word.kind h,
    show t.text = "a" from congrArg Word.text h]
  decide

/-- The first words of a chain, and what is left of the tokens. -/
theorem current_of_lambdaChain {k : Nat} (hts : ts.map Token.word = Word.lambdaChain (k + 1))
    (hus : us ≠ []) :
    (current (ts ++ us)).word = .reserved "lambda" ∧
      (current (dropCurrent (ts ++ us))).word = ⟨.name, "a"⟩ ∧
      (current (dropCurrent (dropCurrent (ts ++ us)))).word = .op "=" ∧
      ∃ ts' us', dropCurrent (dropCurrent (dropCurrent (ts ++ us))) = ts' ++ us' ∧ us' ≠ [] ∧
        ts'.map Token.word = Word.lambdaChain k := by
  obtain ⟨t₁, ts₁, rfl, h₁, hts⟩ := List.map_eq_cons_iff.mp hts
  obtain ⟨t₂, ts₂, rfl, h₂, hts⟩ := List.map_eq_cons_iff.mp hts
  obtain ⟨t₃, ts₃, rfl, h₃, hts⟩ := List.map_eq_cons_iff.mp hts
  obtain ⟨ts', vs, rfl, hts', -⟩ := List.map_eq_append_iff.mp hts
  have hus' : vs ++ us ≠ [] := List.append_ne_nil_of_right_ne_nil _ hus
  have hne : ts' ++ vs ++ us ≠ [] := List.append_ne_nil_of_right_ne_nil _ hus
  refine ⟨h₁, h₂, h₃, ts', vs ++ us, ?_, hus', hts'⟩
  simp only [List.cons_append]
  rw [dropCurrent_cons (List.cons_ne_nil _ _), dropCurrent_cons (List.cons_ne_nil _ _),
    dropCurrent_cons hne, List.append_assoc]

/-- The rule for expressions needs fuel for every `lambda` of a chain. -/
theorem exhausts_lambdaChain {k fuel : Nat} (hfuel : fuel ≤ k) (hus : us ≠ [])
    (hts : ts.map Token.word = Word.lambdaChain k) :
    Exhausts (Rule.run spell fuel .test) n (ts ++ us) := by
  induction k generalizing fuel ts us with
  | zero => exact exhausts_run fun f hf => by omega
  | succ k ih =>
    obtain ⟨hlambda, hname, hequals, ts', us', hdrop, hus', hts'⟩ := current_of_lambdaChain hts hus
    refine exhausts_run fun f hf => ?_
    have hrule : Exhausts (Rule.run spell f .lambda) n (ts ++ us) := by
      refine exhausts_run fun f' hf' => exhausts_lambda (Token.isWord_iff.mpr hlambda)
        (isIdentifier_of_word hname) (Token.isOp_iff.mpr hequals) ?_
      rw [hdrop]
      exact ih (by omega) hus' hts'
    obtain ⟨span, hrule⟩ := hrule
    refine ⟨span, ?_⟩
    show outcome (test (Rule.run spell f)) n (ts ++ us) = _
    rw [test, ifAtWord_pos (Token.isWord_iff.mpr hlambda), hrule]

/-! ## Programs -/

/-- Every rule for statements begins with the rule for expressions where there is a `lambda`. -/
theorem exhausts_file {fuel : Nat} (hlambda : (current ts).word = .reserved "lambda")
    (h : ∀ fuel' < fuel, Exhausts (Rule.run id fuel' .test) n ts) :
    Exhausts (file (StmtRule.run id fuel)) n ts := by
  obtain ⟨hkind, htext⟩ : (current ts).kind = .name ∧ (current ts).text = "lambda" :=
    ⟨congrArg Word.kind hlambda, congrArg Word.text hlambda⟩
  have hop : ∀ op, (current ts).isOp op = false := fun op => by rw [Token.isOp, hkind]; rfl
  have hstatement : Exhausts (StmtRule.run id fuel .statement) n ts := by
    cases fuel with
    | zero => exact ⟨_, rfl⟩
    | succ f =>
      have hlist : Exhausts (Rule.run id f .starTestList) n ts := by
        refine exhausts_run fun f₁ hf₁ => Exhausts.bind (Exhausts.bind ?_ _) _
        refine exhausts_run fun f₂ hf₂ => ?_
        obtain ⟨span, htest⟩ := h f₂ (by omega)
        exact ⟨span, (ifAtOp_neg (hop "*")).trans htest⟩
      have hexpr : Exhausts (exprStatement (Rule.run id f)) n ts := by
        obtain ⟨span, hlist⟩ := hlist
        have hyield : (current ts).isWord "yield" = false := by rw [Token.isWord, htext, hkind]; rfl
        refine Exhausts.after (outcome_peek) (Exhausts.bind ⟨span, ?_⟩ _)
        exact (ifAtWord_neg hyield).trans hlist
      have hsmall : Exhausts (simpleStatements (Rule.run id f)) n ts := by
        refine Exhausts.bind ?_ _
        rw [Exhausts, smallStatement, outcome_peek_bind, if_pos hkind, htext]
        exact hexpr
      show ∃ span, outcome (statement (Rule.run id f) (StmtRule.run id f)) n ts = _
      rw [statement, outcome_peek_bind, hop, if_neg Bool.false_ne_true, if_pos hkind, htext]
      exact hsmall
  refine Exhausts.bind (Exhausts.many ?_) _
  rw [Exhausts, fileItem, outcome_peek_bind, hkind]
  exact hstatement.bind _

/-- A chain longer than the fuel exhausts it, whatever the limit. -/
theorem parseWithin_lambdaChain (fuel maxNesting : Nat) :
    ∃ span, parseWithin fuel (Word.line (Word.lambdaChain (fuel + 1))) maxNesting =
      .error ⟨.outOfFuel, span⟩ := by
  have hplain := Word.lambdaChain_plain (fuel + 1)
  have hne : Word.lambdaChain (fuel + 1) ≠ [] := List.cons_ne_nil _ _
  have htracks : Word.Tracks maxNesting [] (Word.lambdaChain (fuel + 1)) [] :=
    .plain fun w hw => (hplain w hw).2
  obtain ⟨ts, newline, eof, htokens, hts, -⟩ :=
    Word.tokenize_line hne (fun w hw => (hplain w hw).1) htracks
  have hus : [newline, eof] ≠ [] := List.cons_ne_nil _ _
  have htests : ∀ fuel' < fuel,
      Exhausts (Rule.run id fuel' .test) ⟨maxNesting, 0⟩ (ts ++ [newline, eof]) :=
    fun fuel' hlt => exhausts_lambdaChain (Nat.le_of_lt (Nat.lt_succ_of_lt hlt)) hus hts
  have hfile := exhausts_file (current_of_lambdaChain hts hus).1 htests
  obtain ⟨span, hfile⟩ := hfile
  refine ⟨span, ?_⟩
  rw [parseWithin_eq, htokens]
  show (outcome _ _ (ts ++ [newline, eof])).map Prod.fst = _
  rw [hfile]
  rfl

/-- Under no limit on nesting is there a bound on the depth of the recursion. -/
theorem exhausts_parseWithin (maxNesting fuel : Nat) :
    ∃ source span, parseWithin fuel source maxNesting = .error ⟨.outOfFuel, span⟩ :=
  ⟨_, parseWithin_lambdaChain fuel maxNesting⟩

/-- No multiple of the limit on nesting is enough fuel for all programs. -/
theorem not_fueled_parseWithin :
    ¬ ∃ c, ∀ source maxNesting, Fueled (parseWithin (c * (maxNesting + 1)) source maxNesting) := by
  rintro ⟨c, h⟩
  obtain ⟨span, hout⟩ := parseWithin_lambdaChain (c * (1 + 1)) 1
  exact h _ 1 _ hout rfl

end PythonSyntax
