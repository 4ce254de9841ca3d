import PythonSyntax.Proofs.Spelling.Line
import PythonSyntax.Proofs.Spelling.Program
import PythonSyntax.Proofs.Tree.Node

/-
Trees that the limit on nesting does not bound.

The limit is meant to bound how deep chains of operators nest.  But the operands of one level are
read in a loop, which stays at one depth and puts each node that it builds below the next one.  So
`a + a + ... + a` is accepted under every limit, and its tree is as high as the sum is long.
-/

namespace PythonSyntax

open PythonSyntax.Parser Filter

variable {spell : List Char → List Char} {n : Nesting} {ts us : List Token}

/-! ## Height -/

namespace Node

/-- A number of steps, each to a part of the node before, lead down from a node. -/
inductive Descends : Nat → Node → Prop where
  | stop {x} : Descends 0 x
  | step {k x r y} : (r, y) ∈ x.parts → Descends k y → Descends (k + 1) x

/-- No way down from a node has more steps than the bound. -/
def HeightAtMost (bound : Nat) (x : Node) : Prop := ∀ k, Descends k x → k ≤ bound

end Node

open Node

/-! ## Sums -/

/-- The operands of a sum that follow the first one, with their operators. -/
abbrev furtherOperands (k : Nat) (e : Expr) : List (Operator × Expr) := List.replicate k (.add, e)

/-- Each operand puts one more node above the first one. -/
theorem descends_sum (k : Nat) (e : Expr) :
    Descends k (.expr (joinLeft e (furtherOperands k e))) := by
  induction k with
  | zero => exact .stop
  | succ k ih =>
    have hnode : joinLeft e (furtherOperands (k + 1) e) =
        .binOp (joinLeft e (furtherOperands k e)) .add e := by
      rw [joinLeft, furtherOperands, List.replicate_succ', List.foldl_append]
      rfl
    rw [hnode]
    exact .step (r := .value) List.mem_cons_self ih

namespace Word

/-- The operands of a sum that follow the first one. -/
def addends : Nat → List Word
  | 0 => []
  | k + 1 => .op "+" :: ⟨.name, "a"⟩ :: addends k

/-- A sum of names. -/
def nameSum (k : Nat) : List Word := ⟨.name, "a"⟩ :: addends k

theorem nameSum_plain (k : Nat) : ∀ w ∈ nameSum k, w.Plain ∧
    (w.kind = .op → (Layout.isOpening w.text || Layout.isClosing w.text) = false) := by
  have haddends : ∀ w ∈ addends k, w.Plain ∧
      (w.kind = .op → (Layout.isOpening w.text || Layout.isClosing w.text) = false) := by
    induction k with
    | zero => exact nofun
    | succ k ih =>
      simp only [addends, List.forall_mem_cons]
      exact ⟨⟨.op (by decide), fun _ => by decide⟩, ⟨.name (by decide), nofun⟩, ih⟩
  exact List.forall_mem_cons.mpr ⟨⟨.name (by decide), nofun⟩, haddends⟩

end Word

/-- The tree of the name in a sum. -/
abbrev summand : Expr := .name (normalizeIdentifier "a") .load

/-- An operand is read at the depth at which the sum stands. -/
theorem takes_summand {t : Token} (ht : t.word = ⟨.name, "a"⟩) (hus : us ≠ [])
    (hends : Rule.Ends .term (current us).word) :
    Rule.Takes spell .term n (t :: us) summand us := by
  refine Rule.Takes.loosen (s := .atom) (by decide) (by decide) ?_ hends
    (.name ht (by decide) hus)
  show Rule.Begins .atom t.word
  rw [ht]
  exact .name (by decide)

/-- The loop takes all operands of a sum, however many there are. -/
theorem items_addends {k : Nat} (hts : ts.map Token.word = Word.addends k) (hus : us ≠ [])
    (hends : Rule.Ends .sum (current us).word) :
    Rule.Ends .term (current (ts ++ us)).word ∧
      ∀ᶠ fuel in atTop, Items (operatorTail (Rule.run spell fuel) ["+", "-"] .term) n (ts ++ us)
        (furtherOperands k summand) us := by
  induction k generalizing ts with
  | zero =>
    cases List.map_eq_nil_iff.mp hts
    refine ⟨hends.mono (by decide), .of_forall fun fuel => .done (operatorTail_none ?_)⟩
    exact fun op hop => hends.isOp (by decide) (List.mem_map_of_mem hop)
  | succ k ih =>
    obtain ⟨plus, ts, rfl, hplus, hts⟩ := List.map_eq_cons_iff.mp hts
    obtain ⟨name, ts, rfl, hname, hts⟩ := List.map_eq_cons_iff.mp hts
    obtain ⟨hnext, hrest⟩ := ih hts
    have htakes : Rule.Takes spell .term n (name :: (ts ++ us)) summand (ts ++ us) :=
      takes_summand hname (List.append_ne_nil_of_right_ne_nil ts hus) hnext
    obtain ⟨hkind, htext⟩ := Word.mk.inj hplus
    refine ⟨?_, (htakes.and hrest).mono fun fuel hfuel => .more (t := ts ++ us) ?_ ?_ hfuel.2⟩
    · show Rule.Ends .term plus.word
      rw [hplus]
      decide
    · have hcurrent : (current (plus :: name :: ts ++ us)).text = "+" := htext
      refine operatorTail_some hkind ?_ ?_ hfuel.1
      · rw [hcurrent]
        exact List.mem_cons_self
      · rw [hcurrent]
        rfl
    · simp only [List.cons_append, List.length_cons]
      omega

/-- A sum is read to its tree under every limit. -/
theorem takes_nameSum {k : Nat} (hts : ts.map Token.word = Word.nameSum k) (hus : us ≠ [])
    (hends : Rule.Ends .test (current us).word) :
    Rule.Takes spell .test n (ts ++ us) (joinLeft summand (furtherOperands k summand)) us := by
  obtain ⟨t, ts, rfl, ht, hts⟩ := List.map_eq_cons_iff.mp hts
  obtain ⟨hnext, hitems⟩ := items_addends (n := n) hts hus (hends.mono (by decide))
  have hfirst : Rule.Takes spell .term n (t :: (ts ++ us)) summand (ts ++ us) :=
    takes_summand ht (List.append_ne_nil_of_right_ne_nil ts hus) hnext
  have hsum : Rule.Takes spell .sum n (t :: ts ++ us)
      (joinLeft summand (furtherOperands k summand)) us :=
    Rule.takes_of_body ((hfirst.and hitems).mono fun _ hfuel =>
      operatorChain_take hfuel.1 hfuel.2)
  refine hsum.loosen (by decide) (by decide) ?_ hends
  show Rule.Begins .sum t.word
  rw [ht]
  exact .name (by decide)

/-! ## Programs -/

/-- A sum is accepted under every limit, however long it is. -/
theorem parseModule_nameSum (k maxNesting : Nat) :
    parseModule (Word.line (Word.nameSum k)) maxNesting =
      .ok ⟨[.expr (joinLeft summand (furtherOperands k summand))]⟩ := by
  have hplain := Word.nameSum_plain k
  have htracks : Word.Tracks maxNesting [] (Word.nameSum k) [] := .plain fun w hw => (hplain w hw).2
  obtain ⟨ts, newline, eof, htokens, hts, hnewline, heof⟩ :=
    Word.tokenize_line (List.cons_ne_nil _ _) (fun w hw => (hplain w hw).1) htracks
  refine parseSpelled_of_eventually htokens (file_takes hnewline heof ?_ ?_)
  · obtain ⟨t, ts, rfl, ht, -⟩ := List.map_eq_cons_iff.mp hts
    show Rule.Begins .test t.word
    rw [ht]
    exact .name (by decide)
  · exact takes_nameSum hts (List.cons_ne_nil _ _) (.of_newline hnewline _)

/-- Under no limit on nesting is there a bound on the height of the trees of accepted programs. -/
theorem exists_higher_tree (maxNesting bound : Nat) :
    ∃ source m, parseModule source maxNesting = .ok m ∧ ¬ HeightAtMost bound (.module m) := by
  refine ⟨_, _, parseModule_nameSum bound maxNesting, fun h => ?_⟩
  have hstmt : Descends (bound + 1)
      (.stmt (.expr (joinLeft summand (furtherOperands bound summand)))) :=
    .step (r := .value) List.mem_cons_self (descends_sum bound summand)
  have hmodule : Descends (bound + 2)
      (.module ⟨[.expr (joinLeft summand (furtherOperands bound summand))]⟩) :=
    .step (r := .value) List.mem_cons_self hstmt
  have := h _ hmodule
  omega

/-- It is not so that every limit on nesting bounds the height of trees. -/
theorem not_bounded_by_nesting :
    ¬ ∀ maxNesting, ∃ bound, ∀ source m, parseModule source maxNesting = .ok m →
      HeightAtMost bound (.module m) := by
  intro h
  obtain ⟨bound, hbound⟩ := h 1
  obtain ⟨source, m, hparse, hheight⟩ := exists_higher_tree 1 bound
  exact hheight (hbound source m hparse)

end PythonSyntax
