import PythonSyntax.Proofs.Agreement.Verbatim
import PythonSyntax.Proofs.Parser.Statement

/-
The limit on nesting.

A program is read in the same way under every limit that it does not reach: the limit is only ever
compared with the depth of brackets, blocks and chains of operators, in the layout as in the grammar
and in the fields of literals.  So a higher limit can only remove the two errors of nesting.
-/

namespace PythonSyntax

open PythonSyntax.Parser

/-- The outcome under a limit matches that under a higher one. -/
theorem parseModule_verbatim (source : List Char) {n m : Nat} (h : n ≤ m) :
    (verbatim True True).Results Eq (parseModule source n) (parseModule source m) := by
  rw [parseModule, parseModule, parseSpelled_eq, parseSpelled_eq]
  refine (run_same h (.inl trivial) (Layout.alike_at _ _) (fun _ => rfl) _).bind fun ts us hts => ?_
  have heq : ts = us := List.forall₂_eq_eq_eq ▸ hts.imp fun t u ht => ht.eq trivial
  have hfile : ((verbatim True True).throughout same_eof).Agrees
      (file (StmtRule.run id (parseFuel ts))) (file (StmtRule.run id (parseFuel us))) Eq :=
    TokenLikeness.file_throughout same_eof (fun hle => rules_same _ hle)
      (Nat.le_of_eq (congrArg parseFuel heq))
  exact (hfile 0 ts us ⟨n, 0⟩ ⟨m, 0⟩ hts ⟨h, .inl trivial⟩).map fun r r' hr => hr.1

/-- Raising the limit never changes an outcome that was not about nesting. -/
theorem parseModule_of_le (source : List Char) {n m : Nat} (h : n ≤ m) :
    (∃ e, parseModule source n = .error e ∧
      (e.cause.message = "too many nested parentheses" ∨
        e.cause.message = "too many levels of nesting")) ∨
    parseModule source m = parseModule source n := by
  have hresults := parseModule_verbatim source h
  have hfuel := (parseSpelled_spec id source n).1
  rw [← parseModule] at hfuel
  generalize parseModule source n = r at hresults hfuel ⊢
  generalize parseModule source m = r' at hresults ⊢
  cases hresults with
  | ok hm => exact .inr (congrArg Except.ok hm.symm)
  | @error a b hab =>
    obtain ⟨cause, span⟩ := a
    obtain ⟨cause', span'⟩ := b
    obtain ⟨rfl, hspan⟩ := hab
    obtain rfl : span = span' := hspan trivial
    exact .inr rfl
  | @excused a _ hexc =>
    refine .inl ⟨a, rfl, ?_⟩
    rcases hexc with ⟨-, hnesting⟩ | hout | hfalse
    · generalize a.cause = cause at hnesting
      cases cause <;> first | exact .inl rfl | exact .inr rfl | exact nomatch hnesting
    · exact absurd hout (hfuel a rfl)
    · exact absurd trivial hfalse

/-- Two brackets in each other, around a name. -/
def bracketSource : List Char := ['(', '(', 'x', ')', ')', '\n']

/-- Under the limit one the program is refused, and from the limit two on it is read alike. -/
theorem parseModule_of_le_brackets :
    (parseModule bracketSource 1).isOk = false ∧ (parseModule bracketSource 2).isOk = true ∧
      parseModule bracketSource 5 = parseModule bracketSource 2 := by
  have hok : (parseModule bracketSource 2).isOk = true := by decide +kernel
  refine ⟨by decide +kernel, hok, ?_⟩
  refine (parseModule_of_le bracketSource (show 2 ≤ 5 by decide)).resolve_left ?_
  rintro ⟨e, he, -⟩
  rw [he] at hok
  exact nomatch hok

end PythonSyntax
