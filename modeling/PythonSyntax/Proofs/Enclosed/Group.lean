import PythonSyntax.Proofs.Enclosed.Grammar
import PythonSyntax.Proofs.Spelling.Program

/-
Programs that are one expression in parentheses.

A program of one line that begins with a parenthesis is an atom, and what the atom is made of is read
one level deeper.  If that matches a text that an expression takes to its end, the program is this
expression.
-/

namespace PythonSyntax

open PythonSyntax.Parser PythonSyntax.Parser.TokenLikeness PythonSyntax.Parser.Likeness Filter

variable {spell : List Char → List Char} {rule : Rule → Parser Expr} {n : Nesting}
  {source : List Char} {ts us : List Token} {fuel fuel' limit : Nat} {newline eof : Token} {v : Expr}

/-! ## Programs of one atom -/

/-- A program that begins with an atom is accepted only if the atom is. -/
theorem exists_atom {source : List Char} {m : Module} (ht : tokenize source limit = .ok ts)
    (hplain : Plain (current ts)) (h : parseSpelled spell source limit = .ok m) :
    ∃ fuel r, outcome (atom spell (Rule.run spell fuel)) ⟨limit, 0⟩ ts = .ok r := by
  by_contra hnone
  let At : Nesting → List Token → Prop := fun n us => n = ⟨limit, 0⟩ ∧ us = ts
  have hatom : ∀ fuel, Stuck At (atom spell (Rule.run spell fuel)) := by
    rintro fuel _ _ ⟨rfl, rfl⟩
    cases ho : outcome (atom spell (Rule.run spell fuel)) ⟨limit, 0⟩ _ with
    | error err => exact ⟨err, rfl⟩
    | ok r => exact absurd ⟨fuel, r, ho⟩ hnone
  have hcurrent : ∀ n us, At n us → current us = current ts := fun _ _ hs => by rw [hs.2]
  have hfile : Stuck At (file (StmtRule.run spell (parseFuel ts))) :=
    hplain.file hcurrent (fun fuel => hplain.toUnprefixed.run hcurrent hatom fuel rfl) _
  obtain ⟨err, herr⟩ := hfile ⟨limit, 0⟩ ts ⟨rfl, rfl⟩
  rw [parseSpelled_eq, ht] at h
  have h : (outcome (file (StmtRule.run spell (parseFuel ts))) ⟨limit, 0⟩ ts).map Prod.fst = .ok m := h
  rw [herr] at h
  cases h

/-- A program of one line that an atom takes is the atom. -/
theorem parseSpelled_of_atom {source : List Char} {v : Expr} {newline eof : Token}
    (ht : tokenize source limit = .ok (ts ++ [newline, eof])) (hnewline : newline.kind = .newline)
    (heof : eof.kind = .endMarker)
    (hb : ∀ r, Rule.Begins r (current (ts ++ [newline, eof])).word)
    (h : ∀ᶠ fuel in atTop, outcome (atom spell (Rule.run spell fuel)) ⟨limit, 0⟩
      (ts ++ [newline, eof]) = .ok (v, [newline, eof])) :
    parseSpelled spell source limit = .ok ⟨[.expr v]⟩ := by
  have hatom : Rule.Takes spell .atom ⟨limit, 0⟩ (ts ++ [newline, eof]) v [newline, eof] :=
    Rule.takes_of_body h
  have htest : Rule.Takes spell .test ⟨limit, 0⟩ (ts ++ [newline, eof]) v [newline, eof] :=
    hatom.loosen (by decide) (Nat.zero_le _) (hb _) (.of_newline hnewline _)
  exact parseSpelled_of_eventually ht (file_takes hnewline heof (hb _) htest)

theorem plain_of_open {t : Token} (h : t.isOp "(" = true) : Plain t := by
  obtain ⟨hk, htext⟩ := kind_text_of_isOp h
  have hop : ∀ op, op ≠ "(" → t.isOp op = false := fun op hne => by
    rw [Token.isOp, htext, beq_false_of_ne hne.symm, Bool.and_false]
  have hword : ∀ word, t.isWord word = false := fun word => by
    rw [Token.isWord, hk]
    rfl
  refine ⟨⟨fun op hmem => hop op ?_, fun word _ => hword word⟩, ?_, hop _ (by decide),
    fun word _ => hword word⟩
  · rintro rfl
    revert hmem
    decide
  · rw [hk]
    decide

section

variable (h : (current ts).isOp "(" = true)
include h

/-- An atom that begins with a parenthesis is what stands in brackets. -/
theorem outcome_atom_open (limit : Nat) :
    outcome (atom spell rule) ⟨limit + 1, 0⟩ ts = outcome (rule .bracketed) ⟨limit + 1, 1⟩ ts := by
  obtain ⟨hk, htext⟩ := kind_text_of_isOp h
  rw [atom, outcome_peek_bind]
  simp only [hk]
  rw [if_pos (.inl htext), outcome_deeper _ (Nat.succ_pos limit)]

theorem outcome_bracketed_open :
    outcome (bracketed rule) n ts = outcome (parenthesized rule) n (dropCurrent ts) := by
  rw [bracketed, outcome_bind_of outcome_advance, if_pos (kind_text_of_isOp h).2]

end

/-! ## An expression in parentheses -/

/-- Tokens that are those of a text in parentheses are the expression that takes the text. -/
theorem parseSpelled_grouped {whole : Prop} {last : TokenKind} {t : Token} {rest : List Token}
    (hsource : tokenize source (limit + 1) = .ok (t :: us)) (ht : t.isOp "(" = true)
    (hnewline : newline.kind = .newline) (heof : eof.kind = .endMarker)
    (hstreams : Enclosed (Outside whole) last [newline, eof] 0 ts us)
    (hne : (current ts).kind ≠ last)
    (h : outcome (yieldOr (Rule.run spell fuel) .starTestList >>= endOfText last) ⟨limit, 0⟩ ts =
      .ok (v, rest)) :
    parseSpelled spell source (limit + 1) = .ok ⟨[.expr v]⟩ := by
  have hgroup : ∀ fuel', fuel ≤ fuel' →
      outcome (parenthesized (Rule.run spell fuel')) ⟨limit + 1, 1⟩ us = .ok (v, [newline, eof]) := by
    intro fuel' hle
    have htext : (enclosed whole).Results (fun r r' => Ended [newline, eof] r.1 r'.1 r.2 r'.2)
        (outcome (yieldOr (Rule.run spell fuel) .starTestList >>= endOfText last) ⟨limit, 0⟩ ts)
        (outcome (parenthesized (Rule.run spell fuel')) ⟨limit + 1, 1⟩ us) :=
      relates_text hle (List.cons_ne_nil _ _) hstreams hne ⟨Nat.le_refl _, .inr rfl⟩
    rw [h] at htext
    obtain ⟨⟨v', rest⟩, hv', rfl, hrest⟩ := htext.of_ok
    rw [hv', ← hrest]
  obtain ⟨ws, rfl⟩ : ∃ ws, us = ws ++ [newline, eof] := by
    obtain @⟨_, bs, _, _, close, -, -, -, -, -, -⟩ := hstreams
    exact ⟨bs ++ [close], List.append_cons bs close [newline, eof]⟩
  have hsource : tokenize source (limit + 1) = .ok ((t :: ws) ++ [newline, eof]) := hsource
  refine parseSpelled_of_atom hsource hnewline heof (fun r => ?_) ?_
  · obtain ⟨hk, htext⟩ := kind_text_of_isOp ht
    have hword : t.word = .op "(" := by rw [Token.word, hk, htext]
    show Rule.Begins r t.word
    rw [hword]
    exact .group
  · refine eventually_atTop.mpr ⟨fuel + 1, fun fuel' hle => ?_⟩
    obtain ⟨k, rfl⟩ : ∃ k, fuel' = k + 1 := ⟨fuel' - 1, by omega⟩
    have hcurrent : (current (t :: ws ++ [newline, eof])).isOp "(" = true := ht
    have hdrop : dropCurrent (t :: ws ++ [newline, eof]) = ws ++ [newline, eof] :=
      dropCurrent_cons (by simp)
    rw [outcome_atom_open hcurrent]
    refine (outcome_bracketed_open hcurrent).trans ?_
    rw [hdrop]
    exact hgroup k (by omega)

end PythonSyntax
