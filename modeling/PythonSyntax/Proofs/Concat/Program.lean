import PythonSyntax.Proofs.Concat.Parser
import PythonSyntax.Proofs.Parser.Start

/-
Programs one after another.

If two programs are accepted and the first one ends in a line break, then the second one after the
first is accepted too, and its statements are those of the first and then those of the second.
-/

namespace PythonSyntax

open PythonSyntax.Parser PythonSyntax.Layout

/-- The tokens of a program that is accepted, and what the grammar makes of them. -/
theorem tokens_of_parseModule {source : List Char} {n : Nat} {m : Module}
    (h : parseModule source n = .ok m) :
    ∃ ts rest, tokenize source n = .ok ts ∧
      outcome (file (StmtRule.run id (parseFuel ts))) ⟨n, 0⟩ ts = .ok (m, rest) := by
  rw [parseModule, parseSpelled_eq] at h
  obtain ⟨ts, hts, h⟩ := bind_ok h
  cases hr : outcome (file (StmtRule.run id (parseFuel ts))) ⟨n, 0⟩ ts with
  | error e =>
    rw [hr] at h
    exact nomatch h
  | ok r =>
    rw [hr] at h
    cases h
    exact ⟨ts, r.2, hts, hr⟩

/-- A program that is accepted begins neither with an indent nor with a word that goes on with a
statement. -/
theorem not_idle {ts rest : List Token} {fuel : Nat} {n : Nesting} {m : Module}
    (h : outcome (file (StmtRule.run id fuel)) n ts = .ok (m, rest)) : ¬ Idle (current ts) := by
  intro hidle
  have hstuck : Stuck (At (current ts)) (file (StmtRule.run id fuel)) := hidle.file
  obtain ⟨e, he⟩ := hstuck n ts rfl
  rw [he] at h
  exact nomatch h

theorem not_indent {ts : List Token} (h : ¬ Idle (current ts)) : ∀ t ∈ ts.head?, t.kind ≠ .indent := by
  intro t ht hk
  cases ts with
  | nil => exact nomatch ht
  | cons u ts =>
    cases ht
    exact h (.indent hk)

/-- Tokens like those of a program that is accepted go on with no statement. -/
theorem not_followingWord {ts us : List Token} (h : ¬ Idle (current ts))
    (hus : List.Forall₂ (Same False) ts us) :
    ∀ word ∈ followingWords, (current us).isWord word = false := by
  intro word hword
  have hfirst : Same False (current ts) (current us) := by
    cases hus with
    | nil => exact same_eof
    | cons htu _ => exact htu
  rw [← TokenLikeness.isWord_eq (c := verbatim False True) hfirst, Bool.eq_false_iff]
  intro hw
  rw [Token.isWord, Bool.and_eq_true, beq_iff_eq, beq_iff_eq] at hw
  exact h (.word hw.1 (hw.2 ▸ hword))

/-- Parsing is compositional over statements: if two programs are accepted and the first one is empty
or ends in a line break that is not hidden, both together are accepted, and have the statements of
the first and then those of the second. -/
theorem parseModule_append {a b : List Char} {n : Nat} {m₁ m₂ : Module}
    (ha : parseModule a n = .ok m₁) (hb : parseModule b n = .ok m₂)
    (hend : a = [] ∨ ∃ pre text, lexemes a = pre ++ [⟨.lineBreak, text⟩]) :
    parseModule (a ++ b) n = .ok ⟨m₁.body ++ m₂.body⟩ := by
  rcases hend with rfl | hend
  · have hempty : parseModule [] n = .ok ⟨[]⟩ := rfl
    rw [hempty] at ha
    cases ha
    exact hb
  obtain ⟨ts, r₁, hts, h₁⟩ := tokens_of_parseModule ha
  obtain ⟨vs, r₂, hvs, h₂⟩ := tokens_of_parseModule hb
  have hidle := not_idle h₂
  obtain ⟨X, X', Y, here, rfl, hfront, htokens, hX, hY⟩ :=
    tokenize_append hts hvs hend (not_indent hidle)
  have hne : Y ≠ [] := by
    rintro rfl
    cases hY
    exact nomatch readable_of_tokenize hvs
  -- references are followed deep enough for both programs
  have hweight := weight_le_of_same hX
  have hweight' := weight_le_of_same hY
  have hmarker : 1 ≤ weight Y := Nat.le_trans (List.length_pos_iff.mpr hne) (length_le_weight Y)
  have hfuel : parseFuel (X ++ [⟨.endMarker, "", here⟩]) ≤ parseFuel (X' ++ Y) := by
    have hone : weight [⟨.endMarker, "", here⟩] = 1 := rfl
    rw [parseFuel_eq, parseFuel_eq, weight_append, weight_append, hone]
    omega
  have hfuel' : parseFuel vs ≤ parseFuel (X' ++ Y) := by
    rw [parseFuel_eq, parseFuel_eq, weight_append]
    omega
  obtain ⟨r, hr⟩ := file_append (not_followingWord hidle hY) hne (.mk hfront hX) hY
    (readable_of_tokenize htokens) hfuel hfuel' (by rw [parseFuel_eq]; omega) h₁ h₂
  rw [parseModule, parseSpelled_eq, htokens]
  show (outcome _ ⟨n, 0⟩ (X' ++ Y)).map Prod.fst = _
  rw [hr]
  rfl

/-- A block that is open at the end of the first program, which ends in a carriage return, and a line
feed at the start of the second one. -/
def blockSource : List Char := ['i', 'f', ' ', 'x', ':', '\n', ' ', 'y', '\r']

/-- An empty line and a statement. -/
def nameSource : List Char := ['\n', 'z']

/-- Whether a program is a single condition on a single statement. -/
def isCondition (m : Module) : Bool :=
  match m.body with
  | [.ifElse _ [_] []] => true
  | _ => false

/-- The statement after the block is not part of it. -/
theorem parseModule_append_block :
    ∃ test body s, parseModule blockSource 9 = .ok ⟨[.ifElse test [body] []]⟩ ∧
      parseModule nameSource 9 = .ok ⟨[s]⟩ ∧
      (lexemes blockSource).getLast? = some ⟨.lineBreak, ['\r']⟩ ∧
      parseModule (blockSource ++ nameSource) 9 = .ok ⟨[.ifElse test [body] [], s]⟩ := by
  have hname : parseModule nameSource 9 = .ok ⟨[.expr (.name "z" .load)]⟩ := rfl
  have hlast : (lexemes blockSource).getLast? = some ⟨.lineBreak, ['\r']⟩ := by decide +kernel
  obtain ⟨m, hblock, hm⟩ := exists_of_any (x := parseModule blockSource 9)
    (p := isCondition) (by decide +kernel)
  obtain ⟨pre, hpre⟩ := List.getLast?_eq_some_iff.mp hlast
  obtain ⟨stmts⟩ := m
  unfold isCondition at hm
  dsimp only at hm
  split at hm
  · next test body =>
    exact ⟨test, body, _, hblock, hname, hlast,
      parseModule_append hblock hname (.inr ⟨pre, _, hpre⟩)⟩
  · cases hm

end PythonSyntax
