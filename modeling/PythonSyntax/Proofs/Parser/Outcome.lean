import PythonSyntax.Parser.Rule

/-
What parsers make of a stream.

`Parser.outcome p n ts` is the value of `p` on `ts` with the rest of the stream, or the error.  The
laws below say what it is for each of the parsers from which the rules of the grammar are built, so
that no proof about the rules opens one of them.
-/

namespace PythonSyntax.Parser

variable {α β σ : Type} {n : Nesting} {ts : List Token}

theorem dropCurrent_cons {t : Token} (h : ts ≠ []) : dropCurrent (t :: ts) = ts := by
  cases ts with
  | nil => exact absurd rfl h
  | cons u ts => rfl

/-- The value of a parser on a stream and the rest of it, or the error. -/
def outcome (p : Parser α) (n : Nesting) (ts : List Token) :
    Except SyntaxError (α × List Token) := p.denote n ts

/-- A run has the value, or the error, of the outcome of what it sees. -/
theorem exec_fst (p : Parser α) (limit : Nat) (c : Cursor) :
    (p.exec limit c).1 = (outcome p ⟨limit, c.depth⟩ c.view).map Prod.fst := by
  rw [outcome, (p.follows limit c).agrees]
  cases (p.exec limit c).1 <;> rfl

theorem exec_start (p : Parser α) (limit : Nat) (ts : List Token) :
    (p.exec limit (.start ts 0)).1 = (outcome p ⟨limit, 0⟩ ts).map Prod.fst := by
  rw [exec_fst, Cursor.view_start]
  rfl

@[simp] theorem outcome_pure (a : α) : outcome (pure a) n ts = .ok (a, ts) := rfl

theorem outcome_bind (p : Parser α) (f : α → Parser β) :
    outcome (p >>= f) n ts = outcome p n ts >>= fun (a, us) => outcome (f a) n us := rfl

@[simp] theorem outcome_read : outcome (read : Parser Nesting) n ts = .ok (n, ts) := rfl

@[simp] theorem outcome_peek : outcome peek n ts = .ok (current ts, ts) := rfl

theorem outcome_peek_bind (f : Token → Parser β) :
    outcome (peek >>= f) n ts = outcome (f (current ts)) n ts := rfl

theorem outcome_peekNext_bind (f : Token → Parser β) :
    outcome (peekNext >>= f) n ts = outcome (f (current (dropCurrent ts))) n ts := rfl

@[simp] theorem outcome_advance : outcome advance n ts = .ok (current ts, dropCurrent ts) := rfl

@[simp] theorem outcome_fail (cause : Cause) :
    outcome (fail cause : Parser α) n ts = .error ⟨cause, (current ts).span⟩ := rfl

/-- Why a token of a kind cannot continue a rule. -/
def refusal : TokenKind → Cause
  | .indent => .unexpectedIndent
  | .endMarker => .unexpectedEnd
  | _ => .unexpectedToken

@[simp] theorem outcome_unexpected :
    outcome (unexpected : Parser α) n ts =
      .error ⟨refusal (current ts).kind, (current ts).span⟩ := by
  unfold unexpected
  rw [outcome_peek_bind]
  cases h : (current ts).kind <;> simp [refusal]

/-- Whether a clause of a comprehension begins a stream. -/
def beginsClause (ts : List Token) : Bool :=
  (current ts).isWord "for" ||
    ((current ts).isWord "async" && (current (dropCurrent ts)).isWord "for")

@[simp] theorem outcome_startsClause :
    outcome startsClause n ts = .ok (beginsClause ts, ts) := by
  unfold startsClause beginsClause
  rw [outcome_bind]
  show outcome (if (current ts).isWord "for" = true then pure true else
    (do if (← atWord "async") = true then return (← peekNext).isWord "for" else return false))
    n ts = _
  cases (current ts).isWord "for" with
  | true => rfl
  | false =>
    show outcome (if (current ts).isWord "async" = true then
      (do return (← peekNext).isWord "for") else return false) n ts = _
    cases (current ts).isWord "async" <;> rfl

@[simp] theorem outcome_ofExcept (result : Except SyntaxError α) :
    outcome (ofExcept result) n ts = result.map fun a => (a, ts) := by
  cases result <;> rfl

@[simp] theorem outcome_eatIf (test : Token → Bool) :
    outcome (eatIf test) n ts =
      .ok (if test (current ts) then (true, dropCurrent ts) else (false, ts)) := by
  unfold eatIf
  rw [outcome_peek_bind]
  split <;> rfl

@[simp] theorem outcome_expect (test : Token → Bool) :
    outcome (expect test) n ts =
      if test (current ts) then .ok (current ts, dropCurrent ts)
      else .error ⟨refusal (current ts).kind, (current ts).span⟩ := by
  unfold expect
  rw [outcome_peek_bind]
  split <;> simp

@[simp] theorem outcome_nested (cause : Cause) (p : Parser α) :
    outcome (nested cause p) n ts =
      if n.limit ≤ n.depth then .error ⟨cause, (current ts).span⟩
      else outcome p ⟨n.limit, n.depth + 1⟩ ts := rfl

theorem outcome_many (item : Parser (Option α)) :
    outcome (many item) n ts = outcome (manyUpTo item (current ts :: ts)) n ts := rfl

theorem outcome_withTokens (tokens : List Token) (p : Parser α) :
    outcome (withTokens tokens p) n ts = (outcome p n tokens).map fun (a, _) => (a, ts) := rfl

end PythonSyntax.Parser
