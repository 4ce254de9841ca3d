import PythonSyntax.Parser.Statement
import PythonSyntax.Proofs.Parser.Outcome

/-
Where rules fail.

The rules of expressions lead to an atom, and before it they take nothing but a sign or one of a few
words.  So where an atom fails, and the first token is none of these, all of them fail; and so does a
program, if its first token begins no statement of another kind.  There is one lemma for each way to
combine parsers, and for each rule of the grammar they lead to the atom.

A token that begins no expression begins no atom.  Among these are indents, and the words that go on
with a statement after one of its blocks; no program begins with them.
-/

namespace PythonSyntax.Parser

variable {α β : Type} {S : Nesting → List Token → Prop} {t : Token} {p : Parser α}
  {spell : List Char → List Char} {rule : Rule → Parser Expr}

/-- A parser fails on these streams. -/
def Stuck (S : Nesting → List Token → Prop) (p : Parser α) : Prop :=
  ∀ n ts, S n ts → ∃ e, outcome p n ts = .error e

/-- A parser gives this value on these streams and takes nothing. -/
def Sees (S : Nesting → List Token → Prop) (p : Parser α) (a : α) : Prop :=
  ∀ n ts, S n ts → outcome p n ts = .ok (a, ts)

/-- Where a token is the current one. -/
def At (t : Token) (_ : Nesting) (ts : List Token) : Prop := current ts = t

/-! ## Combining parsers -/

theorem Stuck.bind (h : Stuck S p) (f : α → Parser β) : Stuck S (p >>= f) := by
  intro n ts hs
  obtain ⟨e, he⟩ := h n ts hs
  exact ⟨e, by rw [outcome_bind, he]; rfl⟩

/-- After a look at the stream another parser fails there. -/
theorem Sees.bind {a : α} {f : α → Parser β} (h : Sees S p a) (hf : Stuck S (f a)) :
    Stuck S (p >>= f) := by
  intro n ts hs
  rw [outcome_bind, h n ts hs]
  exact hf n ts hs

theorem Stuck.remaining_bind {f : List Token → Parser α} (h : ∀ ts, Stuck S (f ts)) :
    Stuck S (remaining >>= f) := fun n ts hs => h ts n ts hs

theorem Stuck.fail {cause : Cause} : Stuck S (fail cause : Parser α) := fun _ _ _ => ⟨_, rfl⟩

theorem Stuck.unexpected : Stuck S (unexpected : Parser α) :=
  fun _ _ _ => ⟨_, outcome_unexpected⟩

/-- Of some items the first fails. -/
theorem Stuck.many {item : Parser (Option α)} (h : Stuck S item) : Stuck S (many item) :=
  .remaining_bind fun _ => h.bind _

theorem Stuck.sepBy {separator : Parser Bool} (h : Stuck S p) : Stuck S (sepBy separator p) :=
  h.bind _

/-! ## The first token -/

section

variable (ht : ∀ n ts, S n ts → current ts = t)
include ht

theorem Sees.peek : Sees S peek t := fun n ts hs => by rw [outcome_peek, ht n ts hs]

theorem Sees.atOp {op : String} (h : t.isOp op = false) : Sees S (atOp op) false := by
  intro n ts hs
  show Except.ok ((current ts).isOp op, ts) = _
  rw [ht n ts hs, h]

theorem Sees.atWord {word : String} (h : t.isWord word = false) : Sees S (atWord word) false := by
  intro n ts hs
  show Except.ok ((current ts).isWord word, ts) = _
  rw [ht n ts hs, h]

theorem Sees.eatOp {op : String} (h : t.isOp op = false) : Sees S (eatOp op) false := by
  intro n ts hs
  rw [Parser.eatOp, outcome_eatIf, ht n ts hs, h]
  rfl

theorem Sees.eatWord {word : String} (h : t.isWord word = false) :
    Sees S (eatWord word) false := by
  intro n ts hs
  rw [Parser.eatWord, outcome_eatIf, ht n ts hs, h]
  rfl

theorem Stuck.identifier (h : t.isIdentifier = false) : Stuck S identifier := by
  refine Stuck.bind (fun n ts hs => ?_) _
  rw [outcome_expect, ht n ts hs, h]
  exact ⟨_, rfl⟩

end

/-! ## Rules of expressions -/

/-- No rule takes this token before an atom: it is no sign, and no word in front of an operand. -/
structure Unprefixed (t : Token) : Prop where
  op : ∀ op ∈ ["*", "+", "-", "~"], t.isOp op = false
  word : ∀ word ∈ ["lambda", "not", "await"], t.isWord word = false

theorem Unprefixed.sign? (h : Unprefixed t) : sign? t = none := by
  have hsign : ∀ text, t.kind = .op → t.text = text → text ∈ ["*", "+", "-", "~"] → False := by
    rintro _ hkind rfl hmem
    have hop := h.op _ hmem
    rw [Token.isOp, hkind, beq_self_eq_true, beq_self_eq_true] at hop
    cases hop
  unfold Parser.sign?
  split
  · next hkind htext => exact (hsign _ hkind htext (by decide)).elim
  · next hkind htext => exact (hsign _ hkind htext (by decide)).elim
  · next hkind htext => exact (hsign _ hkind htext (by decide)).elim
  · rfl

/-- Whether a rule leads to an atom. -/
def leadsToAtom : Rule → Bool
  | .star | .lambda | .lambdaNoCond | .bracketed | .dictOrSet | .subscripts | .subscript
  | .yielding => false
  | _ => true

section

variable (ht : ∀ n ts, S n ts → current ts = t)
include ht

/-- A rule that leads to an atom fails if the rules that it begins with do. -/
theorem Unprefixed.body (h : Unprefixed t) (hatom : Stuck S (atom spell rule))
    (hrule : ∀ r, leadsToAtom r = true → Stuck S (rule r)) {r : Rule}
    (hr : leadsToAtom r = true) : Stuck S (r.body spell rule) := by
  have hlist : ∀ item, leadsToAtom item = true → Stuck S (listOrTuple rule item) :=
    fun item hitem => Stuck.bind (Stuck.bind (hrule item hitem) _) _
  have hstar : ∀ item, leadsToAtom item = true → Stuck S (starOr rule item) :=
    fun item hitem => (Sees.atOp ht (h.op _ (by decide))).bind (hrule item hitem)
  have hchain : ∀ operators operand, leadsToAtom operand = true →
      Stuck S (operatorChain rule operators operand) :=
    fun operators operand hoperand => Stuck.bind (hrule operand hoperand) _
  have hbool : ∀ word op operand, leadsToAtom operand = true →
      Stuck S (boolChain rule word op operand) :=
    fun word op operand hoperand => Stuck.bind (Stuck.sepBy (hrule operand hoperand)) _
  have hlambda : t.isWord "lambda" = false := h.word _ (by decide)
  cases r with
  | starTestList => exact hlist _ rfl
  | testList => exact hlist _ rfl
  | exprList => exact hlist _ rfl
  | starOrTest => exact hstar _ rfl
  | starOrExpr => exact hstar _ rfl
  | starOrNamed => exact hstar _ rfl
  | named => exact (Sees.peek ht).bind (Stuck.bind (hrule .test rfl) _)
  | test => exact (Sees.atWord ht hlambda).bind (Stuck.bind (hrule .orTest rfl) _)
  | testNoCond => exact (Sees.atWord ht hlambda).bind (hrule .orTest rfl)
  | orTest => exact hbool _ _ _ rfl
  | andTest => exact hbool _ _ _ rfl
  | notTest => exact (Sees.eatWord ht (h.word _ (by decide))).bind (hrule .comparison rfl)
  | comparison => exact Stuck.bind (hrule .bitOr rfl) _
  | bitOr => exact hchain _ _ rfl
  | bitXor => exact hchain _ _ rfl
  | bitAnd => exact hchain _ _ rfl
  | shift => exact hchain _ _ rfl
  | sum => exact hchain _ _ rfl
  | term => exact hchain _ _ rfl
  | factor =>
    refine (Sees.peek ht).bind ?_
    rw [h.sign?]
    exact hrule .power rfl
  | power => exact Stuck.bind (hrule .primary rfl) _
  | primary =>
    exact (Sees.eatWord ht (h.word _ (by decide))).bind (Stuck.bind (hrule .atom rfl) _)
  | atom => exact hatom
  | _ => cases hr

/-- Where an atom fails, so do the rules that lead to it. -/
theorem Unprefixed.run (h : Unprefixed t)
    (hatom : ∀ fuel, Stuck S (atom spell (Rule.run spell fuel))) (fuel : Nat) {r : Rule}
    (hr : leadsToAtom r = true) : Stuck S (r.run spell fuel) := by
  induction fuel generalizing r with
  | zero => exact .fail
  | succ fuel ih => exact h.body ht (hatom fuel) (fun _ => ih) hr

end

/-! ## Rules of statements -/

/-- The words that begin statements other than expressions, or a `yield`. -/
def statementWords : List String := [
  "yield", "pass", "break", "continue", "return", "raise", "global", "nonlocal", "del", "assert",
  "import", "from", "if", "while", "for", "try", "with", "def", "class", "async"]

/-- If a statement begins with this token it is an expression that begins with an atom. -/
structure Plain (t : Token) : Prop extends Unprefixed t where
  kind : t.kind ≠ .newline ∧ t.kind ≠ .endMarker
  decorator : t.isOp "@" = false
  statement : ∀ word ∈ statementWords, t.isWord word = false

theorem Plain.ne_text (h : Plain t) (hkind : t.kind = .name) {text : String}
    (hmem : text ∈ statementWords) : t.text ≠ text := by
  rintro rfl
  have hword := h.statement _ hmem
  rw [Token.isWord, hkind, beq_self_eq_true, beq_self_eq_true] at hword
  cases hword

section

variable {expr : Rule → Parser Expr} {stmt : StmtRule → Parser (List Stmt)}
  (ht : ∀ n ts, S n ts → current ts = t) (h : Plain t)
include ht h

theorem Plain.exprStatement (he : Stuck S (expr .starTestList)) : Stuck S (exprStatement expr) :=
  (Sees.peek ht).bind (Stuck.bind ((Sees.atWord ht (h.statement _ (by decide))).bind he) _)

theorem Plain.smallStatement (he : Stuck S (expr .starTestList)) :
    Stuck S (smallStatement expr) := by
  have hexpr := h.exprStatement ht he
  refine (Sees.peek ht).bind ?_
  split
  · next hkind =>
    split
    case h_12 => exact hexpr
    all_goals
      next heq => exact absurd heq (h.ne_text hkind (by decide))
  · exact hexpr

theorem Plain.simpleStatements (he : Stuck S (expr .starTestList)) :
    Stuck S (simpleStatements expr) := Stuck.bind (h.smallStatement ht he) _

theorem Plain.statement_stuck (he : Stuck S (expr .starTestList)) :
    Stuck S (Parser.statement expr stmt) := by
  have hsimple := h.simpleStatements ht he
  refine (Sees.peek ht).bind ?_
  rw [h.decorator, if_neg Bool.false_ne_true]
  split
  · next hkind =>
    split
    case h_9 => exact hsimple
    all_goals
      next heq => exact absurd heq (h.ne_text hkind (by decide))
  · exact hsimple

/-- A program fails where its first expression fails. -/
theorem Plain.file (he : ∀ fuel, Stuck S (Rule.run spell fuel .starTestList)) (fuel : Nat) :
    Stuck S (file (StmtRule.run spell fuel)) := by
  refine Stuck.bind (Stuck.many ((Sees.peek ht).bind ?_)) _
  split
  · next hk => exact absurd hk h.kind.2
  · next hk => exact absurd hk h.kind.1
  · cases fuel with
    | zero => exact Stuck.bind .fail _
    | succ fuel => exact Stuck.bind (h.statement_stuck ht (he fuel)) _

end

/-! ## Tokens that begin no expression -/

theorem mem_startingWords_of_wordConstant? {word : String} {c : Constant}
    (h : wordConstant? word = some c) : word ∈ startingWords := by
  unfold wordConstant? at h
  split at h <;> first | decide | cases h

section

variable (h : beginsExpression t = false)
include h

theorem isOp_of_begins {op : String} (hop : op ∈ startingOps) : t.isOp op = false := by
  rw [Token.isOp, Bool.and_eq_false_iff, Classical.or_iff_not_imp_left, Bool.not_eq_false, beq_iff_eq,
    beq_eq_false_iff_ne]
  rintro hkind rfl
  rw [beginsExpression, hkind, ← Bool.not_eq_true, List.contains_iff_mem] at h
  exact h hop

theorem isWord_of_begins {word : String} (hword : word ∈ startingWords) : t.isWord word = false := by
  rw [Token.isWord, Bool.and_eq_false_iff, Classical.or_iff_not_imp_left, Bool.not_eq_false,
    beq_iff_eq, beq_eq_false_iff_ne]
  rintro hkind rfl
  rw [beginsExpression, hkind, Bool.or_eq_false_iff, ← Bool.not_eq_true (List.contains _ _),
    List.contains_iff_mem] at h
  exact h.2 hword

theorem unprefixed_of_begins : Unprefixed t := by
  have hops : ∀ op ∈ ["*", "+", "-", "~"], op ∈ startingOps := by decide
  have hwords : ∀ word ∈ ["lambda", "not", "await"], word ∈ startingWords := by decide
  exact ⟨fun op hop => isOp_of_begins h (hops op hop),
    fun word hword => isWord_of_begins h (hwords word hword)⟩

theorem stuck_atom (fuel : Nat) : Stuck (At t) (atom spell (Rule.run spell fuel)) := by
  have ht : ∀ n ts, At t n ts → current ts = t := fun _ _ h => h
  refine (Sees.peek ht).bind ?_
  split
  · next hkind =>
    have hopen : ¬ (t.text = "(" ∨ t.text = "[" ∨ t.text = "\x7b") := by
      rintro (htext | htext | htext) <;> rw [beginsExpression, hkind, htext] at h <;> cases h
    rw [if_neg hopen]
    exact (Sees.eatOp ht (isOp_of_begins h (by decide))).bind .unexpected
  · next hkind =>
    rw [beginsExpression, hkind] at h
    cases h
  · next hkind =>
    rw [beginsExpression, hkind] at h
    cases h
  · next hkind =>
    split
    · next hconstant =>
      have hword := isWord_of_begins h (mem_startingWords_of_wordConstant? hconstant)
      rw [Token.isWord, hkind, beq_self_eq_true, beq_self_eq_true] at hword
      cases hword
    · refine Stuck.bind (Stuck.identifier ht ?_) _
      rw [beginsExpression, hkind, Bool.or_eq_false_iff] at h
      rw [Token.isIdentifier, h.1, Bool.and_false]
  · exact .unexpected

/-- A rule that leads to an atom fails where no expression begins. -/
theorem stuck_run (fuel : Nat) {r : Rule} (hr : leadsToAtom r = true) :
    Stuck (At t) (r.run spell fuel) :=
  (unprefixed_of_begins h).run (fun _ _ h => h) (stuck_atom h) fuel hr

end

/-! ## Tokens that begin no statement -/

/-- The words that go on with a statement after one of its blocks. -/
def followingWords : List String := ["elif", "else", "except", "finally"]

/-- A token that begins no statement. -/
inductive Idle (t : Token) : Prop where
  | indent : t.kind = .indent → Idle t
  | word : t.kind = .name → t.text ∈ followingWords → Idle t

theorem Idle.begins (h : Idle t) : beginsExpression t = false := by
  have hwords : ∀ word ∈ followingWords, (!isKeyword word || startingWords.contains word) = false := by
    decide
  unfold beginsExpression
  rcases h with hk | ⟨hk, hword⟩
  · rw [hk]
  · rw [hk]
    exact hwords _ hword

theorem Idle.plain (h : Idle t) : Plain t := by
  have hbegins := unprefixed_of_begins h.begins
  rcases h with hk | ⟨hk, hword⟩
  · refine ⟨hbegins, ?_, ?_, fun word _ => ?_⟩
    · rw [hk]
      exact ⟨nofun, nofun⟩
    · rw [Token.isOp, hk]
      rfl
    · rw [Token.isWord, hk]
      rfl
  · have hwords : ∀ word ∈ followingWords, word ∉ statementWords := by decide
    refine ⟨hbegins, ?_, ?_, fun word hmem => ?_⟩
    · rw [hk]
      exact ⟨nofun, nofun⟩
    · rw [Token.isOp, hk]
      rfl
    · rw [Token.isWord, beq_false_of_ne (a := t.text), Bool.and_false]
      rintro rfl
      exact hwords _ hword hmem

/-- No program begins with such a token. -/
theorem Idle.file (h : Idle t) {fuel : Nat} : Stuck (At t) (file (StmtRule.run spell fuel)) :=
  h.plain.file (fun _ _ h => h) (fun fuel => stuck_run h.begins fuel rfl) fuel

end PythonSyntax.Parser
