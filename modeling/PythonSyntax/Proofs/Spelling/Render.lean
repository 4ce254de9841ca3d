import PythonSyntax.Proofs.Lexeme.Word
import PythonSyntax.Proofs.Spelling.Grammar

/-
The spelling of an operator tree.

`Expr.words` writes a tree of names, integers and operators with as few parentheses as the ladder of
rules allows: a part gets them only if its own rule is looser than the place where it stands.  What
is written is a phrase of the rule of the tree, so it is read back.
-/

namespace PythonSyntax

/-! ## The place of an operator -/

/-- The word of a boolean operator. -/
def BoolOperator.word : BoolOperator → Word
  | .or => .reserved "or"
  | .and => .reserved "and"

/-- The rule that joins operands with a boolean operator. -/
def BoolOperator.rule : BoolOperator → Rule
  | .or => .orTest
  | .and => .andTest

/-- The rule of the operands of a boolean operator. -/
def BoolOperator.operand : BoolOperator → Rule
  | .or => .andTest
  | .and => .notTest

/-- The word of a unary operator. -/
def UnaryOperator.word : UnaryOperator → Word
  | .not => .reserved "not"
  | .invert => .op "~"
  | .plus => .op "+"
  | .minus => .op "-"

/-- The rule that puts a unary operator in front of its operand, and that of the operand. -/
def UnaryOperator.rule : UnaryOperator → Rule
  | .not => .notTest
  | .invert | .plus | .minus => .factor

namespace Operator

/-- The text of a binary operator. -/
def text : Operator → String
  | add => "+"
  | sub => "-"
  | mult => "*"
  | matMult => "@"
  | div => "/"
  | mod => "%"
  | pow => "**"
  | lShift => "<<"
  | rShift => ">>"
  | bitOr => "|"
  | bitXor => "^"
  | bitAnd => "&"
  | floorDiv => "//"

/-- The rule that joins two operands with a binary operator. -/
def rule : Operator → Rule
  | add | sub => .sum
  | mult | matMult | div | mod | floorDiv => .term
  | lShift | rShift => .shift
  | bitOr => .bitOr
  | bitXor => .bitXor
  | bitAnd => .bitAnd
  | pow => .power

/-- The rule of the left operand: operators of a level join from the left, and the base of a power
is a primary. -/
def left : Operator → Rule
  | pow => .primary
  | op => op.rule

/-- The rule of the right operand: one of the next level, and signs may stand in an exponent. -/
def right : Operator → Rule
  | add | sub => .term
  | mult | matMult | div | mod | floorDiv | pow => .factor
  | lShift | rShift => .sum
  | bitOr => .bitXor
  | bitXor => .bitAnd
  | bitAnd => .shift

end Operator

/-! ## Words of trees -/

/-- The rule that a tree is a phrase of when it has no parentheses around it. -/
def Expr.rule : Expr → Rule
  | .ifExp .. => .test
  | .boolOp op _ => op.rule
  | .unaryOp op _ => op.rule
  | .compare .. => .comparison
  | .binOp _ op _ => op.rule
  | .attr .. | .call .. | .subscript .. => .primary
  | _ => .atom

/-- The words of a phrase of the rule `own` where one of `r` is called for: parentheses stand around
it if its rule is the looser one. -/
def enclose (r own : Rule) (ws : List Word) : List Word :=
  if r.place ≤ own.place then ws else .op "(" :: (ws ++ [.op ")"])

mutual

/-- The words of a tree. -/
def Expr.words : Expr → List Word
  | .name id _ => [⟨.name, id⟩]
  | .constant (.int value) => [⟨.number, Nat.repr value.toNat⟩]
  | .attr value name _ => enclose .primary value.rule value.words ++ [.op ".", ⟨.name, name⟩]
  | .subscript value slice _ =>
    enclose .primary value.rule value.words ++
      .op "[" :: (enclose .test slice.rule slice.words ++ [.op "]"])
  | .call func args _ =>
    enclose .primary func.rule func.words ++
      .op "(" :: ([.op ","].intercalate (exprsWords .test args) ++ [.op ")"])
  | .binOp left op right =>
    enclose op.left left.rule left.words ++ .op op.text :: enclose op.right right.rule right.words
  | .unaryOp op operand => op.word :: enclose op.rule operand.rule operand.words
  | .compare left ops comparators =>
    enclose .bitOr left.rule left.words ++
      (List.zipWith (·.words ++ ·) ops (exprsWords .bitOr comparators)).flatten
  | .boolOp op values => [op.word].intercalate (exprsWords op.operand values)
  | .ifExp condition body orelse =>
    enclose .orTest body.rule body.words ++ .reserved "if" ::
      (enclose .orTest condition.rule condition.words ++ .reserved "else" ::
        enclose .test orelse.rule orelse.words)
  | _ => []

/-- The words of each of some trees, as phrases of a rule. -/
def exprsWords (r : Rule) : List Expr → List (List Word)
  | [] => []
  | e :: es => enclose r e.rule e.words :: exprsWords r es

end

/-- The words of a tree where a phrase of a rule is called for. -/
def Expr.phrase (r : Rule) (e : Expr) : List Word := enclose r e.rule e.words

theorem exprsWords_eq (r : Rule) (es : List Expr) : exprsWords r es = es.map (Expr.phrase r) := by
  induction es with
  | nil => rfl
  | cons e es ih => rw [exprsWords, ih]; rfl

/-- Whether a text is an ASCII identifier that is not reserved. -/
def isPlainName (text : String) : Bool := Lexeme.isAsciiName text.toList && !isKeyword text

/-- The trees of names, integers and operators: every operator has as many operands as it can have
in a program. -/
inductive OperatorTree : Expr → Prop where
  | name {id} : isPlainName id = true → OperatorTree (.name id .load)
  | int {value} : OperatorTree (.constant (.int value))
  | attr {value name} : isPlainName name = true → OperatorTree value →
      OperatorTree (.attr value name .load)
  | subscript {value slice} : OperatorTree value → OperatorTree slice →
      OperatorTree (.subscript value slice .load)
  | call {func args} : OperatorTree func → (∀ a ∈ args, OperatorTree a) →
      OperatorTree (.call func args [])
  | binOp {left op right} : OperatorTree left → OperatorTree right →
      OperatorTree (.binOp left op right)
  | unaryOp {op operand} : OperatorTree operand → OperatorTree (.unaryOp op operand)
  | compare {left ops comparators} : ops ≠ [] → ops.length = comparators.length →
      OperatorTree left → (∀ c ∈ comparators, OperatorTree c) →
      OperatorTree (.compare left ops comparators)
  | boolOp {op values} : 2 ≤ values.length → (∀ v ∈ values, OperatorTree v) →
      OperatorTree (.boolOp op values)
  | ifExp {condition body orelse} : OperatorTree condition → OperatorTree body →
      OperatorTree orelse → OperatorTree (.ifExp condition body orelse)

/-! ## Phrases of looser rules -/

variable {r s : Rule} {ws : List Word} {e : Expr}

/-- A phrase of a rule is one of every looser rule. -/
theorem Spells.loosen (h : Spells s ws e) (hs : s ∈ Rule.ladder) (hle : r.place ≤ s.place) :
    Spells r ws e :=
  Rule.climb (motive := fun r => Spells r ws e) (fun _ _ hr ih => .tighter hr ih) hs hle h

/-- The words of a phrase are those of one of any rule, in parentheses where they are needed. -/
theorem Spells.enclose {own : Rule} (h : Spells own ws e) (hown : own ∈ Rule.ladder)
    (hr : r ∈ Rule.ladder) : Spells r (enclose r own ws) e := by
  unfold PythonSyntax.enclose
  split
  · next hle => exact h.loosen hown hle
  · have htest : Spells .test ws e := h.loosen hown (Nat.zero_le _)
    have hlast : r.place ≤ Rule.place .atom := by
      have : r.place < Rule.ladder.length := List.idxOf_lt_length_of_mem hr
      exact Nat.le_of_lt_succ this
    exact (Spells.group htest).loosen (by decide) hlast

/-! ## Operators and their rules -/

theorem Operator.spells (op : Operator) {vs : List Word} {left right : Expr}
    (hleft : Spells op.left ws left) (hright : Spells op.right vs right) :
    Spells op.rule (ws ++ .op op.text :: vs) (.binOp left op right) := by
  have hlevel : ∀ operators, op.rule.level? = some (operators, op.right) → op.left = op.rule →
      op.text ∈ operators → Operator.ofToken? op.text = some op →
      Spells op.rule (ws ++ .op op.text :: vs) (.binOp left op right) :=
    fun operators hl hrule hmem hop => .operator hl hmem hop (hrule ▸ hleft) hright
  cases op with
  | pow => exact .power hleft hright
  | _ => exact hlevel _ rfl rfl (by decide) rfl

theorem UnaryOperator.spells (op : UnaryOperator) (h : Spells op.rule ws e) :
    Spells op.rule (op.word :: ws) (.unaryOp op e) := by
  cases op with
  | not => exact .negation h
  | _ => exact .sign (by decide) h

/-- Lists with a word between them: the first, and each other one after the word. -/
theorem Word.intercalate_cons (w : Word) (x : List Word) (xs : List (List Word)) :
    [w].intercalate (x :: xs) = x ++ (xs.map (w :: ·)).flatten := by
  induction xs generalizing x with
  | nil => simp
  | cons y ys ih => rw [List.intercalate_cons_cons, ih, List.append_assoc]; rfl

theorem BoolOperator.spells (op : BoolOperator) {values : List (List Word × Expr)}
    (h : 2 ≤ values.length) (hvalues : ∀ v ∈ values, Spells op.operand v.1 v.2) :
    Spells op.rule ([op.word].intercalate (values.map Prod.fst))
      (.boolOp op (values.map Prod.snd)) := by
  cases values with
  | nil => cases h
  | cons v values =>
    rw [List.forall_mem_cons] at hvalues
    have hne : values ≠ [] := by
      rintro rfl
      exact absurd h (by simp)
    rw [List.map_cons, Word.intercalate_cons, List.map_map]
    cases op with
    | or => exact .boolean rfl hvalues.1 hne hvalues.2
    | and => exact .boolean rfl hvalues.1 hne hvalues.2

/-! ## What is written is read back -/

theorem Expr.rule_mem_ladder (e : Expr) : e.rule ∈ Rule.ladder := by
  have hbool : ∀ op : BoolOperator, op.rule ∈ Rule.ladder := by rintro ⟨⟩ <;> decide
  have hunary : ∀ op : UnaryOperator, op.rule ∈ Rule.ladder := by rintro ⟨⟩ <;> decide
  have hbinary : ∀ op : Operator, op.rule ∈ Rule.ladder := by rintro ⟨⟩ <;> decide
  unfold Expr.rule
  split
  · decide
  · exact hbool _
  · exact hunary _
  · decide
  · exact hbinary _
  all_goals decide

theorem Spells.phrase (h : Spells e.rule e.words e) (hr : r ∈ Rule.ladder) :
    Spells r (e.phrase r) e :=
  h.enclose e.rule_mem_ladder hr

theorem isAsciiName_of_isPlainName {text : String} (h : isPlainName text = true) :
    Lexeme.isAsciiName text.toList = true := by
  rw [isPlainName, Bool.and_eq_true] at h
  exact h.1

theorem isKeyword_of_isPlainName {text : String} (h : isPlainName text = true) :
    isKeyword text = false := by
  rw [isPlainName, Bool.and_eq_true, Bool.not_eq_true'] at h
  exact h.2

/-- An ASCII identifier is spelled in one way. -/
theorem normalizeIdentifier_of_isPlainName {text : String} (h : isPlainName text = true) :
    normalizeIdentifier text = text := by
  rw [isPlainName, Bool.and_eq_true] at h
  rw [normalizeIdentifier, if_pos]
  rw [List.all_eq_true]
  intro c hc
  exact decide_eq_true (Lexeme.toNat_lt_of_isNameChar (Lexeme.isNameChar_of_isAsciiName h.1 c hc))

/-- Comparisons with the words of their right operands, and with those. -/
def comparisonPhrases (ops : List Comparison) (comparators : List Expr) :
    List (Comparison × List Word × Expr) :=
  ops.zip (comparators.map fun e => (e.phrase .bitOr, e))

theorem comparisonPhrases_spec {ops : List Comparison} {comparators : List Expr}
    (h : ops.length = comparators.length) :
    ((comparisonPhrases ops comparators).map fun x => x.1) = ops ∧
      ((comparisonPhrases ops comparators).map fun x => x.2.2) = comparators ∧
      ((comparisonPhrases ops comparators).map fun x => x.1.words ++ x.2.1) =
        List.zipWith (·.words ++ ·) ops (exprsWords .bitOr comparators) := by
  induction ops generalizing comparators with
  | nil =>
    cases List.length_eq_zero_iff.mp h.symm
    exact ⟨rfl, rfl, rfl⟩
  | cons op ops ih =>
    cases comparators with
    | nil => cases h
    | cons e es =>
      obtain ⟨hops, hes, hwords⟩ := ih (Nat.succ.inj h)
      exact ⟨congrArg (op :: ·) hops, congrArg (e :: ·) hes,
        congrArg ((op.words ++ e.phrase .bitOr) :: ·) hwords⟩

/-- The words of an operator tree spell it. -/
theorem OperatorTree.spells (h : OperatorTree e) : Spells e.rule e.words e := by
  -- the parts of a node, with their words
  have hphrases : ∀ r (es : List Expr),
      (es.map fun e => (Expr.phrase r e, e)).map Prod.fst = exprsWords r es := by
    intro r es
    rw [exprsWords_eq, List.map_map]
    rfl
  have hparts : ∀ r (es : List Expr),
      (es.map fun e => (Expr.phrase r e, e)).map Prod.snd = es := by
    intro r es
    rw [List.map_map]
    exact List.map_id es
  induction h with
  | @name id h =>
    have hspells := Spells.name (isKeyword_of_isPlainName h)
    rwa [normalizeIdentifier_of_isPlainName h] at hspells
  | @int value => exact .number (Number.parse_repr value)
  | @attr value name h _ ih =>
    have hspells := Spells.attr (isKeyword_of_isPlainName h) (ih.phrase (r := .primary) (by decide))
    rwa [normalizeIdentifier_of_isPlainName h] at hspells
  | subscript _ _ ih ih' => exact .subscript (ih.phrase (by decide)) (ih'.phrase (by decide))
  | @call func args _ _ ih ihargs =>
    have hargs : ∀ x ∈ args.map fun a => (a.phrase .test, a), Spells .test x.1 x.2 :=
      List.forall_mem_map.mpr fun a ha => (ihargs a ha).phrase (by decide)
    have hspells := Spells.call (ih.phrase (r := .primary) (by decide)) hargs
    rwa [hphrases, hparts] at hspells
  | @binOp _ op _ _ _ ih ih' =>
    refine op.spells (ih.phrase ?_) (ih'.phrase ?_) <;> cases op <;> decide
  | @unaryOp op _ _ ih =>
    refine op.spells (ih.phrase ?_)
    cases op <;> decide
  | @compare left ops comparators hne hlen _ _ ih ihrest =>
    obtain ⟨hops, hcomparators, hwords⟩ := comparisonPhrases_spec hlen
    have hnil : comparisonPhrases ops comparators ≠ [] := by
      intro hnil
      rw [hnil] at hops
      exact hne hops.symm
    have hright : ∀ x ∈ comparisonPhrases ops comparators, Spells .bitOr x.2.1 x.2.2 := by
      intro x hx
      obtain ⟨e, he, heq⟩ := List.mem_map.mp (List.of_mem_zip hx).2
      rw [← heq]
      exact (ihrest e he).phrase (by decide)
    have hspells := Spells.compare (ih.phrase (r := .bitOr) (by decide)) hnil hright
    rwa [hops, hcomparators, hwords] at hspells
  | @boolOp op values hlen _ ih =>
    have hoperand : op.operand ∈ Rule.ladder := by cases op <;> decide
    have hvalues : ∀ x ∈ values.map fun v => (v.phrase op.operand, v),
        Spells op.operand x.1 x.2 :=
      List.forall_mem_map.mpr fun v hv => (ih v hv).phrase hoperand
    have hspells := op.spells (by rwa [List.length_map]) hvalues
    rwa [hphrases, hparts] at hspells
  | ifExp _ _ _ ih ih' ih'' =>
    exact .condition (ih'.phrase (by decide)) (ih.phrase (by decide)) (ih''.phrase (by decide))

end PythonSyntax
