import PythonSyntax.Proofs.Grammar.Expression

/-
Words.

A word is a token without its place.  The rules of operator expressions form a ladder, from
conditions down to atoms: each is the next one with some operators around it.  So what a rule takes
is known from two words alone, the one it begins with and the one that follows it.
-/

namespace PythonSyntax

/-- A token without its place. -/
structure Word where
  kind : TokenKind
  text : String
deriving DecidableEq, Repr

namespace Word

/-- An operator or bracket. -/
abbrev op (text : String) : Word := ⟨.op, text⟩

/-- A reserved word. -/
abbrev reserved (text : String) : Word := ⟨.name, text⟩

end Word

namespace Token

/-- The word of a token. -/
def word (t : Token) : Word := ⟨t.kind, t.text⟩

theorem isOp_iff {t : Token} {text : String} : t.isOp text = true ↔ t.word = .op text := by
  simp [isOp, word, Word.op]

theorem isWord_iff {t : Token} {text : String} :
    t.isWord text = true ↔ t.word = .reserved text := by
  simp [isWord, word, Word.reserved]

theorem isOp_eq_false {t : Token} {text : String} (h : t.word ≠ .op text) : t.isOp text = false :=
  Bool.eq_false_iff.mpr fun ht => h (isOp_iff.mp ht)

theorem isWord_eq_false {t : Token} {text : String} (h : t.word ≠ .reserved text) :
    t.isWord text = false :=
  Bool.eq_false_iff.mpr fun ht => h (isWord_iff.mp ht)

/-- The word of a token says which operator it is, and which it is not. -/
theorem isOp_of_word {t : Token} {text other : String} (h : t.word = .op text)
    (hne : other ≠ text) : t.isOp other = false :=
  isOp_eq_false fun ht => hne (congrArg Word.text (ht.symm.trans h))

theorem isWord_of_op {t : Token} {text : String} (h : t.word = .op text) (other : String) :
    t.isWord other = false :=
  isWord_eq_false fun ht => nomatch congrArg Word.kind (ht.symm.trans h)

end Token

namespace Rule

/-! ## The ladder -/

/-- The rules of operator expressions, from the loosest to the tightest. -/
def ladder : List Rule := [
  test, orTest, andTest, notTest, comparison, bitOr, bitXor, bitAnd, shift, sum, term, factor,
  power, primary, atom]

/-- The place of a rule on the ladder. -/
def place (r : Rule) : Nat := ladder.idxOf r

/-- The next rule on the ladder. -/
def tighter? (r : Rule) : Option Rule := ladder[r.place + 1]?

/-- The words with which a rule goes on after a phrase of the next rule. -/
def followers (r : Rule) : List Word :=
  match r with
  | test => [.reserved "if"]
  | orTest => [.reserved "or"]
  | andTest => [.reserved "and"]
  | comparison => [.op "<", .op ">", .op "==", .op ">=", .op "<=", .op "!=", .reserved "in",
      .reserved "not", .reserved "is"]
  | power => [.op "**"]
  | primary => [.op "(", .op "[", .op "."]
  | _ => match r.level? with
    | some (operators, _) => operators.map .op
    | none => []

/-- A word before which a phrase of a rule ends: neither the rule nor a tighter one goes on
with it. -/
def Ends (r : Rule) (w : Word) : Prop := ∀ s ∈ ladder, r.place ≤ s.place → w ∉ s.followers

instance (r : Rule) (w : Word) : Decidable (r.Ends w) := by
  unfold Ends
  infer_instance

namespace Ends

variable {r s : Rule} {w : Word}

theorem mono (h : r.Ends w) (hle : r.place ≤ s.place) : s.Ends w :=
  fun x hx hsx => h x hx (Nat.le_trans hle hsx)

theorem isOp {t : Token} (h : r.Ends t.word) (hr : r ∈ ladder) {text : String}
    (hmem : .op text ∈ r.followers) : t.isOp text = false :=
  Token.isOp_eq_false fun ht => h r hr (Nat.le_refl _) (ht ▸ hmem)

theorem isWord {t : Token} (h : r.Ends t.word) (hr : r ∈ ladder) {text : String}
    (hmem : .reserved text ∈ r.followers) : t.isWord text = false :=
  Token.isWord_eq_false fun ht => h r hr (Nat.le_refl _) (ht ▸ hmem)

/-- Only names and operators go on with a phrase. -/
theorem of_kind (hop : w.kind ≠ .op) (hname : w.kind ≠ .name) : r.Ends w := by
  have hkinds : ∀ x ∈ ladder, ∀ v ∈ x.followers, v.kind = .op ∨ v.kind = .name := by decide
  intro x hx _ hmem
  exact (hkinds x hx w hmem).elim hop hname

/-- A sign stands in front of its operand only. -/
theorem factor (h : Ends .power w) : Ends .factor w := by
  have hnone : ∀ x ∈ ladder, place .factor ≤ x.place →
      x.followers = [] ∨ place .power ≤ x.place := by
    decide
  intro x hx hle
  rcases hnone x hx hle with hnil | hpower
  · rw [hnil]
    exact List.not_mem_nil
  · exact h x hx hpower

end Ends

/-- The words with which phrases of a rule begin. -/
inductive Begins (r : Rule) : Word → Prop where
  | name {text} : isKeyword text = false → Begins r ⟨.name, text⟩
  | number {text} : Begins r ⟨.number, text⟩
  | string {text} : Begins r ⟨.string, text⟩
  | group : Begins r (.op "(")
  | sign {text} : r.place ≤ place factor → text ∈ ["+", "-", "~"] → Begins r (.op text)
  | negation : r.place ≤ place notTest → Begins r (.reserved "not")

namespace Begins

variable {r s : Rule} {w : Word}

theorem mono (h : Begins s w) (hle : r.place ≤ s.place) : Begins r w := by
  cases h with
  | name h => exact .name h
  | number => exact .number
  | string => exact .string
  | group => exact .group
  | sign hr ht => exact .sign (Nat.le_trans hle hr) ht
  | negation hr => exact .negation (Nat.le_trans hle hr)

/-- The only reserved word with which a phrase begins is `not`. -/
theorem isWord {t : Token} (h : r.Begins t.word) {text : String} (ht : isKeyword text = true)
    (hnot : text = "not" → place notTest < r.place) : t.isWord text = false := by
  refine Token.isWord_eq_false fun hw => ?_
  rw [hw] at h
  cases h with
  | name h => exact absurd ht (by rw [h]; exact Bool.false_ne_true)
  | negation hr => exact absurd hr (Nat.not_le.mpr (hnot rfl))

/-- No reserved word but `not` begins a phrase. -/
theorem ne_text {t : Token} (h : r.Begins t.word) (hkind : t.kind = .name) {text : String}
    (ht : isKeyword text = true) (hnot : text ≠ "not") : t.text ≠ text := by
  rintro rfl
  have hword : t.isWord t.text = true := Token.isWord_iff.mpr (by rw [Token.word, hkind])
  rw [h.isWord ht fun heq => absurd heq hnot] at hword
  cases hword

/-- The only operators with which a phrase begins are signs and an opening parenthesis. -/
theorem isOp {t : Token} (h : r.Begins t.word) {text : String} (ht : text ≠ "(")
    (hsign : text ∈ ["+", "-", "~"] → place factor < r.place) : t.isOp text = false := by
  refine Token.isOp_eq_false fun hw => ?_
  rw [hw] at h
  cases h with
  | group => exact ht rfl
  | sign hr hmem => exact absurd hr (Nat.not_le.mpr (hsign hmem))

/-- A phrase begins with a token that has text. -/
theorem isContent {t : Token} (h : r.Begins t.word) : t.kind.isContent = true := by
  generalize hw : t.word = w at h
  rw [show t.kind = w.kind from congrArg Word.kind hw]
  cases h <;> rfl

end Begins

end Rule

end PythonSyntax
