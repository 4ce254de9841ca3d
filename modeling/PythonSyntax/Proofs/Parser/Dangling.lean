import PythonSyntax.Proofs.Parser.Start
import PythonSyntax.Proofs.Result

/-
Operators without a right operand.

`Leads S T p` says of a parser that where it accepts a stream in `S` it leaves one in `T`, and there is one
rule for each way to combine parsers.  The grammar takes an operator that ends with an angle bracket only
in front of an operand, and where the stream ends there is none.  So what ends with such an operator is
never read to its end.
-/

namespace PythonSyntax.Parser

variable {α β σ : Type} {S T U : List Token → Prop} {p q : Parser α} {t : Token} {ts : List Token}
  {spell : List Char → List Char} {rule : Rule → Parser Expr}

/-! ## What a parser leaves -/

/-- Where the parser accepts a stream in `S`, it leaves one in `T`. -/
def Leads (S T : List Token → Prop) (p : Parser α) : Prop :=
  ∀ n ts a us, S ts → outcome p n ts = .ok (a, us) → T us

/-- Where the parser accepts a stream in `S`, it leaves one of them. -/
abbrev Keeps (S : List Token → Prop) (p : Parser α) : Prop := Leads S S p

namespace Leads

theorem bind {f : α → Parser β} (hp : Leads S T p) (hf : ∀ a, Leads T U (f a)) : Leads S U (p >>= f) := by
  intro n ts b ws hs ho
  obtain ⟨⟨a, us⟩, ha, hb⟩ := bind_ok ho
  exact hf a n us b ws (hp n ts a us hs ha) hb

theorem pre {S' : List Token → Prop} (hp : Leads S T p) (h : ∀ ts, S' ts → S ts) : Leads S' T p :=
  fun n ts a us hs ho => hp n ts a us (h ts hs) ho

theorem pure {a : α} : Keeps S (pure a) := by
  intro n ts b us hs ho
  cases ho
  exact hs

theorem ite {c : Prop} [Decidable c] (hp : Leads S T p) (hq : Leads S T q) :
    Leads S T (if c then p else q) := by
  split
  · exact hp
  · exact hq

/-- A parser that fails leaves nothing. -/
theorem stuck (h : ∀ n ts, S ts → ∃ e, outcome p n ts = .error e) : Leads S T p := by
  intro n ts a us hs ho
  obtain ⟨e, he⟩ := h n ts hs
  exact nomatch he.symm.trans ho

theorem failAt {span : Span} {cause : Cause} : Leads S T (failAt span cause : Parser α) :=
  stuck fun _ _ _ => ⟨_, rfl⟩

theorem fail {cause : Cause} : Leads S T (fail cause : Parser α) := stuck fun _ _ _ => ⟨_, rfl⟩

theorem unexpected : Leads S T (unexpected : Parser α) := stuck fun _ _ _ => ⟨_, outcome_unexpected⟩

theorem ofExcept {r : Except SyntaxError α} : Keeps S (ofExcept r) := by
  cases r with
  | ok a => exact .pure
  | error e => exact stuck fun _ _ _ => ⟨e, rfl⟩

/-! ## Looking -/

/-- A parser that takes nothing. -/
theorem look {f : List Token → α} (h : ∀ n ts, outcome p n ts = .ok (f ts, ts)) : Keeps S p := by
  intro n ts a us hs ho
  rw [h] at ho
  cases ho
  exact hs

theorem atOp {op : String} : Keeps S (atOp op) := look fun _ _ => rfl

theorem atWord {word : String} : Keeps S (atWord word) := look fun _ _ => rfl

theorem atKind {kind : TokenKind} : Keeps S (atKind kind) := look fun _ _ => rfl

theorem peekNext : Keeps S peekNext := look fun _ _ => rfl

theorem startsExpression : Keeps S startsExpression := look fun _ _ => rfl

theorem startsClause : Keeps S startsClause := look fun _ _ => outcome_startsClause

/-- After a look at the first token it is known. -/
theorem peek_bind {f : Token → Parser α} (h : ∀ t, Leads (fun ts => S ts ∧ current ts = t) T (f t)) :
    Leads S T (peek >>= f) :=
  fun n ts a us hs ho => h (current ts) n ts a us ⟨hs, rfl⟩ ho

/-- A look at the first token, where nothing more need be known of it. -/
theorem peek_bind_any {f : Token → Parser α} (h : ∀ t, Leads S T (f t)) : Leads S T (peek >>= f) :=
  peek_bind fun t => (h t).pre fun _ => And.left

theorem ifAtOp {op : String} (hp : Leads (fun ts => S ts ∧ (current ts).isOp op = true) T p)
    (hq : Leads S T q) : Leads S T (Parser.atOp op >>= fun b => if b = true then p else q) := by
  intro n ts a us hs ho
  have ho : outcome (if (current ts).isOp op = true then p else q) n ts = .ok (a, us) := ho
  split at ho
  · next hop => exact hp n ts a us ⟨hs, hop⟩ ho
  · exact hq n ts a us hs ho

theorem remaining_bind {f : List Token → Parser α} (h : ∀ ts, Leads S T (f ts)) : Leads S T (remaining >>= f) :=
  fun n ts a us hs ho => h ts n ts a us hs ho

theorem read_bind {f : Nesting → Parser α} (h : ∀ n, Leads S T (f n)) : Leads S T (read >>= f) :=
  fun n ts a us hs ho => h n n ts a us hs ho

/-! ## Repetitions -/

theorem nested {cause : Cause} (h : Leads S T p) : Leads S T (nested cause p) := by
  intro n ts a us hs ho
  rw [outcome_nested] at ho
  split at ho
  · cases ho
  · exact h _ ts a us hs ho

theorem optional {test : Parser Bool} (htest : Keeps S test) (h : Keeps S p) : Keeps S (optional test p) :=
  htest.bind fun _ => .ite (h.bind fun _ => .pure) .pure

theorem many {item : Parser (Option α)} (h : Keeps S item) : Keeps S (many item) := by
  have hbound : ∀ bound, Keeps S (manyUpTo item bound) := by
    intro bound
    induction bound with
    | nil => exact .fail
    | cons t bound ih =>
      refine h.bind fun o => ?_
      cases o with
      | none => exact .pure
      | some a => exact ih.bind fun _ => .pure
  exact .remaining_bind fun _ => hbound _

theorem sepBy {separator : Parser Bool} (hseparator : Keeps S separator) (h : Keeps S p) :
    Keeps S (sepBy separator p) :=
  h.bind fun _ => (many (.optional hseparator h)).bind fun _ => .pure

theorem iterate {step : σ → Parser (σ × Bool)} {s : σ} (h : ∀ s, Keeps S (step s)) :
    Keeps S (iterate step s) := by
  have hbound : ∀ bound s, Keeps S (iterateUpTo step bound s) := by
    intro bound
    induction bound with
    | nil => exact fun _ => .fail
    | cons t bound ih => exact fun s => (h s).bind fun _ => .ite (ih _) .pure
  exact .remaining_bind fun _ => hbound _ _

theorem mapM {f : β → Parser α} {bs : List β} (h : ∀ b, Keeps S (f b)) : Keeps S (bs.mapM f) := by
  induction bs with
  | nil => exact .pure
  | cons b bs ih =>
    rw [List.mapM_cons]
    exact (h b).bind fun _ => ih.bind fun _ => .pure

/-- A parser of another stream comes back to this one. -/
theorem withTokens {tokens : List Token} : Keeps S (withTokens tokens p) := by
  intro n ts a us hs ho
  rw [outcome_withTokens] at ho
  obtain ⟨r, -, heq⟩ := map_ok ho
  cases heq
  exact hs

/-! ## Literals -/

theorem embedded {text : List Char} {base : Nat} : Keeps S (embedded rule text base) :=
  .read_bind fun _ => .bind .ofExcept fun _ => .withTokens

theorem textPiece {l : Literal} {text : List Char} : Keeps S (textPiece l text) := by
  unfold Parser.textPiece
  dsimp only
  split
  · exact .pure
  · exact .failAt

theorem reject {e : SyntaxError} : Leads S T (reject e : Parser α) := stuck fun _ _ _ => ⟨e, rfl⟩

theorem field {spec : List Char → Nat → Parser (List Piece)} (h : ∀ text x, Keeps S (spec text x))
    {text : List Char} {start : Nat} : Keeps S (field spell rule spec text start) := by
  have hspec : ∀ text x, Keeps S (fieldSpec spec text x) := by
    intro text x
    unfold fieldSpec
    split
    · exact (h _ _).bind fun _ => .pure
    · exact .pure
  refine .bind .ofExcept fun r => .ite .reject <| .bind .embedded fun v => ?_
  exact .bind .ofExcept fun _ => (hspec _ _).bind fun _ => .ofExcept

theorem piecesUpTo {l : Literal} {hole : List Char → Nat → Parser (List Piece × List Char × Nat)}
    (h : ∀ text x, Keeps S (hole text x)) {bound : Nat} {text : List Char} {x : Nat} :
    Keeps S (piecesUpTo l hole bound text x) := by
  induction bound generalizing text x with
  | zero => exact .fail
  | succ bound ih =>
    unfold Parser.piecesUpTo
    dsimp only
    split
    · exact .textPiece
    · exact .bind .textPiece fun _ => ih.bind fun _ => .pure
    · exact .bind .textPiece fun _ => ih.bind fun _ => .pure
    · exact .bind .textPiece fun _ => (h _ _).bind fun _ => ih.bind fun _ => .pure
    · exact .reject

theorem pieces {l : Literal} {levels : Nat} {text : List Char} {x : Nat} :
    Keeps S (pieces spell rule l levels text x) := by
  induction levels generalizing text x with
  | zero => exact .piecesUpTo fun _ _ => .reject
  | succ levels ih => exact .piecesUpTo fun _ _ => .field fun _ _ => ih

/-- A run of literals is read off its tokens, and the stream stays as it is. -/
theorem strings {tokens : List Token} : Keeps S (strings spell rule tokens) := by
  have hliteral : ∀ t, Keeps S (literalPieces spell rule t) := by
    intro t
    unfold literalPieces
    dsimp only
    refine .ite .pieces ?_
    split
    · exact .pure
    · exact .failAt
  have htext : ∀ t, Keeps S (literalText t) := by
    intro t
    unfold literalText
    split
    · exact .pure
    · exact .failAt
  unfold Parser.strings
  split
  · exact .unexpected
  · refine .ite .failAt (.ite ?_ ?_)
    · exact (mapM hliteral).bind fun _ => .pure
    · exact (mapM htext).bind fun _ => .pure

end Leads

/-! ## Streams that end with an operator -/

/-- The operators that end with an angle bracket. -/
def angles : List String := ["<", ">", "<<", ">>", "->"]

/-- A token is one of these operators. -/
def IsAngle (t : Token) : Prop := t.kind = .op ∧ t.text ∈ angles

theorem IsAngle.isOp (h : IsAngle t) {op : String} (hop : op ∉ angles) : t.isOp op = false := by
  rw [Token.isOp, beq_false_of_ne (a := t.text), Bool.and_false]
  rintro rfl
  exact hop h.2

theorem IsAngle.isWord (h : IsAngle t) {word : String} : t.isWord word = false := by
  rw [Token.isWord, h.1]
  rfl

theorem IsAngle.isIdentifier (h : IsAngle t) : t.isIdentifier = false := by
  rw [Token.isIdentifier, h.1]
  rfl

theorem not_isAngle_of_kind (h : t.kind ≠ .op) : ¬ IsAngle t := fun ht => h ht.1

theorem not_isAngle_of_isWord {word : String} (h : t.isWord word = true) : ¬ IsAngle t :=
  fun ht => nomatch h.symm.trans ht.isWord

/-- A comparison of two tokens takes no such operator after its first word. -/
theorem not_isAngle_of_comparison? {next : Token} {op : Comparison}
    (h : comparison? t next = some (op, true)) : ¬ IsAngle t ∧ ¬ IsAngle next := by
  unfold comparison? at h
  split at h <;> try cases h
  · next hkind _ =>
    split at h
    · next hin => exact ⟨not_isAngle_of_kind (by rw [hkind]; nofun), not_isAngle_of_isWord hin⟩
    · cases h
  · next hkind _ =>
    split at h
    · next hnot => exact ⟨not_isAngle_of_kind (by rw [hkind]; nofun), not_isAngle_of_isWord hnot⟩
    · cases h

/-- A stream ends with such an operator and the end marker. -/
inductive Dangles : List Token → Prop where
  | last {t eof : Token} : IsAngle t → eof.kind = .endMarker → Dangles [t, eof]
  | cons {t : Token} {ts : List Token} : t.kind ≠ .endMarker → Dangles ts → Dangles (t :: ts)

/-- Streams of which nothing but the end is left. -/
def AtEnd (ts : List Token) : Prop := (current ts).kind = .endMarker

namespace Dangles

theorem ne_nil (h : Dangles ts) : ts ≠ [] := by
  cases h <;> exact List.cons_ne_nil _ _

theorem not_atEnd (h : Dangles ts) : ¬ AtEnd ts := by
  cases h with
  | last ht =>
    intro hk
    exact nomatch ht.1.symm.trans hk
  | cons ht => exact ht

/-- When a token is taken the operator is still to come, or it was this token. -/
theorem dropCurrent (h : Dangles ts) :
    Dangles (dropCurrent ts) ∨ IsAngle (current ts) ∧ AtEnd (dropCurrent ts) := by
  cases h with
  | last ht heof => exact .inr ⟨ht, heof⟩
  | cons _ h =>
    rw [dropCurrent_cons h.ne_nil]
    exact .inl h

theorem dropCurrent_of (h : Dangles ts) (ht : ¬ IsAngle (current ts)) : Dangles (Parser.dropCurrent ts) :=
  h.dropCurrent.resolve_right fun hend => ht hend.1

end Dangles

/-! ## Taking tokens -/

/-- A parser takes no operator from the end of a stream. -/
abbrev Spares (p : Parser α) : Prop := Keeps Dangles p

namespace Spares

theorem advance : Leads (fun ts => Dangles ts ∧ ¬ IsAngle (current ts)) Dangles advance := by
  intro n ts a us hs ho
  cases ho
  exact hs.1.dropCurrent_of hs.2

theorem eatIf {test : Token → Bool} (h : ∀ t, IsAngle t → test t = false) : Spares (eatIf test) := by
  refine .peek_bind fun t => ?_
  split
  · next ht =>
    refine .bind (advance.pre fun ts hs => ⟨hs.1, fun hangle => ?_⟩) fun _ => .pure
    exact nomatch ht.symm.trans (h t (hs.2 ▸ hangle))
  · exact Leads.pure.pre fun _ => And.left

theorem eatOp {op : String} (h : op ∉ angles) : Spares (eatOp op) := eatIf fun _ ht => ht.isOp h

theorem eatWord {word : String} : Spares (eatWord word) := eatIf fun _ ht => ht.isWord

theorem expect {test : Token → Bool} (h : ∀ t, IsAngle t → test t = false) : Spares (expect test) := by
  refine .peek_bind fun t => ?_
  split
  · next ht =>
    refine advance.pre fun ts hs => ⟨hs.1, fun hangle => ?_⟩
    exact nomatch ht.symm.trans (h t (hs.2 ▸ hangle))
  · exact .unexpected

theorem expectOp {op : String} (h : op ∉ angles) : Spares (expectOp op) :=
  (expect fun _ ht => ht.isOp h).bind fun _ => .pure

theorem expectWord {word : String} : Spares (expectWord word) :=
  (expect fun _ ht => ht.isWord).bind fun _ => .pure

theorem identifier : Spares identifier := (expect fun _ ht => ht.isIdentifier).bind fun _ => .pure

/-- A token that is known, and is no such operator, may be taken. -/
theorem advance_of {f : Token → Parser α} (ht : ¬ IsAngle t) (h : ∀ t, Spares (f t)) :
    Leads (fun ts => Dangles ts ∧ current ts = t) Dangles (Parser.advance >>= f) :=
  (advance.pre fun ts (hs : Dangles ts ∧ current ts = t) => ⟨hs.1, hs.2 ▸ ht⟩).bind h

/-- A token of another kind than the operators. -/
theorem optionalKind {kind : TokenKind} (hkind : kind ≠ .op) :
    Spares (Parser.optional (Parser.atKind kind) Parser.advance) := by
  intro n ts a us hs ho
  have ho : outcome (if ((current ts).kind == kind) = true then (do return some (← Parser.advance))
    else return none) n ts = .ok (a, us) := ho
  split at ho
  · next hk =>
    cases ho
    exact hs.dropCurrent_of (not_isAngle_of_kind (beq_iff_eq.mp hk ▸ hkind))
  · cases ho
    exact hs

/-- Any token may be taken if, after one of these operators, something is wanted that is not there at the
end of a stream. -/
theorem advance_bind {f : Token → Parser α} (h : ∀ t, Spares (f t))
    (hend : ∀ t, IsAngle t → Leads AtEnd Dangles (f t)) : Spares (Parser.advance >>= f) := by
  intro n ts a us hs ho
  rcases hs.dropCurrent with hs' | ⟨ht, hs'⟩
  · exact h _ n _ a us hs' ho
  · exact hend _ ht n _ a us hs' ho

end Spares

/-! ## The rules -/

section

variable (h : ∀ r, Spares (rule r))
include h

theorem spares_listOrTuple (item : Rule) : Spares (listOrTuple rule item) := by
  have hitem : Spares (do
      if ← eatOp "," then optional startsExpression (rule item) else return none) :=
    .bind (Spares.eatOp (by decide)) fun _ => .ite (.optional .startsExpression (h item)) .pure
  have hitems : Spares (listItems rule item) :=
    (h item).bind fun _ => .bind .atOp fun _ => (Leads.many hitem).bind fun _ => .pure
  refine hitems.bind fun r => ?_
  split <;> exact .pure

theorem spares_starOr (item : Rule) : Spares (starOr rule item) :=
  .bind .atOp fun _ => .ite (h .star) (h item)

omit h in
theorem spares_itemsUntil (closing : String) {item : Parser Expr} (hitem : Spares item) :
    Spares (itemsUntil closing item) :=
  .many <| .bind (Spares.eatOp (by decide)) fun _ =>
    .ite (.bind .atOp fun _ => .ite .pure (hitem.bind fun _ => .pure)) .pure

theorem spares_parameter (annotated : Bool) : Spares (parameter rule annotated) :=
  Spares.identifier.bind fun _ => .bind
    (.ite (.optional (Spares.eatOp (by decide)) (h .test)) .pure) fun _ => .pure

theorem spares_parameterEntry (closing : String) (annotated : Bool) (s : Parameters) :
    Spares (parameterEntry rule closing annotated s) := by
  have hparameter := spares_parameter h annotated
  have hcomma : Spares (eatOp ",") := Spares.eatOp (by decide)
  refine .bind .atOp fun _ => .ite .pure <| .peek_bind_any fun here => ?_
  refine .bind (Spares.eatOp (by decide)) fun _ => .ite (.ite .failAt (hcomma.bind fun _ => .pure)) ?_
  refine .bind (Spares.eatOp (by decide)) fun _ => .ite ?_ ?_
  · exact hparameter.bind fun _ => hcomma.bind fun _ => .bind .atOp fun _ => .ite .pure .unexpected
  refine .bind (Spares.eatOp (by decide)) fun _ => .ite (.ite .failAt ?_) ?_
  · exact .bind (.optional .atKind hparameter) fun _ => hcomma.bind fun _ => .pure
  · refine hparameter.bind fun _ => .bind (.optional (Spares.eatOp (by decide)) (h .test)) fun _ => ?_
    exact .ite .failAt (hcomma.bind fun _ => .pure)

theorem spares_parameters (closing : String) (annotated : Bool) :
    Spares (parameters rule closing annotated) :=
  .bind (.iterate fun s => spares_parameterEntry h closing annotated s) fun _ => .ite .fail .pure

theorem spares_named : Spares (named rule) := by
  refine .peek_bind_any fun here => (h .test).bind fun e => ?_
  refine .bind (Spares.eatOp (by decide)) fun _ => .ite ?_ .pure
  split
  · exact (h .test).bind fun _ => .pure
  · exact .failAt

theorem spares_test : Spares (test rule) := by
  refine .bind .atWord fun _ => .ite (h .lambda) <| (h .orTest).bind fun _ => ?_
  refine Spares.eatWord.bind fun _ => .ite ?_ .pure
  exact (h .orTest).bind fun _ => Spares.expectWord.bind fun _ =>
    .bind (.nested (h .test)) fun _ => .pure

theorem spares_lambda (body : Rule) : Spares (lambda rule body) :=
  Spares.expectWord.bind fun _ => (spares_parameters h ":" false).bind fun _ =>
    .bind (Spares.expectOp (by decide)) fun _ => .bind (.nested (h body)) fun _ => .pure

theorem spares_boolChain (word : String) (op : BoolOperator) (operand : Rule) :
    Spares (boolChain rule word op operand) := by
  refine .bind (.sepBy Spares.eatWord (h operand)) fun es => ?_
  split <;> exact .pure

theorem spares_notTest : Spares (notTest rule) :=
  Spares.eatWord.bind fun _ => .ite (.bind (.nested (h .notTest)) fun _ => .pure) (h .comparison)

theorem spares_power : Spares (power rule) :=
  (h .primary).bind fun _ => .bind (Spares.eatOp (by decide)) fun _ =>
    .ite (.bind (.nested (h .factor)) fun _ => .pure) .pure

theorem spares_clauses : Spares (clauses rule) := by
  refine .many (.optional .startsClause ?_)
  refine Spares.eatWord.bind fun _ => Spares.expectWord.bind fun _ => .peek_bind_any fun here => ?_
  refine (h .exprList).bind fun _ => .bind .ofExcept fun _ => Spares.expectWord.bind fun _ => ?_
  exact (h .orTest).bind fun _ => .bind (.many (.optional Spares.eatWord (h .testNoCond))) fun _ => .pure

theorem spares_argument (s : CallArguments) : Spares (argument rule s) := by
  refine .peek_bind_any fun here => .bind (Spares.eatOp (by decide)) fun _ => .ite ?_ ?_
  · exact .ite .failAt ((h .test).bind fun _ => .pure)
  refine .bind (Spares.eatOp (by decide)) fun _ => .ite ((h .test).bind fun _ => .pure) ?_
  refine (h .named).bind fun e => .bind (Spares.eatOp (by decide)) fun _ => .ite ?_ ?_
  · split
    · exact (h .test).bind fun _ => .pure
    · exact .failAt
  refine .bind .startsClause fun _ => .ite ?_ (.ite .failAt (.ite .failAt .pure))
  exact (spares_clauses h).bind fun _ => .bind .atOp fun _ => .bind .peekNext fun _ => .ite .failAt .pure

theorem spares_subscript : Spares (subscript rule) := by
  have hbound : Spares (optionalTest rule) :=
    .bind .atOp fun _ => .ite .pure (.optional .startsExpression (h .test))
  refine .bind (.bind .atOp fun _ => .ite .pure ((h .test).bind fun _ => .pure)) fun lower => ?_
  refine .bind (Spares.eatOp (by decide)) fun _ => .ite ?_ ?_
  · exact hbound.bind fun _ =>
      .bind (.bind (Spares.eatOp (by decide)) fun _ => .ite hbound .pure) fun _ => .pure
  · split
    · exact .pure
    · exact .unexpected

theorem spares_subscripts : Spares (subscripts rule) :=
  (h .subscript).bind fun _ => .bind .atOp fun _ =>
    .ite ((spares_itemsUntil "]" (h .subscript)).bind fun _ => .pure) .pure

theorem spares_inside (closing : String) : Spares (inside rule closing) := by
  refine (h .starOrNamed).bind fun _ => .bind .startsClause fun _ => .ite ?_ ?_
  · exact (spares_clauses h).bind fun _ => .pure
  · exact .bind .atOp fun _ => (spares_itemsUntil closing (h .starOrNamed)).bind fun _ => .pure

theorem spares_parenthesized : Spares (parenthesized rule) := by
  have hclose : Spares (expectOp ")") := Spares.expectOp (by decide)
  refine .bind (Spares.eatOp (by decide)) fun _ => .ite .pure <| .bind .atWord fun _ => .ite ?_ ?_
  · exact (h .yielding).bind fun _ => hclose.bind fun _ => .pure
  · refine (spares_inside h ")").bind fun content => hclose.bind fun _ => ?_
    split <;> exact .pure

theorem spares_listDisplay : Spares (listDisplay rule) := by
  refine .bind (Spares.eatOp (by decide)) fun _ => .ite .pure ?_
  refine (spares_inside h "]").bind fun content => .bind (Spares.expectOp (by decide)) fun _ => ?_
  split <;> exact .pure

theorem spares_dictRest (first : Option Expr × Expr) : Spares (dictRest rule first) := by
  have hentry : Spares (dictEntry rule) := by
    refine .bind (Spares.eatOp (by decide)) fun _ => .ite ((h .bitOr).bind fun _ => .pure) ?_
    exact (h .test).bind fun _ => .bind (Spares.expectOp (by decide)) fun _ => (h .test).bind fun _ => .pure
  refine .bind (.many ?_) fun _ => .bind (Spares.expectOp (by decide)) fun _ => .pure
  refine .bind (Spares.eatOp (by decide)) fun _ => .ite ?_ .pure
  exact .bind .atOp fun _ => .ite .pure (hentry.bind fun _ => .pure)

theorem spares_setRest (first : Expr) : Spares (setRest rule first) := by
  have hclose : Spares (expectOp "\x7d") := Spares.expectOp (by decide)
  refine .bind .startsClause fun _ => .ite ?_ ?_
  · exact (spares_clauses h).bind fun _ => hclose.bind fun _ => .pure
  · exact (spares_itemsUntil "\x7d" (h .starOrTest)).bind fun _ => hclose.bind fun _ => .pure

theorem spares_dictOrSet : Spares (dictOrSet rule) := by
  refine .bind (Spares.eatOp (by decide)) fun _ => .ite .pure ?_
  refine .bind (Spares.eatOp (by decide)) fun _ => .ite ((h .bitOr).bind fun _ => spares_dictRest h _) ?_
  refine (h .starOrTest).bind fun first => .ite (spares_setRest h first) ?_
  refine .bind (Spares.eatOp (by decide)) fun _ => .ite ?_ (spares_setRest h first)
  refine (h .test).bind fun value => .bind .startsClause fun _ => .ite ?_ (spares_dictRest h _)
  exact (spares_clauses h).bind fun _ => .bind (Spares.expectOp (by decide)) fun _ => .pure

theorem spares_yielding : Spares (yielding rule) := by
  refine Spares.expectWord.bind fun _ => Spares.eatWord.bind fun _ => .ite ?_ ?_
  · exact (h .test).bind fun _ => .pure
  · exact .bind (.optional .startsExpression (h .starTestList)) fun _ => .pure

/-- What may follow an atom. -/
theorem spares_trailer : Spares (trailer rule) := by
  have harguments : Spares (arguments rule) := by
    refine .iterate fun s => .bind .atOp fun _ => .ite .pure ?_
    exact (spares_argument h s).bind fun _ => .bind (Spares.eatOp (by decide)) fun _ => .pure
  have hopening : ∀ {op}, op ∉ angles → ∀ ts, Dangles ts ∧ (current ts).isOp op = true →
      Dangles ts ∧ ¬ IsAngle (current ts) :=
    fun hop ts hs => ⟨hs.1, fun hangle => nomatch hs.2.symm.trans (hangle.isOp hop)⟩
  refine .ifAtOp (.nested ?_) (.ifAtOp (.nested ?_) ?_)
  · refine (Spares.advance.pre (hopening (by decide))).bind fun _ => harguments.bind fun _ => ?_
    exact .bind (Spares.expectOp (by decide)) fun _ => .pure
  · refine (Spares.advance.pre (hopening (by decide))).bind fun _ => (h .subscripts).bind fun _ => ?_
    exact .bind (Spares.expectOp (by decide)) fun _ => .pure
  · exact .bind (Spares.eatOp (by decide)) fun _ => .ite (Spares.identifier.bind fun _ => .pure) .pure

theorem spares_primary : Spares (primary rule) :=
  Spares.eatWord.bind fun _ => (h .atom).bind fun _ => .bind (.many (spares_trailer h)) fun _ => .pure

theorem spares_atom : Spares (atom spell rule) := by
  refine .peek_bind fun t => ?_
  split
  · refine .ite ?_ ?_
    · exact (Leads.nested (h .bracketed)).pre fun _ => And.left
    · refine Leads.pre ?_ fun _ => And.left
      exact .bind (Spares.eatOp (by decide)) fun _ => .ite .pure .unexpected
  · next hkind =>
    refine Spares.advance_of (not_isAngle_of_kind (by rw [hkind]; nofun)) fun _ => ?_
    split
    · exact .pure
    · exact .failAt
  · refine Leads.pre ?_ fun _ => And.left
    exact (Leads.many (Spares.optionalKind (by decide))).bind fun _ => .strings
  · next hkind =>
    split
    · exact Spares.advance_of (not_isAngle_of_kind (by rw [hkind]; nofun)) fun _ => .pure
    · exact Leads.pre (Spares.identifier.bind fun _ => .pure) fun _ => And.left
  · exact .unexpected

theorem spares_factor : Spares (factor rule) := by
  refine .peek_bind fun t => ?_
  split
  · next op hsign =>
    have ht : ¬ IsAngle t := by
      rintro ⟨-, htext⟩
      unfold sign? at hsign
      split at hsign
      · next hplus => exact absurd htext (by rw [hplus]; decide)
      · next hminus => exact absurd htext (by rw [hminus]; decide)
      · next htilde => exact absurd htext (by rw [htilde]; decide)
      · cases hsign
    exact Spares.advance_of ht fun _ => .bind (.nested (h .factor)) fun _ => .pure
  · exact (h .power).pre fun _ => And.left

end

section

variable (h : ∀ r, Spares (rule r)) (hend : ∀ {r}, leadsToAtom r = true → Leads AtEnd Dangles (rule r))
include h hend

theorem spares_operatorChain (operators : List String) {operand : Rule} (hr : leadsToAtom operand = true) :
    Spares (operatorChain rule operators operand) := by
  have htail : Spares (operatorTail rule operators operand) := by
    refine .peek_bind_any fun t => ?_
    split
    · exact .pure
    · exact Spares.advance_bind (fun _ => (h operand).bind fun _ => .pure)
        fun _ _ => (hend hr).bind fun _ => .pure
  exact (h operand).bind fun _ => (Leads.many htail).bind fun _ => .pure

theorem spares_comparison : Spares (comparison rule) := by
  have hoperand : ∀ op, Spares (do return some (op, ← rule .bitOr) : Parser (Option (Comparison × Expr))) :=
    fun _ => (h .bitOr).bind fun _ => .pure
  have htail : Spares (comparisonTail rule) := by
    intro n ts a us hs ho
    unfold comparisonTail at ho
    rw [outcome_peek_bind, outcome_peekNext_bind] at ho
    split at ho
    · cases ho
      exact hs
    · next op both heq =>
      cases both with
      | true =>
        obtain ⟨ht, hnext⟩ := not_isAngle_of_comparison? heq
        exact hoperand op n _ a us ((hs.dropCurrent_of ht).dropCurrent_of hnext) ho
      | false =>
        exact Spares.advance_bind (fun _ => hoperand op) (fun _ _ => (hend rfl).bind fun _ => .pure)
          n ts a us hs ho
  refine (h .bitOr).bind fun _ => (Leads.many htail).bind fun rest => ?_
  split <;> exact .pure

end

/-- A token that is no other bracket is taken for the one in front of a dictionary or a set, and at the end
of a stream there is none. -/
theorem spares_bracketed (h : ∀ r, Spares (rule r)) (hend : Leads AtEnd Dangles (rule .dictOrSet)) :
    Spares (bracketed rule) := by
  refine Spares.advance_bind (fun t => ?_) fun t ht => ?_
  · exact .ite (spares_parenthesized h) (.ite (spares_listDisplay h) (h .dictOrSet))
  · have hne : ∀ {text}, text ∉ angles → t.text ≠ text := by
      rintro _ hnot rfl
      exact hnot ht.2
    rw [if_neg (hne (by decide)), if_neg (hne (by decide))]
    exact hend

/-! ## All rules -/

theorem beginsExpression_of_atEnd (h : AtEnd ts) : beginsExpression (current ts) = false := by
  unfold beginsExpression
  rw [show (current ts).kind = .endMarker from h]

theorem leads_run (fuel : Nat) {r : Rule} (hr : leadsToAtom r = true) : Leads AtEnd T (r.run spell fuel) :=
  .stuck fun n ts hs => stuck_run (beginsExpression_of_atEnd hs) fuel hr n ts rfl

theorem leads_dictOrSet (fuel : Nat) : Leads AtEnd T (Rule.dictOrSet.run spell fuel) := by
  cases fuel with
  | zero => exact .fail
  | succ fuel =>
    refine .stuck fun n ts hs => ?_
    have hop : ∀ op, (current ts).isOp op = false := fun op => by
      rw [Token.isOp, show (current ts).kind = .endMarker from hs]
      rfl
    have hcurrent : ∀ n us, At (current ts) n us → current us = current ts := fun _ _ h => h
    have hfirst : Stuck (At (current ts)) (Rule.run spell fuel .starOrTest) :=
      stuck_run (beginsExpression_of_atEnd hs) fuel rfl
    have hstuck : Stuck (At (current ts)) (dictOrSet (Rule.run spell fuel)) :=
      (Sees.eatOp hcurrent (hop _)).bind ((Sees.eatOp hcurrent (hop _)).bind (hfirst.bind _))
    exact hstuck n ts rfl

/-- No rule takes such an operator at the end of a stream. -/
theorem spares_run (fuel : Nat) (r : Rule) : Spares (r.run spell fuel) := by
  induction fuel generalizing r with
  | zero => exact .fail
  | succ fuel ih =>
    have hend : ∀ {r}, leadsToAtom r = true → Leads AtEnd Dangles (Rule.run spell fuel r) := leads_run fuel
    show Spares (r.body spell (Rule.run spell fuel))
    cases r with
    | starTestList => exact spares_listOrTuple ih _
    | testList => exact spares_listOrTuple ih _
    | exprList => exact spares_listOrTuple ih _
    | starOrTest => exact spares_starOr ih _
    | starOrExpr => exact spares_starOr ih _
    | starOrNamed => exact spares_starOr ih _
    | star => exact .bind (Spares.expectOp (by decide)) fun _ => (ih .bitOr).bind fun _ => .pure
    | named => exact spares_named ih
    | test => exact spares_test ih
    | testNoCond => exact .bind .atWord fun _ => .ite (ih .lambdaNoCond) (ih .orTest)
    | lambda => exact spares_lambda ih _
    | lambdaNoCond => exact spares_lambda ih _
    | orTest => exact spares_boolChain ih _ _ _
    | andTest => exact spares_boolChain ih _ _ _
    | notTest => exact spares_notTest ih
    | comparison => exact spares_comparison ih hend
    | bitOr => exact spares_operatorChain ih hend _ rfl
    | bitXor => exact spares_operatorChain ih hend _ rfl
    | bitAnd => exact spares_operatorChain ih hend _ rfl
    | shift => exact spares_operatorChain ih hend _ rfl
    | sum => exact spares_operatorChain ih hend _ rfl
    | term => exact spares_operatorChain ih hend _ rfl
    | factor => exact spares_factor ih
    | power => exact spares_power ih
    | primary => exact spares_primary ih
    | atom => exact spares_atom ih
    | bracketed => exact spares_bracketed ih (leads_dictOrSet fuel)
    | dictOrSet => exact spares_dictOrSet ih
    | subscripts => exact spares_subscripts ih
    | subscript => exact spares_subscript ih
    | yielding => exact spares_yielding ih

/-- What is read of such a stream is not all of it. -/
theorem not_atEnd_of_yieldOr {fuel : Nat} {n : Nesting} {us : List Token} {e : Expr} (h : Dangles ts)
    (ho : outcome (yieldOr (Rule.run spell fuel) .starTestList) n ts = .ok (e, us)) : ¬ AtEnd us := by
  have hread : Spares (yieldOr (Rule.run spell fuel) .starTestList) :=
    .bind .atWord fun _ => .ite (spares_run fuel _) (spares_run fuel _)
  exact (hread n ts e us h ho).not_atEnd

end PythonSyntax.Parser
