import PythonSyntax.Proofs.Formatted.Body
import PythonSyntax.Proofs.Origin.Operand

/-
The streams of a program.

A program is read from its own tokens and from those of the replacement fields in its literals, at every
depth.  `Ensures root ts p Q` says of a parser `p` on what is left of one of these streams that, where it
accepts, what it leaves is an end of the same stream, and `Q` holds of the value and of this end.  There is
one rule for each way to combine parsers.
-/

namespace PythonSyntax

open PythonSyntax.Parser PythonSyntax.Parser.Likeness

variable {root ts us : List Token} {α β σ : Type}

/-! ## Fields of a body -/

/-- A field is next in a text, behind a part without fields: its expression, and what follows this.  A
doubled brace begins none. -/
inductive NextField (isRaw : Bool) : List Char → List Char → List Char → Prop where
  | mk {text chunk r field tail} : splitLiteral isRaw false text = (chunk, '{' :: r) → r.head? ≠ some '{' →
      splitField 0 ⟨0, none, 0⟩ 0 r = .ok (field, tail) → field.all Unicode.isWhiteSpace = false →
      NextField isRaw text field tail

/-- What follows the expression of a field, and what is left of it behind an equals sign and a conversion,
if they are there. -/
inductive BehindConversion : List Char → List Char → Prop where
  | mk {spell field tail shown text conversion rest x y z} :
      fieldShown spell field tail x = (shown, text, y) → fieldConversion text y = .ok (conversion, rest, z) →
      BehindConversion tail rest

/-- A body, and what is left of it behind a doubled brace or the closing brace of a field. -/
inductive GoesOn (isRaw : Bool) : List Char → List Char → Prop where
  | doubled {text chunk b rest} : b = '{' ∨ b = '}' → splitLiteral isRaw false text = (chunk, b :: b :: rest) →
      GoesOn isRaw text rest
  | plain {text field tail rest} : NextField isRaw text field tail → BehindConversion tail ('}' :: rest) →
      GoesOn isRaw text rest
  | spec {text field tail r rest} : NextField isRaw text field tail → BehindConversion tail (':' :: r) →
      (splitSpec 0 r).2 = '}' :: rest → GoesOn isRaw text rest

/-- The fields of a body in which they may nest `levels` deep: of each the expression. -/
inductive HasField (isRaw : Bool) : Nat → List Char → List Char → Prop where
  | next {levels text field tail} : NextField isRaw text field tail → HasField isRaw (levels + 1) text field
  | behind {levels text rest field} : GoesOn isRaw text rest → HasField isRaw levels rest field →
      HasField isRaw levels text field
  | inSpec {levels text outer tail r field} : NextField isRaw text outer tail →
      BehindConversion tail (':' :: r) → HasField isRaw levels (splitSpec 0 r).1 field →
      HasField isRaw (levels + 1) text field

/-! ## Streams -/

/-- An expression is that of a replacement field in a formatted literal. -/
def IsFieldOf (t : Token) (field : List Char) : Prop :=
  t.kind = .string ∧ (Quoted.split t.text.toList).isFormatted = true ∧
    HasField (Quoted.split t.text.toList).isRaw fieldLevels (Quoted.split t.text.toList).body field

/-- The streams of a program with the tokens `root`: these tokens, and those of each field in a literal of
a stream. -/
inductive IsStreamOf (root : List Token) : List Token → Prop where
  | self : IsStreamOf root root
  | field {ts t field base limit us} : IsStreamOf root ts → t ∈ ts → IsFieldOf t field →
      tokenizeEmbedded field base limit = .ok us → IsStreamOf root us

/-- A stream is what is left of a stream of the program. -/
structure Ahead (root ts : List Token) : Prop where
  readable : Readable ts
  suffix : ∃ src, IsStreamOf root src ∧ ts <:+ src

namespace Ahead

theorem of_suffix (h : Ahead root ts) (hs : us <:+ ts) (hus : Readable us) : Ahead root us := by
  obtain ⟨src, hsrc, hts⟩ := h.suffix
  exact ⟨hus, src, hsrc, hs.trans hts⟩

theorem dropCurrent (h : Ahead root ts) : Ahead root (dropCurrent ts) :=
  h.of_suffix h.readable.dropCurrent_suffix.1 h.readable.dropCurrent_suffix.2

/-- A token that is not the end marker is followed by others. -/
theorem eq_cons (h : Ahead root ts) (hk : (current ts).kind ≠ .endMarker) :
    ts = current ts :: Parser.dropCurrent ts := by
  obtain ⟨t, us, rfl, hd, -⟩ := h.readable.tail hk
  rw [hd]
  rfl

theorem exists_mem (h : Ahead root ts) {t : Token} (ht : t ∈ ts) : ∃ src, IsStreamOf root src ∧ t ∈ src := by
  obtain ⟨src, hsrc, hts⟩ := h.suffix
  exact ⟨src, hsrc, hts.subset ht⟩

end Ahead

/-- In a program without literals there is only one stream. -/
theorem IsStreamOf.eq_root {src : List Token} (h : IsStreamOf root src)
    (hroot : ∀ t ∈ root, t.kind ≠ .string) : src = root := by
  induction h with
  | self => rfl
  | field _ ht hfield _ ih =>
    rw [ih] at ht
    exact absurd hfield.1 (hroot _ ht)

/-- A token is a word of the program that is not reserved. -/
def IsWordOf (root : List Token) (t : Token) : Prop :=
  t.isIdentifier = true ∧ ∃ src, IsStreamOf root src ∧ t ∈ src

/-- A name is the normal form of a word of the program that is not reserved. -/
def IsSpelled (root : List Token) (name : String) : Prop :=
  ∃ t, IsWordOf root t ∧ name = normalizeIdentifier t.text

/-- The name of a module: such names with dots between them. -/
def IsDotted (root : List Token) (name : String) : Prop :=
  ∃ parts, parts ≠ [] ∧ (∀ p ∈ parts, IsSpelled root p) ∧ name = ".".intercalate parts

/-! ## The logic -/

/-- Where the parser accepts what is left of a stream, it leaves an end of it, of which `Q` holds with the
value. -/
def Ensures (root ts : List Token) (p : Parser α) (Q : α → List Token → Prop) : Prop :=
  Ahead root ts → ∀ n a us, outcome p n ts = .ok (a, us) → Ahead root us ∧ Q a us

namespace Ensures

variable {p q : Parser α} {Q R : α → List Token → Prop} {P : α → Prop}

theorem of_ahead (h : Ahead root ts → Ensures root ts p Q) : Ensures root ts p Q := fun hts => h hts hts

theorem pure {a : α} (h : Q a ts) : Ensures root ts (pure a) Q := by
  intro hts n b us ho
  cases ho
  exact ⟨hts, h⟩

theorem bind {f : α → Parser β} {R : β → List Token → Prop} (hp : Ensures root ts p Q)
    (hf : ∀ a us, Q a us → Ensures root us (f a) R) : Ensures root ts (p >>= f) R := by
  intro hts n b ws ho
  obtain ⟨⟨a, us⟩, ha, hb⟩ := bind_ok ho
  obtain ⟨hus, hQ⟩ := hp hts n a us ha
  exact hf a us hQ hus n b ws hb

theorem mono (hp : Ensures root ts p Q) (h : ∀ a us, Q a us → R a us) : Ensures root ts p R :=
  fun hts n a us ho => ⟨(hp hts n a us ho).1, h a us (hp hts n a us ho).2⟩

theorem and (hp : Ensures root ts p Q) (hp' : Ensures root ts p R) :
    Ensures root ts p fun a us => Q a us ∧ R a us :=
  fun hts n a us ho => ⟨(hp hts n a us ho).1, (hp hts n a us ho).2, (hp' hts n a us ho).2⟩

theorem ite {c : Prop} [Decidable c] (hp : c → Ensures root ts p Q) (hq : ¬ c → Ensures root ts q Q) :
    Ensures root ts (if c then p else q) Q := by
  split
  · next h => exact hp h
  · next h => exact hq h

/-- A parser that fails ensures everything. -/
theorem stuck (h : ∀ n, ∃ e, outcome p n ts = .error e) : Ensures root ts p Q := by
  intro _ n a us ho
  obtain ⟨e, he⟩ := h n
  exact nomatch he.symm.trans ho

theorem failAt {span : Span} {cause : Cause} : Ensures root ts (failAt span cause) Q :=
  stuck fun _ => ⟨_, rfl⟩

theorem fail {cause : Cause} : Ensures root ts (fail cause) Q := stuck fun _ => ⟨_, rfl⟩

theorem reject {e : SyntaxError} : Ensures root ts (reject e : Parser α) Q := stuck fun _ => ⟨e, rfl⟩

theorem unexpected : Ensures root ts unexpected Q := stuck fun _ => ⟨_, outcome_unexpected⟩

theorem ofExcept_bind {r : Except SyntaxError β} {f : β → Parser α}
    (h : ∀ b, r = .ok b → Ensures root ts (f b) Q) : Ensures root ts (Parser.ofExcept r >>= f) Q := by
  cases r with
  | ok b => exact h b rfl
  | error e => exact stuck fun _ => ⟨e, rfl⟩

theorem ofExcept {r : Except SyntaxError α} (h : ∀ a, r = .ok a → Q a ts) :
    Ensures root ts (Parser.ofExcept r) Q := by
  cases r with
  | ok a => exact pure (h a rfl)
  | error e => exact stuck fun _ => ⟨e, rfl⟩

/-! ## Looking -/

theorem read_bind {f : Nesting → Parser α} (h : ∀ n, Ensures root ts (f n) Q) :
    Ensures root ts (read >>= f) Q := fun hts n a us ho => h n hts n a us ho

theorem peek_bind {f : Token → Parser α} (h : Ensures root ts (f (current ts)) Q) :
    Ensures root ts (peek >>= f) Q := h

theorem peekNext_bind {f : Token → Parser α} (h : ∀ t, Ensures root ts (f t) Q) :
    Ensures root ts (peekNext >>= f) Q := h _

theorem atOp_bind {op : String} {f : Bool → Parser α}
    (h : Ensures root ts (f ((current ts).isOp op)) Q) : Ensures root ts (atOp op >>= f) Q := h

theorem atWord_bind {word : String} {f : Bool → Parser α}
    (h : Ensures root ts (f ((current ts).isWord word)) Q) : Ensures root ts (atWord word >>= f) Q := h

theorem atKind_bind {kind : TokenKind} {f : Bool → Parser α}
    (h : Ensures root ts (f ((current ts).kind == kind)) Q) : Ensures root ts (atKind kind >>= f) Q := h

theorem startsExpression_bind {f : Bool → Parser α}
    (h : Ensures root ts (f (beginsExpression (current ts))) Q) :
    Ensures root ts (startsExpression >>= f) Q := h

theorem startsClause_bind {f : Bool → Parser α} (h : Ensures root ts (f (beginsClause ts)) Q) :
    Ensures root ts (startsClause >>= f) Q := by
  intro hts n a us ho
  rw [outcome_bind, outcome_startsClause] at ho
  exact h hts n a us ho

/-! ## Taking -/

theorem advance_bind {f : Token → Parser α} (h : Ensures root (dropCurrent ts) (f (current ts)) Q) :
    Ensures root ts (advance >>= f) Q := fun hts n a us ho => h hts.dropCurrent n a us ho

theorem eatIf {test : Token → Bool} :
    Ensures root ts (eatIf test) fun b us => b = false → us = ts := by
  intro hts n b us ho
  rw [outcome_eatIf] at ho
  split at ho
  · cases ho
    exact ⟨hts.dropCurrent, nofun⟩
  · cases ho
    exact ⟨hts, fun _ => rfl⟩

/-- Taking a token that satisfies a test, or going on elsewhere. -/
theorem ifEatIf {test : Token → Bool} (hp : test (current ts) = true → Ensures root (dropCurrent ts) p Q)
    (hq : test (current ts) = false → Ensures root ts q Q) :
    Ensures root ts (Parser.eatIf test >>= fun b => if b = true then p else q) Q := by
  intro hts n a us ho
  rw [outcome_bind, outcome_eatIf] at ho
  split at ho
  · next ht => exact hp ht hts.dropCurrent n a us ho
  · next ht => exact hq (Bool.not_eq_true _ ▸ ht) hts n a us ho

theorem expect_bind {test : Token → Bool} {f : Token → Parser α}
    (h : test (current ts) = true → Ensures root (dropCurrent ts) (f (current ts)) Q) :
    Ensures root ts (expect test >>= f) Q := by
  intro hts n a us ho
  rw [outcome_bind, outcome_expect] at ho
  split at ho
  · next ht => exact h ht hts.dropCurrent n a us ho
  · cases ho

theorem expectOp_bind {op : String} {f : Unit → Parser α}
    (h : (current ts).isOp op = true → Ensures root (dropCurrent ts) (f ()) Q) :
    Ensures root ts (expectOp op >>= f) Q := by
  unfold expectOp
  rw [bind_assoc]
  exact expect_bind h

theorem expectWord_bind {word : String} {f : Unit → Parser α}
    (h : Ensures root (dropCurrent ts) (f ()) Q) : Ensures root ts (expectWord word >>= f) Q := by
  unfold expectWord
  rw [bind_assoc]
  exact expect_bind fun _ => h

theorem expectNewline_bind {f : Unit → Parser α} (h : Ensures root (dropCurrent ts) (f ()) Q) :
    Ensures root ts (expectNewline >>= f) Q := by
  unfold expectNewline
  rw [bind_assoc]
  exact expect_bind fun _ => h

/-- A name is spelled by a word of the stream. -/
theorem identifier : Ensures root ts identifier fun s _ => IsSpelled root s := by
  refine of_ahead fun hts => expect_bind fun ht => pure ?_
  have hk : (current ts).kind ≠ .endMarker := by rw [kind_of_isIdentifier ht]; nofun
  have hmem : current ts ∈ ts := by
    rw [hts.eq_cons hk]
    exact List.mem_cons_self
  exact ⟨_, ⟨ht, hts.exists_mem hmem⟩, rfl⟩

theorem advance : Ensures root ts advance fun t us => t = current ts ∧ us = dropCurrent ts := by
  intro hts n t us ho
  cases ho
  exact ⟨hts.dropCurrent, rfl, rfl⟩

theorem advanceIf {c : Bool} : Ensures root ts (advanceIf c) fun _ _ => True :=
  ite (fun _ => advance.bind fun _ _ _ => pure trivial) fun _ => pure trivial

/-! ## Repetitions -/

theorem nested {cause : Cause} (h : Ensures root ts p Q) : Ensures root ts (nested cause p) Q := by
  intro hts n a us ho
  rw [outcome_nested] at ho
  split at ho
  · cases ho
  · exact h hts _ a us ho

/-- A token in front of what is optional. -/
theorem optional {test : Token → Bool} (h : ∀ us, Ensures root us p fun a _ => P a) :
    Ensures root ts (optional (Parser.eatIf test) p) fun o us =>
      (∀ a ∈ o, P a) ∧ (o = none → us = ts) := by
  refine ifEatIf (fun _ => (h _).bind fun a us ha => pure ⟨?_, nofun⟩) fun _ => pure ⟨nofun, fun _ => rfl⟩
  rintro _ ⟨⟩
  exact ha

/-- A look in front of what is optional. -/
theorem optionalLook {f : Token → Bool} (h : f (current ts) = true → Ensures root ts p fun a _ => P a) :
    Ensures root ts (Parser.optional (do return f (← Parser.peek)) p) fun o us =>
      (∀ a ∈ o, P a) ∧ (o = none → us = ts) := by
  show Ensures root ts (if f (current ts) = true then (do return some (← p)) else return none) _
  refine ite (fun hf => (h hf).bind fun a us ha => pure ⟨?_, nofun⟩) fun _ => pure ⟨nofun, fun _ => rfl⟩
  rintro _ ⟨⟩
  exact ha

theorem manyUpTo {item : Parser (Option α)} (h : ∀ us, Ensures root us item fun o _ => ∀ a ∈ o, P a)
    (bound : List Token) : Ensures root ts (manyUpTo item bound) fun as _ => ∀ a ∈ as, P a := by
  induction bound generalizing ts with
  | nil => exact fail
  | cons t bound ih =>
    refine (h ts).bind fun o us ho => ?_
    cases o with
    | none => exact pure nofun
    | some a => exact ih.bind fun as _ has => pure (List.forall_mem_cons.mpr ⟨ho a rfl, has⟩)

theorem many {item : Parser (Option α)} (h : ∀ us, Ensures root us item fun o _ => ∀ a ∈ o, P a) :
    Ensures root ts (many item) fun as _ => ∀ a ∈ as, P a := manyUpTo h (current ts :: ts)

/-- What is known where an item is missing is known where there is none at all. -/
theorem manyOrNone {item : Parser (Option α)} {N : List Token → Prop}
    (h : ∀ us, Ensures root us item fun o _ => ∀ a ∈ o, P a)
    (hnone : Ensures root ts item fun o us => o = none → N us) :
    Ensures root ts (Parser.many item) fun as us => (∀ a ∈ as, P a) ∧ (as = [] → N us) := by
  show Ensures root ts (Parser.manyUpTo item (current ts :: ts)) _
  refine ((h ts).and hnone).bind fun o us ho => ?_
  cases o with
  | none => exact pure ⟨nofun, fun _ => ho.2 rfl⟩
  | some a =>
    exact (manyUpTo h ts).bind fun as _ has => pure ⟨List.forall_mem_cons.mpr ⟨ho.1 a rfl, has⟩, nofun⟩

/-- Items with a token between any two.  What is known of an item at the front is also known where it is
the only one. -/
theorem sepBy {test : Token → Bool} (hp : Ensures root ts p Q) (hQ : ∀ a us, Q a us → P a)
    (h : ∀ us, Ensures root us p fun a _ => P a) :
    Ensures root ts (sepBy (Parser.eatIf test) p) fun as us =>
      (∀ a ∈ as, P a) ∧ as ≠ [] ∧ ∀ a, as = [a] → Q a us := by
  refine hp.bind fun first us hfirst => ?_
  refine (manyOrNone (fun vs => (optional h).mono fun _ _ ho => ho.1)
    ((optional h).mono fun _ _ ho => ho.2)).bind fun rest vs hrest => pure ⟨?_, List.cons_ne_nil _ _, ?_⟩
  · exact List.forall_mem_cons.mpr ⟨hQ _ _ hfirst, hrest.1⟩
  · rintro _ ⟨⟩
    rw [show vs = us from hrest.2 rfl]
    exact hfirst

theorem iterate {step : σ → Parser (σ × Bool)} {I : σ → List Token → Prop} {s : σ} (hs : I s ts)
    (h : ∀ s us, I s us → Ensures root us (step s) fun r vs => I r.1 vs) :
    Ensures root ts (iterate step s) I := by
  have hbound : ∀ bound s us, I s us → Ensures root us (iterateUpTo step bound s) I := by
    intro bound
    induction bound with
    | nil => exact fun _ _ _ => fail
    | cons t bound ih =>
      exact fun s us hs => (h s us hs).bind fun r vs hr => ite (fun _ => ih _ _ hr) fun _ => pure hr
  exact hbound (current ts :: ts) s ts hs

theorem mapM {f : β → Parser α} {bs : List β}
    (h : ∀ b ∈ bs, ∀ us, Ensures root us (f b) fun a _ => P a) :
    Ensures root ts (bs.mapM f) fun as _ => ∀ a ∈ as, P a := by
  induction bs generalizing ts with
  | nil => exact pure nofun
  | cons b bs ih =>
    rw [List.mapM_cons]
    rw [List.forall_mem_cons] at h
    refine (h.1 ts).bind fun a us ha => (ih h.2).bind fun as vs has => pure ?_
    exact List.forall_mem_cons.mpr ⟨ha, has⟩

/-- Another stream of the program is read, and then this one again. -/
theorem withTokens {tokens : List Token} (htokens : Ahead root tokens)
    (h : Ensures root tokens p fun a _ => P a) :
    Ensures root ts (withTokens tokens p) fun a _ => P a := by
  intro hts n a us ho
  rw [outcome_withTokens] at ho
  obtain ⟨r, hr, heq⟩ := map_ok ho
  cases heq
  exact ⟨hts, (h htokens n r.1 r.2 hr).2⟩

end Ensures

end PythonSyntax
