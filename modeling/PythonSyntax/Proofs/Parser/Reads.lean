import Mathlib.Algebra.GroupWithZero.Nat
import PythonSyntax.Proofs.Parser.Outcome
import PythonSyntax.Proofs.Result

/-
Parsers that go forward.

`Reads ts p Q` says of a parser `p` that every run of it in front of the tokens `ts` ends, whether it
accepts or not, in front of an end of `ts`, so never behind the end marker; that it does not run out
of fuel; and that, if it accepts, `Q` holds of the value and what is then ahead.  There is one rule
for each way to combine parsers; a rule of the grammar is proved by applying them in the order of its
text.  The weight of a stream is what bounds all repetitions and references.
-/

namespace PythonSyntax.Parser

variable {α β σ : Type} {ts us : List Token}

/-! ## Streams that can be read -/

/-- The weight of a token: the number of its characters, but at least one. -/
def Token.weight (t : Token) : Nat := max 1 t.text.length

/-- The weight of a stream. -/
def weight (ts : List Token) : Nat := (ts.map Token.weight).sum

@[simp] theorem weight_cons (t : Token) (ts : List Token) :
    weight (t :: ts) = Token.weight t + weight ts := by
  simp [weight]

theorem Token.weight_pos (t : Token) : 0 < Token.weight t := by
  unfold Token.weight
  omega

theorem weight_append (ts us : List Token) : weight (ts ++ us) = weight ts + weight us := by
  simp [weight]

theorem length_le_weight (ts : List Token) : ts.length ≤ weight ts := by
  induction ts with
  | nil => simp
  | cons t ts ih =>
    have := Token.weight_pos t
    simp only [List.length_cons, weight_cons]
    omega

theorem weight_le_of_suffix (h : us <:+ ts) : weight us ≤ weight ts := by
  obtain ⟨pre, rfl⟩ := h
  rw [weight_append]
  omega

/-- An end of a stream that is lighter is also shorter. -/
theorem length_lt_of_suffix (h : us <:+ ts) (hw : weight us < weight ts) :
    us.length < ts.length := by
  obtain ⟨pre, rfl⟩ := h
  have hpre : pre ≠ [] := by
    rintro rfl
    exact absurd hw (by simp)
  have := List.length_pos_iff.mpr hpre
  simp only [List.length_append]
  omega

/-- A stream that ends at its only end marker, and in which a block begins with a token with
text. -/
inductive Readable : List Token → Prop where
  | last {t} : t.kind = .endMarker → Readable [t]
  | cons {t ts} : t.kind ≠ .endMarker →
      (t.kind = .indent → (current ts).kind.isContent = true) → Readable ts → Readable (t :: ts)

/-- A stream goes on after a token that is not the end marker. -/
theorem Readable.tail (h : Readable ts) (hk : (current ts).kind ≠ .endMarker) :
    ∃ t us, ts = t :: us ∧ dropCurrent ts = us ∧ Readable us ∧
      (t.kind = .indent → (current us).kind.isContent = true) := by
  cases h with
  | last ht => exact absurd ht hk
  | @cons t us _ hindent hus =>
    refine ⟨t, us, rfl, ?_, hus, hindent⟩
    cases hus <;> rfl

theorem Readable.isContent_of_indent (h : Readable ts) (hk : (current ts).kind = .indent) :
    (current (dropCurrent ts)).kind.isContent = true := by
  obtain ⟨t, us, rfl, hd, -, hindent⟩ := h.tail (by rw [hk]; exact nofun)
  rw [hd]
  exact hindent hk

theorem Readable.dropCurrent_suffix (h : Readable ts) :
    dropCurrent ts <:+ ts ∧ Readable (dropCurrent ts) := by
  by_cases hk : (current ts).kind = .endMarker
  · cases h with
    | last ht => exact ⟨List.suffix_rfl, .last ht⟩
    | cons ht => exact absurd hk ht
  · obtain ⟨t, us, rfl, hd, hus, -⟩ := h.tail hk
    rw [hd]
    exact ⟨List.suffix_cons t us, hus⟩

theorem Readable.weight_dropCurrent_lt (h : Readable ts) (hk : (current ts).kind ≠ .endMarker) :
    weight (dropCurrent ts) < weight ts := by
  obtain ⟨t, us, rfl, hd, -⟩ := h.tail hk
  have := Token.weight_pos t
  rw [hd, weight_cons]
  omega

theorem Readable.ne_nil (h : Readable ts) : ts ≠ [] := by
  cases h <;> exact List.cons_ne_nil _ _

/-- In front of an end of a stream there is no end marker, and the end can be read too. -/
theorem Readable.append_inv {taken : List Token} (h : Readable (taken ++ us)) (hus : us ≠ []) :
    (∀ t ∈ taken, t.kind ≠ .endMarker) ∧ Readable us := by
  induction taken with
  | nil => exact ⟨nofun, h⟩
  | cons t taken ih =>
    have hne : taken ++ us ≠ [] := List.append_ne_nil_of_right_ne_nil _ hus
    rw [List.cons_append] at h
    generalize htail : taken ++ us = tail at h hne
    cases h with
    | last _ => exact absurd rfl hne
    | cons ht _ htail' =>
      obtain ⟨htaken, hread⟩ := ih (htail ▸ htail')
      exact ⟨List.forall_mem_cons.mpr ⟨ht, htaken⟩, hread⟩

theorem Readable.suffix (h : Readable ts) (hs : us <:+ ts) (hus : us ≠ []) : Readable us := by
  obtain ⟨taken, rfl⟩ := hs
  exact (h.append_inv hus).2

/-- In front of tokens, these are what is seen. -/
theorem view_eq {c : Cursor} (h : c.ahead ≠ []) : c.view = c.ahead := by
  unfold Cursor.view
  split
  · next hnil => exact absurd hnil h
  · next hcons => exact hcons.symm

/-- Before the end marker the position goes on to the next token. -/
theorem Readable.ahead_advance {c : Cursor} (h : Readable c.ahead)
    (hk : (current c.ahead).kind ≠ .endMarker) : c.advance.ahead = dropCurrent c.ahead := by
  obtain ⟨t, us, hts, hd, -⟩ := h.tail hk
  rw [hd, Cursor.advance, hts]

/-! ## The logic -/

/-- How a run ends that began in front of some tokens: in front of a readable end of them, never for
want of fuel, and with a value, if any, of which `Q` holds with what is ahead. -/
structure Goes (ts : List Token) (Q : α → List Token → Prop) (r : Except SyntaxError α × Cursor) :
    Prop where
  suffix : r.2.ahead <:+ ts
  readable : Readable r.2.ahead
  fueled : Fueled r.1
  holds {a : α} : r.1 = .ok a → Q a r.2.ahead

/-- In front of a readable stream a parser does not run out of fuel, and ends in front of a readable
end of it; if it accepts, `Q` holds of the value and that end. -/
def Reads (ts : List Token) (p : Parser α) (Q : α → List Token → Prop) : Prop :=
  Readable ts → ∀ limit c, c.ahead = ts → Goes ts Q (p.exec limit c)

/-- A parser that stays where it is, whatever it sees. -/
def Looks (p : Parser α) (look : List Token → α) : Prop :=
  ∀ limit c, p.exec limit c = (.ok (look c.view), c)

theorem looks_startsExpression :
    Looks startsExpression fun ts => beginsExpression (current ts) := fun _ _ => rfl

theorem looks_atKind (kind : TokenKind) :
    Looks (atKind kind) fun ts => (current ts).kind == kind := fun _ _ => rfl

theorem looks_startsClause : Looks startsClause beginsClause := by
  intro limit c
  unfold beginsClause
  show (if (current c.view).isWord "for" = true then pure true else
    (do if (← atWord "async") = true then return (← peekNext).isWord "for" else return false :
      Parser Bool)).exec limit c = _
  cases (current c.view).isWord "for" with
  | true => rfl
  | false =>
    show (if (current c.view).isWord "async" = true then
      (do return (← peekNext).isWord "for" : Parser Bool) else return false).exec limit c = _
    cases (current c.view).isWord "async" <;> rfl

namespace Reads

variable {p : Parser α} {Q R : α → List Token → Prop}

/-- What is made of a readable stream: a readable end of it with a value, or an error that is not
for want of fuel. -/
theorem outcome (h : Reads ts p Q) (hts : Readable ts) (n : Nesting) :
    match outcome p n ts with
    | .ok (a, us) => us <:+ ts ∧ Readable us ∧ Q a us
    | .error e => e.cause ≠ .outOfFuel := by
  have hgoes := h hts n.limit (.start ts n.depth) rfl
  have hagrees := (p.follows n.limit (.start ts n.depth)).agrees
  rw [Cursor.view_start] at hagrees
  rw [show Parser.outcome p n ts = _ from hagrees]
  generalize p.exec n.limit (.start ts n.depth) = r at hgoes
  obtain ⟨e | a, c⟩ := r
  · exact hgoes.fueled e rfl
  · show c.view <:+ ts ∧ Readable c.view ∧ Q a c.view
    rw [view_eq hgoes.readable.ne_nil]
    exact ⟨hgoes.suffix, hgoes.readable, hgoes.holds rfl⟩

/-- A parser that goes forward wants no fuel. -/
theorem fueled (h : Reads ts p Q) (hts : Readable ts) (n : Nesting) :
    Fueled (Parser.outcome p n ts) := by
  intro e he
  have hout := h.outcome hts n
  rw [he] at hout
  exact hout

theorem of_readable (h : Readable ts → Reads ts p Q) : Reads ts p Q := fun hts => h hts hts

theorem pure {a : α} (h : Q a ts) : Reads ts (pure a) Q := by
  rintro hts limit c rfl
  exact ⟨List.suffix_rfl, hts, .ok, fun hb => by cases hb; exact h⟩

/-- First one parser, and then another on what it leaves. -/
theorem bind {f : α → Parser β} {R : β → List Token → Prop} (hp : Reads ts p Q)
    (hf : ∀ a us, weight us ≤ weight ts → Q a us → Reads us (f a) R) : Reads ts (p >>= f) R := by
  intro hts limit c hc
  have hp := hp hts limit c hc
  show Goes ts R (execBind p.exec (fun a => (f a).exec) limit c)
  rw [execBind]
  generalize p.exec limit c = r at hp
  obtain ⟨e | a, d⟩ := r
  · exact ⟨hp.suffix, hp.readable, fun e' he => by cases he; exact hp.fueled e rfl, nofun⟩
  · have hf := hf a d.ahead (weight_le_of_suffix hp.suffix) (hp.holds rfl) hp.readable limit d rfl
    exact ⟨hf.suffix.trans hp.suffix, hf.readable, hf.fueled, hf.holds⟩

/-- What is left is an end of the stream. -/
theorem suffix (hp : Reads ts p Q) : Reads ts p fun a us => us <:+ ts ∧ Q a us := by
  intro hts limit c hc
  have hp := hp hts limit c hc
  exact ⟨hp.suffix, hp.readable, hp.fueled, fun ha => ⟨hp.suffix, hp.holds ha⟩⟩

theorem and (hp : Reads ts p Q) (hp' : Reads ts p R) : Reads ts p fun a us => Q a us ∧ R a us := by
  intro hts limit c hc
  have hp := hp hts limit c hc
  have hp' := hp' hts limit c hc
  exact ⟨hp.suffix, hp.readable, hp.fueled, fun ha => ⟨hp.holds ha, hp'.holds ha⟩⟩

theorem mono (hp : Reads ts p Q) (h : ∀ a us, weight us ≤ weight ts → Q a us → R a us) :
    Reads ts p R := by
  intro hts limit c hc
  have hp := hp hts limit c hc
  exact ⟨hp.suffix, hp.readable, hp.fueled,
    fun ha => h _ _ (weight_le_of_suffix hp.suffix) (hp.holds ha)⟩

theorem ite {c : Prop} [Decidable c] {q : Parser α} (hp : c → Reads ts p Q)
    (hq : ¬ c → Reads ts q Q) : Reads ts (if c then p else q) Q := by
  split
  · next h => exact hp h
  · next h => exact hq h

/-! ## Failing -/

theorem failAt {span : Span} {cause : Cause} (h : cause ≠ .outOfFuel) :
    Reads ts (failAt span cause) Q := by
  rintro hts limit c rfl
  exact ⟨List.suffix_rfl, hts, fun e he => by cases he; exact h, nofun⟩

theorem ofExcept {r : Except SyntaxError α} (hr : Fueled r) (hok : ∀ a, r = .ok a → Q a ts) :
    Reads ts (ofExcept r) Q := by
  rintro hts limit c rfl
  exact ⟨List.suffix_rfl, hts, hr, hok _⟩

theorem ofExcept_bind {r : Except SyntaxError β} {f : β → Parser α} (hr : Fueled r)
    (h : ∀ b, r = .ok b → Reads ts (f b) Q) : Reads ts (Parser.ofExcept r >>= f) Q :=
  bind (Q := fun b us => r = .ok b ∧ us = ts) (ofExcept hr fun _ hb => ⟨hb, rfl⟩)
    fun b _ _ hb => hb.2 ▸ h b hb.1

/-! ## Looking -/

theorem read_bind {f : Nesting → Parser α} (h : ∀ n, Reads ts (f n) Q) : Reads ts (read >>= f) Q :=
  fun hts limit c hc => h ⟨limit, c.depth⟩ hts limit c hc

/-- A look at the stream, on which depends what follows. -/
theorem looks_bind {q : Parser β} (look : List Token → β) {f : β → Parser α} (hq : Looks q look)
    (h : Reads ts (f (look ts)) Q) : Reads ts (q >>= f) Q := by
  rintro hts limit c rfl
  show Goes c.ahead Q (execBind q.exec (fun b => (f b).exec) limit c)
  rw [execBind, hq, view_eq hts.ne_nil]
  exact h hts limit c rfl

theorem remaining_bind {f : List Token → Parser α} (h : Reads ts (f ts) Q) :
    Reads ts (remaining >>= f) Q := looks_bind id (fun _ _ => rfl) h

theorem peek_bind {f : Token → Parser α} (h : Reads ts (f (current ts)) Q) :
    Reads ts (peek >>= f) Q := looks_bind current (fun _ _ => rfl) h

theorem peekNext_bind {f : Token → Parser α} (h : Reads ts (f (current (dropCurrent ts))) Q) :
    Reads ts (peekNext >>= f) Q :=
  looks_bind (fun ts => current (dropCurrent ts)) (fun _ _ => rfl) h

theorem atOp_bind {op : String} {f : Bool → Parser α} (h : Reads ts (f ((current ts).isOp op)) Q) :
    Reads ts (atOp op >>= f) Q :=
  looks_bind (fun ts => (current ts).isOp op) (fun _ _ => rfl) h

theorem atWord_bind {word : String} {f : Bool → Parser α}
    (h : Reads ts (f ((current ts).isWord word)) Q) : Reads ts (atWord word >>= f) Q :=
  looks_bind (fun ts => (current ts).isWord word) (fun _ _ => rfl) h

theorem atKind_bind {kind : TokenKind} {f : Bool → Parser α}
    (h : Reads ts (f ((current ts).kind == kind)) Q) : Reads ts (atKind kind >>= f) Q :=
  looks_bind _ (looks_atKind kind) h

theorem startsExpression_bind {f : Bool → Parser α}
    (h : Reads ts (f (beginsExpression (current ts))) Q) :
    Reads ts (startsExpression >>= f) Q := looks_bind _ looks_startsExpression h

theorem startsClause_bind {f : Bool → Parser α} (h : Reads ts (f (beginsClause ts)) Q) :
    Reads ts (startsClause >>= f) Q := looks_bind _ looks_startsClause h

theorem fail {cause : Cause} (h : cause ≠ .outOfFuel) : Reads ts (fail cause) Q :=
  peek_bind (failAt h)

theorem unexpected : Reads ts unexpected Q := by
  refine peek_bind ?_
  split <;> exact fail nofun

/-! ## Taking -/

/-- Taking a token that is not the end marker makes a stream lighter. -/
theorem advance (hk : (current ts).kind ≠ .endMarker) :
    Reads ts Parser.advance fun t us =>
      t = current ts ∧ us = dropCurrent ts ∧ weight us < weight ts := by
  rintro hts limit c rfl
  have hahead : c.advance.ahead = dropCurrent c.ahead := hts.ahead_advance hk
  refine ⟨?_, ?_, .ok, fun {t} ht => ⟨?_, hahead, ?_⟩⟩
  · exact hahead ▸ hts.dropCurrent_suffix.1
  · exact hahead ▸ hts.dropCurrent_suffix.2
  · rw [← view_eq hts.ne_nil]
    exact (Except.ok.inj ht).symm
  · exact hahead ▸ hts.weight_dropCurrent_lt hk

theorem advance_bind {f : Token → Parser α} (hk : (current ts).kind ≠ .endMarker)
    (h : weight (dropCurrent ts) < weight ts → Reads (dropCurrent ts) (f (current ts)) Q) :
    Reads ts (Parser.advance >>= f) Q := by
  refine bind (advance hk) fun t us _ ht => ?_
  obtain ⟨rfl, rfl, hlt⟩ := ht
  exact h hlt

/-- A token that is taken is no heavier than the stream before. -/
theorem advanceText (hk : (current ts).kind ≠ .endMarker) :
    Reads ts Parser.advance fun t us => weight us < weight ts ∧ t.text.length ≤ weight ts := by
  refine of_readable fun hts => (advance hk).mono fun t us _ ht => ?_
  obtain ⟨rfl, -, hlt⟩ := ht
  obtain ⟨t, us, rfl, -⟩ := hts.tail hk
  refine ⟨hlt, ?_⟩
  show t.text.length ≤ weight (t :: us)
  simp only [weight_cons, Token.weight]
  omega

theorem eatIf {test : Token → Bool} (ht : ∀ t, test t = true → t.kind ≠ .endMarker) :
    Reads ts (eatIf test) fun b us =>
      b = test (current ts) ∧ (b = true → weight us < weight ts ∧ us = dropCurrent ts) ∧
        (b = false → us = ts) := by
  refine peek_bind (ite (fun h => advance_bind (ht _ h) fun hlt => pure ?_) fun h => pure ?_)
  · exact ⟨h.symm, fun _ => ⟨hlt, rfl⟩, nofun⟩
  · exact ⟨(Bool.eq_false_iff.mpr h).symm, nofun, fun _ => rfl⟩

theorem not_endMarker_of_isOp {op : String} (t : Token) (h : t.isOp op = true) :
    t.kind ≠ .endMarker := by
  rw [Token.isOp, Bool.and_eq_true, beq_iff_eq] at h
  rw [h.1]
  exact nofun

theorem not_endMarker_of_isWord {word : String} (t : Token) (h : t.isWord word = true) :
    t.kind ≠ .endMarker := by
  rw [Token.isWord, Bool.and_eq_true, beq_iff_eq] at h
  rw [h.1]
  exact nofun

/-- Taking a token that satisfies a test, or going on elsewhere. -/
theorem ifEatIf {test : Token → Bool} {q : Parser α}
    (ht : ∀ t, test t = true → t.kind ≠ .endMarker)
    (hp : test (current ts) = true → weight (dropCurrent ts) < weight ts →
      Reads (dropCurrent ts) p Q)
    (hq : test (current ts) = false → Reads ts q Q) :
    Reads ts (Parser.eatIf test >>= fun b => if b = true then p else q) Q := by
  refine bind (eatIf ht) fun b us _ hb => ?_
  obtain ⟨hb, htrue, hfalse⟩ := hb
  refine ite (fun h => ?_) (fun h => ?_)
  · obtain ⟨hlt, rfl⟩ := htrue h
    exact hp (hb ▸ h) hlt
  · have h : b = false := by simpa using h
    cases hfalse h
    exact hq (hb ▸ h)

theorem ifEatOp {op : String} {q : Parser α}
    (hp : ∀ us, weight us < weight ts → Reads us p Q) (hq : Reads ts q Q) :
    Reads ts (eatOp op >>= fun b => if b = true then p else q) Q :=
  ifEatIf not_endMarker_of_isOp (fun _ h => hp _ h) (fun _ => hq)

theorem ifEatWord {word : String} {q : Parser α}
    (hp : ∀ us, weight us < weight ts → Reads us p Q) (hq : Reads ts q Q) :
    Reads ts (eatWord word >>= fun b => if b = true then p else q) Q :=
  ifEatIf not_endMarker_of_isWord (fun _ h => hp _ h) (fun _ => hq)

theorem eatOp {op : String} : Reads ts (eatOp op) fun b us => b = true → weight us < weight ts :=
  (eatIf not_endMarker_of_isOp).mono fun _ _ _ h hb => (h.2.1 hb).1

theorem eatWord {word : String} :
    Reads ts (eatWord word) fun b us => b = true → weight us < weight ts :=
  (eatIf not_endMarker_of_isWord).mono fun _ _ _ h hb => (h.2.1 hb).1

theorem advanceIf {c : Bool} (hk : c = true → (current ts).kind ≠ .endMarker) :
    Reads ts (advanceIf c) fun _ us => weight us ≤ weight ts :=
  ite (fun hc => advance_bind (hk hc) fun hlt => pure (Nat.le_of_lt hlt))
    fun _ => pure (Nat.le_refl _)

theorem expect {test : Token → Bool} (ht : ∀ t, test t = true → t.kind ≠ .endMarker) :
    Reads ts (expect test) fun t us => test t = true ∧ weight us < weight ts := by
  refine peek_bind (ite (fun h => (advance (ht _ h)).mono fun t us _ hus => ?_) fun _ => unexpected)
  obtain ⟨rfl, -, hlt⟩ := hus
  exact ⟨h, hlt⟩

/-- A token that satisfies a test has to come first, and is forgotten. -/
theorem expect_bind {test : Token → Bool} {f : Unit → Parser α}
    (ht : ∀ t, test t = true → t.kind ≠ .endMarker)
    (h : ∀ us, weight us < weight ts → Reads us (f ()) Q) :
    Reads ts ((do let _ ← Parser.expect test) >>= f) Q := by
  refine bind (Q := fun _ us => weight us < weight ts) ?_ fun _ us _ hlt => h us hlt
  exact bind (expect ht) fun _ _ _ h => pure h.2

theorem expectOp_bind {op : String} {f : Unit → Parser α}
    (h : ∀ us, weight us < weight ts → Reads us (f ()) Q) : Reads ts (expectOp op >>= f) Q :=
  expect_bind not_endMarker_of_isOp h

theorem expectWord_bind {word : String} {f : Unit → Parser α}
    (h : ∀ us, weight us < weight ts → Reads us (f ()) Q) : Reads ts (expectWord word >>= f) Q :=
  expect_bind not_endMarker_of_isWord h

theorem expectNewline_bind {f : Unit → Parser α}
    (h : ∀ us, weight us < weight ts → Reads us (f ()) Q) : Reads ts (expectNewline >>= f) Q := by
  refine expect_bind (fun t ht => ?_) h
  rw [beq_iff_eq] at ht
  rw [ht]
  exact nofun

/-! ## Combining -/

/-- What came back from a level deeper stands where it stood there. -/
theorem leave_eq {r : Except SyntaxError α × Cursor} {d : Nat} (h : r.2.depth = d + 1) :
    leave r = (r.1, { r.2 with depth := d }) := by
  rw [leave, h]

theorem nested {cause : Cause} (hc : cause ≠ .outOfFuel) (hp : Reads ts p Q) :
    Reads ts (nested cause p) Q := by
  rintro hts limit c rfl
  show Goes c.ahead Q (if limit ≤ c.depth then _ else _)
  split
  · exact ⟨List.suffix_rfl, hts, fun e he => by cases he; exact hc, nofun⟩
  · have hp := hp hts limit { c with depth := c.depth + 1 } rfl
    rw [leave_eq (p.follows limit _).depth]
    exact ⟨hp.suffix, hp.readable, hp.fueled, hp.holds⟩

theorem optional {test : Parser Bool} {T : Bool → List Token → Prop}
    {Q : Option α → List Token → Prop} (htest : Reads ts test T)
    (hp : ∀ us, weight us ≤ weight ts → T true us → Reads us p fun a vs => Q (some a) vs)
    (hnone : ∀ us, weight us ≤ weight ts → T false us → Q none us) :
    Reads ts (optional test p) Q := by
  refine bind htest fun b us hle hb => ite (fun h => ?_) (fun h => ?_)
  · subst h
    exact bind (hp us hle hb) fun a vs _ h => pure h
  · have h : b = false := by simpa using h
    subst h
    exact pure (hnone us hle hb)

/-- An optional part that a look at the stream decides on. -/
theorem optionalLook {test : Parser Bool} {look : List Token → Bool} {Q : α → List Token → Prop}
    (htest : Looks test look) (hp : look ts = true → Reads ts p Q) :
    Reads ts (Parser.optional test p) fun o us => (look ts = true → o ≠ none) ∧ ∀ a ∈ o, Q a us := by
  refine looks_bind _ htest (ite (fun hc => bind (hp hc) fun a vs _ ha => pure ⟨fun _ => nofun, ?_⟩)
    fun hc => pure ⟨fun h => absurd h hc, nofun⟩)
  rintro _ ⟨⟩
  exact ha

/-- An optional part that begins with a token that is taken. -/
theorem optionalTaken {test : Parser Bool} {P : α → Prop}
    (htest : Reads ts test fun b us => b = true → weight us < weight ts)
    (hp : ∀ us, weight us < weight ts → Reads us p fun a _ => P a) :
    Reads ts (Parser.optional test p) fun o us =>
      (∀ a ∈ o, P a) ∧ (o ≠ none → weight us < weight ts) := by
  refine optional htest (fun us hle h => ?_) fun us _ _ => ⟨nofun, (absurd rfl ·)⟩
  refine (hp us (h rfl)).mono fun a vs hle' ha => ⟨by simpa using ha, fun _ => ?_⟩
  have := h rfl
  omega

theorem optionalOp {op : String} {P : α → Prop}
    (hp : ∀ us, weight us < weight ts → Reads us p fun a _ => P a) :
    Reads ts (Parser.optional (Parser.eatOp op) p) fun o us =>
      (∀ a ∈ o, P a) ∧ (o ≠ none → weight us < weight ts) :=
  optionalTaken eatOp hp

theorem optionalWord {word : String} {P : α → Prop}
    (hp : ∀ us, weight us < weight ts → Reads us p fun a _ => P a) :
    Reads ts (Parser.optional (Parser.eatWord word) p) fun o us =>
      (∀ a ∈ o, P a) ∧ (o ≠ none → weight us < weight ts) :=
  optionalTaken eatWord hp

theorem manyUpTo {item : Parser (Option α)} {P : α → Prop} (bound : List Token)
    (hlen : us.length < bound.length) (hs : us <:+ ts)
    (h : ∀ us, weight us ≤ weight ts →
      Reads us item fun o vs => ∀ a ∈ o, weight vs < weight us ∧ P a) :
    Reads us (manyUpTo item bound) fun as _ => ∀ a ∈ as, P a := by
  induction bound generalizing us with
  | nil => exact absurd hlen (by simp)
  | cons b bound ih =>
    refine bind (h us (weight_le_of_suffix hs)).suffix fun o vs _ ho => ?_
    cases o with
    | none => exact pure nofun
    | some a =>
      obtain ⟨hvs, ho⟩ := ho
      obtain ⟨hlt, ha⟩ := ho a rfl
      have hlt := length_lt_of_suffix hvs hlt
      refine bind (ih (by simp only [List.length_cons] at hlen; omega) (hvs.trans hs))
        fun as _ _ has => pure ?_
      exact List.forall_mem_cons.mpr ⟨ha, has⟩

/-- Every item that is read takes a token and satisfies `P`. -/
theorem many {item : Parser (Option α)} {P : α → Prop}
    (h : ∀ us, weight us ≤ weight ts →
      Reads us item fun o vs => ∀ a ∈ o, weight vs < weight us ∧ P a) :
    Reads ts (many item) fun as _ => ∀ a ∈ as, P a :=
  remaining_bind (manyUpTo (current ts :: ts) (Nat.lt_succ_self _) List.suffix_rfl h)

/-- If the first item is there, so is one in the list. -/
theorem many_ne_nil {item : Parser (Option α)} {P : α → Prop}
    (hfirst : Reads ts item fun o _ => o ≠ none)
    (h : ∀ us, weight us ≤ weight ts →
      Reads us item fun o vs => ∀ a ∈ o, weight vs < weight us ∧ P a) :
    Reads ts (Parser.many item) fun as us =>
      as ≠ [] ∧ weight us < weight ts ∧ ∀ a ∈ as, P a := by
  refine remaining_bind (bind (hfirst.and (h ts (Nat.le_refl _))).suffix fun o us _ ho => ?_)
  obtain ⟨hus, hne, ho⟩ := ho
  cases o with
  | none => exact absurd rfl hne
  | some a =>
    obtain ⟨hlt, ha⟩ := ho a rfl
    refine bind (manyUpTo ts (length_lt_of_suffix hus hlt) hus h) fun as vs hle has => pure ?_
    exact ⟨List.cons_ne_nil a as, by omega, List.forall_mem_cons.mpr ⟨ha, has⟩⟩

/-- A list has an item at least. -/
theorem sepBy {separator : Parser Bool} {item : Parser α} {P : α → Prop}
    (hsep : ∀ us, Reads us separator fun b vs => b = true → weight vs < weight us)
    (h : ∀ us, weight us ≤ weight ts → Reads us item fun a vs => weight vs < weight us ∧ P a) :
    Reads ts (sepBy separator item) fun as us =>
      as ≠ [] ∧ weight us < weight ts ∧ ∀ a ∈ as, P a := by
  refine bind (h ts (Nat.le_refl _)) fun first us _ hfirst => ?_
  refine bind (many (P := P) fun vs hle => ?_) fun rest vs hle hrest => pure ?_
  · refine optional (hsep vs) (fun ws hle' hlt => ?_) fun _ _ _ => nofun
    refine (h ws (by omega)).mono fun a xs _ ha => ?_
    rintro _ ⟨⟩
    exact ⟨by omega, ha.2⟩
  · exact ⟨List.cons_ne_nil _ _, by omega, List.forall_mem_cons.mpr ⟨hfirst.2, hrest⟩⟩

theorem iterateUpTo {step : σ → Parser (σ × Bool)} {I : σ → Prop} (bound : List Token) (s : σ)
    (hlen : us.length < bound.length) (hs : us <:+ ts) (hI : I s)
    (h : ∀ s us, weight us ≤ weight ts → I s →
      Reads us (step s) fun r vs => I r.1 ∧ (r.2 = true → weight vs < weight us)) :
    Reads us (iterateUpTo step bound s) fun s _ => I s := by
  induction bound generalizing us s with
  | nil => exact absurd hlen (by simp)
  | cons b bound ih =>
    refine bind (h s us (weight_le_of_suffix hs) hI).suffix fun r vs _ hr => ?_
    obtain ⟨hvs, hr⟩ := hr
    refine ite (fun hgo => ?_) fun _ => pure hr.1
    have hlt := length_lt_of_suffix hvs (hr.2 hgo)
    exact ih r.1 (by simp only [List.length_cons] at hlen; omega) (hvs.trans hs) hr.1

/-- An invariant of the steps holds at the end. -/
theorem iterate {step : σ → Parser (σ × Bool)} {I : σ → Prop} {s : σ} (hI : I s)
    (h : ∀ s us, weight us ≤ weight ts → I s →
      Reads us (step s) fun r vs => I r.1 ∧ (r.2 = true → weight vs < weight us)) :
    Reads ts (iterate step s) fun s _ => I s :=
  remaining_bind (iterateUpTo (current ts :: ts) s (Nat.lt_succ_self _) List.suffix_rfl hI h)

theorem withTokens {tokens : List Token} {P : α → Prop} (hr : Readable tokens)
    (hp : Reads tokens p fun a _ => P a) : Reads ts (withTokens tokens p) fun a _ => P a := by
  rintro hts limit c rfl
  have hp := hp hr limit (.start tokens c.depth) rfl
  exact ⟨List.suffix_rfl, hts, hp.fueled, hp.holds⟩

/-- Reading for each entry of a list in turn. -/
theorem mapM {f : β → Parser α} {P : α → Prop} (bs : List β)
    (h : ∀ b ∈ bs, ∀ us, weight us ≤ weight ts → Reads us (f b) fun a _ => P a) :
    Reads ts (bs.mapM f) fun as _ => ∀ a ∈ as, P a := by
  induction bs generalizing ts with
  | nil => exact pure nofun
  | cons b bs ih =>
    rw [List.mapM_cons]
    refine bind (h b List.mem_cons_self ts (Nat.le_refl _)) fun a us hle ha => ?_
    refine bind (ih fun c hc vs hle' => h c (List.mem_cons_of_mem b hc) vs (by omega))
      fun as _ _ has => pure ?_
    exact List.forall_mem_cons.mpr ⟨ha, has⟩

end Reads

end PythonSyntax.Parser
