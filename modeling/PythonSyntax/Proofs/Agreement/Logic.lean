import Mathlib.Data.List.Forall2
import PythonSyntax.Layout
import PythonSyntax.Proofs.Parser.Outcome

/-
Parsers that agree.

The grammar looks at tokens only through their kinds and texts, and at spans only to place errors.
So two runs of it on streams that match do the same things.  A `TokenLikeness` says which tokens,
nestings and errors match; `Relates` is the judgement that two parsers take streams in one relation
to values and streams in another.  The first run may give up for a cause that is excused, such as
the end of its fuel; nothing is said of the second one then.

A `Likeness` is a relation of streams that lasts while tokens with text are taken, and `Agrees` the
judgement that two parsers keep it, with one rule for each way to combine parsers.  Streams may
match only up to some line end, so that a token may be taken only where it is known to have text:
`AgreesWhen` is the judgement on streams of whose first token something is known.

Streams match at a number of open brackets.  Parsers that agree leave it as it is, and `Closes` is
the judgement that they close one bracket more than they open.  Outside all brackets the first run
may be at its end, or at that of its line, while the second one is at a closing parenthesis or a
semicolon, for there neither goes on.
-/

namespace PythonSyntax

/-! ## Brackets -/

/-- Whether an operator is a bracket. -/
def Layout.isBracketText (op : String) : Bool := isOpening op || isClosing op

/-- Whether an expression may end at an operator, where another run is at the end of its text or line. -/
def Layout.isStopText (op : String) : Bool := op == ")" || op == ";"

/-- Whether a token has text and is no bracket. -/
def Token.isPlain (t : Token) : Bool :=
  t.kind.isContent && !(t.kind == .op && Layout.isBracketText t.text)

namespace Parser

variable {α β γ δ σ τ : Type}

/-! ## What matches -/

/-- Whether a cause is one for which only a stream is refused, and never a rule of the grammar. -/
def isLexical : Cause → Bool
  | .strayCharacter _ | .openTripleQuote | .openQuote | .inconsistentDedent
  | .unmatchedClosing _ | .mismatchedClosing _ _ => true
  | _ => false

section

variable {n m : Nesting}

/-- Two runs at one nesting go deeper together. -/
theorem deeper_of_eq (h : n = m) (hlt : ¬ n.limit ≤ n.depth) :
    ¬ m.limit ≤ m.depth ∧ (⟨n.limit, n.depth + 1⟩ : Nesting) = ⟨m.limit, m.depth + 1⟩ := by
  subst h
  exact ⟨hlt, rfl⟩

theorem deepest_of_eq (cause : Cause) (h : n = m) (hle : n.limit ≤ n.depth)
    (_ : cause.isNesting = true) : m.limit ≤ m.depth ∨ cause = .outOfFuel :=
  .inl (h ▸ hle)

end

/-- Which tokens, nestings and errors of two runs match, and for which causes the first run may
give up. -/
structure TokenLikeness where
  token : Token → Token → Prop
  nesting : Nesting → Nesting → Prop
  error : SyntaxError → SyntaxError → Prop
  excused : Cause → Prop
  kind {t u : Token} : token t u → t.kind = u.kind
  /-- Only the texts of literals and line ends may differ, and these open no bracket. -/
  text {t u : Token} : token t u → t.text = u.text ∨
    (t.kind = .string ∨ t.kind = .newline) ∧
      Layout.isOpening t.text = false ∧ Layout.isOpening u.text = false
  place {t u : Token} {cause : Cause} : isLexical cause = false → token t u →
    error ⟨cause, t.span⟩ ⟨cause, u.span⟩
  fuel : excused .outOfFuel
  deeper {n m : Nesting} : nesting n m → ¬ n.limit ≤ n.depth →
    ¬ m.limit ≤ m.depth ∧ nesting ⟨n.limit, n.depth + 1⟩ ⟨m.limit, m.depth + 1⟩
  /-- Where the first run may go no deeper, neither may the second one, or that is excused. -/
  deepest {n m : Nesting} (cause : Cause) : nesting n m → n.limit ≤ n.depth → cause.isNesting →
    m.limit ≤ m.depth ∨ excused cause

/-- A relation between streams of two runs. -/
abbrev Streams := List Token → List Token → Prop

/-- A relation of streams that lasts while tokens with text are taken. -/
structure Lasts (token : Token → Token → Prop) (S : Streams) : Prop where
  first {ts us : List Token} : S ts us → token (current ts) (current us)
  drop {ts us : List Token} : S ts us → (current ts).kind.isContent = true →
    S (dropCurrent ts) (dropCurrent us)
  length_le {ts us : List Token} : S ts us → ts.length ≤ us.length

/-- What matches in two runs, streams included. -/
structure Likeness extends TokenLikeness where
  /-- How streams match where a number of brackets are open. -/
  streams : Nat → Streams
  /-- At which kinds of tokens the first run may be, where the second one is at an operator. -/
  stops : TokenKind → String → Prop
  stops_cases {kind : TokenKind} {op : String} : stops kind op →
    (kind = .endMarker ∨ kind = .newline) ∧ (op = ")" ∨ op = ";")
  stop {kind : TokenKind} {op : String} : stops kind op → ∀ a b, error a b
  first {k : Nat} {ts us : List Token} : streams k ts us → token (current ts) (current us) ∨
    k = 0 ∧ ∃ op, stops (current ts).kind op ∧ (current us).isOp op = true
  plain {k : Nat} {ts us : List Token} : streams k ts us → (current ts).isPlain = true →
    streams k (dropCurrent ts) (dropCurrent us)
  opening {k : Nat} {ts us : List Token} : streams k ts us → (current ts).kind = .op →
    Layout.isOpening (current ts).text = true → streams (k + 1) (dropCurrent ts) (dropCurrent us)
  closing {k : Nat} {ts us : List Token} : streams (k + 1) ts us → (current ts).kind = .op →
    Layout.isClosing (current ts).text = true → streams k (dropCurrent ts) (dropCurrent us)
  length_le {k : Nat} {ts us : List Token} : streams k ts us → ts.length ≤ us.length

namespace TokenLikeness

variable (c : TokenLikeness)

/-- Two places at which errors of the grammar match. -/
def Places (here there : Span) : Prop :=
  ∀ cause, isLexical cause = false → c.error ⟨cause, here⟩ ⟨cause, there⟩

/-- Two results that match: values of which `Q` holds, errors that match, or a first result that is
excused. -/
inductive Results (Q : α → β → Prop) : Except SyntaxError α → Except SyntaxError β → Prop where
  | ok {a b} : Q a b → Results Q (.ok a) (.ok b)
  | error {e e'} : c.error e e' → Results Q (.error e) (.error e')
  | excused {e r} : c.excused e.cause → Results Q (.error e) r

/-- Results match also where more errors match and more causes are excused. -/
theorem Results.weaken {c c' : TokenLikeness} {Q : α → β → Prop} {r : Except SyntaxError α}
    {r' : Except SyntaxError β} (h : c.Results Q r r') (herror : ∀ e e', c.error e e' → c'.error e e')
    (hexcused : ∀ cause, c.excused cause → c'.excused cause) : c'.Results Q r r' := by
  cases h with
  | ok hq => exact .ok hq
  | error he => exact .error (herror _ _ he)
  | excused hexc => exact .excused (hexcused _ hexc)

/-- Two parsers take streams in the relation `S` to values `a` and `b`, and to streams in the
relation `T a b`. -/
def Relates (S : Streams) (p : Parser α) (q : Parser β) (T : α → β → Streams) : Prop :=
  ∀ ts us n m, S ts us → c.nesting n m →
    c.Results (fun r r' => T r.1 r'.1 r.2 r'.2) (outcome p n ts) (outcome q m us)

variable {c}

/-- What is read off the entries of two lists alike is the same list. -/
theorem map_eq_map {Q : α → β → Prop} {f : α → γ} {g : β → γ} {as : List α} {bs : List β}
    (h : List.Forall₂ Q as bs) (hfg : ∀ a b, Q a b → f a = g b) : as.map f = bs.map g := by
  induction h with
  | nil => rfl
  | cons hab _ ih => rw [List.map_cons, List.map_cons, hfg _ _ hab, ih]

/-! ## Tokens that match -/

/-- What is read off a token is the same for one that matches, if it does not depend on the span,
nor on the text of a literal or a line end. -/
theorem congr_of_token (f : Token → α) {t u : Token} (h : c.token t u)
    (hspan : ∀ kind text s s', f ⟨kind, text, s⟩ = f ⟨kind, text, s'⟩)
    (hstring : ∀ x y s, f ⟨.string, x, s⟩ = f ⟨.string, y, s⟩)
    (hnewline : ∀ x y s, f ⟨.newline, x, s⟩ = f ⟨.newline, y, s⟩) : f t = f u := by
  have hkind := c.kind h
  have htext := c.text h
  obtain ⟨k, x, s⟩ := t
  obtain ⟨k', y, s'⟩ := u
  simp only at hkind htext
  subst hkind
  rcases htext with rfl | ⟨rfl | rfl, -⟩
  · exact hspan _ _ _ _
  · rw [hstring x y, hspan]
  · rw [hnewline x y, hspan]

theorem isOp_eq {t u : Token} (h : c.token t u) (op : String) : t.isOp op = u.isOp op :=
  congr_of_token (·.isOp op) h (fun _ _ _ _ => rfl) (fun _ _ _ => rfl) fun _ _ _ => rfl

theorem isWord_eq {t u : Token} (h : c.token t u) (word : String) : t.isWord word = u.isWord word :=
  congr_of_token (·.isWord word) h (fun _ _ _ _ => rfl) (fun _ _ _ => rfl) fun _ _ _ => rfl

theorem text_eq {t u : Token} (h : c.token t u) (hs : t.kind ≠ .string) (hn : t.kind ≠ .newline) :
    t.text = u.text := by
  rcases c.text h with h | ⟨h | h, -⟩
  · exact h
  · exact absurd h hs
  · exact absurd h hn

theorem text_eq_iff {t u : Token} (h : c.token t u) {op : String}
    (hop : Layout.isOpening op = true) : t.text = op ↔ u.text = op := by
  rcases c.text h with h | ⟨-, ht, hu⟩
  · rw [h]
  · constructor
    · intro he
      rw [he, hop] at ht
      exact nomatch ht
    · intro he
      rw [he, hop] at hu
      exact nomatch hu

/-- Errors may be placed at tokens that match. -/
theorem places_of_token {t u : Token} (h : c.token t u) : c.Places t.span u.span :=
  fun _ hc => c.place hc h

/-! ## Results -/

namespace Results

variable {Q : α → β → Prop} {R : γ → δ → Prop}

theorem bind {r : Except SyntaxError α} {r' : Except SyntaxError β}
    {f : α → Except SyntaxError γ} {g : β → Except SyntaxError δ} (h : c.Results Q r r')
    (hf : ∀ a b, Q a b → c.Results R (f a) (g b)) : c.Results R (r >>= f) (r' >>= g) := by
  cases h with
  | ok hq => exact hf _ _ hq
  | error he => exact .error he
  | excused he => exact .excused he

theorem map {r : Except SyntaxError α} {r' : Except SyntaxError β} {f : α → γ} {g : β → δ}
    (h : c.Results Q r r') (hf : ∀ a b, Q a b → R (f a) (g b)) :
    c.Results R (r.map f) (r'.map g) := by
  cases h with
  | ok hq => exact .ok (hf _ _ hq)
  | error he => exact .error he
  | excused he => exact .excused he

/-- Equal values for the entries of two lists in turn. -/
theorem mapM_eq {f : γ → Except SyntaxError α} {g : δ → Except SyntaxError α} {S : γ → δ → Prop}
    {as : List γ} {bs : List δ} (hs : List.Forall₂ S as bs)
    (h : ∀ a b, S a b → c.Results Eq (f a) (g b)) : c.Results Eq (as.mapM f) (bs.mapM g) := by
  induction hs with
  | nil => exact .ok rfl
  | cons hab _ ih =>
    rw [List.mapM_cons, List.mapM_cons]
    exact (h _ _ hab).bind fun _ _ hx => ih.bind fun _ _ hxs => .ok (hx ▸ hxs ▸ rfl)

theorem mono {Q' : α → β → Prop} {r : Except SyntaxError α} {r' : Except SyntaxError β}
    (h : c.Results Q r r') (hq : ∀ a b, Q a b → Q' a b) : c.Results Q' r r' := by
  cases h with
  | ok h => exact .ok (hq _ _ h)
  | error he => exact .error he
  | excused he => exact .excused he

/-- If the first result is a value, so is the second. -/
theorem of_ok {a : α} {r : Except SyntaxError β} (h : c.Results Q (.ok a) r) :
    ∃ b, r = .ok b ∧ Q a b := by
  cases h with
  | ok hq => exact ⟨_, rfl, hq⟩

end Results

/-! ## Relations between streams -/

theorem isLexical_refusal (kind : TokenKind) : isLexical (refusal kind) = false := by
  cases kind <;> rfl

theorem isLexical_of_isNesting {cause : Cause} (h : cause.isNesting = true) :
    isLexical cause = false := by
  cases cause <;> first | rfl | exact nomatch h

namespace Relates

variable {p : Parser α} {q : Parser β} {S S' U : Streams} {T : α → β → Streams}

theorem pure {a : α} {b : β} (h : ∀ ts us, S ts us → T a b ts us) :
    c.Relates S (pure a) (pure b) T :=
  fun ts us _ _ hs _ => .ok (h ts us hs)

/-- First two parsers, and then two others on what these leave. -/
theorem bind {f : α → Parser γ} {g : β → Parser δ} {V : γ → δ → Streams} (hp : c.Relates S p q T)
    (hf : ∀ a b, c.Relates (T a b) (f a) (g b) V) : c.Relates S (p >>= f) (q >>= g) V := by
  intro ts us n m hs hn
  rw [outcome_bind, outcome_bind]
  exact (hp ts us n m hs hn).bind fun r r' h => hf r.1 r'.1 r.2 r'.2 n m h hn

/-- The same after values that are related apart from the streams. -/
theorem bind_of {Q : α → β → Prop} {f : α → Parser γ} {g : β → Parser δ} {V : γ → δ → Streams}
    (hp : c.Relates S p q fun a b ts us => Q a b ∧ S' ts us)
    (hf : ∀ a b, Q a b → c.Relates S' (f a) (g b) V) : c.Relates S (p >>= f) (q >>= g) V :=
  bind hp fun a b ts us n m h hn => hf a b h.1 ts us n m h.2 hn

/-- The same after a value that is equal in both runs. -/
theorem bind_eq {p q : Parser α} {f : α → Parser γ} {g : α → Parser δ} {V : γ → δ → Streams}
    (hp : c.Relates S p q fun a b ts us => a = b ∧ S' ts us)
    (hf : ∀ a, c.Relates S' (f a) (g a) V) : c.Relates S (p >>= f) (q >>= g) V :=
  bind_of hp fun a _ h => h ▸ hf a

theorem mono {S₀ : Streams} {T' : α → β → Streams} (hp : c.Relates S p q T)
    (hS : ∀ ts us, S₀ ts us → S ts us) (hT : ∀ a b ts us, T a b ts us → T' a b ts us) :
    c.Relates S₀ p q T' :=
  fun ts us n m hs hn => (hp ts us n m (hS ts us hs) hn).mono fun _ _ => hT _ _ _ _

theorem ite {b : Prop} [Decidable b] {p' : Parser α} {q' : Parser β} (hp : c.Relates S p q T)
    (hp' : c.Relates S p' q' T) : c.Relates S (if b then p else p') (if b then q else q') T := by
  split
  · exact hp
  · exact hp'

theorem failAt {here there : Span} {cause : Cause} (hc : isLexical cause = false)
    (h : c.Places here there) : c.Relates S (failAt here cause) (failAt there cause) T :=
  fun _ _ _ _ _ _ => .error (h cause hc)

/-- After a look at the nesting it is known. -/
theorem read_bind {f : Nesting → Parser γ} {g : Nesting → Parser δ} {V : γ → δ → Streams}
    (h : ∀ ts us n m, S ts us → c.nesting n m →
      c.Results (fun r r' => V r.1 r'.1 r.2 r'.2) (outcome (f n) n ts) (outcome (g m) m us)) :
    c.Relates S (read >>= f) (read >>= g) V := h

theorem ofExcept {Q : α → β → Prop} {r : Except SyntaxError α} {r' : Except SyntaxError β}
    (h : c.Results Q r r') :
    c.Relates S (ofExcept r) (ofExcept r') fun a b ts us => Q a b ∧ S ts us := by
  intro ts us n m hs _
  rw [outcome_ofExcept, outcome_ofExcept]
  exact h.map fun _ _ hq => ⟨hq, hs⟩

/-- Reading other streams, and coming back to these. -/
theorem withTokens {ts us : List Token} (hs : U ts us) (hp : c.Relates U p q T) :
    c.Relates S (withTokens ts p) (withTokens us q)
      fun a b ts us => (∃ ts us, T a b ts us) ∧ S ts us := by
  intro ts' us' n m hs' hn
  rw [outcome_withTokens, outcome_withTokens]
  exact (hp ts us n m hs hn).map fun _ _ h => ⟨⟨_, _, h⟩, hs'⟩

/-- The same for streams that may fail to be. -/
theorem withTokens_ofExcept {r r' : Except SyntaxError (List Token)} (h : c.Results U r r')
    (hp : c.Relates U p q T) :
    c.Relates S (Parser.ofExcept r >>= fun tokens => Parser.withTokens tokens p)
      (Parser.ofExcept r' >>= fun tokens => Parser.withTokens tokens q)
      fun a b ts us => (∃ ts us, T a b ts us) ∧ S ts us :=
  bind_of (ofExcept h) fun _ _ hU => withTokens hU hp

/-- One level deeper, where errors may be placed at the first tokens. -/
theorem nested {cause : Cause} (hc : cause.isNesting = true)
    (hS : ∀ ts us, S ts us → c.Places (current ts).span (current us).span)
    (hp : c.Relates S p q T) :
    c.Relates S (nested cause p) (nested cause q) T := by
  intro ts us n m hs hn
  rw [outcome_nested, outcome_nested]
  by_cases hle : n.limit ≤ n.depth
  · rw [if_pos hle]
    rcases c.deepest cause hn hle hc with hle' | hexc
    · rw [if_pos hle']
      exact .error (hS ts us hs cause (isLexical_of_isNesting hc))
    · exact .excused hexc
  · obtain ⟨hle', hn'⟩ := c.deeper hn hle
    rw [if_neg hle, if_neg hle']
    exact hp ts us _ _ hs hn'

/-- Reading for each entry of two lists in turn. -/
theorem mapM_eq {f : γ → Parser α} {g : δ → Parser α} {P : γ → δ → Prop} {as : List γ}
    {bs : List δ} (hs : List.Forall₂ P as bs)
    (h : ∀ a b, P a b → c.Relates S (f a) (g b) fun a b ts us => a = b ∧ S ts us) :
    c.Relates S (as.mapM f) (bs.mapM g) fun a b ts us => a = b ∧ S ts us := by
  induction hs with
  | nil => exact pure fun _ _ hs => ⟨rfl, hs⟩
  | cons hab _ ih =>
    rw [List.mapM_cons, List.mapM_cons]
    exact bind_eq (h _ _ hab) fun _ => bind_eq ih fun _ => pure fun _ _ hs => ⟨rfl, hs⟩

/-- A token is taken if it satisfies a test. -/
theorem ifEatIf {test : Token → Bool} {p' : Parser α} {q' : Parser β}
    (htest : ∀ ts us, S ts us → test (current ts) = test (current us))
    (hdrop : ∀ ts us, S ts us → test (current ts) = true → U (dropCurrent ts) (dropCurrent us))
    (hp : c.Relates U p q T) (hp' : c.Relates S p' q' T) :
    c.Relates S (do if ← eatIf test then p else p') (do if ← eatIf test then q else q') T := by
  intro ts us n m hs hn
  rw [outcome_bind, outcome_bind, outcome_eatIf, outcome_eatIf, ← htest ts us hs]
  cases ht : test (current ts) with
  | false => exact hp' ts us n m hs hn
  | true => exact hp _ _ n m (hdrop ts us hs ht) hn

/-- After an item the streams are in the relation `S`, and where there is none in `U`. -/
def Item (Q : α → β → Prop) (S U : Streams) : Option α → Option β → Streams
  | some a, some b, ts, us => Q a b ∧ S ts us
  | none, none, ts, us => U ts us
  | _, _, _, _ => False

theorem manyUpTo {item : Parser (Option α)} {item' : Parser (Option β)} {Q : α → β → Prop}
    (h : c.Relates S item item' (Item Q S U)) {bound bound' : List Token}
    (hle : bound.length ≤ bound'.length) :
    c.Relates S (manyUpTo item bound) (manyUpTo item' bound')
      fun as bs ts us => List.Forall₂ Q as bs ∧ U ts us := by
  induction bound generalizing bound' with
  | nil => exact fun _ _ _ _ _ _ => .excused c.fuel
  | cons t bound ih =>
    cases bound' with
    | nil => exact absurd hle (Nat.not_succ_le_zero _)
    | cons t' bound' =>
      refine bind h fun o o' => ?_
      cases o with
      | none =>
        cases o' with
        | none => exact pure fun _ _ hs => ⟨.nil, hs⟩
        | some => exact fun _ _ _ _ hs => hs.elim
      | some a =>
        cases o' with
        | none => exact fun _ _ _ _ hs => hs.elim
        | some b =>
          intro ts us n m hs hn
          have hrest := bind (ih (Nat.le_of_succ_le_succ hle)) fun as bs => pure
            (a := a :: as) (b := b :: bs) (T := fun as bs ts us => List.Forall₂ Q as bs ∧ U ts us)
            fun _ _ has => ⟨.cons hs.1 has.1, has.2⟩
          exact hrest ts us n m hs.2 hn

theorem many {item : Parser (Option α)} {item' : Parser (Option β)} {Q : α → β → Prop}
    (hS : ∀ ts us, S ts us → ts.length ≤ us.length) (h : c.Relates S item item' (Item Q S U)) :
    c.Relates S (many item) (many item') fun as bs ts us => List.Forall₂ Q as bs ∧ U ts us := by
  intro ts us n m hs hn
  have hle : (current ts :: ts).length ≤ (current us :: us).length :=
    Nat.succ_le_succ (hS ts us hs)
  exact manyUpTo h hle ts us n m hs hn

theorem iterateUpTo {step : σ → Parser (σ × Bool)} {step' : τ → Parser (τ × Bool)}
    {I : σ → τ → Streams}
    (h : ∀ s s', c.Relates (I s s') (step s) (step' s') fun r r' ts us =>
      r.2 = r'.2 ∧ I r.1 r'.1 ts us)
    {bound bound' : List Token} (hle : bound.length ≤ bound'.length) (s : σ) (s' : τ) :
    c.Relates (I s s') (iterateUpTo step bound s) (iterateUpTo step' bound' s') I := by
  induction bound generalizing bound' s s' with
  | nil => exact fun _ _ _ _ _ _ => .excused c.fuel
  | cons t bound ih =>
    cases bound' with
    | nil => exact absurd hle (Nat.not_succ_le_zero _)
    | cons t' bound' =>
      refine bind (h s s') fun r r' ts us n m hs hn => ?_
      obtain ⟨r, b⟩ := r
      obtain ⟨r', b'⟩ := r'
      obtain ⟨rfl, hs⟩ := hs
      exact ite (ih (Nat.le_of_succ_le_succ hle) r r') (pure fun _ _ hs => hs) ts us n m hs hn

theorem iterate {step : σ → Parser (σ × Bool)} {step' : τ → Parser (τ × Bool)}
    {I : σ → τ → Streams} {s : σ} {s' : τ} (hI : ∀ ts us, I s s' ts us → ts.length ≤ us.length)
    (h : ∀ s s', c.Relates (I s s') (step s) (step' s') fun r r' ts us =>
      r.2 = r'.2 ∧ I r.1 r'.1 ts us) :
    c.Relates (I s s') (iterate step s) (iterate step' s') I := by
  intro ts us n m hs hn
  have hle : (current ts :: ts).length ≤ (current us :: us).length :=
    Nat.succ_le_succ (hI ts us hs)
  exact iterateUpTo h hle s s' ts us n m hs hn

end Relates

end TokenLikeness

namespace Likeness

open TokenLikeness

variable (c : Likeness)

/-! ## First tokens -/

/-- How the first tokens of streams match. -/
def Sees (t u : Token) : Prop :=
  c.token t u ∨ ∃ op, c.stops t.kind op ∧ u.isOp op = true

/-- An operator at which the second run does not stop. -/
def Passes (op : String) : Prop := ∀ kind stop, c.stops kind stop → (stop == op) = false

variable {c}

theorem Passes.of {op : String} (h : Layout.isStopText op = false) : c.Passes op := by
  intro kind stop hs
  refine beq_false_of_ne ?_
  rintro rfl
  rcases (c.stops_cases hs).2 with rfl | rfl <;> cases h

/-- What is read off a first token is the same for one that matches, if it does not depend on the
span, nor on the text of a literal or a line end, nor tells apart the tokens where the runs stop. -/
theorem congr_of_sees (f : Token → α) {t u : Token} (h : c.Sees t u)
    (hspan : ∀ kind text s s', f ⟨kind, text, s⟩ = f ⟨kind, text, s'⟩)
    (hstring : ∀ x y s, f ⟨.string, x, s⟩ = f ⟨.string, y, s⟩)
    (hnewline : ∀ x y s, f ⟨.newline, x, s⟩ = f ⟨.newline, y, s⟩)
    (hstop : ∀ kind op, c.stops kind op → ∀ x s s', f ⟨kind, x, s⟩ = f ⟨.op, op, s'⟩) :
    f t = f u := by
  rcases h with h | ⟨op, hs, hu⟩
  · exact congr_of_token f h hspan hstring hnewline
  · obtain ⟨k, x, s⟩ := t
    obtain ⟨k', y, s'⟩ := u
    rw [Token.isOp, Bool.and_eq_true, beq_iff_eq, beq_iff_eq] at hu
    obtain ⟨rfl, rfl⟩ := hu
    exact hstop k y hs x s s'

theorem isOp_of_stop {kind : TokenKind} {stop : String} (h : c.stops kind stop) (op text : String)
    (s : Span) : (⟨kind, text, s⟩ : Token).isOp op = false := by
  rcases (c.stops_cases h).1 with rfl | rfl <;> rfl

theorem isOp_of_sees {t u : Token} (h : c.Sees t u) {op : String} (hop : c.Passes op) :
    t.isOp op = u.isOp op :=
  congr_of_sees (·.isOp op) h (fun _ _ _ _ => rfl) (fun _ _ _ => rfl) (fun _ _ _ => rfl)
    fun kind stop hs _ _ _ => (isOp_of_stop hs _ _ _).trans (hop kind stop hs).symm

/-- What is read off a token alike wherever a run stops, and off all line ends alike, is the same for
first tokens that match. -/
theorem congr_of_sees_stops (f : Token → α) {t u : Token} (h : c.Sees t u)
    (hspan : ∀ kind text s s', f ⟨kind, text, s⟩ = f ⟨kind, text, s'⟩)
    (hstring : ∀ x y s, f ⟨.string, x, s⟩ = f ⟨.string, y, s⟩)
    (hend : ∃ a, (∀ x s, f ⟨.newline, x, s⟩ = a ∧ f ⟨.endMarker, x, s⟩ = a) ∧
      ∀ s, f ⟨.op, ")", s⟩ = a ∧ f ⟨.op, ";", s⟩ = a) : f t = f u := by
  obtain ⟨a, hleft, hright⟩ := hend
  refine congr_of_sees f h hspan hstring (fun x y s => (hleft x s).1.trans (hleft y s).1.symm) ?_
  intro kind op hs x s s'
  rcases c.stops_cases hs with ⟨rfl | rfl, rfl | rfl⟩
  · exact (hleft x s).2.trans (hright s').1.symm
  · exact (hleft x s).2.trans (hright s').2.symm
  · exact (hleft x s).1.trans (hright s').1.symm
  · exact (hleft x s).1.trans (hright s').2.symm

theorem isWord_of_sees {t u : Token} (h : c.Sees t u) (word : String) :
    t.isWord word = u.isWord word :=
  congr_of_sees_stops (·.isWord word) h (fun _ _ _ _ => rfl) (fun _ _ _ => rfl)
    ⟨false, fun _ _ => ⟨rfl, rfl⟩, fun _ => ⟨rfl, rfl⟩⟩

theorem isIdentifier_of_sees {t u : Token} (h : c.Sees t u) : t.isIdentifier = u.isIdentifier :=
  congr_of_sees_stops Token.isIdentifier h (fun _ _ _ _ => rfl) (fun _ _ _ => rfl)
    ⟨false, fun _ _ => ⟨rfl, rfl⟩, fun _ => ⟨rfl, rfl⟩⟩

theorem kind_eq_of_sees {t u : Token} (h : c.Sees t u) {kind : TokenKind}
    (hkind : kind.isContent = true) (hop : kind ≠ .op) : (t.kind == kind) = (u.kind == kind) := by
  have hother : ∀ other : TokenKind, other.isContent = false → (other == kind) = false := by
    intro other h
    refine beq_false_of_ne ?_
    rintro rfl
    exact nomatch h.symm.trans hkind
  exact congr_of_sees_stops (·.kind == kind) h (fun _ _ _ _ => rfl) (fun _ _ _ => rfl)
    ⟨false, fun _ _ => ⟨hother _ rfl, hother _ rfl⟩,
      fun _ => ⟨beq_false_of_ne hop.symm, beq_false_of_ne hop.symm⟩⟩

/-- Where the first run sees a token with text, the second one sees that token. -/
theorem token_of_sees {t u : Token} (h : c.Sees t u) (ht : t.kind.isContent = true) :
    c.token t u := by
  rcases h with h | ⟨op, hs, -⟩
  · exact h
  · rcases (c.stops_cases hs).1 with hk | hk <;> rw [hk] at ht <;> exact nomatch ht

/-- Errors may be placed at first tokens. -/
theorem places_of_sees {t u : Token} (h : c.Sees t u) : c.Places t.span u.span := by
  rcases h with h | ⟨op, hs, -⟩
  · exact places_of_token h
  · exact fun _ _ => c.stop hs _ _

section

variable {k : Nat} {ts us : List Token}

theorem sees (h : c.streams k ts us) : c.Sees (current ts) (current us) :=
  (c.first h).imp_right And.right

/-- Inside brackets first tokens match. -/
theorem token_of_inside (h : c.streams (k + 1) ts us) : c.token (current ts) (current us) :=
  (c.first h).resolve_right fun h => nomatch h.1

theorem isOp_of_inside (h : c.streams (k + 1) ts us) (op : String) :
    (current ts).isOp op = (current us).isOp op :=
  isOp_eq (token_of_inside h) op

/-- First tokens are refused alike. -/
theorem refused {Q : α → β → Prop} (h : c.streams k ts us) :
    c.Results Q (.error ⟨refusal (current ts).kind, (current ts).span⟩)
      (.error ⟨refusal (current us).kind, (current us).span⟩) := by
  rcases sees h with ht | ⟨op, hstop, -⟩
  · rw [← c.kind ht]
    exact .error (c.place (isLexical_refusal _) ht)
  · exact .error (c.stop hstop _ _)

end

/-! ## Known tokens -/

theorem isContent_of_isOp {t : Token} {op : String} (h : t.isOp op = true) :
    t.kind.isContent = true := by
  rw [Token.isOp, Bool.and_eq_true, beq_iff_eq] at h
  rw [h.1]
  rfl

theorem isContent_of_isWord {t : Token} {word : String} (h : t.isWord word = true) :
    t.kind.isContent = true := by
  rw [Token.isWord, Bool.and_eq_true, beq_iff_eq] at h
  rw [h.1]
  rfl

theorem kind_text_of_isOp {t : Token} {op : String} (h : t.isOp op = true) :
    t.kind = .op ∧ t.text = op := by
  rwa [Token.isOp, Bool.and_eq_true, beq_iff_eq, beq_iff_eq] at h

theorem isOp_of_kind {t : Token} {op : String} (hk : t.kind = .op) (ht : t.text = op) :
    t.isOp op = true := by
  rw [Token.isOp, hk, ht, beq_self_eq_true, beq_self_eq_true]
  rfl

theorem Passes.of_passed {op : String} (h : (Layout.isBracketText op || op == ";") = false) :
    c.Passes op := by
  refine .of (Bool.eq_false_iff.mpr fun hs => ?_)
  rw [Layout.isStopText, Bool.or_eq_true, beq_iff_eq, beq_iff_eq] at hs
  rcases hs with rfl | rfl <;> cases h

theorem Passes.of_isOpening {op : String} (h : Layout.isOpening op = true) : c.Passes op := by
  refine .of (Bool.eq_false_iff.mpr fun hs => ?_)
  rw [Layout.isStopText, Bool.or_eq_true, beq_iff_eq, beq_iff_eq] at hs
  rcases hs with rfl | rfl <;> cases h

theorem kind_of_isIdentifier {t : Token} (h : t.isIdentifier = true) : t.kind = .name := by
  rw [Token.isIdentifier, Bool.and_eq_true, beq_iff_eq] at h
  exact h.1

theorem isContent_of_isPlain {t : Token} (h : t.isPlain = true) : t.kind.isContent = true := by
  rw [Token.isPlain, Bool.and_eq_true] at h
  exact h.1

/-- Tokens with text that are no operators are no brackets. -/
theorem isPlain_of_kind {t : Token} (hc : t.kind.isContent = true) (hk : t.kind ≠ .op) :
    t.isPlain = true := by
  rw [Token.isPlain, hc, beq_false_of_ne hk]
  rfl

theorem isPlain_of_isWord {t : Token} {word : String} (h : t.isWord word = true) :
    t.isPlain = true := by
  refine isPlain_of_kind (isContent_of_isWord h) ?_
  rw [Token.isWord, Bool.and_eq_true, beq_iff_eq] at h
  rw [h.1]
  exact nofun

theorem isPlain_of_isOp {t : Token} {op : String} (h : t.isOp op = true)
    (hop : Layout.isBracketText op = false) : t.isPlain = true := by
  have hc := isContent_of_isOp h
  rw [Token.isOp, Bool.and_eq_true, beq_iff_eq, beq_iff_eq] at h
  rw [Token.isPlain, hc, h.2, hop, Bool.and_false]
  rfl

variable (c)

/-! ## Judgements -/

/-- Two parsers do alike on streams that match: their values satisfy `Q`, and what they leave
matches, with as many open brackets as before. -/
def Agrees (p : Parser α) (q : Parser β) (Q : α → β → Prop) : Prop :=
  ∀ k, c.Relates (c.streams k) p q fun a b ts us => Q a b ∧ c.streams k ts us

/-- Two parsers do alike on streams that match if `P` holds of the first token. -/
def AgreesWhen (P : Token → Prop) (p : Parser α) (q : Parser β) (Q : α → β → Prop) : Prop :=
  ∀ k, c.Relates (fun ts us => P (current ts) ∧ c.streams k ts us) p q
    fun a b ts us => Q a b ∧ c.streams k ts us

/-- Two parsers do alike on streams that match inside a bracket, which they close. -/
def Closes (p : Parser α) (q : Parser β) (Q : α → β → Prop) : Prop :=
  ∀ k, c.Relates (c.streams (k + 1)) p q fun a b ts us => Q a b ∧ c.streams k ts us

/-- What matches inside a bracket. -/
def inside : Likeness where
  toTokenLikeness := c.toTokenLikeness
  streams k := c.streams (k + 1)
  stops _ _ := False
  stops_cases := False.elim
  stop := False.elim
  first h := .inl ((c.first h).resolve_right fun h => nomatch h.1)
  plain := c.plain
  opening := c.opening
  closing := c.closing
  length_le := c.length_le

variable {c}

/-! ## Two runs that agree -/

namespace Agrees

variable {p : Parser α} {q : Parser β} {Q : α → β → Prop} {R : γ → δ → Prop} {P : Token → Prop}

theorem inside (h : c.Agrees p q Q) : c.inside.Agrees p q Q := fun k => h (k + 1)

theorem pure {a : α} {b : β} (h : Q a b) : c.Agrees (pure a) (pure b) Q :=
  fun _ => Relates.pure fun _ _ hs => ⟨h, hs⟩

theorem bind {f : α → Parser γ} {g : β → Parser δ} (hp : c.Agrees p q Q)
    (hf : ∀ a b, Q a b → c.Agrees (f a) (g b) R) : c.Agrees (p >>= f) (q >>= g) R :=
  fun k => Relates.bind_of (hp k) fun a b h => hf a b h k

theorem bind_eq {p q : Parser α} {f : α → Parser γ} {g : α → Parser δ} (hp : c.Agrees p q Eq)
    (hf : ∀ a, c.Agrees (f a) (g a) R) : c.Agrees (p >>= f) (q >>= g) R :=
  fun k => Relates.bind_eq (hp k) fun a => hf a k

theorem mono {Q' : α → β → Prop} (hp : c.Agrees p q Q) (h : ∀ a b, Q a b → Q' a b) :
    c.Agrees p q Q' :=
  fun k => Relates.mono (hp k) (fun _ _ hs => hs) fun _ _ _ _ hr => ⟨h _ _ hr.1, hr.2⟩

theorem ite {b : Prop} [Decidable b] {p' : Parser α} {q' : Parser β} (hp : c.Agrees p q Q)
    (hp' : c.Agrees p' q' Q) : c.Agrees (if b then p else p') (if b then q else q') Q :=
  fun k => Relates.ite (hp k) (hp' k)

/-! ## Failing -/

theorem failAt {here there : Span} {cause : Cause} (hc : isLexical cause = false)
    (h : c.Places here there) : c.Agrees (failAt here cause) (failAt there cause) Q :=
  fun _ => Relates.failAt hc h

theorem fail {cause : Cause} (hc : isLexical cause = false) :
    c.Agrees (fail cause) (fail cause) Q :=
  fun _ _ _ _ _ hs _ => .error (places_of_sees (sees hs) cause hc)

theorem unexpected : c.Agrees (Parser.unexpected) (Parser.unexpected) Q := by
  intro k ts us n m hs hn
  rw [outcome_unexpected, outcome_unexpected]
  exact refused hs

theorem ofExcept {r : Except SyntaxError α} {r' : Except SyntaxError β} (h : c.Results Q r r') :
    c.Agrees (ofExcept r) (ofExcept r') Q := fun _ => Relates.ofExcept h

/-! ## Looking -/

theorem peek : c.Agrees peek peek c.Sees := fun _ _ _ _ _ hs _ => .ok ⟨sees hs, hs⟩

/-- After a look at the first token it is known. -/
theorem peek_bind {f : Token → Parser γ} {g : Token → Parser δ}
    (h : ∀ t u, c.Sees t u → c.AgreesWhen (· = t) (f t) (g u) R) :
    c.Agrees (Parser.peek >>= f) (Parser.peek >>= g) R :=
  fun k ts us n m hs hn => h (current ts) (current us) (sees hs) k ts us n m ⟨rfl, hs⟩ hn

/-- Looking at what is read off the current token alike in both runs. -/
theorem look {f : Token → α} (h : ∀ t u, c.Sees t u → f t = f u) :
    c.Agrees (do return f (← Parser.peek)) (do return f (← Parser.peek)) Eq :=
  bind peek fun t u ht => pure (h t u ht)

theorem atOp {op : String} (hop : c.Passes op) :
    c.Agrees (atOp op) (atOp op) Eq :=
  look fun _ _ h => isOp_of_sees h hop

theorem atOp_inside (op : String) : c.inside.Agrees (Parser.atOp op) (Parser.atOp op) Eq :=
  atOp fun _ _ hs => hs.elim

theorem atWord (word : String) : c.Agrees (atWord word) (atWord word) Eq :=
  look fun _ _ h => isWord_of_sees h word

theorem atKind {kind : TokenKind}
    (hkind : ∀ k op, c.stops k op → (k == kind) = (TokenKind.op == kind)) :
    c.Agrees (atKind kind) (atKind kind) Eq :=
  look fun _ _ h => congr_of_sees (·.kind == kind) h (fun _ _ _ _ => rfl) (fun _ _ _ => rfl)
    (fun _ _ _ => rfl) fun k op hs _ _ _ => hkind k op hs

theorem startsExpression : c.Agrees startsExpression startsExpression Eq :=
  look fun _ _ h => congr_of_sees_stops beginsExpression h (fun _ _ _ _ => rfl) (fun _ _ _ => rfl)
    ⟨false, fun _ _ => ⟨rfl, rfl⟩, fun _ => ⟨rfl, rfl⟩⟩

end Agrees

namespace AgreesWhen

variable {p : Parser α} {q : Parser β} {Q : α → β → Prop} {R : γ → δ → Prop} {P : Token → Prop}

theorem inside (h : c.AgreesWhen P p q Q) : c.inside.AgreesWhen P p q Q := fun k => h (k + 1)

/-- What is true of all streams is true of those of whose first token something is known. -/
theorem of (h : c.Agrees p q Q) : c.AgreesWhen P p q Q :=
  fun k => Relates.mono (h k) (fun _ _ hs => hs.2) fun _ _ _ _ hr => hr

theorem mono {P' : Token → Prop} (hp : c.AgreesWhen P p q Q) (h : ∀ t, P' t → P t) :
    c.AgreesWhen P' p q Q :=
  fun k => Relates.mono (hp k) (fun _ _ hs => ⟨h _ hs.1, hs.2⟩) fun _ _ _ _ hr => hr

/-- A token that is known to have text and to be no bracket is taken. -/
theorem advance_bind {f : Token → Parser γ} {g : Token → Parser δ}
    (hP : ∀ t, P t → t.isPlain = true)
    (h : ∀ t u, c.token t u → P t → c.Agrees (f t) (g u) R) :
    c.AgreesWhen P (advance >>= f) (advance >>= g) R := by
  intro k ts us n m hs hn
  have hplain := hP _ hs.1
  have ht := token_of_sees (sees hs.2) (isContent_of_isPlain hplain)
  exact h (current ts) (current us) ht hs.1 k _ _ n m (c.plain hs.2 hplain) hn

/-- An opening bracket is taken, and what follows closes it. -/
theorem opening_bind {f : Token → Parser γ} {g : Token → Parser δ}
    (hP : ∀ t, P t → t.kind = .op ∧ Layout.isOpening t.text = true)
    (h : ∀ t u, c.token t u → P t → c.Closes (f t) (g u) R) :
    c.AgreesWhen P (advance >>= f) (advance >>= g) R := by
  intro k ts us n m hs hn
  obtain ⟨hkind, hopen⟩ := hP _ hs.1
  have ht := token_of_sees (sees hs.2) (by rw [hkind]; rfl)
  exact h (current ts) (current us) ht hs.1 k _ _ n m (c.opening hs.2 hkind hopen) hn

/-- The token after one with text that is no bracket is looked at. -/
theorem peekNext_bind {f : Token → Parser γ} {g : Token → Parser δ}
    (hP : ∀ t, P t → t.isPlain = true)
    (h : ∀ t u, c.Sees t u → c.AgreesWhen P (f t) (g u) R) :
    c.AgreesWhen P (peekNext >>= f) (peekNext >>= g) R :=
  fun k ts us n m hs hn => h _ _ (sees (c.plain hs.2 (hP _ hs.1))) k ts us n m hs hn

theorem nested {cause : Cause} (hc : cause.isNesting = true) (hp : c.AgreesWhen P p q Q) :
    c.AgreesWhen P (nested cause p) (nested cause q) Q :=
  fun k => Relates.nested hc (fun _ _ hs => places_of_sees (sees hs.2)) (hp k)

/-- A test of the first token tells something of it. -/
theorem ite_look {f : Token → Bool} (h : ∀ t u, c.Sees t u → f t = f u)
    {p' : Parser α} {q' : Parser β} (hp : c.AgreesWhen (fun t => f t = true) p q Q)
    (hp' : c.Agrees p' q' Q) :
    c.Agrees (do if f (← Parser.peek) then p else p') (do if f (← Parser.peek) then q else q')
      Q := by
  refine Agrees.peek_bind fun t u ht k ts us n m hs hn => ?_
  obtain ⟨rfl, hs⟩ := hs
  rw [h _ u ht]
  split
  · next hf => exact hp k ts us n m ⟨(h _ u ht).trans hf, hs⟩ hn
  · exact hp' k ts us n m hs hn

end AgreesWhen

namespace Agrees

variable {p : Parser α} {q : Parser β} {Q : α → β → Prop} {R : γ → δ → Prop} {P : Token → Prop}

/-- Where the current token is an operator, it has text. -/
theorem ifAtOp {op : String} (hop : c.Passes op) {p' : Parser α} {q' : Parser β}
    (hp : c.AgreesWhen (fun t => t.isOp op = true) p q Q) (hp' : c.Agrees p' q' Q) :
    c.Agrees (do if ← Parser.atOp op then p else p') (do if ← Parser.atOp op then q else q') Q :=
  AgreesWhen.ite_look (fun _ _ h => isOp_of_sees h hop) hp hp'

theorem startsClause : c.Agrees startsClause startsClause Eq := by
  refine bind_eq (atWord _) fun _ => ite (pure rfl) ?_
  refine AgreesWhen.ite_look (fun _ _ h => isWord_of_sees h "async") ?_ (pure rfl)
  exact AgreesWhen.peekNext_bind (fun _ => isPlain_of_isWord) fun t u h =>
    .of (pure (isWord_of_sees h _))

/-! ## Taking -/

/-- Tokens with text that are no brackets are taken if they satisfy a test. -/
theorem eatIf {test : Token → Bool} (h : ∀ t u, c.Sees t u → test t = test u)
    (hplain : ∀ t, test t = true → t.isPlain = true) :
    c.Agrees (eatIf test) (eatIf test) Eq := by
  refine AgreesWhen.ite_look h ?_ (pure rfl)
  exact AgreesWhen.advance_bind hplain fun _ _ _ _ => pure rfl

theorem eatOp {op : String} (hop : (Layout.isBracketText op || op == ";") = false) :
    c.Agrees (eatOp op) (eatOp op) Eq :=
  eatIf (fun _ _ h => isOp_of_sees h (.of_passed hop)) fun _ h =>
    isPlain_of_isOp h (Bool.or_eq_false_iff.mp hop).1

theorem eatWord (word : String) : c.Agrees (eatWord word) (eatWord word) Eq :=
  eatIf (fun _ _ h => isWord_of_sees h word) fun _ => isPlain_of_isWord

theorem expect {test : Token → Bool} (h : ∀ t u, c.Sees t u → test t = test u)
    (hplain : ∀ t, test t = true → t.isPlain = true) :
    c.Agrees (expect test) (expect test) fun t u => c.token t u ∧ test t = true := by
  intro k ts us n m hs hn
  rw [outcome_expect, outcome_expect, ← h _ _ (sees hs)]
  split
  · next htest =>
    have ht := token_of_sees (sees hs) (isContent_of_isPlain (hplain _ htest))
    exact .ok ⟨⟨ht, htest⟩, c.plain hs (hplain _ htest)⟩
  · exact refused hs

theorem expectOp {op : String} (hop : (Layout.isBracketText op || op == ";") = false) :
    c.Agrees (expectOp op) (expectOp op) Eq :=
  bind (expect (fun _ _ h => isOp_of_sees h (.of_passed hop)) fun _ h =>
    isPlain_of_isOp h (Bool.or_eq_false_iff.mp hop).1) fun _ _ _ => pure rfl

theorem expectWord (word : String) : c.Agrees (expectWord word) (expectWord word) Eq :=
  bind (expect (fun _ _ h => isWord_of_sees h word) fun _ => isPlain_of_isWord) fun _ _ _ =>
    pure rfl

theorem identifier : c.Agrees identifier identifier Eq := by
  have hplain : ∀ t : Token, t.isIdentifier = true → t.isPlain = true := by
    intro t h
    have hkind := kind_of_isIdentifier h
    exact isPlain_of_kind (by rw [hkind]; rfl) (by rw [hkind]; exact nofun)
  refine bind (expect (fun _ _ => isIdentifier_of_sees) hplain) fun t u h => pure ?_
  have hkind := kind_of_isIdentifier h.2
  rw [text_eq h.1 (by rw [hkind]; exact nofun) (by rw [hkind]; exact nofun)]

/-! ## Combining -/

theorem nested {cause : Cause} (hc : cause.isNesting = true) (hp : c.Agrees p q Q) :
    c.Agrees (nested cause p) (nested cause q) Q :=
  fun k => Relates.nested hc (fun _ _ hs => places_of_sees (sees hs)) (hp k)

theorem optional_eq {p q : Parser α} {test test' : Parser Bool} (ht : c.Agrees test test' Eq)
    (hp : c.Agrees p q Eq) : c.Agrees (Parser.optional test p) (Parser.optional test' q) Eq :=
  bind_eq ht fun _ => ite (bind_eq hp fun _ => pure rfl) (pure rfl)

/-- A token with text is taken if it is of a kind other than that of brackets. -/
theorem optionalKind {kind : TokenKind} (hkind : kind.isContent = true) (hop : kind ≠ .op) :
    c.Agrees (Parser.optional (Parser.atKind kind) Parser.advance)
      (Parser.optional (Parser.atKind kind) Parser.advance)
      (Option.Rel fun t u => c.token t u ∧ t.kind = kind) := by
  refine AgreesWhen.ite_look (f := (·.kind == kind)) (fun _ _ h => kind_eq_of_sees h hkind hop) ?_
    (pure .none)
  refine AgreesWhen.advance_bind (fun t ht => ?_) fun t u ht hk => pure (.some ⟨ht, ?_⟩)
  · have ht := beq_iff_eq.mp ht
    exact isPlain_of_kind (by rw [ht, hkind]) (by rw [ht]; exact hop)
  · exact beq_iff_eq.mp hk

theorem many {item : Parser (Option α)} {item' : Parser (Option β)}
    (h : c.Agrees item item' (Option.Rel Q)) :
    c.Agrees (many item) (many item') (List.Forall₂ Q) := by
  refine fun k => Relates.many (fun _ _ => c.length_le)
    (Relates.mono (h k) (fun _ _ hs => hs) ?_)
  rintro _ _ ts us ⟨hab, hs⟩
  cases hab with
  | none => exact hs
  | some hab => exact ⟨hab, hs⟩

theorem many_eq {item item' : Parser (Option α)} (h : c.Agrees item item' Eq) :
    c.Agrees (Parser.many item) (Parser.many item') Eq := by
  refine (many (h.mono fun a b hab => ?_)).mono fun as bs has => List.forall₂_eq_eq_eq ▸ has
  subst hab
  cases a with
  | none => exact .none
  | some a => exact .some rfl

theorem sepBy {separator separator' : Parser Bool} {item item' : Parser α}
    (hs : c.Agrees separator separator' Eq) (h : c.Agrees item item' Eq) :
    c.Agrees (sepBy separator item) (sepBy separator' item') Eq :=
  bind_eq h fun _ => bind_eq (many_eq (optional_eq hs h)) fun _ => pure rfl

theorem iterate_eq {step step' : σ → Parser (σ × Bool)} {s : σ}
    (h : ∀ s, c.Agrees (step s) (step' s) Eq) :
    c.Agrees (Parser.iterate step s) (Parser.iterate step' s) Eq := by
  refine fun k => Relates.mono (Relates.iterate (I := fun s s' ts us => s = s' ∧ c.streams k ts us)
    (fun _ _ hs => c.length_le hs.2) fun s s' ts us n m hs hn => ?_)
    (fun _ _ hs => ⟨rfl, hs⟩) fun _ _ _ _ hr => hr
  obtain ⟨rfl, hs⟩ := hs
  exact (h s k ts us n m hs hn).mono fun r r' hr => hr.1 ▸ ⟨rfl, rfl, hr.2⟩

/-- Reading for each entry of two lists in turn. -/
theorem mapM_eq {f : γ → Parser α} {g : δ → Parser α} {S : γ → δ → Prop} {as : List γ}
    {bs : List δ} (hs : List.Forall₂ S as bs) (h : ∀ a b, S a b → c.Agrees (f a) (g b) Eq) :
    c.Agrees (as.mapM f) (bs.mapM g) Eq :=
  fun k => Relates.mapM_eq hs fun a b hab => h a b hab k

end Agrees

/-! ## Brackets -/

/-- An operator that is seen alike is expected alike.  Taking it may change how many brackets are
open. -/
theorem expectOp_relates {op : String} {j k : Nat}
    (hop : ∀ ts us, c.streams j ts us → (current ts).isOp op = (current us).isOp op)
    (hdrop : ∀ ts us, c.streams j ts us → (current ts).isOp op = true →
      c.streams k (dropCurrent ts) (dropCurrent us)) :
    c.Relates (c.streams j) (expectOp op) (expectOp op)
      fun a b ts us => a = b ∧ c.streams k ts us := by
  intro ts us n m hs hn
  have hresult : c.Results (fun r r' => c.streams k r.2 r'.2)
      (outcome (expect (·.isOp op)) n ts) (outcome (expect (·.isOp op)) m us) := by
    rw [outcome_expect, outcome_expect, ← hop ts us hs]
    split
    · next htest => exact .ok (hdrop ts us hs htest)
    · exact refused hs
  exact hresult.bind fun r r' hr => .ok ⟨rfl, hr⟩

namespace Closes

variable {p : Parser α} {q : Parser β} {Q : α → β → Prop} {R : γ → δ → Prop}

theorem inside (h : c.Closes p q Q) : c.inside.Closes p q Q := fun k => h (k + 1)

/-- First two parsers inside the bracket, and then two others that close it. -/
theorem bind_eq {p q : Parser α} {f : α → Parser γ} {g : α → Parser δ}
    (hp : c.inside.Agrees p q Eq) (hf : ∀ a, c.Closes (f a) (g a) R) :
    c.Closes (p >>= f) (q >>= g) R :=
  fun k => Relates.bind_eq (hp k) fun a => hf a k

/-- First two parsers that close the bracket, and then two others. -/
theorem then_eq {p q : Parser α} {f : α → Parser γ} {g : α → Parser δ} (hp : c.Closes p q Eq)
    (hf : ∀ a, c.Agrees (f a) (g a) R) : c.Closes (p >>= f) (q >>= g) R :=
  fun k => Relates.bind_eq (hp k) fun a => hf a k

theorem ite {b : Prop} [Decidable b] {p' : Parser α} {q' : Parser β} (hp : c.Closes p q Q)
    (hp' : c.Closes p' q' Q) : c.Closes (if b then p else p') (if b then q else q') Q :=
  fun k => Relates.ite (hp k) (hp' k)

/-- The closing bracket is taken if it comes first. -/
theorem ifEatOp {op : String} (hop : Layout.isClosing op = true) {p' : Parser α} {q' : Parser β}
    (hp : c.Agrees p q Q) (hp' : c.Closes p' q' Q) :
    c.Closes (do if ← eatOp op then p else p') (do if ← eatOp op then q else q') Q := by
  refine fun k => Relates.ifEatIf (fun ts us hs => isOp_of_inside hs op) (fun ts us hs ht => ?_)
    (hp k) (hp' k)
  obtain ⟨hkind, htext⟩ := kind_text_of_isOp ht
  exact c.closing hs hkind (htext ▸ hop)

theorem expectOp {op : String} (hop : Layout.isClosing op = true) :
    c.Closes (expectOp op) (expectOp op) Eq := by
  refine fun k => expectOp_relates (fun _ _ hs => isOp_of_inside hs op) fun ts us hs ht => ?_
  obtain ⟨hkind, htext⟩ := kind_text_of_isOp ht
  exact c.closing hs hkind (htext ▸ hop)

end Closes

theorem opens_expectOp {op : String} (hop : Layout.isOpening op = true) (k : Nat) :
    c.Relates (c.streams k) (expectOp op) (expectOp op)
      fun a b ts us => a = b ∧ c.streams (k + 1) ts us := by
  refine expectOp_relates (fun _ _ hs => isOp_of_sees (sees hs) (.of_isOpening hop))
    fun ts us hs ht => ?_
  obtain ⟨hkind, htext⟩ := kind_text_of_isOp ht
  exact c.opening hs hkind (htext ▸ hop)

namespace Agrees

variable {p : Parser α} {q : Parser β} {Q : α → β → Prop}

/-- An opening bracket is taken if it comes first, and what follows closes it. -/
theorem ifEatOpening {op : String} (hop : Layout.isOpening op = true) {p' : Parser α}
    {q' : Parser β} (hp : c.Closes p q Q) (hp' : c.Agrees p' q' Q) :
    c.Agrees (do if ← Parser.eatOp op then p else p') (do if ← Parser.eatOp op then q else q')
      Q := by
  refine fun k => Relates.ifEatIf (fun ts us hs => ?_) (fun ts us hs ht => ?_) (hp k) (hp' k)
  · exact isOp_of_sees (sees hs) (.of_isOpening hop)
  · obtain ⟨hkind, htext⟩ := kind_text_of_isOp ht
    exact c.opening hs hkind (htext ▸ hop)

end Agrees

end Likeness

/-! ## Streams that match to their ends -/

namespace TokenLikeness

theorem forall₂_dropCurrent {token : Token → Token → Prop} {ts us : List Token}
    (h : List.Forall₂ token ts us) : List.Forall₂ token (dropCurrent ts) (dropCurrent us) := by
  obtain _ | ⟨h, _ | ⟨h', hs⟩⟩ := h
  · exact .nil
  · exact .cons h .nil
  · exact .cons h' hs

/-- Streams that match in the same way whatever the number of open brackets. -/
def steady (c : TokenLikeness) {S : Streams} (hS : Lasts c.token S) : Likeness where
  toTokenLikeness := c
  streams _ := S
  stops _ _ := False
  stops_cases := False.elim
  stop := False.elim
  first h := .inl (hS.first h)
  plain h ht := hS.drop h (Likeness.isContent_of_isPlain ht)
  opening h hk _ := hS.drop h (by rw [hk]; rfl)
  closing h hk _ := hS.drop h (by rw [hk]; rfl)
  length_le := hS.length_le

theorem lasts_forall₂ {token : Token → Token → Prop} (eof : token (current []) (current [])) :
    Lasts token (List.Forall₂ token) := by
  have hcurrent : ∀ {ts us}, List.Forall₂ token ts us → token (current ts) (current us) := by
    rintro _ _ (_ | ⟨h, _⟩)
    · exact eof
    · exact h
  exact ⟨hcurrent, fun hs _ => forall₂_dropCurrent hs, fun hs => Nat.le_of_eq hs.length_eq⟩

/-- Streams that match token by token, to their ends. -/
def throughout (c : TokenLikeness) (eof : c.token (current []) (current [])) : Likeness :=
  c.steady (lasts_forall₂ eof)

end TokenLikeness

end Parser

end PythonSyntax
