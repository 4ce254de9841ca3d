import PythonSyntax.Proofs.Agreement.Verbatim
import PythonSyntax.Proofs.Parser.Statement

/-
Every rule of the grammar comes to an end, and goes forward.

A rule follows references to other rules as many levels deep as it is told.  From the number of
levels on that a program of the same tokens gets, more of them change nothing, and none is wanting:
so the levels are no bound on what is parsed, but a measure of how long it takes.  A run of a rule
keeps the tokens; it ends as deep as it began, and not behind the end marker, also after an error;
and if it accepts, it has moved the position on.

The same is said of the repetitions on which a caller could hang, and of the expressions in a string
literal: these are shorter than the literal, and nothing else of the rules matters to it.
-/

namespace PythonSyntax.Parser

open Likeness TokenLikeness

variable {α β : Type} {spell : List Char → List Char} {rule rule' : Rule → Parser Expr}
  {limit : Nat} {c d : Cursor} {ts us : List Token}

/-! ## Ending and advancing -/

/-- What a run comes to: a value and the cursor behind it, or an error. -/
def left (r : Except SyntaxError α × Cursor) : Except SyntaxError (α × Cursor) :=
  r.1.map fun a => (a, r.2)

/-- How a run ends that began at a cursor, with a value or an error: not for want of levels, as deep
as it began, in the same tokens, not before the place where it began and not behind the last
token. -/
structure Lands (c : Cursor) (r : Except SyntaxError α × Cursor) : Prop where
  fueled : Fueled r.1
  depth : r.2.depth = c.depth
  tokens : r.2.tokens = c.tokens
  forward : c.position ≤ r.2.position
  inside : r.2.position < r.2.tokens.length

/-- A parser that is told how many levels of references to follow comes to an end: from the levels
on that a program of the tokens ahead gets every run ends so, and all come to the same. -/
structure Halts (p : Nat → Parser α) (limit : Nat) (c : Cursor) : Prop where
  lands {fuel : Nat} : parseFuel c.ahead ≤ fuel → Lands c ((p fuel).exec limit c)
  same {fuel : Nat} : parseFuel c.ahead ≤ fuel →
    left ((p fuel).exec limit c) = left ((p (parseFuel c.ahead)).exec limit c)

/-- A parser that comes to an end has, if it accepts, moved the position on. -/
structure Advances (p : Nat → Parser α) (limit : Nat) (c : Cursor) : Prop extends Halts p limit c
    where
  takes {fuel : Nat} {a : α} : parseFuel c.ahead ≤ fuel → ((p fuel).exec limit c).1 = .ok a →
    c.position < ((p fuel).exec limit c).2.position

/-- Two cursors in the same tokens and as deep are the same if the same is ahead of them. -/
theorem cursor_ext (htokens : c.tokens = d.tokens) (hahead : c.ahead = d.ahead)
    (hdepth : c.depth = d.depth) : c = d := by
  obtain ⟨taken, ahead, depth⟩ := c
  obtain ⟨taken', ahead', depth'⟩ := d
  cases hahead
  cases hdepth
  obtain rfl : taken = taken' := List.reverse_injective (List.append_cancel_right htokens)
  rfl

/-- A parser that goes forward lands. -/
theorem Reads.lands {p : Parser α} {Q : α → List Token → Prop} (h : Reads c.ahead p Q)
    (hc : Readable c.ahead) (limit : Nat) : Lands c (p.exec limit c) := by
  have hgoes := h hc limit c rfl
  have hfollows := p.follows limit c
  have hlength := congrArg List.length hfollows.tokens
  have hle := hgoes.suffix.length_le
  have hpos := List.length_pos_iff.mpr hgoes.readable.ne_nil
  rw [Cursor.length_tokens, Cursor.length_tokens] at hlength
  refine ⟨hgoes.fueled, hfollows.depth, hfollows.tokens, by omega, ?_⟩
  rw [Cursor.length_tokens]
  omega

/-- A parser that takes a token moves the position on. -/
theorem Reads.takes {p : Parser α} {Q : α → List Token → Prop} (h : Reads c.ahead p Q)
    (hc : Readable c.ahead) (hQ : ∀ a us, Q a us → weight us < weight c.ahead) {a : α}
    (ha : (p.exec limit c).1 = .ok a) : c.position < (p.exec limit c).2.position := by
  have hgoes := h hc limit c rfl
  have hlength := congrArg List.length (p.follows limit c).tokens
  have hlt := length_lt_of_suffix hgoes.suffix (hQ _ _ (hgoes.holds ha))
  rw [Cursor.length_tokens, Cursor.length_tokens] at hlength
  omega

/-! ## More levels -/

/-- What is the same in two runs on the same stream under the same limit. -/
def identical : Likeness := (verbatim True False).throughout same_eof

/-- Levels that suffice may be exceeded. -/
def Steady (p : Nat → Parser α) : Prop :=
  ∀ fuel fuel', fuel ≤ fuel' → ∀ n ts, Fueled (outcome (p fuel) n ts) →
    outcome (p fuel') n ts = outcome (p fuel) n ts

theorem eq_of_forall₂_same (h : List.Forall₂ (Same True) ts us) : ts = us :=
  List.forall₂_eq_eq_eq ▸ h.imp fun _ _ ht => ht.eq trivial

theorem forall₂_same_refl (ts : List Token) : List.Forall₂ (Same True) ts ts :=
  List.forall₂_same.mpr fun _ _ => ⟨rfl, .inl rfl, fun _ => rfl⟩

/-- A result that is not for want of fuel is also that of a run that matches. -/
theorem eq_of_results {Q : α → α → Prop} (hQ : ∀ a b, Q a b → a = b) {r r' : Except SyntaxError α}
    (h : (verbatim True False).Results Q r r') (hr : Fueled r) : r' = r := by
  cases h with
  | ok hab => rw [hQ _ _ hab]
  | @error e e' he =>
    obtain ⟨cause, span⟩ := e
    obtain ⟨cause', span'⟩ := e'
    obtain ⟨rfl, hspan⟩ := he
    obtain rfl : span = span' := hspan trivial
    rfl
  | @excused e _ he =>
    rcases he with ⟨hfalse, -⟩ | hout | hexact
    · exact hfalse.elim
    · exact absurd hout (hr e rfl)
    · exact absurd trivial hexact

/-- Parsers that agree whatever the levels are steady. -/
theorem Steady.of_agrees {p : Nat → Parser α}
    (h : ∀ fuel fuel', fuel ≤ fuel' → identical.Agrees (p fuel) (p fuel') Eq) :
    Steady p := by
  intro fuel fuel' hle n ts hfueled
  have hresults := h fuel fuel' hle 0 ts ts n n (forall₂_same_refl ts) ⟨Nat.le_refl _, .inr rfl⟩
  refine eq_of_results ?_ hresults hfueled
  rintro ⟨a, us⟩ ⟨_, vs⟩ ⟨rfl, hs⟩
  exact congrArg (Prod.mk a) (eq_of_forall₂_same hs)

/-- Runs of parsers of which the same is made, and that land, come to the same. -/
theorem left_eq {p q : Parser α} (hp : Lands c (p.exec limit c)) (hq : Lands c (q.exec limit c))
    (h : outcome p ⟨limit, c.depth⟩ c.view = outcome q ⟨limit, c.depth⟩ c.view) :
    left (p.exec limit c) = left (q.exec limit c) := by
  rw [outcome, outcome, (p.follows limit c).agrees, (q.follows limit c).agrees] at h
  have hseen : ∀ {r : Except SyntaxError α × Cursor}, Lands c r → r.2.view = r.2.ahead := by
    intro r hr
    have hinside := hr.inside
    rw [Cursor.length_tokens] at hinside
    exact view_eq (List.length_pos_iff.mp (by omega))
  have hview := hseen hp
  have hview' := hseen hq
  have htokens := hp.tokens.trans hq.tokens.symm
  have hdepth := hp.depth.trans hq.depth.symm
  unfold left
  generalize p.exec limit c = r at h hview htokens hdepth ⊢
  generalize q.exec limit c = r' at h hview' htokens hdepth ⊢
  obtain ⟨e | a, d⟩ := r <;> obtain ⟨e' | a', d'⟩ := r'
  · exact congrArg Except.error (Except.error.inj h)
  · cases h
  · cases h
  · obtain ⟨rfl, hd⟩ := Prod.mk.inj (Except.ok.inj h)
    have hcursor : d = d' := cursor_ext htokens (hview.symm.trans (hd.trans hview')) hdepth
    rw [hcursor]

/-- A steady parser that goes forward comes to an end. -/
theorem Steady.halts {p : Nat → Parser α} {Q : α → List Token → Prop} (h : Steady p)
    (hc : Readable c.ahead)
    (hp : ∀ fuel, 32 * weight c.ahead + 32 ≤ fuel → Reads c.ahead (p fuel) Q) (limit : Nat) :
    Halts p limit c := by
  have hreads : ∀ {fuel}, parseFuel c.ahead ≤ fuel → Reads c.ahead (p fuel) Q := by
    intro fuel hle
    have hfuel := parseFuel_eq c.ahead
    exact hp fuel (by omega)
  refine ⟨fun hle => (hreads hle).lands hc limit, fun {fuel} hle => ?_⟩
  refine left_eq ((hreads hle).lands hc limit) ((hreads (Nat.le_refl _)).lands hc limit) ?_
  rw [view_eq hc.ne_nil]
  exact h _ _ hle _ _ ((hreads (Nat.le_refl _)).fueled hc _)

/-- A steady parser that takes a token advances. -/
theorem Steady.advances {p : Nat → Parser α} {Q : α → List Token → Prop} (h : Steady p)
    (hc : Readable c.ahead)
    (hp : ∀ fuel, 32 * weight c.ahead + 32 ≤ fuel → Reads c.ahead (p fuel) Q)
    (hQ : ∀ a us, Q a us → weight us < weight c.ahead) (limit : Nat) : Advances p limit c := by
  refine ⟨h.halts hc hp limit, fun {fuel a} hle ha => ?_⟩
  have hfuel := parseFuel_eq c.ahead
  exact (hp fuel (by omega)).takes hc hQ ha

/-! ## Rules -/

section

variable {expr expr' : Rule → Parser Expr} {stmt stmt' : StmtRule → Parser (List Stmt)}

/-- What stands in brackets agrees also where it does not begin with a bracket. -/
theorem bracketed_identical (h : identical.Rules rule rule') :
    identical.Agrees (bracketed rule) (bracketed rule') Eq := by
  intro k ts us n m hs hn
  obtain rfl := eq_of_forall₂_same hs
  have hinside : identical.Agrees
      (if (current ts).text = "(" then parenthesized rule
        else if (current ts).text = "[" then listDisplay rule else rule .dictOrSet)
      (if (current ts).text = "(" then parenthesized rule'
        else if (current ts).text = "[" then listDisplay rule' else rule' .dictOrSet) Eq :=
    fun k => Relates.ite (h.parenthesized k) (Relates.ite (h.listDisplay k) (h.dictOrSet k))
  exact hinside k _ _ n m (forall₂_same_refl (dropCurrent ts)) hn

theorem rules_identical {fuel fuel' : Nat} (hle : fuel ≤ fuel') :
    identical.Rules (Rule.run spell fuel) (Rule.run spell fuel') :=
  rules_same (lasts_forall₂ same_eof) hle

/-- A parser in terms of the rules of expressions is steady if it agrees whenever the rules do. -/
theorem Steady.of_rules {f : (Rule → Parser Expr) → Parser α}
    (h : ∀ {rule rule'}, identical.Rules rule rule' → identical.Agrees (f rule) (f rule') Eq)
    (spell : List Char → List Char) : Steady fun fuel => f (Rule.run spell fuel) :=
  Steady.of_agrees fun _ _ hle => h (rules_identical hle)

theorem steady_rule (spell : List Char → List Char) (r : Rule) :
    Steady fun fuel => Rule.run spell fuel r := by
  refine Steady.of_agrees fun fuel fuel' hle => ?_
  have hrules : identical.Rules (Rule.run spell fuel) (Rule.run spell fuel') := rules_identical hle
  cases r with
  | bracketed =>
    cases fuel with
    | zero => exact fun _ _ _ _ _ _ _ => .excused identical.fuel
    | succ fuel =>
      cases fuel' with
      | zero => exact absurd hle (Nat.not_succ_le_zero fuel)
      | succ fuel' => exact bracketed_identical (rules_identical (Nat.le_of_succ_le_succ hle))
  | dictOrSet => exact fun k => hrules.dictOrSet k
  | _ => exact hrules.below rfl

/-- What is the same in two runs on the same blocks. -/
def identicalBlocks : BlockLikeness := (verbatim True False).throughoutBlocks same_eof

theorem stmtRules_identical {fuel fuel' : Nat} (hle : fuel ≤ fuel') :
    identicalBlocks.StmtRules (StmtRule.run spell fuel) (StmtRule.run spell fuel') :=
  BlockLikeness.stmtRules_run (b := identicalBlocks) (fun hle _ => rules_identical hle) hle

/-- A conditional agrees also where it does not begin with a word. -/
theorem conditional_identical (he : ∀ d, (identicalBlocks.inner d).Rules expr expr')
    (h : identicalBlocks.StmtRules stmt stmt') :
    identical.Agrees (conditional expr stmt) (conditional expr' stmt') Eq := by
  intro k ts us n m hs hn
  obtain rfl := eq_of_forall₂_same hs
  exact BlockLikeness.StmtRules.conditionalRest (d := 0) he h _ _ n m
    (forall₂_same_refl (dropCurrent ts)) hn

/-- A parser of statements in terms of the rules is steady if it agrees whenever the rules do. -/
theorem Steady.of_stmtRules {f : (Rule → Parser Expr) → (StmtRule → Parser (List Stmt)) → Parser α}
    (h : ∀ {expr expr' stmt stmt'}, (∀ d, (identicalBlocks.inner d).Rules expr expr') →
      identicalBlocks.StmtRules stmt stmt' →
        identicalBlocks.Ends 0 (f expr stmt) (f expr' stmt') Eq)
    (spell : List Char → List Char) :
    Steady fun fuel => f (Rule.run spell fuel) (StmtRule.run spell fuel) :=
  Steady.of_agrees fun _ _ hle _ => h (fun _ => rules_identical hle) (stmtRules_identical hle)

theorem steady_stmtRule (spell : List Char → List Char) (r : StmtRule) :
    Steady fun fuel => StmtRule.run spell fuel r := by
  refine Steady.of_agrees fun fuel fuel' hle => ?_
  cases fuel with
  | zero => exact fun _ _ _ _ _ _ _ => .excused identical.fuel
  | succ fuel =>
    cases fuel' with
    | zero => exact absurd hle (Nat.not_succ_le_zero fuel)
    | succ fuel' =>
      have hle := Nat.le_of_succ_le_succ hle
      have he : ∀ d, (identicalBlocks.inner d).Rules (Rule.run spell fuel) (Rule.run spell fuel') :=
        fun _ => rules_identical hle
      have hs : identicalBlocks.StmtRules (StmtRule.run spell fuel) (StmtRule.run spell fuel') :=
        stmtRules_identical hle
      cases r with
      | statement => exact fun _ => BlockLikeness.StmtRules.statement (d := 0) he hs
      | suite => exact fun _ => BlockLikeness.StmtRules.suite (d := 0) he hs
      | conditional => exact .bind_eq (conditional_identical he hs) fun _ => .pure rfl

end

/-! ## Literals -/

/-- Two parsers have the same outcome on every stream, with a value of which `Q` holds if any. -/
def Alike (p q : Parser α) (Q : α → Prop) : Prop :=
  ∀ n ts, outcome p n ts = outcome q n ts ∧ ∀ a us, outcome p n ts = .ok (a, us) → Q a

namespace Alike

variable {p q : Parser α} {f g : α → Parser β} {Q : α → Prop} {R : β → Prop}

theorem bind (hp : Alike p q Q) (hf : ∀ a, Q a → Alike (f a) (g a) R) :
    Alike (p >>= f) (q >>= g) R := by
  intro n ts
  obtain ⟨heq, hq⟩ := hp n ts
  rw [outcome_bind, outcome_bind, ← heq]
  cases h : outcome p n ts with
  | error e => exact ⟨rfl, nofun⟩
  | ok r => exact hf r.1 (hq r.1 r.2 h) n r.2

theorem self (h : ∀ n ts a us, outcome p n ts = .ok (a, us) → Q a) : Alike p p Q :=
  fun n ts => ⟨rfl, h n ts⟩

theorem rfl : Alike p p fun _ => True := self fun _ _ _ _ _ => trivial

theorem failAt {span : Span} {cause : Cause} :
    Alike (Parser.failAt span cause) (Parser.failAt span cause) Q := self nofun

theorem ofExcept_bind {r : Except SyntaxError α} (h : ∀ a, r = .ok a → Alike (f a) (g a) R) :
    Alike (ofExcept r >>= f) (ofExcept r >>= g) R := by
  cases r with
  | error e => exact fun _ _ => ⟨Eq.refl _, nofun⟩
  | ok a => exact h a (Eq.refl _)

end Alike

/-- The rules read the expressions of fields alike, as far as these have fewer characters. -/
def EmbedsAlike (k : Nat) (rule rule' : Rule → Parser Expr) : Prop :=
  ∀ text base n ts, text.length < k →
    outcome (embedded rule text base) n ts = outcome (embedded rule' text base) n ts

theorem EmbedsAlike.mono {k l : Nat} (h : EmbedsAlike k rule rule') (hle : l ≤ k) :
    EmbedsAlike l rule rule' :=
  fun text base n ts hlt => h text base n ts (Nat.lt_of_lt_of_le hlt hle)

theorem fieldSpec_congr {spec spec' : List Char → Nat → Parser (List Piece)} {text : List Char}
    (h : ∀ inner start, inner.length < text.length →
      Alike (spec inner start) (spec' inner start) fun _ => True) (offset : Nat) :
    Alike (fieldSpec spec text offset) (fieldSpec spec' text offset)
      fun r => r.2.1.length ≤ text.length := by
  unfold fieldSpec
  split
  · next r =>
    have hlen := congrArg List.length (splitSpec_append 0 r)
    rw [List.length_append] at hlen
    simp only [List.length_cons] at h ⊢
    refine Alike.bind (h _ _ (by omega)) fun _ _ => .self ?_
    rintro _ _ _ _ ⟨⟩
    dsimp only
    omega
  · refine .self ?_
    rintro _ _ _ _ ⟨⟩
    exact Nat.le_refl _

theorem length_of_fieldEnd {shown : Option Piece} {value : Expr} {conversion : Option Char}
    {formatSpec : Option Expr} {text : List Char} {offset : Nat} {r : List Piece × List Char × Nat}
    (h : fieldEnd shown value conversion formatSpec text offset = .ok r) :
    r.2.1.length < text.length := by
  unfold fieldEnd at h
  split at h
  · cases h
    exact Nat.lt_succ_self _
  · exact nomatch h

/-- A field is read alike, and what follows it is shorter. -/
theorem field_congr {spec spec' : List Char → Nat → Parser (List Piece)} {text : List Char}
    (h : EmbedsAlike (text.length + 1) rule rule')
    (hspec : ∀ inner start, inner.length < text.length →
      Alike (spec inner start) (spec' inner start) fun _ => True) (start : Nat) :
    Alike (field spell rule spec text start) (field spell rule' spec' text start)
      fun r => r.2.1.length < text.length := by
  unfold field
  refine .ofExcept_bind fun r hsplit => ?_
  obtain ⟨source, rest⟩ := r
  have hlen := congrArg List.length (splitField_append hsplit)
  rw [List.length_append] at hlen
  dsimp only
  split
  · exact .self nofun
  · have hvalue : Alike (embedded rule source start) (embedded rule' source start) fun _ => True :=
      fun n ts => ⟨h source start n ts (by omega), fun _ _ _ => trivial⟩
    refine .bind hvalue fun value _ => ?_
    have hshown := (fieldShown_spec spell source rest (start + byteLength source)).2
    generalize fieldShown spell source rest (start + byteLength source) = shown at hshown ⊢
    obtain ⟨shown, rest₁, offset₁⟩ := shown
    refine .ofExcept_bind fun r hconversion => ?_
    obtain ⟨conversion, rest₂, offset₂⟩ := r
    have hrest₂ := (fieldConversion_spec hconversion).2
    dsimp only at hshown hrest₂
    refine .bind (fieldSpec_congr (fun inner o hi => hspec inner o ?_) offset₂) fun r hr => ?_
    · dsimp only at hi
      omega
    · obtain ⟨formatSpec, rest₃, offset₃⟩ := r
      refine .self fun n ts r us hout => ?_
      rw [outcome_ofExcept] at hout
      obtain ⟨a, ha, heq⟩ := map_ok hout
      cases heq
      have hlt := length_of_fieldEnd ha
      dsimp only at hlt hr
      omega

theorem piecesUpTo_congr {l : Literal}
    {hole hole' : List Char → Nat → Parser (List Piece × List Char × Nat)} {text : List Char}
    (hhole : ∀ text' start, text'.length < text.length →
      Alike (hole text' start) (hole' text' start) fun r => r.2.1.length < text'.length)
    (fuel offset : Nat) :
    Alike (piecesUpTo l hole fuel text offset) (piecesUpTo l hole' fuel text offset)
      fun _ => True := by
  induction fuel generalizing text offset with
  | zero => exact .rfl
  | succ fuel ih =>
    unfold piecesUpTo
    have hlen := congrArg List.length (splitLiteral_append l.isRaw false text)
    rw [List.length_append] at hlen
    generalize splitLiteral l.isRaw false text = cut at hlen ⊢
    obtain ⟨chunk, rest⟩ := cut
    dsimp only at hlen ⊢
    split
    · exact .rfl
    · next r =>
      rw [List.length_cons, List.length_cons] at hlen
      refine .bind .rfl fun before _ => .bind (ih (fun t s ht => hhole t s (by omega)) _)
        fun after _ => .rfl
    · next r =>
      rw [List.length_cons, List.length_cons] at hlen
      refine .bind .rfl fun before _ => .bind (ih (fun t s ht => hhole t s (by omega)) _)
        fun after _ => .rfl
    · next r' _ =>
      rw [List.length_cons] at hlen
      refine .bind .rfl fun before _ => .bind (hhole r' _ (by omega)) fun r hr => ?_
      obtain ⟨ps, rest', offset'⟩ := r
      replace hr : rest'.length < r'.length := hr
      exact .bind (ih (fun t s ht => hhole t s (by dsimp only at ht; omega)) _) fun after _ => .rfl
    · exact .rfl

theorem pieces_congr {l : Literal} (levels : Nat) {text : List Char}
    (h : EmbedsAlike text.length rule rule') (offset : Nat) :
    Alike (pieces spell rule l levels text offset) (pieces spell rule' l levels text offset)
      fun _ => True := by
  induction levels generalizing text offset with
  | zero => exact piecesUpTo_congr (fun _ _ _ => .failAt) _ _
  | succ levels ih =>
    refine piecesUpTo_congr (fun text' start hlt => ?_) _ _
    exact field_congr (h.mono hlt) (fun inner o hi => ih (h.mono (by omega)) o) start

/-- A literal depends on the rules only through expressions that are shorter than it. -/
theorem literalPieces_congr {t : Token} (h : EmbedsAlike t.text.length rule rule') :
    Alike (literalPieces spell rule t) (literalPieces spell rule' t) fun _ => True := by
  unfold literalPieces
  dsimp only
  split
  · next hf =>
    have hlt := length_body_of_isFormatted hf
    rw [String.length_toList] at hlt
    exact pieces_congr _ (h.mono (by omega)) _
  · exact .rfl

/-! ## Statements of all kinds -/

/-- The definition with these decorators. -/
def decorate (decorators : List Expr) : Stmt → Stmt
  | .functionDef isAsync name args body _ returns =>
    .functionDef isAsync name args body decorators returns
  | .classDef name args keywords body _ => .classDef name args keywords body decorators
  | s => s

theorem functionDef_decorate (expr : Rule → Parser Expr) (rule : StmtRule → Parser (List Stmt))
    (decorators : List Expr) (isAsync : Bool) :
    functionDef expr rule decorators isAsync =
      decorate decorators <$> functionDef expr rule [] isAsync := by
  simp only [functionDef, map_bind, map_pure, decorate]

theorem classDef_decorate (expr : Rule → Parser Expr) (rule : StmtRule → Parser (List Stmt))
    (decorators : List Expr) :
    classDef expr rule decorators = decorate decorators <$> classDef expr rule [] := by
  simp only [classDef, map_bind, map_pure, decorate]

theorem Reads.map {p : Parser α} {Q : α → List Token → Prop} {P : List Token → Prop}
    (h : Reads ts p Q) (hQ : ∀ a us, Q a us → P us) (f : α → β) :
    Reads ts (f <$> p) fun _ us => P us := by
  rw [map_eq_pure_bind]
  exact .bind h fun a us _ ha => .pure (hQ a us ha)

/-- A definition takes tokens, whatever stands before it. -/
theorem reads_functionDef_decorated {expr : Rule → Parser Expr}
    {stmt : StmtRule → Parser (List Stmt)} {b : Nat} (he : Below expr b) (hs : BelowStmt stmt b)
    (hb : 32 * weight ts ≤ b) (decorators : List Expr) (isAsync : Bool) :
    Reads ts (functionDef expr stmt decorators isAsync) fun _ us => weight us < weight ts := by
  rw [functionDef_decorate]
  exact (reads_functionDef he hs hb no_decorator isAsync).map (fun _ _ h => h.1) _

theorem reads_classDef_decorated {expr : Rule → Parser Expr}
    {stmt : StmtRule → Parser (List Stmt)} {b : Nat} (he : Below expr b) (hs : BelowStmt stmt b)
    (hb : 32 * weight ts ≤ b) (decorators : List Expr) :
    Reads ts (classDef expr stmt decorators) fun _ us => weight us < weight ts := by
  rw [classDef_decorate]
  exact (reads_classDef he hs hb no_decorator).map (fun _ _ h => h.1) _

section

variable (spell limit c)

/-- What holds of the rules of the grammar at a place before the end marker, under a limit on the
depth and from any depth on. -/
structure Progress : Prop where
  expression (r : Rule) : Advances (fun fuel => Rule.run spell fuel r) limit c
  statement (r : StmtRule) : Advances (fun fuel => StmtRule.run spell fuel r) limit c
  simpleStatements : Advances (fun fuel => simpleStatements (Rule.run spell fuel)) limit c
  smallStatement : Advances (fun fuel => smallStatement (Rule.run spell fuel)) limit c
  exprStatement : Advances (fun fuel => exprStatement (Rule.run spell fuel)) limit c
  importing : Advances (fun _ => importing) limit c
  importFrom : Advances (fun _ => importFrom) limit c
  raising : Advances (fun fuel => raising (Rule.run spell fuel)) limit c
  deleting : Advances (fun fuel => deleting (Rule.run spell fuel)) limit c
  asserting : Advances (fun fuel => asserting (Rule.run spell fuel)) limit c
  returning : Advances (fun fuel => returning (Rule.run spell fuel)) limit c
  whileLoop : Advances (fun fuel =>
    whileLoop (Rule.run spell fuel) (StmtRule.run spell fuel)) limit c
  forLoop (isAsync : Bool) : Advances (fun fuel =>
    forLoop (Rule.run spell fuel) (StmtRule.run spell fuel) isAsync) limit c
  tryBlock : Advances (fun fuel => tryBlock (Rule.run spell fuel) (StmtRule.run spell fuel)) limit c
  withBlock (isAsync : Bool) : Advances (fun fuel =>
    withBlock (Rule.run spell fuel) (StmtRule.run spell fuel) isAsync) limit c
  functionDef (decorators : List Expr) (isAsync : Bool) : Advances (fun fuel =>
    functionDef (Rule.run spell fuel) (StmtRule.run spell fuel) decorators isAsync) limit c
  classDef (decorators : List Expr) : Advances (fun fuel =>
    classDef (Rule.run spell fuel) (StmtRule.run spell fuel) decorators) limit c
  decorated : Advances (fun fuel => decorated (Rule.run spell fuel) (StmtRule.run spell fuel)) limit c
  asyncStatement : Advances (fun fuel =>
    asyncStatement (Rule.run spell fuel) (StmtRule.run spell fuel)) limit c
  /-- The statements of a program. -/
  file : Halts (fun fuel => file (StmtRule.run spell fuel)) limit c
  /-- The statements of a block. -/
  block : Halts (fun fuel => many (blockItem (StmtRule.run spell fuel))) limit c
  parameters (closing : String) (annotated : Bool) : Halts (fun fuel =>
    parameters (Rule.run spell fuel) closing annotated) limit c
  arguments : Halts (fun fuel => arguments (Rule.run spell fuel)) limit c
  clauses : Halts (fun fuel => clauses (Rule.run spell fuel)) limit c
  /-- The literals ahead. -/
  literal {t : Token} : t ∈ c.ahead →
    Halts (fun fuel => literalPieces spell (Rule.run spell fuel) t) limit c
  /-- Only expressions with fewer characters than a literal matter to it. -/
  shorter {t : Token} {rule rule' : Rule → Parser Expr} : EmbedsAlike t.text.length rule rule' →
    ∀ m us, outcome (literalPieces spell rule t) m us = outcome (literalPieces spell rule' t) m us

end

theorem length_le_weight_of_mem {t : Token} (h : t ∈ ts) : t.text.length ≤ weight ts := by
  obtain ⟨pre, post, rfl⟩ := List.append_of_mem h
  rw [weight_append, weight_cons, Token.weight]
  omega

theorem steady_file (spell : List Char → List Char) :
    Steady fun fuel => file (StmtRule.run spell fuel) :=
  Steady.of_agrees fun _ _ hle =>
    TokenLikeness.file_throughout same_eof (fun hle => rules_identical hle) hle

theorem steady_block (spell : List Char → List Char) :
    Steady fun fuel => many (blockItem (StmtRule.run spell fuel)) := by
  refine Steady.of_agrees fun fuel fuel' hle => ?_
  have hrules : identicalBlocks.StmtRules (StmtRule.run spell fuel) (StmtRule.run spell fuel') :=
    stmtRules_identical hle
  have hitem := hrules.blockItem (d := 0)
  refine fun _ => Relates.mono (Relates.many (fun _ _ hs => Nat.le_of_eq hs.length_eq) hitem)
    (fun _ _ hs => hs) fun as bs ts us hr => ⟨List.forall₂_eq_eq_eq ▸ hr.1, hr.2⟩

theorem steady_literal (spell : List Char → List Char) (t : Token) :
    Steady fun fuel => literalPieces spell (Rule.run spell fuel) t :=
  Steady.of_rules (fun hrules _ => literalPieces_same hrules rfl (fun _ => rfl) _) spell

/-- At every place in a readable stream before its end, whatever the limit and the depth. -/
theorem progress_of_readable (hc : Readable c.ahead) (hk : (current c.ahead).kind ≠ .endMarker) :
    Progress spell limit c := by
  have hstmt : ∀ s us, YieldsStmt c.ahead s us → weight us < weight c.ahead := fun _ _ h => h.1
  have hstmts : ∀ ss us, YieldsStmts c.ahead ss us → weight us < weight c.ahead := fun _ _ h => h.1
  have he : ∀ fuel, Below (Rule.run spell fuel) fuel := below_run
  have hs := belowStmt_run spell
  exact {
    expression r := (steady_rule spell r).advances hc
      (fun fuel hb => he fuel r _ (by have := r.rank_lt; omega) fun _ => hk) (fun _ _ h => h.1) limit
    statement r := (steady_stmtRule spell r).advances hc
      (fun fuel hb => hs fuel r _ (by cases r <;> simp only [StmtRule.rank] <;> omega) fun _ => hk)
      hstmts limit
    simpleStatements := (Steady.of_stmtRules (fun he _ => BlockLikeness.simpleStatements he)
      spell).advances hc (fun fuel hb => reads_simpleStatements (he fuel) (by omega)) hstmts limit
    smallStatement := (Steady.of_rules Likeness.smallStatement spell).advances hc
      (fun fuel hb => reads_smallStatement (he fuel) (by omega)) hstmt limit
    exprStatement := (Steady.of_rules Likeness.exprStatement spell).advances hc
      (fun fuel hb => reads_exprStatement (he fuel) (by omega)) hstmt limit
    importing := (Steady.of_agrees fun _ _ _ => Likeness.importing).advances hc
      (fun _ _ => reads_importing) hstmt limit
    importFrom := (Steady.of_agrees fun _ _ _ => Likeness.importFrom).advances hc
      (fun _ _ => reads_importFrom) hstmt limit
    raising := (Steady.of_rules Likeness.raising spell).advances hc
      (fun fuel hb => reads_raising (he fuel) (by omega)) hstmt limit
    deleting := (Steady.of_rules Likeness.deleting spell).advances hc
      (fun fuel hb => reads_deleting (he fuel) (by omega)) hstmt limit
    asserting := (Steady.of_rules Likeness.asserting spell).advances hc
      (fun fuel hb => reads_asserting (he fuel) (by omega)) hstmt limit
    returning := (Steady.of_rules Likeness.returning spell).advances hc
      (fun fuel hb => reads_returning (he fuel) (by omega)) hstmt limit
    whileLoop := (Steady.of_stmtRules BlockLikeness.StmtRules.whileLoop spell).advances hc
      (fun fuel hb => reads_whileLoop (he fuel) (hs fuel) (by omega)) hstmt limit
    forLoop isAsync := (Steady.of_stmtRules (fun he hs =>
      BlockLikeness.StmtRules.forLoop he hs isAsync) spell).advances hc
      (fun fuel hb => reads_forLoop (he fuel) (hs fuel) (by omega) isAsync) hstmt limit
    tryBlock := (Steady.of_stmtRules BlockLikeness.StmtRules.tryBlock spell).advances hc
      (fun fuel hb => reads_tryBlock (he fuel) (hs fuel) (by omega)) hstmt limit
    withBlock isAsync := (Steady.of_stmtRules (fun he hs =>
      BlockLikeness.StmtRules.withBlock he hs isAsync) spell).advances hc
      (fun fuel hb => reads_withBlock (he fuel) (hs fuel) (by omega) isAsync) hstmt limit
    functionDef decorators isAsync := (Steady.of_stmtRules (fun he hs =>
      BlockLikeness.StmtRules.functionDef he hs decorators isAsync) spell).advances hc
      (fun fuel hb => reads_functionDef_decorated (he fuel) (hs fuel) (by omega) decorators isAsync)
      (fun _ _ h => h) limit
    classDef decorators := (Steady.of_stmtRules (fun he hs =>
      BlockLikeness.StmtRules.classDef he hs decorators) spell).advances hc
      (fun fuel hb => reads_classDef_decorated (he fuel) (hs fuel) (by omega) decorators)
      (fun _ _ h => h) limit
    decorated := (Steady.of_stmtRules BlockLikeness.StmtRules.decorated spell).advances hc
      (fun fuel hb => reads_decorated (he fuel) (hs fuel) (by omega)) hstmt limit
    asyncStatement := (Steady.of_stmtRules BlockLikeness.StmtRules.asyncStatement spell).advances hc
      (fun fuel hb => reads_asyncStatement (he fuel) (hs fuel) (by omega)) hstmt limit
    file := (steady_file spell).halts hc (fun fuel hb => reads_file (hs fuel) (by omega)) limit
    block := (steady_block spell).halts hc (fun fuel hb => .many fun us hle =>
      (reads_blockItem (hs fuel) (by omega)).mono fun _ _ _ h => h.2) limit
    parameters closing annotated := (Steady.of_rules (fun h => h.parameters nofun annotated)
      spell).halts hc (fun fuel hb => reads_parameters (he fuel) (by omega)) limit
    arguments := (Steady.of_rules Likeness.Rules.arguments spell).halts hc
      (fun fuel hb => reads_arguments (he fuel) (by omega)) limit
    clauses := (Steady.of_rules Likeness.Rules.clauses spell).halts hc
      (fun fuel hb => .many fun us hle => (Reads.optionalLook looks_startsClause fun _ =>
        reads_clause (he fuel) (by omega)).mono fun _ _ _ h => h.2) limit
    literal := fun {t} ht => (steady_literal spell t).halts hc (fun fuel hb =>
      reads_literalPieces (he fuel) (by
        have := length_le_weight_of_mem ht
        omega)) limit
    shorter := fun h m us => (literalPieces_congr h m us).1 }

/-! ## Programs and fields -/

/-- The tokens of a program, or of an expression in a string. -/
def Scanned (ts : List Token) : Prop :=
  (∃ source maxBrackets, tokenize source maxBrackets = .ok ts) ∨
    ∃ text base maxBrackets, tokenizeEmbedded text base maxBrackets = .ok ts

theorem Scanned.readable (h : Scanned ts) : Readable ts := by
  rcases h with ⟨source, maxBrackets, h⟩ | ⟨text, base, maxBrackets, h⟩
  · exact readable_of_tokenize h
  · exact (readable_of_tokenizeEmbedded h).1

/-- Parsing comes to an end from every place in the tokens of a text on that is before the end
marker, under every limit and from every depth on, and each rule that accepts has gone forward. -/
theorem progress_of_scanned (spell : List Char → List Char) (limit : Nat) {c : Cursor}
    (hts : Scanned c.tokens) (hk : (current c.ahead).kind ≠ .endMarker) : Progress spell limit c := by
  refine progress_of_readable (hts.readable.suffix (List.suffix_append _ _) ?_) hk
  intro hnil
  rw [hnil] at hk
  exact hk rfl

/-- A name on a line. -/
def nameLine : List Token :=
  [⟨.name, "x", ⟨0, 1⟩⟩, ⟨.newline, "\n", ⟨1, 2⟩⟩, ⟨.endMarker, "", ⟨2, 2⟩⟩]

/-- At the name and at the end of its line there is progress, without any room for nesting too. -/
theorem progress_of_scanned_name :
    Progress id 50 (.start nameLine 0) ∧ Progress id 0 (Cursor.start nameLine 7).advance := by
  have hts : Scanned nameLine := .inl ⟨['x', '\n'], 50, by decide +kernel⟩
  exact ⟨progress_of_scanned id _ hts (by decide), progress_of_scanned id _ hts (by decide)⟩

end PythonSyntax.Parser
