import PythonSyntax.Proofs.Agreement.Expression
import PythonSyntax.Proofs.Parser.Start

/-
The rules of statements agree.

If the rules of expressions agree, so do those of statements, in the order of `StmtRule.body`, and
so do whole programs.
-/

namespace PythonSyntax.Parser

namespace Likeness

open TokenLikeness

variable {c : Likeness} {expr expr' : Rule → Parser Expr}

/-! ## Imports and names -/

theorem dottedName : c.Agrees dottedName dottedName Eq :=
  .bind_eq (.sepBy (.eatOp rfl) .identifier) fun _ => .pure rfl

theorem asName : c.Agrees asName asName Eq := .optional_eq (.eatWord _) .identifier

theorem importing : c.Agrees importing importing Eq := by
  refine .bind_eq (.expectWord _) fun _ => .bind_eq (.sepBy (.eatOp rfl) ?_) fun _ => .pure rfl
  exact .bind_eq dottedName fun _ => .bind_eq asName fun _ => .pure rfl

theorem dots : c.Agrees dots dots Eq :=
  .bind_eq (.eatOp rfl) fun _ => .ite (.pure rfl) <|
    .bind_eq (.eatOp rfl) fun _ => .ite (.pure rfl) (.pure rfl)

theorem importAlias : c.Agrees importAlias importAlias Eq :=
  .bind_eq .identifier fun _ => .bind_eq asName fun _ => .pure rfl

/-- A further name, where the list may not end in a comma. -/
theorem importAfterComma :
    c.Agrees
      (do if ← atKind .newline then fail .trailingImportComma else return some (← Parser.importAlias))
      (do if ← atKind .newline then fail .trailingImportComma else return some (← Parser.importAlias))
      Eq := by
  intro k ts us n m hs hn
  have hsome : c.Agrees (do return some (← Parser.importAlias)) (do return some (← Parser.importAlias))
      Eq := .bind_eq importAlias fun _ => .pure rfl
  have hline : ∀ vs l, outcome (do
      if ← atKind .newline then fail .trailingImportComma else return some (← Parser.importAlias)) l vs
        = if ((current vs).kind == .newline) = true then outcome (fail .trailingImportComma) l vs
          else outcome (do return some (← Parser.importAlias)) l vs := fun vs l => by
    show outcome (if ((current vs).kind == .newline) = true then _ else _) l vs = _
    split <;> rfl
  rw [hline, hline]
  rcases sees hs with ht | ⟨stop, hstop, hu⟩
  · rw [← c.kind ht]
    split
    · exact .error (c.place rfl ht)
    · exact hsome k ts us n m hs hn
  · -- where the first run stops, no name follows in either
    have hnone : ∀ vs l, (current vs).isIdentifier = false →
        ∃ e, (if ((current vs).kind == .newline) = true then outcome (fail .trailingImportComma) l vs
          else outcome (do return some (← Parser.importAlias)) l vs) =
            (.error e : Except SyntaxError (Option Alias × List Token)) := by
      intro vs l hvs
      split
      · exact ⟨_, outcome_fail _⟩
      · have hidentifier : outcome Parser.identifier l vs =
            .error ⟨refusal (current vs).kind, (current vs).span⟩ := by
          rw [Parser.identifier, outcome_bind, outcome_expect, hvs]
          rfl
        have halias : outcome Parser.importAlias l vs =
            .error ⟨refusal (current vs).kind, (current vs).span⟩ := by
          rw [Parser.importAlias, outcome_bind, hidentifier]
          rfl
        exact ⟨_, by rw [outcome_bind, halias]; rfl⟩
    obtain ⟨hkind, -⟩ := kind_text_of_isOp hu
    have hright : (current us).isIdentifier = false := by
      rw [Token.isIdentifier, hkind]
      rfl
    obtain ⟨e, he⟩ := hnone ts n ((isIdentifier_of_sees (sees hs)).trans hright)
    obtain ⟨e', he'⟩ := hnone us m hright
    rw [he, he']
    exact .error (c.stop hstop e e')

theorem importRest {inParens : Bool} (h : ∀ kind op, c.stops kind op → inParens = false) :
    c.Agrees (importRest inParens) (importRest inParens) Eq := by
  refine .bind_eq (.eatOp rfl) fun _ => .ite ?_ (.pure rfl)
  cases inParens with
  | false =>
    refine .bind (Q := fun _ _ => True) (.bind .peek fun _ _ _ => .pure trivial) fun _ _ _ => ?_
    exact importAfterComma
  | true =>
    refine .bind_eq (.atOp fun kind op hs => nomatch h kind op hs) fun _ => ?_
    refine .ite (.pure rfl) (.bind (Q := fun _ _ => True) (.bind .peek fun _ _ _ => .pure trivial) ?_)
    exact fun _ _ _ => .bind_eq importAlias fun _ => .pure rfl

theorem importedModule (level : Nat) :
    c.Agrees (importedModule level) (importedModule level) Eq :=
  .bind_eq (.atWord _) fun _ => .ite (.pure rfl) (.bind_eq dottedName fun _ => .pure rfl)

theorem aliasList {inParens : Bool} (h : ∀ kind op, c.stops kind op → inParens = false) :
    c.Agrees (aliasList inParens) (aliasList inParens) Eq :=
  .bind_eq importAlias fun _ => .bind_eq (.many_eq (importRest h)) fun _ => .pure rfl

theorem importedNames : c.Agrees importedNames importedNames Eq := by
  refine .bind_eq (.eatOp rfl) fun _ => .ite (.pure rfl) ?_
  refine .ifEatOpening rfl ?_ (aliasList fun _ _ _ => rfl)
  exact .bind_eq (aliasList (c := c.inside) fun _ _ hs => hs.elim) fun names =>
    .then_eq (.expectOp rfl) fun _ => .pure rfl

theorem importFrom : c.Agrees importFrom importFrom Eq := by
  refine .bind_eq (.expectWord _) fun _ => .bind_eq (.many_eq dots) fun levels => ?_
  refine .bind_eq (importedModule _) fun module? => .bind_eq (.expectWord _) fun _ => ?_
  exact .bind_eq importedNames fun _ => .pure rfl

/-! ## Assignments -/

theorem isLexical_annotationRefusal? {e : Expr} {cause : Cause}
    (h : annotationRefusal? e = some cause) : isLexical cause = false := by
  unfold annotationRefusal? at h
  split at h <;> cases h <;> rfl

theorem annotated (he : c.Rules expr expr') (target : Expr) {t u : Token} (ht : c.Sees t u) :
    c.Agrees (annotated expr target t) (annotated expr' target u) Eq := by
  refine .bind_eq (.expectOp rfl) fun _ => ?_
  cases hrefusal : annotationRefusal? target with
  | some cause => exact .failAt (isLexical_annotationRefusal? hrefusal) (places_of_sees ht)
  | none =>
    refine .bind_eq (.ofExcept (Rules.asTarget (places_of_sees ht) _ _)) fun target => ?_
    refine .bind_eq (he.below rfl) fun note => ?_
    refine .bind_eq (.optional_eq (.eatOp rfl) (he.yieldOr rfl)) fun value => ?_
    rw [isOp_of_sees ht (.of rfl)]
    exact .pure rfl

theorem ofAugmented?_eq_none {op : String} (h : Layout.isBracketText op = true) :
    Operator.ofAugmented? op = none := by
  have hmem : op ∈ ["(", "[", "\x7b", ")", "]", "\x7d"] := by
    simpa [Layout.isBracketText, Layout.isOpening, Layout.isClosing, or_assoc] using h
  have hnone : ∀ op ∈ ["(", "[", "\x7b", ")", "]", "\x7d"], Operator.ofAugmented? op = none := by
    decide
  exact hnone op hmem

theorem isPlain_of_augmentedOperator? {t : Token} {op : Operator}
    (h : augmentedOperator? t = some op) : t.isPlain = true := by
  unfold augmentedOperator? at h
  split at h
  · next hk =>
    refine isPlain_of_isOp (isOp_of_kind hk rfl) (Bool.eq_false_iff.mpr fun hb => ?_)
    rw [ofAugmented?_eq_none hb] at h
    exact nomatch h
  · exact nomatch h

theorem augmented (he : c.Rules expr expr') (target : Expr) (op : Operator) {t u : Token}
    (ht : c.Sees t u) :
    c.AgreesWhen (fun t => t.isPlain = true) (augmented expr target op t)
      (augmented expr' target op u) Eq := by
  refine .advance_bind (fun _ ht => ht) fun _ _ _ _ => .ite ?_ (.failAt rfl (places_of_sees ht))
  refine .bind_eq (.ofExcept (Rules.asTarget (places_of_sees ht) _ _)) fun target => ?_
  exact .bind_eq (he.yieldOr rfl) fun _ => .pure rfl

/-- The same expression at places that match. -/
def Placed (c : Likeness) (r r' : Expr × Span) : Prop := r.1 = r'.1 ∧ c.Places r.2 r'.2

theorem assigned (he : c.Rules expr expr') :
    c.Agrees (assigned expr) (assigned expr') (Option.Rel c.Placed) := by
  refine .bind_eq (.eatOp rfl) fun _ => .ite (.bind .peek fun t u ht => ?_) (.pure .none)
  exact .bind_eq (he.yieldOr rfl) fun e => .pure (.some ⟨rfl, places_of_sees ht⟩)

theorem assignment {first first' : Expr × Span} {rest rest' : List (Expr × Span)}
    (hfirst : c.Placed first first') (hrest : List.Forall₂ c.Placed rest rest') :
    c.Results Eq (assignment first rest) (assignment first' rest') := by
  have hdrop : List.Forall₂ c.Placed rest.dropLast rest'.dropLast := by
    rw [List.dropLast_eq_take, List.dropLast_eq_take, hrest.length_eq]
    exact List.forall₂_take _ hrest
  have hvalues : rest.map Prod.fst = rest'.map Prod.fst := map_eq_map hrest fun _ _ h => h.1
  refine (Results.mapM_eq (.cons hfirst hdrop) fun r r' h => ?_).bind fun targets targets' h => ?_
  · show c.Results Eq (r.1.asTarget .store r.2) (r'.1.asTarget .store r'.2)
    rw [h.1]
    exact Rules.asTarget h.2 _ _
  · rw [h, ← List.getLast?_map, ← List.getLast?_map, hvalues, hfirst.1]
    exact .ok rfl

theorem exprStatement (he : c.Rules expr expr') :
    c.Agrees (exprStatement expr) (exprStatement expr') Eq := by
  refine .bind .peek fun t u ht => .bind_eq (he.yieldOr rfl) fun first => ?_
  refine .bind_eq (.atOp (.of rfl)) fun _ => .ite (annotated he first ht) ?_
  have hsemicolon : Operator.ofAugmented? ";" = none := by decide
  refine .peek_bind fun t' u' ht' => ?_
  rw [← show augmentedOperator? t' = augmentedOperator? u' from
    congr_of_sees_stops augmentedOperator? ht' (fun _ _ _ _ => rfl) (fun _ _ _ => rfl)
      ⟨none, fun _ _ => ⟨rfl, rfl⟩, fun _ => ⟨ofAugmented?_eq_none rfl, (if_pos rfl).trans hsemicolon⟩⟩]
  cases hop : augmentedOperator? t' with
  | some op =>
    exact (augmented he first op ht).mono fun _ hv => hv ▸ isPlain_of_augmentedOperator? hop
  | none =>
    refine .of (.bind (.many (assigned he)) fun rest rest' hrest => ?_)
    have hfirst : c.Placed (first, t.span) (first, u.span) := ⟨rfl, places_of_sees ht⟩
    have hresult := assignment hfirst hrest
    cases hrest with
    | nil => exact .pure rfl
    | cons _ _ => exact .ofExcept hresult

/-! ## Simple statements -/

theorem raising (he : c.Rules expr expr') : c.Agrees (raising expr) (raising expr') Eq := by
  refine .bind_eq (.expectWord _) fun _ => .bind_eq .startsExpression fun _ => .ite ?_ (.pure rfl)
  refine .bind_eq (he.below rfl) fun exc => ?_
  exact .bind_eq (.optional_eq (.eatWord _) (he.below rfl)) fun _ => .pure rfl

theorem deleting (he : c.Rules expr expr') : c.Agrees (deleting expr) (deleting expr') Eq := by
  refine .bind_eq (.expectWord _) fun _ => .bind .peek fun t u ht => ?_
  refine .bind_eq (he.listItems rfl) fun items => .bind_eq (.ofExcept ?_) fun _ => .pure rfl
  refine Results.mapM_eq (List.forall₂_same.mpr fun _ _ => rfl) fun e e' (h : e = e') => ?_
  rw [h]
  exact Rules.asTarget (places_of_sees ht) _ _

theorem asserting (he : c.Rules expr expr') : c.Agrees (asserting expr) (asserting expr') Eq := by
  refine .bind_eq (.expectWord _) fun _ => .bind_eq (he.below rfl) fun condition => ?_
  exact .bind_eq (.optional_eq (.eatOp rfl) (he.below rfl)) fun _ => .pure rfl

theorem returning (he : c.Rules expr expr') : c.Agrees (returning expr) (returning expr') Eq := by
  refine .bind_eq (.expectWord _) fun _ => ?_
  exact .bind_eq (.optional_eq .startsExpression (he.below rfl)) fun _ => .pure rfl

theorem oneWord (s : Stmt) :
    c.AgreesWhen (fun t => t.isPlain = true) (oneWord s) (oneWord s) Eq :=
  .advance_bind (fun _ ht => ht) fun _ _ _ _ => .pure rfl

theorem nameList : c.Agrees nameList nameList Eq := .sepBy (.eatOp rfl) .identifier

theorem smallStatement (he : c.Rules expr expr') :
    c.Agrees (smallStatement expr) (smallStatement expr') Eq := by
  refine .peek_bind fun t u ht => ?_
  by_cases hname : t.kind = .name
  · have ht := token_of_sees ht (by rw [hname]; rfl)
    have htext := text_eq ht (by rw [hname]; exact nofun) (by rw [hname]; exact nofun)
    have hplain : ∀ v, v = t → v.isPlain = true := by
      rintro _ rfl
      exact isPlain_of_kind (by rw [hname]; rfl) (by rw [hname]; exact nofun)
    rw [← c.kind ht, if_pos hname, if_pos hname, ← htext]
    split
    · exact (oneWord _).mono hplain
    · exact (oneWord _).mono hplain
    · exact (oneWord _).mono hplain
    · exact .of (returning he)
    · exact .of (raising he)
    · exact .advance_bind hplain fun _ _ _ _ => .bind_eq nameList fun _ => .pure rfl
    · exact .advance_bind hplain fun _ _ _ _ => .bind_eq nameList fun _ => .pure rfl
    · exact .of (deleting he)
    · exact .of (asserting he)
    · exact .of importing
    · exact .of importFrom
    · exact .of (exprStatement he)
  · have hname' : u.kind ≠ .name := by
      have hkind : (t.kind == .name) = (u.kind == .name) := kind_eq_of_sees ht rfl (by decide)
      rwa [← beq_eq_false_iff_ne, ← hkind, beq_eq_false_iff_ne]
    rw [if_neg hname, if_neg hname']
    exact .of (exprStatement he)

/-- What may follow a simple statement on its line. -/
theorem furtherStatement (he : c.Rules expr expr') (hnone : ∀ kind op, ¬ c.stops kind op) :
    c.Agrees
      (do
        if ← eatOp ";" then
          if ← atKind .newline then return none else return some (← Parser.smallStatement expr)
        else return none)
      (do
        if ← eatOp ";" then
          if ← atKind .newline then return none else return some (← Parser.smallStatement expr')
        else return none) Eq := by
  have heat : c.Agrees (eatOp ";") (eatOp ";") Eq :=
    .eatIf (fun _ _ h => isOp_of_sees h fun kind op hs => absurd hs (hnone kind op)) fun _ h =>
      isPlain_of_isOp h rfl
  refine .bind_eq heat fun _ => .ite ?_ (.pure rfl)
  refine .bind_eq (.atKind fun kind op hs => absurd hs (hnone kind op)) fun _ => .ite (.pure rfl) ?_
  exact .bind_eq (smallStatement he) fun _ => .pure rfl

end Likeness

/-! ## Streams of statements -/

/-- The first run is at its end, where it may give up, and the second one does not go on with a
statement. -/
structure TokenLikeness.Ended (c : TokenLikeness) (ts us : List Token) : Prop where
  left : (current ts).kind = .endMarker
  right {word : String} : word ∈ followingWords → (current us).isWord word = false
  excused (cause : Cause) : c.excused cause

/-- What matches in two runs through statements.  Streams are in the relation `within d` inside a
statement of `d` blocks, and in the relation `after d` where such a statement may have ended; then
the first one may be at its end. -/
structure BlockLikeness extends TokenLikeness where
  within : Nat → Streams
  after : Nat → Streams
  lasts (d : Nat) : Lasts token (within d)
  after_of_within {d : Nat} {ts us : List Token} : within d ts us → after d ts us
  /-- At the end of a statement in a block, the block has not ended. -/
  within_of_after {d : Nat} {ts us : List Token} : after (d + 1) ts us → within (d + 1) ts us
  within_or_ended {d : Nat} {ts us : List Token} : after d ts us →
    within d ts us ∨ toTokenLikeness.Ended ts us
  length_le {d : Nat} {ts us : List Token} : after d ts us → ts.length ≤ us.length
  newline {d : Nat} {ts us : List Token} : within d ts us → (current ts).kind = .newline →
    after d (dropCurrent ts) (dropCurrent us)
  indent {d : Nat} {ts us : List Token} : within d ts us → (current ts).kind = .indent →
    within (d + 1) (dropCurrent ts) (dropCurrent us)
  dedent {d : Nat} {ts us : List Token} : within (d + 1) ts us → (current ts).kind = .dedent →
    after d (dropCurrent ts) (dropCurrent us)
  endMarker {d : Nat} {ts us : List Token} : within (d + 1) ts us →
    (current ts).kind = .endMarker → after d ts us

/-- Streams that match to their ends match within statements, and after them. -/
def TokenLikeness.throughoutBlocks (c : TokenLikeness) (eof : c.token (current []) (current [])) :
    BlockLikeness where
  toTokenLikeness := c
  within _ := List.Forall₂ c.token
  after _ := List.Forall₂ c.token
  lasts _ := lasts_forall₂ eof
  after_of_within h := h
  within_of_after h := h
  within_or_ended h := .inl h
  length_le h := Nat.le_of_eq h.length_eq
  newline h _ := forall₂_dropCurrent h
  indent h _ := forall₂_dropCurrent h
  dedent h _ := forall₂_dropCurrent h
  endMarker h _ := h

namespace BlockLikeness

open TokenLikeness Likeness

variable {b : BlockLikeness} {d : Nat} {α β γ δ : Type} {p : Parser α} {q : Parser β}
  {Q : α → β → Prop} {T : α → β → Streams}
  {expr expr' : Rule → Parser Expr} {rule rule' : StmtRule → Parser (List Stmt)}

/-- What matches within a statement of `d` blocks. -/
def inner (b : BlockLikeness) (d : Nat) : Likeness := b.toTokenLikeness.steady (b.lasts d)

/-- Two parsers do alike where a statement of `d` blocks goes on, and end it. -/
def Ends (b : BlockLikeness) (d : Nat) (p : Parser α) (q : Parser β) (Q : α → β → Prop) : Prop :=
  b.Relates (b.within d) p q fun x y ts us => Q x y ∧ b.after d ts us

/-- Two parsers do alike where a statement of `d` blocks may have ended, and end it. -/
def Follows (b : BlockLikeness) (d : Nat) (p : Parser α) (q : Parser β) (Q : α → β → Prop) :
    Prop :=
  b.Relates (b.after d) p q fun x y ts us => Q x y ∧ b.after d ts us

theorem Ends.of_agrees (h : (b.inner d).Agrees p q Q) : b.Ends d p q Q :=
  Relates.mono (h 0) (fun _ _ hs => hs) fun _ _ _ _ hr => ⟨hr.1, b.after_of_within hr.2⟩

/-- First two parsers that go on with the statement, and then two others that end it. -/
theorem Ends.bind_eq {p q : Parser α} {f : α → Parser γ} {g : α → Parser δ} {R : γ → δ → Prop}
    (hp : (b.inner d).Agrees p q Eq) (hf : ∀ x, b.Ends d (f x) (g x) R) :
    b.Ends d (p >>= f) (q >>= g) R :=
  Relates.bind_eq (hp 0) hf

theorem Ends.bind {f : α → Parser γ} {g : β → Parser δ} {R : γ → δ → Prop}
    (hp : (b.inner d).Agrees p q Q) (hf : ∀ x y, Q x y → b.Ends d (f x) (g y) R) :
    b.Ends d (p >>= f) (q >>= g) R :=
  Relates.bind_of (hp 0) hf

/-- First two parsers that end a block, and then two others. -/
theorem Ends.then_eq {p q : Parser α} {f : α → Parser γ} {g : α → Parser δ} {R : γ → δ → Prop}
    (hp : b.Ends d p q Eq) (hf : ∀ x, b.Follows d (f x) (g x) R) :
    b.Ends d (p >>= f) (q >>= g) R :=
  Relates.bind_eq hp hf

theorem Ends.ite {P : Prop} [Decidable P] {p' : Parser α} {q' : Parser β} (hp : b.Ends d p q Q)
    (hp' : b.Ends d p' q' Q) :
    b.Ends d (if P then p else p') (if P then q else q') Q :=
  Relates.ite hp hp'

/-- The value of two parsers that end a statement. -/
theorem Ends.map_eq {p q : Parser α} {f : α → γ} (h : b.Ends d p q Eq) :
    b.Ends d (do return f (← p)) (do return f (← q)) Eq :=
  Relates.bind_eq h fun _ => Relates.pure fun _ _ hs => ⟨rfl, hs⟩

theorem Follows.pure {x : α} {y : β} (h : Q x y) : b.Follows d (pure x) (pure y) Q :=
  Relates.pure fun _ _ hs => ⟨h, hs⟩

theorem Follows.bind_eq {p q : Parser α} {f : α → Parser γ} {g : α → Parser δ} {R : γ → δ → Prop}
    (hp : b.Follows d p q Eq) (hf : ∀ x, b.Follows d (f x) (g x) R) :
    b.Follows d (p >>= f) (q >>= g) R :=
  Relates.bind_eq hp hf

theorem Follows.ite {P : Prop} [Decidable P] {p' : Parser α} {q' : Parser β}
    (hp : b.Follows d p q Q) (hp' : b.Follows d p' q' Q) :
    b.Follows d (if P then p else p') (if P then q else q') Q :=
  Relates.ite hp hp'

/-- Where the first run fails at its end, only statements that go on matter. -/
theorem follows_of_ends (h : b.Ends d p q Q)
    (hended : ∀ ts n, (current ts).kind = .endMarker → ∃ e, outcome p n ts = .error e) :
    b.Follows d p q Q := by
  intro ts us n m hs hn
  rcases b.within_or_ended hs with hs | hs
  · exact h ts us n m hs hn
  · obtain ⟨e, he⟩ := hended ts n hs.left
    rw [he]
    exact .excused (hs.excused _)

theorem Follows.unexpected : b.Follows d (Parser.unexpected) (Parser.unexpected) Q :=
  follows_of_ends (.of_agrees .unexpected) fun _ _ _ => ⟨_, outcome_unexpected⟩

/-- After a look at the first token it is known. -/
theorem Ends.peek_bind {f : Token → Parser γ} {g : Token → Parser δ} {R : γ → δ → Prop}
    (h : ∀ t u, b.token t u → b.Relates (fun ts us => current ts = t ∧ b.within d ts us) (f t) (g u)
      fun x y ts us => R x y ∧ b.after d ts us) :
    b.Ends d (peek >>= f) (peek >>= g) R :=
  fun ts us n m hs hn => h (current ts) (current us) ((b.lasts d).first hs) ts us n m ⟨rfl, hs⟩ hn

/-- What is true of all streams is true of those of whose first token something is known. -/
theorem Ends.known {t : Token} (h : b.Ends d p q Q) :
    b.Relates (fun ts us => current ts = t ∧ b.within d ts us) p q
      fun x y ts us => Q x y ∧ b.after d ts us :=
  Relates.mono h (fun _ _ hs => hs.2) fun _ _ _ _ hr => hr

/-! ## Tests of the first token -/

theorem isWord_endMarker {t : Token} (h : t.kind = .endMarker) (word : String) :
    t.isWord word = false := by
  rw [Token.isWord, h]
  rfl

theorem isOp_endMarker {t : Token} (h : t.kind = .endMarker) (op : String) : t.isOp op = false := by
  rw [Token.isOp, h]
  rfl

/-- The first tokens are the same word, or no word that goes on with the statement. -/
theorem isWord_eq_of_after {ts us : List Token} (hs : b.after d ts us) {word : String}
    (hword : word ∈ followingWords) :
    (current ts).isWord word = (current us).isWord word ∧
      ((current ts).isWord word = true → b.within d ts us) := by
  rcases b.within_or_ended hs with hs | hs
  · exact ⟨isWord_eq ((b.lasts d).first hs) word, fun _ => hs⟩
  · rw [isWord_endMarker hs.left, hs.right hword]
    exact ⟨rfl, nofun⟩

/-- A word that goes on with the statement is taken. -/
theorem Follows.ifEatWord {word : String} (hword : word ∈ followingWords) {p' : Parser α}
    {q' : Parser β} (hp : b.Ends d p q Q) (hp' : b.Follows d p' q' Q) :
    b.Follows d (do if ← eatWord word then p else p') (do if ← eatWord word then q else q') Q := by
  intro ts us n m hs hn
  obtain ⟨heq, hwithin⟩ := isWord_eq_of_after hs hword
  rw [eatWord, outcome_bind, outcome_bind, outcome_eatIf, outcome_eatIf, ← heq]
  cases hw : (current ts).isWord word with
  | false => exact hp' ts us n m hs hn
  | true =>
    exact hp _ _ n m ((b.lasts d).drop (hwithin hw) (isContent_of_isWord hw)) hn

/-- A word that goes on with the statement is known to have text. -/
theorem Follows.ifAtWord {word : String} (hword : word ∈ followingWords) {p' : Parser α}
    {q' : Parser β}
    (hp : b.Relates (fun ts us => (current ts).kind.isContent = true ∧ b.within d ts us) p q
      fun x y ts us => Q x y ∧ b.after d ts us)
    (hp' : b.Follows d p' q' Q) :
    b.Follows d (do if ← atWord word then p else p') (do if ← atWord word then q else q') Q := by
  intro ts us n m hs hn
  obtain ⟨heq, hwithin⟩ := isWord_eq_of_after hs hword
  show b.Results _ (outcome (if (current ts).isWord word = true then p else p') n ts)
    (outcome (if (current us).isWord word = true then q else q') m us)
  rw [← heq]
  cases hw : (current ts).isWord word with
  | false => exact hp' ts us n m hs hn
  | true => exact hp ts us n m ⟨isContent_of_isWord hw, hwithin hw⟩ hn

/-! ## Lines and blocks -/

theorem expectNewline : b.Ends d expectNewline expectNewline Eq := by
  intro ts us n m hs hn
  have ht := (b.lasts d).first hs
  rw [Parser.expectNewline, outcome_bind, outcome_bind, outcome_expect, outcome_expect,
    ← b.kind ht]
  split
  · next hk => exact .ok ⟨rfl, b.newline hs (beq_iff_eq.mp hk)⟩
  · exact .error (b.place (isLexical_refusal _) ht)

theorem simpleStatements (he : ∀ d, (b.inner d).Rules expr expr') :
    b.Ends d (simpleStatements expr) (simpleStatements expr') Eq := by
  refine .bind_eq (Likeness.smallStatement (he d)) fun first => ?_
  refine .bind_eq (.many_eq (furtherStatement (he d) fun _ _ hs => hs.elim)) fun rest => ?_
  exact Relates.bind_eq expectNewline fun _ => Relates.pure fun _ _ hs => ⟨rfl, hs⟩

/-- The rules for statements do alike, end statements, and have equal values.  That of a condition
takes whatever token comes first, so it does on streams that begin with a token with text. -/
structure StmtRules (b : BlockLikeness) (rule rule' : StmtRule → Parser (List Stmt)) : Prop where
  below {r : StmtRule} (d : Nat) : r ≠ .conditional → b.Ends d (rule r) (rule' r) Eq
  conditional (d : Nat) :
    b.Relates (fun ts us => (current ts).kind.isContent = true ∧ b.within d ts us)
      (rule .conditional) (rule' .conditional) fun x y ts us => x = y ∧ b.after d ts us

namespace StmtRules

theorem suite_ends (h : b.StmtRules rule rule') : b.Ends d (rule .suite) (rule' .suite) Eq :=
  h.below d nofun

theorem blockItem (h : b.StmtRules rule rule') :
    b.Relates (b.within (d + 1)) (blockItem rule) (blockItem rule')
      (Relates.Item Eq (b.within (d + 1)) (b.after d)) := by
  intro ts us n m hs hn
  have ht := (b.lasts (d + 1)).first hs
  have hitem : b.Relates (b.within (d + 1)) (do return some (← rule .statement))
      (do return some (← rule' .statement)) (Relates.Item Eq (b.within (d + 1)) (b.after d)) :=
    Relates.bind_eq (h.below (d + 1) nofun) fun _ =>
      Relates.pure fun _ _ hs => ⟨rfl, b.within_of_after hs⟩
  rw [Parser.blockItem, Parser.blockItem, outcome_peek_bind, outcome_peek_bind, ← b.kind ht]
  split
  · next hk => exact .ok (b.dedent hs hk)
  · next hk => exact .ok (b.endMarker hs hk)
  · exact hitem ts us n m hs hn

/-- An indented block, after the line before it. -/
theorem block (h : b.StmtRules rule rule') :
    b.Follows d
      (do
        if ← eatIf (·.kind == .indent) then
          nested .tooManyLevels (return (← many (Parser.blockItem rule)).flatten)
        else fail .missingBlock)
      (do
        if ← eatIf (·.kind == .indent) then
          nested .tooManyLevels (return (← many (Parser.blockItem rule')).flatten)
        else fail .missingBlock) Eq := by
  have hitems : b.Relates (b.within (d + 1))
      (nested .tooManyLevels (return (← many (Parser.blockItem rule)).flatten))
      (nested .tooManyLevels (return (← many (Parser.blockItem rule')).flatten))
      fun x y ts us => x = y ∧ b.after d ts us := by
    refine Relates.nested rfl (fun _ _ hs => places_of_token ((b.lasts (d + 1)).first hs)) ?_
    refine Relates.bind (Relates.many (fun _ _ => (b.lasts (d + 1)).length_le) h.blockItem) ?_
    refine fun xs ys => Relates.pure fun _ _ hs => ⟨?_, hs.2⟩
    rw [show xs = ys from List.forall₂_eq_eq_eq ▸ hs.1]
  refine follows_of_ends ?_ fun ts n hended => ⟨⟨.missingBlock, (current ts).span⟩, ?_⟩
  · intro ts us n m hs hn
    have ht := (b.lasts d).first hs
    rw [outcome_bind, outcome_bind, outcome_eatIf, outcome_eatIf, ← b.kind ht]
    split
    · next hk => exact hitems _ _ n m (b.indent hs (beq_iff_eq.mp hk)) hn
    · exact .error (b.place rfl ht)
  · rw [outcome_bind, outcome_eatIf, hended]
    rfl

theorem suite (he : ∀ d, (b.inner d).Rules expr expr') (h : b.StmtRules rule rule') :
    b.Ends d (suite expr rule) (suite expr' rule') Eq := by
  refine .bind_eq (.expectOp rfl) fun _ ts us n m hs hn => ?_
  have ht := (b.lasts d).first hs
  rw [outcome_bind, outcome_bind, outcome_eatIf, outcome_eatIf, ← b.kind ht]
  split
  · next hk => exact h.block _ _ n m (b.newline hs (beq_iff_eq.mp hk)) hn
  · exact simpleStatements he ts us n m hs hn

/-! ## Compound statements -/

theorem elseSuite (h : b.StmtRules rule rule') :
    b.Follows d (elseSuite rule) (elseSuite rule') Eq :=
  .ifEatWord (by decide) h.suite_ends (.pure rfl)

/-- An `if` or `elif`, after its word. -/
theorem conditionalRest (he : ∀ d, (b.inner d).Rules expr expr') (h : b.StmtRules rule rule') :
    b.Ends d
      (do
        let condition ← expr .named
        let body ← rule .suite
        return Stmt.ifElse condition body (← elifOrElse rule))
      (do
        let condition ← expr' .named
        let body ← rule' .suite
        return Stmt.ifElse condition body (← elifOrElse rule')) Eq := by
  refine .bind_eq ((he d).below rfl) fun condition => .then_eq h.suite_ends fun body => ?_
  exact .bind_eq (.ifAtWord (by decide) (h.conditional d) h.elseSuite) fun _ => .pure rfl

theorem conditional_ends (he : ∀ d, (b.inner d).Rules expr expr') (h : b.StmtRules rule rule') :
    b.Relates (fun ts us => (current ts).kind.isContent = true ∧ b.within d ts us)
      (Parser.conditional expr rule) (Parser.conditional expr' rule')
      fun x y ts us => x = y ∧ b.after d ts us :=
  fun _ _ n m hs hn => conditionalRest he h _ _ n m ((b.lasts d).drop hs.2 hs.1) hn

theorem whileLoop (he : ∀ d, (b.inner d).Rules expr expr') (h : b.StmtRules rule rule') :
    b.Ends d (whileLoop expr rule) (whileLoop expr' rule') Eq := by
  refine .bind_eq (.expectWord _) fun _ => .bind_eq ((he d).below rfl) fun condition => ?_
  exact .then_eq h.suite_ends fun body => .bind_eq h.elseSuite fun _ => .pure rfl

theorem forLoop (he : ∀ d, (b.inner d).Rules expr expr') (h : b.StmtRules rule rule')
    (isAsync : Bool) :
    b.Ends d (forLoop expr rule isAsync) (forLoop expr' rule' isAsync) Eq := by
  refine .bind_eq (.expectWord _) fun _ => .bind .peek fun t u ht => ?_
  refine .bind_eq ((he d).below rfl) fun e => ?_
  refine .bind_eq (.ofExcept (Rules.asTarget (places_of_sees ht) _ _)) fun target => ?_
  refine .bind_eq (.expectWord _) fun _ => .bind_eq ((he d).below rfl) fun iter => ?_
  exact .then_eq h.suite_ends fun body => .bind_eq h.elseSuite fun _ => .pure rfl

/-- The same handlers, and places that match for the one that catches everything. -/
structure AlikeHandlers (c : TokenLikeness) (s s' : Handlers) : Prop where
  handlers : s.handlers = s'.handlers
  bare : Option.Rel c.Places s.bare s'.bare

theorem outcome_handler {ts : List Token} (hw : (current ts).isWord "except" = false)
    (s : Handlers) (n : Nesting) : outcome (handler expr rule s) n ts = .ok ((s, false), ts) := by
  show (outcome (eatWord "except") n ts >>= _) = _
  rw [eatWord, outcome_eatIf, hw]
  rfl

theorem handler (he : ∀ d, (b.inner d).Rules expr expr') (h : b.StmtRules rule rule')
    {s s' : Handlers} (hs : AlikeHandlers b.toTokenLikeness s s') :
    b.Follows d (handler expr rule s) (handler expr' rule' s')
      fun r r' => r.2 = r'.2 ∧ AlikeHandlers b.toTokenLikeness r.1 r'.1 := by
  have hgoesOn : b.Ends d (Parser.handler expr rule s) (Parser.handler expr' rule' s')
      fun r r' => r.2 = r'.2 ∧ AlikeHandlers b.toTokenLikeness r.1 r'.1 := by
    refine .bind .peek fun t u ht => .bind_eq (.eatWord _) fun _ => .ite ?_ ?_
    swap
    · exact .of_agrees (.pure ⟨rfl, hs⟩)
    obtain ⟨handlers, bare⟩ := s
    obtain ⟨handlers', bare'⟩ := s'
    obtain ⟨rfl, hbare⟩ := hs
    cases hbare with
    | some hplaces => exact .of_agrees (.failAt rfl hplaces)
    | none =>
      refine .bind_eq (.atOp (.of rfl)) fun _ => .ite (.then_eq h.suite_ends fun body => ?_) ?_
      · exact .pure ⟨rfl, rfl, .some (places_of_sees ht)⟩
      · refine .bind_eq ((he d).below rfl) fun exc => .bind_eq Likeness.asName fun name => ?_
        exact .then_eq h.suite_ends fun body => .pure ⟨rfl, rfl, .none⟩
  intro ts us n m hafter hn
  rcases b.within_or_ended hafter with hwithin | hended
  · exact hgoesOn ts us n m hwithin hn
  · rw [outcome_handler (isWord_endMarker hended.left _), outcome_handler (hended.right (by decide))]
    exact .ok ⟨⟨rfl, hs⟩, hafter⟩

theorem tryBlock (he : ∀ d, (b.inner d).Rules expr expr') (h : b.StmtRules rule rule') :
    b.Ends d (tryBlock expr rule) (tryBlock expr' rule') Eq := by
  refine .bind_eq (.expectWord _) fun _ => .then_eq h.suite_ends fun body => ?_
  have hhandlers : b.Follows d (iterate (Parser.handler expr rule) ⟨[], none⟩)
      (iterate (Parser.handler expr' rule') ⟨[], none⟩) (AlikeHandlers b.toTokenLikeness) := by
    refine Relates.mono (Relates.iterate (fun _ _ hs => b.length_le hs.2) ?_)
      (fun _ _ hs => ⟨⟨rfl, .none⟩, hs⟩) fun _ _ _ _ hr => hr
    intro s s' ts us n m hs hn
    exact (handler he h hs.1 ts us n m hs.2 hn).mono fun _ _ hr => ⟨hr.1.1, hr.1.2, hr.2⟩
  refine Relates.bind hhandlers fun s s' ts us n m hs hn => ?_
  rw [hs.1.handlers]
  have hrest : b.Follows d
      (do
        let orelse ← elseAfter rule s'.handlers
        let finalbody ← finalSuite rule
        if s'.handlers.isEmpty && finalbody.isEmpty then unexpected
        else return Stmt.tryBlock body s'.handlers orelse finalbody)
      (do
        let orelse ← elseAfter rule' s'.handlers
        let finalbody ← finalSuite rule'
        if s'.handlers.isEmpty && finalbody.isEmpty then unexpected
        else return Stmt.tryBlock body s'.handlers orelse finalbody) Eq := by
    refine .bind_eq (.ite (.pure rfl) h.elseSuite) fun orelse => ?_
    refine .bind_eq (.ifEatWord (by decide) h.suite_ends (.pure rfl)) fun finalbody => ?_
    exact .ite .unexpected (.pure rfl)
  exact hrest ts us n m hs.2 hn

theorem withItem (he : ∀ d, (b.inner d).Rules expr expr') :
    (b.inner d).Agrees (withItem expr) (withItem expr') Eq := by
  refine .bind_eq ((he d).below rfl) fun context => ?_
  refine .bind_eq (.eatWord _) fun _ => .ite ?_ (.pure rfl)
  refine .bind .peek fun t u ht => .bind_eq ((he d).below rfl) fun e => ?_
  exact .bind_eq (.ofExcept (Rules.asTarget (places_of_sees ht) _ _)) fun _ => .pure rfl

theorem withBlock (he : ∀ d, (b.inner d).Rules expr expr') (h : b.StmtRules rule rule')
    (isAsync : Bool) :
    b.Ends d (withBlock expr rule isAsync) (withBlock expr' rule' isAsync) Eq := by
  refine .bind_eq (.expectWord _) fun _ => ?_
  exact .bind_eq (.sepBy (.eatOp rfl) (withItem he)) fun items => .map_eq h.suite_ends

theorem functionDef (he : ∀ d, (b.inner d).Rules expr expr') (h : b.StmtRules rule rule')
    (decorators : List Expr) (isAsync : Bool) :
    b.Ends d (functionDef expr rule decorators isAsync) (functionDef expr' rule' decorators isAsync)
      Eq := by
  refine .bind_eq (.expectWord _) fun _ => .bind_eq .identifier fun name => ?_
  -- within a statement streams match whatever the number of open brackets
  refine .bind_eq (opens_expectOp (c := b.inner d) rfl) fun _ => ?_
  refine .bind_eq ((he d).parameters (fun _ _ hs => hs.elim) _) fun args => ?_
  refine .bind_eq (Closes.expectOp (c := b.inner d) rfl) fun _ => ?_
  refine .bind_eq (.optional_eq (.eatOp rfl) ((he d).below rfl)) fun returns => ?_
  exact .map_eq h.suite_ends

theorem optionalArguments (he : ∀ d, (b.inner d).Rules expr expr') :
    (b.inner d).Agrees (optionalArguments expr) (optionalArguments expr') Eq := by
  refine .ifEatOpening rfl (.bind_eq (he d).arguments fun a => ?_) (.pure rfl)
  exact .then_eq (.expectOp rfl) fun _ => .pure rfl

theorem classDef (he : ∀ d, (b.inner d).Rules expr expr') (h : b.StmtRules rule rule')
    (decorators : List Expr) :
    b.Ends d (classDef expr rule decorators) (classDef expr' rule' decorators) Eq := by
  refine .bind_eq (.expectWord _) fun _ => .bind_eq .identifier fun name => ?_
  exact .bind_eq (optionalArguments he) fun a => .map_eq h.suite_ends

theorem decorator (he : ∀ d, (b.inner d).Rules expr expr') :
    (b.inner d).Agrees (decorator expr) (decorator expr') Eq := by
  refine .bind_eq .identifier fun first => ?_
  refine .bind_eq (.many_eq (.optional_eq (.eatOp rfl) .identifier)) fun attrs => ?_
  refine .bind_eq (optionalArguments he) fun a => ?_
  split <;> exact .pure rfl

theorem decoratorLine (he : ∀ d, (b.inner d).Rules expr expr') :
    b.Relates (b.within d) (decoratorLine expr) (decoratorLine expr')
      (Relates.Item Eq (b.after d) (b.within d)) := by
  refine Relates.bind_eq (Agrees.eatOp (c := b.inner d) rfl 0) fun _ => ?_
  refine Relates.ite (Relates.bind_eq (decorator (d := d) he 0) fun e => ?_) ?_
  · exact Relates.bind_eq expectNewline fun _ => Relates.pure fun _ _ hs => ⟨rfl, hs⟩
  · exact Relates.pure fun _ _ hs => hs

/-- What follows the decorators of a definition. -/
theorem definition (he : ∀ d, (b.inner d).Rules expr expr') (h : b.StmtRules rule rule')
    (decorators : List Expr) :
    b.Ends d
      (do
        let t ← peek
        if t.isWord "def" then Parser.functionDef expr rule decorators false
        else if t.isWord "class" then Parser.classDef expr rule decorators
        else if t.isWord "async" && (← peekNext).isWord "def" then
          let _ ← advance
          Parser.functionDef expr rule decorators true
        else unexpected)
      (do
        let t ← peek
        if t.isWord "def" then Parser.functionDef expr' rule' decorators false
        else if t.isWord "class" then Parser.classDef expr' rule' decorators
        else if t.isWord "async" && (← peekNext).isWord "def" then
          let _ ← advance
          Parser.functionDef expr' rule' decorators true
        else unexpected) Eq := by
  intro ts us n m hs hn
  have ht := (b.lasts d).first hs
  have hasync : b.Results (fun r r' => r.1 = r'.1 ∧ b.after d r.2 r'.2)
      (outcome (if ((current ts).isWord "async" && (current (dropCurrent ts)).isWord "def") = true
        then (do
          let _ ← advance
          Parser.functionDef expr rule decorators true)
        else unexpected) n ts)
      (outcome (if ((current us).isWord "async" && (current (dropCurrent us)).isWord "def") = true
        then (do
          let _ ← advance
          Parser.functionDef expr' rule' decorators true)
        else unexpected) m us) := by
    rw [← isWord_eq ht]
    cases hw : (current ts).isWord "async" with
    | false => exact (Ends.of_agrees .unexpected) ts us n m hs hn
    | true =>
      have hcontent := isContent_of_isWord hw
      rw [← isWord_eq ((b.lasts d).first ((b.lasts d).drop hs hcontent))]
      split
      · exact functionDef he h _ _ _ _ n m ((b.lasts d).drop hs hcontent) hn
      · exact (Ends.of_agrees .unexpected) ts us n m hs hn
  show b.Results _
    (outcome (if (current ts).isWord "def" = true then _ else
      if (current ts).isWord "class" = true then _ else _) n ts)
    (outcome (if (current us).isWord "def" = true then _ else
      if (current us).isWord "class" = true then _ else _) m us)
  rw [← isWord_eq ht, ← isWord_eq ht]
  split
  · exact functionDef he h _ _ ts us n m hs hn
  · split
    · exact classDef he h _ ts us n m hs hn
    · exact hasync

/-- Lines that items take, and what comes after them.  The first run may come to its end after a
line only if it fails there. -/
theorem manyUpTo_bind {item item' : Parser (Option α)}
    (hitem : b.Relates (b.within d) item item' (Relates.Item Eq (b.after d) (b.within d)))
    (hnone : ∀ ts n, (current ts).kind = .endMarker → outcome item n ts = .ok (none, ts))
    {f g : List α → Parser β} (hfg : ∀ xs, b.Ends d (f xs) (g xs) Eq)
    (hfails : ∀ xs ts n, (current ts).kind = .endMarker → ∃ e, outcome (f xs) n ts = .error e)
    {bound bound' : List Token} (hle : bound.length ≤ bound'.length) :
    b.Follows d (manyUpTo item bound >>= f) (manyUpTo item' bound' >>= g) Eq := by
  induction bound generalizing bound' f g with
  | nil => exact fun _ _ _ _ _ _ => .excused b.fuel
  | cons t bound ih =>
    cases bound' with
    | nil => exact absurd hle (Nat.not_succ_le_zero _)
    | cons t' bound' =>
      refine follows_of_ends ?_ fun ts n hended => ?_
      · rw [manyUpTo, manyUpTo, bind_assoc, bind_assoc]
        refine Relates.bind hitem fun o o' => ?_
        cases o with
        | none =>
          cases o' with
          | none =>
            rw [pure_bind, pure_bind]
            exact hfg []
          | some => exact fun _ _ _ _ hs => hs.elim
        | some x =>
          cases o' with
          | none => exact fun _ _ _ _ hs => hs.elim
          | some y =>
            rintro ts us n m ⟨rfl, hs⟩ hn
            dsimp only
            rw [bind_assoc, bind_assoc]
            simp only [pure_bind]
            exact ih (fun xs => hfg (x :: xs)) (fun xs => hfails (x :: xs))
              (Nat.le_of_succ_le_succ hle) ts us n m hs hn
      · obtain ⟨e, he⟩ := hfails [] ts n hended
        refine ⟨e, ?_⟩
        rw [manyUpTo, bind_assoc, outcome_bind, hnone ts n hended]
        show outcome (Pure.pure [] >>= f) n ts = _
        rw [pure_bind, he]

theorem decorated (he : ∀ d, (b.inner d).Rules expr expr') (h : b.StmtRules rule rule') :
    b.Ends d (decorated expr rule) (decorated expr' rule') Eq := by
  intro ts us n m hs hn
  have hle : (current ts :: ts).length ≤ (current us :: us).length :=
    Nat.succ_le_succ ((b.lasts d).length_le hs)
  refine manyUpTo_bind (decoratorLine he) (fun ts n hended => ?_) (definition he h)
    (fun xs ts n hended => ?_) hle ts us n m (b.after_of_within hs) hn
  · rw [Parser.decoratorLine, outcome_bind, eatOp, outcome_eatIf, isOp_endMarker hended]
    rfl
  · refine ⟨⟨refusal (current ts).kind, (current ts).span⟩, ?_⟩
    show outcome (if (current ts).isWord "def" = true then _ else
      if (current ts).isWord "class" = true then _ else _) n ts = _
    rw [isWord_endMarker hended, isWord_endMarker hended]
    show outcome (if ((current ts).isWord "async" && (current (dropCurrent ts)).isWord "def") = true
      then _ else unexpected) n ts = _
    rw [isWord_endMarker hended]
    exact outcome_unexpected

theorem asyncStatement (he : ∀ d, (b.inner d).Rules expr expr') (h : b.StmtRules rule rule') :
    b.Ends d (asyncStatement expr rule) (asyncStatement expr' rule') Eq := by
  refine .bind_eq (.expectWord _) fun _ => .bind .peek fun t u ht => ?_
  rw [isWord_of_sees ht "def", isWord_of_sees ht "for", isWord_of_sees ht "with"]
  exact .ite (functionDef he h _ _) (.ite (forLoop he h _)
    (.ite (withBlock he h _) (.of_agrees .unexpected)))

/-- A rule whose value is one statement. -/
theorem single {p q : Parser Stmt} (h : b.Ends d p q Eq) :
    b.Ends d (do return [← p]) (do return [← q]) Eq := .map_eq h

theorem statement (he : ∀ d, (b.inner d).Rules expr expr') (h : b.StmtRules rule rule') :
    b.Ends d (statement expr rule) (statement expr' rule') Eq := by
  refine .peek_bind fun t u ht => ?_
  rw [isOp_eq ht, ← b.kind ht]
  refine Relates.ite (single (decorated he h)).known ?_
  by_cases hname : t.kind = .name
  · have htext := text_eq ht (by rw [hname]; exact nofun) (by rw [hname]; exact nofun)
    rw [if_pos hname, if_pos hname, ← htext]
    split
    · refine Relates.mono (h.conditional d) (fun ts us hs => ⟨?_, hs.2⟩) fun _ _ _ _ hr => hr
      rw [hs.1, hname]
      rfl
    · exact (single (whileLoop he h)).known
    · exact (single (forLoop he h _)).known
    · exact (single (tryBlock he h)).known
    · exact (single (withBlock he h _)).known
    · exact (single (functionDef he h _ _)).known
    · exact (single (classDef he h _)).known
    · exact (single (asyncStatement he h)).known
    · exact (simpleStatements he).known
  · rw [if_neg hname, if_neg hname]
    exact (simpleStatements he).known

/-! ## All rules -/

theorem body (he : ∀ d, (b.inner d).Rules expr expr') (h : b.StmtRules rule rule') :
    b.StmtRules (StmtRule.body expr rule) (StmtRule.body expr' rule') := by
  refine ⟨fun {r} d hr => ?_, fun d => ?_⟩
  · cases r with
    | statement => exact statement he h
    | suite => exact suite he h
    | conditional => exact absurd rfl hr
  · exact Relates.bind_eq (conditional_ends he h) fun _ => Relates.pure fun _ _ hs => ⟨rfl, hs⟩

theorem fileItem (h : b.StmtRules rule rule') :
    b.Relates (b.within 0) (fileItem rule) (fileItem rule')
      (Relates.Item Eq (b.after 0) (b.within 0)) := by
  intro ts us n m hs hn
  have ht := (b.lasts 0).first hs
  have hitem : b.Relates (b.within 0) (do return some (← rule .statement))
      (do return some (← rule' .statement)) (Relates.Item Eq (b.after 0) (b.within 0)) :=
    Relates.bind_eq (h.below 0 nofun) fun _ => Relates.pure fun _ _ hs => ⟨rfl, hs⟩
  rw [Parser.fileItem, Parser.fileItem, outcome_peek_bind, outcome_peek_bind, ← b.kind ht]
  split
  · exact .ok hs
  · next hk => exact .ok ⟨rfl, b.newline hs hk⟩
  · exact hitem ts us n m hs hn

end StmtRules

/-- The rules of statements agree at all levels of references, if those of expressions do. -/
theorem stmtRules_run {spell spell' : List Char → List Char}
    (he : ∀ {fuel fuel' : Nat}, fuel ≤ fuel' →
      ∀ d, (b.inner d).Rules (Rule.run spell fuel) (Rule.run spell' fuel'))
    {fuel fuel' : Nat} (hle : fuel ≤ fuel') :
    b.StmtRules (StmtRule.run spell fuel) (StmtRule.run spell' fuel') := by
  induction fuel generalizing fuel' with
  | zero => exact ⟨fun _ _ _ _ _ _ _ _ => .excused b.fuel, fun _ _ _ _ _ _ _ => .excused b.fuel⟩
  | succ fuel ih =>
    cases fuel' with
    | zero => exact absurd hle (Nat.not_succ_le_zero fuel)
    | succ fuel' =>
      have hle := Nat.le_of_succ_le_succ hle
      exact .body (he hle) (ih hle)

end BlockLikeness

/-- Programs whose tokens match to their ends are read alike, if the rules of statements are. -/
theorem TokenLikeness.file_of_rules {c : TokenLikeness} {eof : c.token (current []) (current [])}
    {rule rule' : StmtRule → Parser (List Stmt)} (h : (c.throughoutBlocks eof).StmtRules rule rule') :
    (c.throughout eof).Agrees (file rule) (file rule') Eq := by
  refine .bind (Q := fun xs ys => xs = ys) (.many_eq fun _ => Relates.mono h.fileItem ?_ ?_) ?_
  · exact fun _ _ hs => hs
  · intro o o' ts us hr
    cases o <;> cases o'
    · exact ⟨rfl, hr⟩
    · exact hr.elim
    · exact hr.elim
    · exact ⟨congrArg some hr.1, hr.2⟩
  · rintro xs _ rfl
    exact .pure rfl

/-- Programs whose tokens match to their ends are read alike, if the rules of expressions are. -/
theorem TokenLikeness.file_throughout {c : TokenLikeness} (eof : c.token (current []) (current []))
    {spell spell' : List Char → List Char}
    (he : ∀ {fuel fuel' : Nat}, fuel ≤ fuel' →
      (c.throughout eof).Rules (Rule.run spell fuel) (Rule.run spell' fuel'))
    {fuel fuel' : Nat} (hle : fuel ≤ fuel') :
    (c.throughout eof).Agrees (file (StmtRule.run spell fuel)) (file (StmtRule.run spell' fuel'))
      Eq :=
  file_of_rules (BlockLikeness.stmtRules_run (b := c.throughoutBlocks eof) (fun hle _ => he hle) hle)

end PythonSyntax.Parser
