import PythonSyntax.Proofs.Origin.Tree

/-
Fields whose expressions come from tokens.

The tokens of a field are a stream of the program if its literal is in one.  So if the rules yield trees
that are shown by the streams, so do runs of literals.
-/

namespace PythonSyntax

open PythonSyntax.Parser PythonSyntax.Parser.Likeness Node

variable {root ts us : List Token} {spell : List Char → List Char} {rule : Rule → Parser Expr}

/-! ## Trees of rules -/

/-- An expression is shown by the streams; if it is a starred item, the tokens that were taken spell one. -/
structure IsItem (root ts : List Token) (e : Expr) (us : List Token) : Prop where
  shown : Shown root (.expr e)
  starred : isStarred e = true → ∃ w, ts = w ++ us ∧ IsStarItem w

/-- A stream is what is left right behind an opening bracket. -/
def Behind (root ts : List Token) : Prop := ∃ t, t.opens = true ∧ Ahead root (t :: ts)

/-- The rules yield items of the streams of a program. -/
structure RulesShow (root : List Token) (rule : Rule → Parser Expr) : Prop where
  below {r : Rule} {ts : List Token} : isWhole r = true → Ensures root ts (rule r) (IsItem root ts)
  bracketed {ts : List Token} : (current ts).opens = true →
    Ensures root ts (rule .bracketed) (IsItem root ts)
  dictOrSet {ts : List Token} : Behind root ts →
    Ensures root ts (rule .dictOrSet) fun e _ => Shown root (.expr e) ∧ isStarred e = false

/-- A rule of which the tree is all that is asked for. -/
theorem RulesShow.tree (h : RulesShow root rule) {r : Rule} (hr : isWhole r = true) (ts : List Token) :
    Ensures root ts (rule r) fun e _ => Shown root (.expr e) := (h.below hr).mono fun _ _ he => he.shown

/-! ## Fields -/

/-- An expression is that of a field in a literal of a stream. -/
def IsField (root : List Token) (field : List Char) : Prop :=
  ∃ src t, IsStreamOf root src ∧ t ∈ src ∧ IsFieldOf t field

/-- The fields among pieces are shown. -/
def PiecesShown (root : List Token) (ps : List Piece) : Prop := ∀ e, .value e ∈ ps → Shown root (.expr e)

theorem piecesShown_text {t : Text} : PiecesShown root [.text t] := by
  intro e he
  cases List.mem_singleton.mp he

theorem PiecesShown.append {ps qs : List Piece} (hps : PiecesShown root ps) (hqs : PiecesShown root qs) :
    PiecesShown root (ps ++ qs) := fun e he => (List.mem_append.mp he).elim (hps e) (hqs e)

/-- The fields of a body are fields of the program. -/
def FieldsIn (root : List Token) (isRaw : Bool) (levels : Nat) (text : List Char) : Prop :=
  ∀ field, HasField isRaw levels text field → IsField root field

section

variable {isRaw : Bool} {levels : Nat} {text field tail rest : List Char}

namespace FieldsIn

theorem behind (h : FieldsIn root isRaw levels text) (hrest : GoesOn isRaw text rest) :
    FieldsIn root isRaw levels rest := fun _ hfield => h _ (.behind hrest hfield)

theorem next (h : FieldsIn root isRaw (levels + 1) text) (hfield : NextField isRaw text field tail) :
    IsField root field := h _ (.next hfield)

theorem inSpec (h : FieldsIn root isRaw (levels + 1) text) (hfield : NextField isRaw text field tail)
    {r : List Char} (hr : BehindConversion tail (':' :: r)) : FieldsIn root isRaw levels (splitSpec 0 r).1 :=
  fun _ hinner => h _ (.inSpec hfield hr hinner)

end FieldsIn

/-- A rule, or a `yield`. -/
theorem RulesShow.yieldOr (h : RulesShow root rule) {r : Rule} (hr : isWhole r = true) :
    Ensures root ts (yieldOr rule r) fun e _ => Shown root (.expr e) :=
  .atWord_bind (.ite (fun _ => h.tree rfl ts) fun _ => h.tree hr ts)

theorem ensures_embedded (h : RulesShow root rule) (htext : IsField root text) {base : Nat} :
    Ensures root ts (embedded rule text base) fun e _ => Shown root (.expr e) := by
  refine .read_bind fun n => .ofExcept_bind fun tokens htokens => ?_
  obtain ⟨src, t, hsrc, ht, hfield⟩ := htext
  have htokens : Ahead root tokens := ⟨(readable_of_tokenizeEmbedded htokens).1, tokens,
    .field hsrc ht hfield htokens, List.suffix_rfl⟩
  refine .withTokens htokens (.atKind_bind (.ite (fun _ => .fail) fun _ => ?_))
  exact (h.yieldOr rfl).bind fun e us he => .atKind_bind (.ite (fun _ => .pure he) fun _ => .fail)

/-- What is left behind a format spec, if there is one, is what the search for its end leaves. -/
theorem ensures_fieldSpec {spec : List Char → Nat → Parser (List Piece)}
    (hspec : ∀ r x, text = ':' :: r →
      Ensures root ts (spec (splitSpec 0 r).1 x) fun ps _ => PiecesShown root ps)
    {offset : Nat} :
    Ensures root ts (fieldSpec spec text offset) fun r _ => (∀ e ∈ r.1, Shown root (.expr e)) ∧
      (r.2.1 = text ∨ ∃ s, text = ':' :: s ∧ r.2.1 = (splitSpec 0 s).2) := by
  unfold fieldSpec
  split
  · next r =>
    refine (hspec r _ rfl).bind fun ps us hps => .pure ⟨?_, .inr ⟨r, rfl, rfl⟩⟩
    rintro _ ⟨⟩
    exact shown_joined hps
  · exact .pure ⟨nofun, .inl rfl⟩

/-- What a field shows of itself is a text. -/
theorem exists_text_of_fieldShown {source : List Char} {shown : Option Piece} {x y : Nat} {p : Piece}
    (h : fieldShown spell source tail x = (shown, rest, y)) (hp : p ∈ shown) : ∃ t, p = .text t := by
  unfold fieldShown at h
  split at h
  · cases h
    cases hp
    exact ⟨_, rfl⟩
  · cases h
    cases hp

theorem ensures_field (h : RulesShow root rule) {spec : List Char → Nat → Parser (List Piece)}
    (hspec : ∀ us inner x, FieldsIn root isRaw levels inner →
      Ensures root us (spec inner x) fun ps _ => PiecesShown root ps)
    (hfields : FieldsIn root isRaw (levels + 1) text) {chunk r : List Char}
    (hcut : splitLiteral isRaw false text = (chunk, '{' :: r)) (hr : r.head? ≠ some '{') {start : Nat} :
    Ensures root ts (Parser.field spell rule spec r start) fun res _ =>
      PiecesShown root res.1 ∧ GoesOn isRaw text res.2.1 := by
  unfold Parser.field
  refine .ofExcept_bind ?_
  rintro ⟨source, tail⟩ hsplit
  refine .ite (fun _ => .reject) fun hvisible => ?_
  have hnext : NextField isRaw text source tail :=
    .mk hcut hr (splitField_moved hsplit 0 0) (Bool.eq_false_iff.mpr hvisible)
  refine (ensures_embedded h (hfields.next hnext)).bind fun value us hvalue => ?_
  generalize hshown : fieldShown spell source tail (start + byteLength source) = shown
  obtain ⟨shown, text₁, offset₁⟩ := shown
  refine .ofExcept_bind ?_
  rintro ⟨conversion, text₂, offset₂⟩ hconversion
  have hbehind : BehindConversion tail text₂ := .mk hshown hconversion
  refine (ensures_fieldSpec fun s x hs => hspec us _ x (hfields.inSpec hnext (hs ▸ hbehind))).bind ?_
  rintro ⟨formatSpec, text₃, offset₃⟩ vs ⟨hformat, hrest⟩
  refine .ofExcept fun ⟨ps, rest, offset⟩ hend => ?_
  obtain ⟨rfl, rfl⟩ := fieldEnd_eq_ok hend
  constructor
  · intro e he
    rcases List.mem_append.mp he with he | he
    · obtain ⟨t, ht⟩ := exists_text_of_fieldShown hshown (Option.mem_toList.mp he)
      cases ht
    · cases List.mem_singleton.mp he
      refine shown_expr rfl rfl (List.forall_mem_cons.mpr ⟨hvalue, fun e he => ?_⟩)
      exact hformat e (Option.mem_toList.mp he)
  · obtain rfl | ⟨s, rfl, hs⟩ := hrest
    · exact .plain hnext hbehind
    · exact .spec hnext hbehind hs.symm

/-! ## Bodies -/

theorem ensures_textPiece (l : Literal) (chunk : List Char) :
    Ensures root ts (textPiece l chunk) fun ps _ => PiecesShown root ps := by
  unfold textPiece
  dsimp only
  split
  · exact .pure piecesShown_text
  · exact .failAt

theorem ensures_piecesUpTo {l : Literal} {hole : List Char → Nat → Parser (List Piece × List Char × Nat)}
    (hhole : ∀ us text chunk r x, FieldsIn root l.isRaw levels text →
      splitLiteral l.isRaw false text = (chunk, '{' :: r) → r.head? ≠ some '{' →
        Ensures root us (hole r x) fun res _ => PiecesShown root res.1 ∧ GoesOn l.isRaw text res.2.1)
    (bound : Nat) (htext : FieldsIn root l.isRaw levels text) {x : Nat} :
    Ensures root ts (piecesUpTo l hole bound text x) fun ps _ => PiecesShown root ps := by
  induction bound generalizing ts text x with
  | zero => exact .fail
  | succ bound ih =>
    unfold piecesUpTo
    generalize hcut : splitLiteral l.isRaw false text = cut
    obtain ⟨chunk, rest⟩ := cut
    dsimp only
    -- a doubled brace and what follows it
    have hbrace : ∀ (b : Char) (r : List Char) (brace : Text), b = '{' ∨ b = '}' → rest = b :: b :: r →
        Ensures root ts (do
          let before ← textPiece l chunk
          let after ← piecesUpTo l hole bound r (x + byteLength chunk + 2)
          return before ++ .text brace :: after) fun ps _ => PiecesShown root ps := by
      intro b r brace hb hrest
      have hr := htext.behind (.doubled hb (hrest ▸ hcut))
      refine (ensures_textPiece l chunk).bind fun before us hbefore => (ih hr).bind fun after vs hafter => ?_
      exact .pure (hbefore.append (PiecesShown.append piecesShown_text hafter))
    split
    · exact ensures_textPiece l chunk
    · exact hbrace '{' _ _ (.inl rfl) rfl
    · exact hbrace '}' _ _ (.inr rfl) rfl
    · next r hr =>
      have hhead : r.head? ≠ some '{' := fun hhead => by
        obtain ⟨s, rfl⟩ := List.head?_eq_some_iff.mp hhead
        exact hr s rfl
      refine (ensures_textPiece l chunk).bind fun before us hbefore =>
        (hhole us text chunk r _ htext hcut hhead).bind ?_
      rintro ⟨ps, rest, offset⟩ vs ⟨hps, hrest⟩
      exact (ih (htext.behind hrest)).bind fun after ws hafter => .pure ((hbefore.append hps).append hafter)
    · exact .reject

theorem ensures_pieces (h : RulesShow root rule) {l : Literal} (htext : FieldsIn root l.isRaw levels text)
    {x : Nat} : Ensures root ts (pieces spell rule l levels text x) fun ps _ => PiecesShown root ps := by
  induction levels generalizing ts text x with
  | zero => exact ensures_piecesUpTo (fun _ _ _ _ _ _ _ _ => .reject) _ htext
  | succ levels ih =>
    refine ensures_piecesUpTo (fun us text chunk r start ht hcut hr => ?_) _ htext
    exact ensures_field h (fun vs inner x hinner => ih hinner) ht hcut hr

end

/-! ## Runs of literals -/

/-- A run of literals of a stream yields a tree that is shown. -/
theorem ensures_strings (h : RulesShow root rule) {tokens : List Token}
    (htokens : ∀ t ∈ tokens, t.kind = .string ∧ ∃ src, IsStreamOf root src ∧ t ∈ src) :
    Ensures root ts (strings spell rule tokens) fun e _ => Shown root (.expr e) ∧ isStarred e = false := by
  have hpieces : ∀ t ∈ tokens, ∀ us,
      Ensures root us (literalPieces spell rule t) fun ps _ => PiecesShown root ps := by
    intro t ht us
    obtain ⟨hk, src, hsrc, hmem⟩ := htokens t ht
    unfold literalPieces
    dsimp only
    refine .ite (fun hformatted => ensures_pieces h ?_) fun _ => ?_
    · exact fun field hfield => ⟨src, t, hsrc, hmem, hk, hformatted, hfield⟩
    · split
      · exact .pure piecesShown_text
      · exact .failAt
  have htexts : ∀ t ∈ tokens, ∀ us, Ensures root us (literalText t) fun _ _ => True := by
    intro t _ us
    unfold literalText
    split
    · exact .pure trivial
    · exact .failAt
  unfold strings
  split
  · exact .unexpected
  · refine .ite (fun _ => .failAt) fun _ => .ite (fun _ => ?_) fun _ => ?_
    · refine (Ensures.mapM hpieces).bind fun pss us hpss => .pure ⟨shown_joined fun e he => ?_, rfl⟩
      obtain ⟨ps, hps, he⟩ := List.mem_flatten.mp he
      exact hpss ps hps e he
    · exact (Ensures.mapM htexts).bind fun _ _ _ => .pure ⟨shown_constant, rfl⟩

end PythonSyntax
