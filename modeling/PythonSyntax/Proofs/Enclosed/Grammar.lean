import PythonSyntax.Proofs.Enclosed.Layout
import PythonSyntax.Proofs.Parser.Start
import PythonSyntax.Proofs.Spelling.Take

/-
The grammar of a field and of parentheses.

A field holds what stands between parentheses, but its list of items is read by another rule: there
no item names its value, no clause follows the first item, and a comma that no expression follows ends
the list.  None of this is to be seen if the text is passed over by the search for the end of a field
and holds no clause of a comprehension outside its brackets.
-/

namespace PythonSyntax

open PythonSyntax.Parser PythonSyntax.Parser.TokenLikeness PythonSyntax.Parser.Likeness

variable {whole : Prop} {P : Token → Prop} {last : TokenKind} {tail ts us : List Token} {k : Nat}
  {spell : List Char → List Char}

/-! ## Streams -/

namespace Enclosed

/-- Where the text ends the parenthesis is closed. -/
def Stops (last kind : TokenKind) (op : String) : Prop :=
  kind = last ∧ (last = .endMarker ∨ last = .newline) ∧ op = ")"

theorem first (h : Enclosed P last tail k ts us) : Same False (current ts) (current us) ∨
    k = 0 ∧ ∃ op, Stops last (current ts).kind op ∧ (current us).isOp op = true := by
  obtain ⟨has, hgrouped, hstop, hlast, hclose, -⟩ := h
  cases has with
  | nil =>
    cases hgrouped
    exact .inr ⟨rfl, ")", ⟨hstop, hlast, rfl⟩, hclose⟩
  | cons htu => exact .inl htu

/-- A token with text is taken, after which `j` brackets are open. -/
theorem dropCurrent {j : Nat} (h : Enclosed P last tail k ts us)
    (ht : (current ts).kind.isContent = true)
    (hj : ∀ as, Grouped P k (current ts :: as) → Grouped P j as) :
    Enclosed P last tail j (dropCurrent ts) (dropCurrent us) := by
  obtain ⟨has, hgrouped, hstop, hlast, hclose, hrest⟩ := h
  cases has with
  | nil =>
    have ht : last.isContent = true := hstop ▸ ht
    rcases hlast with rfl | rfl <;> cases ht
  | cons htu has =>
    have hlater : Enclosed P last tail j _ _ := .mk has (hj _ hgrouped) hstop hlast hclose hrest
    rwa [List.cons_append, List.cons_append, dropCurrent_cons (by simp), dropCurrent_cons (by simp)]

theorem length_le (h : Enclosed P last tail k ts us) : ts.length ≤ us.length := by
  obtain ⟨has, -, -, -, -, hrest⟩ := h
  rw [List.length_append, List.length_append, has.length_eq, List.length_cons, List.length_cons]
  omega

end Enclosed

theorem isBracket_of_isPlain {t : Token} (h : t.isPlain = true) (hk : t.kind = .op) :
    Layout.isOpening t.text = false ∧ Layout.isClosing t.text = false := by
  rw [Token.isPlain, hk, Bool.and_eq_true, Bool.not_eq_true', beq_self_eq_true, Bool.true_and,
    Layout.isBracketText, Bool.or_eq_false_iff] at h
  exact h.2

theorem Grouped.tail_plain {t : Token} {as : List Token} (ht : t.isPlain = true)
    (h : Grouped P k (t :: as)) : Grouped P k as := by
  cases h with
  | plain _ _ h => exact h
  | opening hk hopen =>
    rw [(isBracket_of_isPlain ht hk).1] at hopen
    cases hopen
  | closing hk hclose =>
    rw [(isBracket_of_isPlain ht hk).2] at hclose
    cases hclose

theorem Grouped.tail_opening {t : Token} {as : List Token} (hk : t.kind = .op)
    (ht : Layout.isOpening t.text = true) (h : Grouped P k (t :: as)) : Grouped P (k + 1) as := by
  cases h with
  | plain hplain =>
    rw [(isBracket_of_isPlain hplain hk).1] at ht
    cases ht
  | opening _ _ h => exact h
  | closing _ hclose =>
    rw [Layout.isOpening_of_isClosing hclose] at ht
    cases ht

theorem Grouped.tail_closing {t : Token} {as : List Token} (hk : t.kind = .op)
    (ht : Layout.isClosing t.text = true) (h : Grouped P (k + 1) (t :: as)) : Grouped P k as := by
  cases h with
  | plain hplain =>
    rw [(isBracket_of_isPlain hplain hk).2] at ht
    cases ht
  | opening _ hopen =>
    rw [Layout.isOpening_of_isClosing ht] at hopen
    cases hopen
  | closing _ _ h => exact h

/-- Outside all brackets the text is at its end where the parenthesis is closed, or there is a token
that closes nothing. -/
theorem Enclosed.outside (h : Enclosed P last tail 0 ts us) :
    ((current ts).kind = last ∧ (current us).isOp ")" = true ∧ us = current us :: tail) ∨
    ((current ts).kind ≠ last ∧ (current us).isOp ")" = false ∧
      ((current ts).isPlain = true → P (current ts))) := by
  obtain ⟨has, hgrouped, hstop, hlast, hclose, -⟩ := h
  cases has with
  | nil => exact .inl ⟨hstop, hclose, rfl⟩
  | @cons t u as bs htu has =>
    have hop : u.isOp ")" = t.isOp ")" := (isOp_eq (c := enclosed True) htu _).symm
    have hnot : t.isOp ")" = true → False := by
      intro hclose
      obtain ⟨hk, htext⟩ := kind_text_of_isOp hclose
      have hclosing : Layout.isClosing t.text = true := by
        rw [htext]
        rfl
      cases hgrouped with
      | plain hplain => exact nomatch hclosing.symm.trans (isBracket_of_isPlain hplain hk).2
      | opening _ hopen => exact nomatch hopen.symm.trans (Layout.isOpening_of_isClosing hclosing)
    refine .inr ⟨?_, hop.trans (Bool.eq_false_iff.mpr hnot), ?_⟩
    · show t.kind ≠ last
      intro hk
      have hcontent : t.kind.isContent = true := by
        cases hgrouped with
        | plain hplain => exact isContent_of_isPlain hplain
        | opening hk' => exact hk' ▸ rfl
      rw [hk] at hcontent
      rcases hlast with rfl | rfl <;> cases hcontent
    · intro hplain
      cases hgrouped with
      | plain _ hP => exact hP rfl
      | opening hk hopen => exact nomatch hopen.symm.trans (isBracket_of_isPlain hplain hk).1

theorem isContent_of_op {t : Token} (hk : t.kind = .op) : t.kind.isContent = true := by
  rw [hk]
  rfl

/-- The likeness of a text and the text in parentheses. -/
def enclosing (whole : Prop) (P : Token → Prop) (last : TokenKind) (tail : List Token) :
    Likeness where
  toTokenLikeness := enclosed whole
  streams := Enclosed P last tail
  stops := Enclosed.Stops last
  stops_cases h := ⟨h.2.1.imp h.1.trans h.1.trans, .inl h.2.2⟩
  stop _ _ _ := trivial
  first := Enclosed.first
  plain h ht := h.dropCurrent (isContent_of_isPlain ht) fun _ => Grouped.tail_plain ht
  opening h hk ht := h.dropCurrent (isContent_of_op hk) fun _ => Grouped.tail_opening hk ht
  closing h hk ht := h.dropCurrent (isContent_of_op hk) fun _ => Grouped.tail_closing hk ht
  length_le := Enclosed.length_le

/-- The rules of expressions agree on a text and on the text in parentheses. -/
theorem rules_enclosing {fuel fuel' : Nat} (hle : fuel ≤ fuel') :
    (enclosing whole P last tail).Rules (Rule.run spell fuel) (Rule.run spell fuel') := by
  -- the texts of literals are the same, and so are the fields in them
  refine rules_around False False False (fun rule rule' hrule => ?_) hle
  exact .of_ne_nil fun ts us hts hne _ => (strings_readsSame hrule hts hne _).enclosed whole

/-! ## The end of the text -/

/-- What is known of the words outside all brackets, if the text is `whole`: no item names its value,
and no clause of a comprehension follows one. -/
structure Outside (whole : Prop) (t : Token) : Prop where
  named : whole → t.text ≠ ":="
  clause : whole → t.text ≠ "for"

section

variable {n m : Nesting} {fuel fuel' : Nat}

theorem isOp_outside (hs : Enclosed (Outside whole) last tail 0 ts us) (hwhole : whole) :
    (current us).isOp ":=" = false := by
  rw [← isOp_of_sees (c := enclosing whole (Outside whole) last tail) (sees hs) (.of rfl),
    Bool.eq_false_iff]
  intro hop
  have hplain := isPlain_of_isOp hop rfl
  have ht := token_of_sees (c := enclosing whole (Outside whole) last tail) (sees hs)
    (isContent_of_isPlain hplain)
  rcases hs.outside with ⟨-, hclose, -⟩ | ⟨-, -, hP⟩
  · rw [← isOp_eq (c := enclosed whole) ht, Token.isOp, (kind_text_of_isOp hop).2, Bool.and_comm]
      at hclose
    cases hclose
  · exact (hP hplain).named hwhole (kind_text_of_isOp hop).2

theorem isWord_outside (hs : Enclosed (Outside whole) last tail 0 ts us) (hwhole : whole) :
    (current us).isWord "for" = false := by
  rw [← isWord_of_sees (c := enclosing whole (Outside whole) last tail) (sees hs), Bool.eq_false_iff]
  intro hword
  have hplain := isPlain_of_isWord hword
  have ht := token_of_sees (c := enclosing whole (Outside whole) last tail) (sees hs)
    (isContent_of_isPlain hplain)
  rw [Token.isWord, Bool.and_eq_true, beq_iff_eq, beq_iff_eq] at hword
  rcases hs.outside with ⟨-, hclose, -⟩ | ⟨-, -, hP⟩
  · rw [← isOp_eq (c := enclosed whole) ht, Token.isOp, hword.1] at hclose
    cases hclose
  · exact (hP hplain).clause hwhole hword.2

theorem beginsClause_outside (hs : Enclosed (Outside whole) last tail 0 ts us) (hwhole : whole) :
    beginsClause us = false := by
  rw [beginsClause, isWord_outside hs hwhole, Bool.false_or, Bool.and_eq_false_iff,
    Classical.or_iff_not_imp_left, Bool.not_eq_false]
  intro hasync
  rw [← isWord_of_sees (c := enclosing whole (Outside whole) last tail) (sees hs)] at hasync
  have hplain := isPlain_of_isWord hasync
  exact isWord_outside (hs.dropCurrent (isContent_of_isPlain hplain)
    fun _ => Grouped.tail_plain hplain) hwhole

/-- The end of a text, where the value is known. -/
def endOfText (last : TokenKind) (value : Expr) : Parser Expr := do
  if ← atKind last then return value else fail .fieldTrailing

/-- The end of what stands in parentheses, where the value is known. -/
def endOfGroup (value : Expr) : Parser Expr := do
  expectOp ")"
  return value

/-- Both texts are read to the end, with the same value. -/
def Ended (tail : List Token) (value value' : Expr) (_ us : List Token) : Prop :=
  value = value' ∧ us = tail

theorem outcome_endOfText (h : (current ts).kind = last) (value : Expr) :
    outcome (endOfText last value) n ts = .ok (value, ts) := by
  show outcome (if ((current ts).kind == last) = true then _ else _) n ts = _
  rw [if_pos (beq_iff_eq.mpr h)]
  rfl

theorem outcome_endOfText_trailing (h : (current ts).kind ≠ last) (value : Expr) :
    outcome (endOfText last value) n ts = .error ⟨.fieldTrailing, (current ts).span⟩ := by
  show outcome (if ((current ts).kind == last) = true then _ else _) n ts = _
  rw [if_neg (by rwa [beq_iff_eq])]
  rfl

theorem outcome_endOfGroup (h : (current us).isOp ")" = true) (value : Expr) :
    outcome (endOfGroup value) n us = .ok (value, dropCurrent us) := by
  rw [endOfGroup, outcome_bind_of (outcome_expectOp h)]
  rfl

/-- The text ends where the parenthesis is closed. -/
theorem relates_end (htail : tail ≠ []) (value : Expr) :
    (enclosed whole).Relates (Enclosed P last tail 0) (endOfText last value) (endOfGroup value)
      (Ended tail) := by
  intro ts us n m hs hn
  rcases hs.outside with ⟨hk, hclose, hus⟩ | hinside
  · rw [outcome_endOfText hk, outcome_endOfGroup hclose]
    refine .ok ⟨rfl, ?_⟩
    rw [hus]
    exact dropCurrent_cons htail
  · obtain ⟨hk, hclose, -⟩ := hinside
    rw [outcome_endOfText_trailing hk, endOfGroup, expectOp, outcome_bind, outcome_bind,
      outcome_expect, hclose]
    exact .error trivial

/-! ## Items -/

/-- A parser that gives up unless a comma or the end of the text comes first. -/
def Trailing (last : TokenKind) (p : Parser Expr) : Prop :=
  ∀ n ts, (current ts).isOp "," = false → (current ts).kind ≠ last →
    ∃ err, outcome p n ts = .error err ∧ (err.cause = .outOfFuel ∨ err.cause = .fieldTrailing)

/-- An item of a field and one between parentheses, and what follows them: after an item of a field
nothing else comes, and between parentheses a name may take its value. -/
theorem relates_item (hle : fuel < fuel') {f g : Expr → Parser Expr} {T : Expr → Expr → Streams}
    (hf : ∀ e, Trailing last (f e))
    (h : ∀ e, (enclosed whole).Relates (Enclosed (Outside whole) last tail 0) (f e) (g e) T) :
    (enclosed whole).Relates (Enclosed (Outside whole) last tail 0)
      (Rule.run spell fuel .starOrTest >>= f) (Rule.run spell fuel' .starOrNamed >>= g) T := by
  cases fuel with
  | zero => exact fun _ _ _ _ _ _ => .excused (.inl rfl)
  | succ fuel =>
    obtain ⟨fuel', rfl⟩ : ∃ k, fuel' = k + 2 := ⟨fuel' - 2, by omega⟩
    have hrules : ∀ {k}, fuel ≤ k → (enclosing whole (Outside whole) last tail).Rules
        (Rule.run spell fuel) (Rule.run spell k) := fun hk => rules_enclosing hk
    have hstar : (enclosing whole (Outside whole) last tail).Agrees (atOp "*") (atOp "*") Eq :=
      .atOp (.of rfl)
    have htest : (enclosing whole (Outside whole) last tail).Agrees (Rule.run spell fuel .test)
        (Rule.run spell fuel' .test) Eq := (hrules (by omega)).below rfl
    show (enclosed whole).Relates _ (starOr (Rule.run spell fuel) .test >>= f)
      (starOr (Rule.run spell (fuel' + 1)) .named >>= g) T
    rw [starOr, starOr, bind_assoc, bind_assoc]
    refine Relates.bind_eq (hstar 0) fun starred => ?_
    cases starred with
    | true => exact Relates.bind_eq ((hrules (by omega)).below rfl 0) h
    | false =>
      intro ts us n m hs hn
      show (enclosed whole).Results _ (outcome (Rule.run spell fuel .test >>= f) n ts)
        (outcome (Parser.named (Rule.run spell fuel') >>= g) m us)
      rw [Parser.named, bind_assoc, outcome_peek_bind, bind_assoc, outcome_bind, outcome_bind]
      refine (htest 0 ts us n m hs hn).bind ?_
      rintro ⟨e, vs⟩ ⟨_, ws⟩ ⟨rfl, hs'⟩
      dsimp only
      rw [bind_assoc]
      have hsees : (current vs).isOp ":=" = (current ws).isOp ":=" :=
        isOp_of_sees (c := enclosing whole (Outside whole) last tail) (sees hs') (.of rfl)
      cases hop : (current ws).isOp ":=" with
      | false =>
        rw [outcome_bind_of (outcome_eatOp_neg hop)]
        exact h e vs ws n m hs' hn
      | true =>
        have hwhole : ¬ whole := by
          intro hwhole
          have hfalse := isOp_outside hs' hwhole
          rw [hop] at hfalse
          cases hfalse
        obtain ⟨hkind, htext⟩ := kind_text_of_isOp (hsees.trans hop)
        obtain ⟨hlast, -⟩ := hs'.outside.resolve_left fun hend => by
          have hclose := hend.2.1
          rw [Token.isOp, (kind_text_of_isOp hop).2, Bool.and_comm] at hclose
          cases hclose
        have hcomma : (current vs).isOp "," = false := by
          rw [Token.isOp, htext, Bool.and_comm]
          rfl
        obtain ⟨err, herr, hcause⟩ := hf e n vs hcomma hlast
        rw [herr]
        exact .excused (hcause.imp_right fun htrailing => ⟨hwhole, htrailing⟩)

/-- The items of a field after the first: the list ends at a comma that no expression follows. -/
def fieldItem (rule : Rule → Parser Expr) : Parser (Option Expr) := do
  if ← eatOp "," then optional startsExpression (rule .starOrTest) else return none

/-- The items between parentheses after the first. -/
def groupItem (rule : Rule → Parser Expr) : Parser (Option Expr) := do
  if ← eatOp "," then
    if ← atOp ")" then return none else return some (← rule .starOrNamed)
  else return none

section

variable {rule : Rule → Parser Expr}

theorem fieldItem_none (h : (current ts).isOp "," = false) :
    outcome (fieldItem rule) n ts = .ok (none, ts) := by
  rw [fieldItem, ifEatOp_neg h]
  rfl

theorem fieldItem_comma (h : (current ts).isOp "," = true) :
    outcome (fieldItem rule) n ts = if beginsExpression (current (dropCurrent ts)) = true
      then outcome (do return some (← rule .starOrTest)) n (dropCurrent ts)
      else .ok (none, dropCurrent ts) := by
  rw [fieldItem, ifEatOp_pos h]
  show outcome (if beginsExpression (current (dropCurrent ts)) = true then _ else _) n _ = _
  split <;> rfl

theorem groupItem_none (h : (current ts).isOp "," = false) :
    outcome (groupItem rule) n ts = .ok (none, ts) := by
  rw [groupItem, ifEatOp_neg h]
  rfl

theorem groupItem_comma (h : (current ts).isOp "," = true) :
    outcome (groupItem rule) n ts = if (current (dropCurrent ts)).isOp ")" = true
      then .ok (none, dropCurrent ts)
      else outcome (do return some (← rule .starOrNamed)) n (dropCurrent ts) := by
  rw [groupItem, ifEatOp_pos h, outcome_bind_of outcome_atOp]
  split <;> rfl

end

section

variable {α β : Type} {item : Parser (Option α)} {after : List α → Parser β} {t : Token}
  {bound : List Token}

theorem outcome_many_bind :
    outcome (many item >>= after) n ts = outcome (manyUpTo item (current ts :: ts) >>= after) n ts :=
  rfl

theorem manyUpTo_none (h : outcome item n ts = .ok (none, us)) :
    outcome (manyUpTo item (t :: bound) >>= after) n ts = outcome (after []) n us := by
  rw [manyUpTo, bind_assoc, outcome_bind_of h]
  rfl

theorem manyUpTo_item {p : Parser α} (h : outcome item n ts = outcome (do return some (← p)) n us) :
    outcome (manyUpTo item (t :: bound) >>= after) n ts =
      outcome (p >>= fun a => manyUpTo item bound >>= fun as => after (a :: as)) n us := by
  rw [manyUpTo, bind_assoc, outcome_bind, h, outcome_bind, outcome_bind]
  cases outcome p n us with
  | error err => rfl
  | ok r =>
    show outcome ((manyUpTo item bound >>= fun as => pure (r.1 :: as)) >>= after) n r.2 = _
    simp only [bind_assoc, pure_bind]
    rfl

end

theorem trailing_endOfText (value : Expr) : Trailing last (endOfText last value) :=
  fun _ _ _ hk => ⟨_, outcome_endOfText_trailing hk value, .inr rfl⟩

theorem trailing_items {rule : Rule → Parser Expr} {bound : List Token} (value : List Expr → Expr) :
    Trailing last (manyUpTo (fieldItem rule) bound >>= fun es => endOfText last (value es)) := by
  intro n ts hcomma hk
  cases bound with
  | nil => exact ⟨_, rfl, .inl rfl⟩
  | cons t bound =>
    rw [manyUpTo_none (fieldItem_none hcomma)]
    exact trailing_endOfText _ n ts hcomma hk

/-- The items after the first, up to the end of the text. -/
theorem relates_items (hle : fuel < fuel') (htail : tail ≠ []) {bound bound' : List Token}
    (hbound : bound.length ≤ bound'.length) (value : List Expr → Expr) :
    (enclosed whole).Relates (Enclosed (Outside whole) last tail 0)
      (manyUpTo (fieldItem (Rule.run spell fuel)) bound >>= fun es => endOfText last (value es))
      (manyUpTo (groupItem (Rule.run spell fuel')) bound' >>= fun es => endOfGroup (value es))
      (Ended tail) := by
  induction bound generalizing bound' value with
  | nil => exact fun _ _ _ _ _ _ => .excused (.inl rfl)
  | cons t bound ih =>
    obtain ⟨t', bound', rfl⟩ : ∃ t' rest, bound' = t' :: rest :=
      List.exists_cons_of_length_pos (Nat.lt_of_lt_of_le (Nat.succ_pos _) hbound)
    intro ts us n m hs hn
    have hcomma : (current ts).isOp "," = (current us).isOp "," :=
      isOp_of_sees (c := enclosing whole (Outside whole) last tail) (sees hs) (.of rfl)
    cases hc : (current ts).isOp "," with
    | false =>
      rw [manyUpTo_none (fieldItem_none hc), manyUpTo_none (groupItem_none (hcomma ▸ hc))]
      exact relates_end htail _ ts us n m hs hn
    | true =>
      have hfield : outcome (fieldItem (Rule.run spell fuel)) n ts = _ := fieldItem_comma hc
      have hgroup : outcome (groupItem (Rule.run spell fuel')) m us = _ :=
        groupItem_comma (hcomma ▸ hc)
      have hs' : Enclosed (Outside whole) last tail 0 (dropCurrent ts) (dropCurrent us) :=
        (enclosing whole (Outside whole) last tail).plain hs (isPlain_of_isOp hc rfl)
      have hbegins : beginsExpression (current (dropCurrent ts)) =
          beginsExpression (current (dropCurrent us)) :=
        congr_of_sees_stops (c := enclosing whole (Outside whole) last tail) beginsExpression (sees hs')
          (fun _ _ _ _ => rfl) (fun _ _ _ => rfl) ⟨false, fun _ _ => ⟨rfl, rfl⟩, fun _ => ⟨rfl, rfl⟩⟩
      generalize dropCurrent ts = ts, dropCurrent us = us at hs' hbegins hfield hgroup
      cases hb : beginsExpression (current ts) with
      | false =>
        rw [hb, if_neg Bool.false_ne_true] at hfield
        rw [manyUpTo_none hfield]
        rcases hs'.outside with ⟨-, hclose, -⟩ | ⟨hk, hclose, -⟩
        · rw [if_pos hclose] at hgroup
          rw [manyUpTo_none hgroup]
          exact relates_end htail _ ts us n m hs' hn
        · -- the list of the field is at its end, and between parentheses there is no item
          rw [hclose, if_neg Bool.false_ne_true] at hgroup
          obtain ⟨e, he⟩ : ∃ e, outcome (Rule.run spell fuel' .starOrNamed) m us = .error e :=
            stuck_run (hbegins ▸ hb) fuel' rfl m us rfl
          rw [outcome_endOfText_trailing hk, manyUpTo_item hgroup, outcome_bind, he]
          exact .error trivial
      | true =>
        have hclose : (current us).isOp ")" = false := by
          rw [hbegins] at hb
          refine Bool.eq_false_iff.mpr fun hop => ?_
          obtain ⟨hk, htext⟩ := kind_text_of_isOp hop
          rw [beginsExpression, hk, htext] at hb
          cases hb
        rw [hb, if_pos rfl] at hfield
        rw [hclose, if_neg Bool.false_ne_true] at hgroup
        rw [manyUpTo_item hfield, manyUpTo_item hgroup]
        exact relates_item hle (fun e => trailing_items fun es => value (e :: es))
          (fun e => ih (Nat.le_of_succ_le_succ hbound) fun es => value (e :: es)) ts us n m hs' hn

/-! ## The text -/

/-- The only item of a list without a comma, or a tuple of the items. -/
def ofItems (elts : List Expr) (comma : Bool) : Expr :=
  match elts, comma with
  | [e], false => e
  | es, _ => .tuple es .load

/-- What follows the first item of a field. -/
def fieldRest (last : TokenKind) (rule : Rule → Parser Expr) (first : Expr) : Parser Expr := do
  let comma ← atOp ","
  let rest ← many (fieldItem rule)
  endOfText last (ofItems (first :: rest) comma)

/-- What follows the first item between parentheses. -/
def groupRest (rule : Rule → Parser Expr) (first : Expr) : Parser Expr := do
  if ← startsClause then
    let generators ← clauses rule
    expectOp ")"
    return .generatorExp first generators
  else
    let comma ← atOp ","
    let rest ← many (groupItem rule)
    endOfGroup (ofItems (first :: rest) comma)

theorem listOrTuple_bind (rule : Rule → Parser Expr) :
    (listOrTuple rule .starOrTest >>= endOfText last) = (rule .starOrTest >>= fieldRest last rule) := by
  unfold listOrTuple listItems fieldRest fieldItem
  simp only [bind_assoc, pure_bind]
  congr 1
  funext first
  congr 1
  funext comma
  congr 1
  funext rest
  cases rest <;> cases comma <;> rfl

theorem parenthesized_list {rule : Rule → Parser Expr} (hclose : (current us).isOp ")" = false)
    (hyield : (current us).isWord "yield" = false) :
    outcome (parenthesized rule) m us = outcome (rule .starOrNamed >>= groupRest rule) m us := by
  rw [parenthesized, ifEatOp_neg hclose, ifAtWord_neg hyield]
  congr 1
  unfold Parser.inside itemsUntil groupRest groupItem endOfGroup
  simp only [bind_assoc]
  congr 1
  funext first
  congr 1
  funext starts
  cases starts with
  | true => simp only [if_true, bind_assoc, pure_bind]
  | false =>
    simp only [Bool.false_eq_true, if_false, bind_assoc, pure_bind]
    congr 1
    funext comma
    congr 1
    funext rest
    congr 1
    funext _
    cases rest <;> cases comma <;> rfl

/-- Where a clause of a comprehension begins there is a word. -/
theorem exists_word (h : beginsClause us = true) : ∃ word, (current us).isWord word = true := by
  rw [beginsClause, Bool.or_eq_true, Bool.and_eq_true] at h
  rcases h with h | ⟨h, -⟩ <;> exact ⟨_, h⟩

theorem trailing_rest {rule : Rule → Parser Expr} (first : Expr) :
    Trailing last (fieldRest last rule first) := by
  intro n ts hcomma hk
  rw [fieldRest, outcome_bind_of outcome_atOp, outcome_many_bind]
  exact trailing_items (fun es => ofItems (first :: es) _) n ts hcomma hk

/-- What follows the first item. -/
theorem relates_rest (hle : fuel < fuel') (htail : tail ≠ []) (first : Expr) :
    (enclosed whole).Relates (Enclosed (Outside whole) last tail 0)
      (fieldRest last (Rule.run spell fuel) first) (groupRest (Rule.run spell fuel') first)
      (Ended tail) := by
  intro ts us n m hs hn
  cases hclause : beginsClause us with
  | true =>
    by_cases hwhole : whole
    · exact nomatch hclause.symm.trans (beginsClause_outside hs hwhole)
    · obtain ⟨word, hword⟩ := exists_word hclause
      rw [← isWord_of_sees (c := enclosing whole (Outside whole) last tail) (sees hs)] at hword
      have hplain := isPlain_of_isWord hword
      rw [Token.isWord, Bool.and_eq_true, beq_iff_eq] at hword
      have hcomma : (current ts).isOp "," = false := by
        rw [Token.isOp, hword.1]
        rfl
      obtain ⟨hlast, -⟩ := hs.outside.resolve_left fun hend => by
        have ht := token_of_sees (c := enclosing whole (Outside whole) last tail) (sees hs)
          (isContent_of_isPlain hplain)
        have hclose := hend.2.1
        rw [← isOp_eq (c := enclosed whole) ht, Token.isOp, hword.1] at hclose
        cases hclose
      obtain ⟨err, herr, hcause⟩ := trailing_rest first n ts hcomma hlast
      rw [herr]
      exact .excused (hcause.imp_right fun htrailing => ⟨hwhole, htrailing⟩)
  | false =>
    have hcomma : (enclosing whole (Outside whole) last tail).Agrees (atOp ",") (atOp ",") Eq :=
      .atOp (.of rfl)
    rw [groupRest, ifStartsClause_neg hclause, fieldRest]
    refine Relates.bind_eq (hcomma 0) (fun comma ts us n m hs hn => ?_) ts us n m hs hn
    have hbound : (current ts :: ts).length ≤ (current us :: us).length :=
      Nat.succ_le_succ (Enclosed.length_le hs)
    rw [outcome_many_bind, outcome_many_bind]
    exact relates_items hle htail hbound (fun es => ofItems (first :: es) comma) ts us n m hs hn

/-- A text that is not empty is read in a field as it is between parentheses. -/
theorem relates_text (hle : fuel ≤ fuel') (htail : tail ≠ [])
    (hs : Enclosed (Outside whole) last tail 0 ts us) (hts : (current ts).kind ≠ last)
    (hn : (enclosed whole).nesting n m) :
    (enclosed whole).Results (fun r r' => Ended tail r.1 r'.1 r.2 r'.2)
      (outcome (yieldOr (Rule.run spell fuel) .starTestList >>= endOfText last) n ts)
      (outcome (parenthesized (Rule.run spell fuel')) m us) := by
  obtain ⟨-, hclose, -⟩ := hs.outside.resolve_left fun h => hts h.1
  have hyield : (current ts).isWord "yield" = (current us).isWord "yield" :=
    isWord_of_sees (c := enclosing whole (Outside whole) last tail) (sees hs) _
  rw [yieldOr, bind_assoc]
  cases hy : (current ts).isWord "yield" with
  | true =>
    have hrule : (enclosing whole (Outside whole) last tail).Agrees (Rule.run spell fuel .yielding)
        (Rule.run spell fuel' .yielding) Eq := (rules_enclosing hle).below rfl
    have hfield : outcome (atWord "yield" >>= fun b => (if b = true
        then Rule.run spell fuel .yielding else Rule.run spell fuel .starTestList) >>= endOfText last)
        n ts = outcome (Rule.run spell fuel .yielding >>= endOfText last) n ts := by
      show outcome ((if (current ts).isWord "yield" = true then _ else _) >>= _) n ts = _
      rw [hy, if_pos rfl]
    rw [hfield, parenthesized, ifEatOp_neg hclose, ifAtWord_pos (hyield ▸ hy)]
    exact Relates.bind_eq (hrule 0) (fun e => relates_end htail e) ts us n m hs hn
  | false =>
    have hfield : outcome (atWord "yield" >>= fun b => (if b = true
        then Rule.run spell fuel .yielding else Rule.run spell fuel .starTestList) >>= endOfText last)
        n ts = outcome (Rule.run spell fuel .starTestList >>= endOfText last) n ts := by
      show outcome ((if (current ts).isWord "yield" = true then _ else _) >>= _) n ts = _
      rw [hy, if_neg Bool.false_ne_true]
    rw [hfield, parenthesized_list hclose (hyield ▸ hy)]
    cases fuel with
    | zero => exact .excused (.inl rfl)
    | succ fuel =>
      show (enclosed whole).Results _
        (outcome (listOrTuple (Rule.run spell fuel) .starOrTest >>= endOfText last) n ts) _
      rw [listOrTuple_bind]
      have hlist : (enclosed whole).Relates (Enclosed (Outside whole) last tail 0)
          (Rule.run spell fuel .starOrTest >>= fieldRest last (Rule.run spell fuel))
          (Rule.run spell fuel' .starOrNamed >>= groupRest (Rule.run spell fuel')) (Ended tail) :=
        relates_item hle trailing_rest (relates_rest hle htail)
      exact hlist ts us n m hs hn

end

end PythonSyntax
