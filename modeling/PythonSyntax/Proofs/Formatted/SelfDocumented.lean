import PythonSyntax.Proofs.Formatted.Behind
import PythonSyntax.Proofs.Formatted.Spec

/-
Fields that show themselves.

An equals sign behind the expression of a field puts the text of the field in front of its value.  Nothing
else is changed: the literal stays one token, the search finds the same expression and its blanks, the
expression is read as before, and so are the conversion and the spec.  Only a field with neither of them gets
a conversion by default.
-/

namespace PythonSyntax

open PythonSyntax.Parser PythonSyntax.Lexeme

/-! ## Text in a literal -/

section

variable {q : Char} {a r r' : List Char} {n : Nat}

/-- Three quotes do not begin in a text and end after it, unless a quote follows it. -/
theorem startsTriple_append_of_head (hr : r.head? ≠ some q) :
    startsTriple q (a ++ r) = startsTriple q a := by
  have hnot : ∀ s : List Char, (q :: s).isPrefixOf r = false := by
    intro s
    rw [← Bool.not_eq_true, List.isPrefixOf_iff_prefix]
    rintro ⟨t, rfl⟩
    exact hr rfl
  unfold startsTriple
  rcases a with _ | ⟨c, _ | ⟨d, _ | ⟨e, a⟩⟩⟩
  · exact hnot [q, q]
  · exact congrArg (q == c && ·) (hnot [q])
  · exact congrArg (fun b => q == c && (q == d && b)) (hnot [])
  · rfl

/-- A text in which three quotes do not close is passed over, whatever follows it. -/
theorem closeTriple_passed (hlast : a.getLast? ≠ some '\\') (hr : r.head? ≠ some q)
    (h : closeTriple q (a ++ r) = some n) (hlt : a.length < n) (hr' : r'.head? ≠ some q) :
    closeTriple q (a ++ r') = (closeTriple q r').map (· + a.length) := by
  induction a using closeTriple.induct q generalizing n with
  | case1 => exact Option.map_id'.symm
  | case2 => exact absurd rfl hlast
  | case3 d a ih =>
    rw [List.cons_append, List.cons_append, closeTriple_escape] at h ⊢
    obtain ⟨m, hm, rfl⟩ := Option.map_eq_some_iff.mp h
    have hlast' : a.getLast? ≠ some '\\' := by
      intro heq
      rw [List.getLast?_cons, List.getLast?_cons, heq] at hlast
      exact hlast rfl
    rw [ih hlast' hm (by simpa using hlt), Option.map_map]
    rfl
  | case4 c a hc hstart =>
    -- the quotes would close within the text
    have hthree := (List.isPrefixOf_iff_prefix.mp hstart).length_le
    rw [← startsTriple_append_of_head hr] at hstart
    cases (closeTriple_start hc hstart).symm.trans h
    exact absurd hlt (Nat.not_lt_of_le hthree)
  | case5 c a hc hstart ih =>
    have hstart' : ∀ {s : List Char}, s.head? ≠ some q → ¬ startsTriple q (c :: (a ++ s)) = true := by
      intro s hs
      rwa [← List.cons_append, startsTriple_append_of_head hs]
    have hlast' : a.getLast? ≠ some '\\' := by
      intro heq
      rw [List.getLast?_cons, heq] at hlast
      exact hlast rfl
    rw [List.cons_append, closeTriple_cons hc (hstart' hr)] at h
    obtain ⟨m, hm, rfl⟩ := Option.map_eq_some_iff.mp h
    rw [List.cons_append, closeTriple_cons hc (hstart' hr'), ih hlast' hm (Nat.lt_of_succ_lt_succ hlt),
      Option.map_map]
    rfl

/-- Between triple quotes a body is one literal if they close at its end, and not before. -/
theorem Frame.lexemes_triple_iff {w : Frame} (htriple : w.triple = true) {body : List Char} :
    lexemes (w.literal body) = [⟨.string, w.literal body⟩] ↔
      closeTriple w.quote (body ++ quotes w.quote true) = some (body.length + 3) := by
  have hlength : (w.quotedBody body).length = body.length + 3 + 3 := by
    rw [Frame.quotedBody, htriple, List.length_append, List.length_append]
    exact Nat.add_comm 3 _
  rw [w.lexemes_literal_iff, w.quoted_quotedBody (.inl htriple), htriple, if_pos rfl, hlength,
    Option.map_eq_some_iff]
  constructor
  · rintro ⟨k, hk, heq⟩
    rw [hk]
    exact congrArg some (Nat.add_right_cancel heq)
  · exact fun h => ⟨_, h, rfl⟩

/-- A text without quotes may be put into a literal between triple quotes, where neither a backslash stands
before it nor a quote after it. -/
theorem Frame.lexemes_insert {w : Frame} {g : List Char} (htriple : w.triple = true)
    (hlast : a.getLast? ≠ some '\\') (hr : ∃ c s, r = c :: s ∧ c ≠ w.quote)
    (hg : ∀ c ∈ g, c ≠ '\\' ∧ c ≠ w.quote)
    (h : lexemes (w.literal (a ++ r)) = [⟨.string, w.literal (a ++ r)⟩]) :
    lexemes (w.literal (a ++ (g ++ r))) = [⟨.string, w.literal (a ++ (g ++ r))⟩] := by
  have hhead : ∀ s : List Char, (∀ c ∈ s, c ≠ '\\' ∧ c ≠ w.quote) →
      ((s ++ r) ++ quotes w.quote true).head? ≠ some w.quote := by
    obtain ⟨c, r, rfl, hc⟩ := hr
    rintro (_ | ⟨d, s⟩) hs heq
    · exact hc (Option.some.inj heq)
    · exact (hs d List.mem_cons_self).2 (Option.some.inj heq)
  have hnone : ∀ c ∈ ([] : List Char), c ≠ '\\' ∧ c ≠ w.quote := List.forall_mem_nil _
  rw [Frame.lexemes_triple_iff htriple] at h ⊢
  rw [List.append_assoc] at h
  have hpassed : ∀ s : List Char, (∀ c ∈ s, c ≠ '\\' ∧ c ≠ w.quote) →
      closeTriple w.quote (a ++ ((s ++ r) ++ quotes w.quote true)) =
        (closeTriple w.quote ((s ++ r) ++ quotes w.quote true)).map (· + a.length) := fun s hs =>
    closeTriple_passed hlast (hhead [] hnone) h (by rw [List.length_append]; omega) (hhead s hs)
  have hclose : closeTriple w.quote (r ++ quotes w.quote true) = some (r.length + 3) := by
    obtain ⟨k, hk, heq⟩ := Option.map_eq_some_iff.mp ((hpassed [] hnone).symm.trans h)
    refine hk.trans (congrArg some ?_)
    rw [List.length_append] at heq
    omega
  rw [List.append_assoc, hpassed g hg, List.append_assoc, Frame.closeTriple_run hg, hclose, Option.map_some,
    Option.map_some, List.length_append, List.length_append]
  exact congrArg some (by omega)

end

/-! ## The end of a field -/

/-- The end of a field, with a conversion and the text of a spec, and what stands after it. -/
def fieldEnding (k : Option Conversion) (s : Option (List Char)) (post : List Char) : List Char :=
  Part.writeConversion k ++ (s.elim [] (':' :: ·) ++ '}' :: post)

section

variable {k : Option Conversion} {s : Option (List Char)} {e w₁ w₂ tail post rest : List Char} {v : Expr}
  {ps : List Piece} {spell : List Char → List Char} {embeds : List Char → Expr → Prop}
  {spec : List Char → List Piece → Prop}

/-- A conversion, a spec or the closing brace ends an expression. -/
theorem fieldEnding_stops (k : Option Conversion) (s : Option (List Char)) (post : List Char) :
    ∃ c r, fieldEnding k s post = c :: r ∧ (c = '}' ∨ c = ':' ∨ c = '!' ∧ r.head? ≠ some '=') := by
  cases k with
  | some k =>
    refine ⟨_, _, rfl, .inr (.inr ⟨rfl, ?_⟩)⟩
    show some k.letter ≠ some '='
    rcases k.letter_eq with h | h | h <;> rw [h] <;> decide
  | none =>
    cases s with
    | some s => exact ⟨_, _, rfl, .inr (.inl rfl)⟩
    | none => exact ⟨_, _, rfl, .inl rfl⟩

/-- So it begins with a character that is none of those that would go on. -/
theorem fieldEnding_cons (k : Option Conversion) (s : Option (List Char)) (post : List Char) :
    ∃ c r, fieldEnding k s post = c :: r ∧ isFieldBlank c = false ∧ Quoted.isQuote c = false ∧ c ≠ '=' ∧
      c ≠ '{' := by
  obtain ⟨c, r, heq, hc⟩ := fieldEnding_stops k s post
  refine ⟨c, r, heq, ?_⟩
  rcases hc with rfl | rfl | ⟨rfl, -⟩ <;> decide

theorem Parser.FillsField.splitField_ending (he : FillsField e) (k : Option Conversion)
    (s : Option (List Char)) (post : List Char) :
    splitField 0 ⟨0, none, 0⟩ 0 (e ++ fieldEnding k s post) = .ok (e, fieldEnding k s post) := by
  obtain ⟨c, r, heq, hc⟩ := fieldEnding_stops k s post
  rw [heq]
  exact he.splitField_eq hc 0 0

theorem fieldShown_ending (k : Option Conversion) (s : Option (List Char)) (post : List Char) :
    fieldShown spell e (fieldEnding k s post) 0 = (none, fieldEnding k s post, 0) := by
  obtain ⟨c, r, heq, -, -, hc, -⟩ := fieldEnding_cons k s post
  have hhead : (fieldEnding k s post).head? ≠ some '=' := by
    rw [heq]
    exact fun h => hc (Option.some.inj h)
  exact fieldShown_none hhead _ _ _

/-- What a field shows is cut off at its end. -/
theorem fieldShown_blanks (hw : IsBlankText w₂) (k : Option Conversion) (s : Option (List Char))
    (post : List Char) :
    fieldShown spell e ('=' :: (w₂ ++ fieldEnding k s post)) 0 =
      (some (.text (Text.ofChars (spell (e ++ '=' :: w₂)))), fieldEnding k s post, 0 + 1 + w₂.length) := by
  obtain ⟨c, r, heq, hc, -⟩ := fieldEnding_cons k s post
  have hblanks : (w₂ ++ fieldEnding k s post).takeWhile isFieldBlank = w₂ := by
    rw [heq, List.takeWhile_append_of_pos hw, List.takeWhile_cons_of_neg (Bool.eq_false_iff.mp hc),
      List.append_nil]
  rw [fieldShown_equals, hblanks, List.drop_left]

/-- What a field shows leaves the rest of it, but for the default of the conversion. -/
theorem Parser.ReadsEnd.shown (h : ReadsEnd spec none v tail ps rest) (p : Piece) :
    ∃ conversion formatSpec, ps = [.value (.formattedValue v conversion formatSpec)] ∧
      ReadsEnd spec (some p) v tail [p, .value (.formattedValue v
        (if conversion.isNone && formatSpec.isNone then some 'r' else conversion) formatSpec)] rest := by
  cases h with | @mk conversion _ _ formatSpec _ hconversion hspec
  exact ⟨conversion, formatSpec, rfl, .mk hconversion hspec⟩

end

/-! ## The text in front of a field -/

/-- A text in which a body begins, without fields, and what it denotes: chunks, and doubled braces between
them. -/
inductive LiteralText (isRaw : Bool) : List Char → Text → Prop where
  | chunk {text t} : splitLiteral isRaw false (text ++ ['{']) = (text, ['{']) → Decodes isRaw text t →
      LiteralText isRaw text t
  | doubled {text b rest t u} : b = '{' ∨ b = '}' → splitLiteral isRaw false (text ++ [b]) = (text, [b]) →
      Decodes isRaw text t → LiteralText isRaw rest u →
      LiteralText isRaw (text ++ b :: b :: rest) (t ++ (Text.ofChars [b] ++ u))

section

variable {isRaw inName : Bool} {text pre r : List Char} {b : Char} {t u : Text}
  {ps qs : List Piece} {field : List Char → List Piece → List Char → Prop}

/-- What stands after the brace at which a body is cut is not looked at. -/
theorem splitLiteral_append_brace (hb : b = '{' ∨ b = '}')
    (h : splitLiteral isRaw inName (text ++ [b]) = (text, [b])) (r : List Char) :
    splitLiteral isRaw inName (text ++ b :: r) = (text, b :: r) := by
  induction text generalizing inName with
  | nil =>
    rw [List.nil_append, splitLiteral] at h ⊢
    split at h
    · cases h
    · next hname => rw [if_neg hname, if_pos hb]
  | cons c text ih =>
    have hopens : ['N', '{'].isPrefixOf (text ++ b :: r) = ['N', '{'].isPrefixOf (text ++ [b]) := by
      have hN : ('N' == b) = false := by rcases hb with rfl | rfl <;> rfl
      rcases text with _ | ⟨d, _ | ⟨d', text⟩⟩
      · show ('N' == b && _) = ('N' == b && _)
        rw [hN]
        rfl
      · rfl
      · rfl
    rw [List.cons_append, splitLiteral] at h ⊢
    split at h
    · next hname =>
      obtain ⟨hfst, hsnd⟩ := Prod.mk.inj h
      rw [if_pos hname, ih (Prod.ext (List.cons.inj hfst).2 hsnd)]
    · next hname =>
      split at h
      · cases (Prod.mk.inj h).1
      · next hbrace =>
        obtain ⟨hfst, hsnd⟩ := Prod.mk.inj h
        rw [if_neg hname, if_neg hbrace, hopens]
        dsimp only
        rw [ih (Prod.ext (List.cons.inj hfst).2 hsnd)]

theorem decodes_nil (isRaw : Bool) : Decodes isRaw [] [] := isPlainText_nil.decodes isRaw

theorem Parser.Decodes.unique (h : Decodes isRaw text t) (h' : Decodes isRaw text u) : t = u :=
  Except.ok.inj (h.symm.trans h')

/-- These pieces are worth the same as a text in front of others. -/
def Prepends (t : Text) (ps qs : List Piece) : Prop :=
  ∀ before, mergeAfter before qs = mergeAfter (before ++ t) ps

theorem prepends_text (t : Text) (ps : List Piece) : Prepends t (.text [] :: ps) (.text t :: ps) := by
  intro before
  rw [mergeAfter, mergeAfter, List.append_nil]

theorem Prepends.text_text (h : Prepends u ps qs) (t t' : Text) :
    Prepends (t ++ (t' ++ u)) ps (.text t :: .text t' :: qs) := by
  intro before
  rw [mergeAfter, mergeAfter, h, List.append_assoc, List.append_assoc]

namespace LiteralText

/-- A body that begins with such a text is read from the brace after it on, -/
theorem reading (h : LiteralText isRaw pre t) (hread : Reading isRaw field (pre ++ '{' :: r) ps) :
    ∃ qs, Reading isRaw field ('{' :: r) qs ∧ Prepends t qs ps := by
  induction h generalizing ps with
  | @chunk text t hcut hd =>
    have hcut := splitLiteral_append_brace (.inl rfl) hcut r
    cases hread with
    | last hcut' => cases hcut.symm.trans hcut'
    | doubled hb hcut' hd' hrest =>
      cases hcut.symm.trans hcut'
      cases hd.unique hd'
      exact ⟨_, .doubled hb (splitLiteral_brace _ _) (decodes_nil _) hrest, prepends_text _ _⟩
    | field hcut' hr hd' hfield hrest =>
      cases hcut.symm.trans hcut'
      cases hd.unique hd'
      exact ⟨_, .field (splitLiteral_brace _ _) hr (decodes_nil _) hfield hrest, prepends_text _ _⟩
  | @doubled text b rest t u hb hcut hd _ ih =>
    have hcut := splitLiteral_append_brace hb hcut (b :: (rest ++ '{' :: r))
    rw [List.append_assoc] at hread
    cases hread with
    | last hcut' => cases hcut.symm.trans hcut'
    | doubled _ hcut' hd' hrest =>
      cases hcut.symm.trans hcut'
      cases hd.unique hd'
      obtain ⟨qs, hqs, hprepends⟩ := ih hrest
      exact ⟨qs, hqs, hprepends.text_text _ _⟩
    | field hcut' hr =>
      cases hcut.symm.trans hcut'
      exact absurd rfl hr

/-- and what is read from there on is read after it. -/
theorem reading_append (h : LiteralText isRaw pre t) (hread : Reading isRaw field ('{' :: r) ps) :
    ∃ qs, Reading isRaw field (pre ++ '{' :: r) qs ∧ Prepends t ps qs := by
  induction h with
  | chunk hcut hd =>
    have hcut := splitLiteral_append_brace (.inl rfl) hcut r
    cases hread with
    | last hcut' => cases hcut'
    | doubled hb hcut' hd' hrest =>
      cases hcut'
      cases hd'.unique (decodes_nil _)
      exact ⟨_, .doubled hb hcut hd hrest, prepends_text _ _⟩
    | field hcut' hr hd' hfield hrest =>
      cases hcut'
      cases hd'.unique (decodes_nil _)
      exact ⟨_, .field hcut hr hd hfield hrest, prepends_text _ _⟩
  | @doubled text b rest t u hb hcut hd _ ih =>
    obtain ⟨qs, hqs, hprepends⟩ := ih
    rw [List.append_assoc]
    exact ⟨_, .doubled hb (splitLiteral_append_brace hb hcut _) hd hqs, hprepends.text_text _ _⟩

end LiteralText

theorem textValue_of_ne_nil (ht : t ≠ []) : textValue t = [.constant (.str t)] := by
  cases t with
  | nil => exact absurd rfl ht
  | cons => rfl

/-- A text in front of pieces is the beginning of their first value. -/
theorem exists_mergeAfter (ht : t ≠ []) (ps : List Piece) :
    ∃ u es, mergeAfter t ps = .constant (.str (t ++ u)) :: es := by
  induction ps generalizing t with
  | nil => exact ⟨[], [], by rw [mergeAfter, textValue_of_ne_nil ht, List.append_nil]⟩
  | cons p ps ih =>
    cases p with
    | text u =>
      obtain ⟨u', es, heq⟩ := ih (List.append_ne_nil_of_left_ne_nil ht u)
      exact ⟨u ++ u', es, by rw [mergeAfter, heq, List.append_assoc]⟩
    | value e => exact ⟨[], _, by rw [mergeAfter, textValue_of_ne_nil ht, List.append_nil]; rfl⟩

/-- So it is not the beginning of a shorter text with a field after it. -/
theorem mergeAfter_append_ne (hu : u ≠ []) {x : Expr} (hx : ∀ t, x ≠ .constant (.str t)) (xs : List Expr) :
    mergeAfter (t ++ u) ps ≠ textValue t ++ x :: xs := by
  obtain ⟨u', es, heq⟩ := exists_mergeAfter (List.append_ne_nil_of_right_ne_nil t hu) ps
  rw [heq]
  by_cases ht : t = []
  · subst ht
    exact fun h => hx _ (List.cons.inj h).1.symm
  · rw [textValue_of_ne_nil ht, List.append_assoc]
    intro h
    have htext : t ++ (u ++ u') = t := by
      have hfirst := (List.cons.inj h).1
      injection hfirst with hfirst
      injection hfirst
    exact hu (List.append_eq_nil_iff.mp (List.append_right_eq_self.mp htext)).1

namespace LiteralText

/-- Where the value after the text is a field, the brace after it begins one: two braces would be text. -/
theorem exists_field (h : LiteralText isRaw pre t) {x : Expr} {xs : List Expr}
    (hx : ∀ t, x ≠ .constant (.str t)) (hread : Reading isRaw field (pre ++ '{' :: r) ps)
    (hvalues : merge ps = textValue t ++ x :: xs) :
    r.head? ≠ some '{' ∧ ∃ qs rest us, field r qs rest ∧ Reading isRaw field rest us ∧
      merge ps = mergeAfter t (qs ++ us) := by
  obtain ⟨qs, hqs, hprepends⟩ := h.reading hread
  replace hprepends : merge ps = mergeAfter t qs := hprepends []
  cases hqs with
  | last hcut => cases hcut
  | field hcut hr hd hfield hrest =>
    cases hcut
    cases hd.unique (decodes_nil _)
    rw [mergeAfter, List.append_nil] at hprepends
    exact ⟨hr, _, _, _, hfield, hrest, hprepends⟩
  | doubled _ hcut hd =>
    cases hcut
    cases hd.unique (decodes_nil _)
    rw [mergeAfter, mergeAfter, List.append_nil] at hprepends
    exact absurd (hprepends.symm.trans hvalues) (mergeAfter_append_ne (List.cons_ne_nil _ _) hx xs)

/-- A field that is read is read after the text. -/
theorem reading_field (h : LiteralText isRaw pre t) {rest : List Char} {us : List Piece}
    (hr : r.head? ≠ some '{') (hfield : field r qs rest) (hrest : Reading isRaw field rest us) :
    ∃ ps, Reading isRaw field (pre ++ '{' :: r) ps ∧ merge ps = mergeAfter t (qs ++ us) := by
  obtain ⟨ps, hps, hprepends⟩ :=
    h.reading_append (.field (splitLiteral_brace _ _) hr (decodes_nil _) hfield hrest)
  refine ⟨ps, hps, (hprepends []).trans ?_⟩
  rw [mergeAfter, List.append_nil, List.nil_append]

end LiteralText

/-- Without braces and backslashes a text denotes itself. -/
theorem IsPlainText.literalText (h : IsPlainText pre) (isRaw : Bool) :
    LiteralText isRaw pre (Text.ofChars pre) :=
  .chunk (h.splitLiteral_eq (SpecPart.atBrace_open _) isRaw) (h.decodes isRaw)

end

/-! ## The field -/

section

variable {w : Frame} {k : Option Conversion} {conv : Option Char} {s : Option (List Char)}
  {pre e w₁ w₂ post rest r r' : List Char} {b : Char} {t : Text} {v : Expr} {spec : Option Expr}
  {vs : List Expr} {ps : List Piece} {n : Nesting} {isRaw : Bool} {levels limit : Nat}

theorem IsBlankText.head?_append (hw : IsBlankText w₁) (hb : isFieldBlank b = false)
    (hr : r.head? ≠ some b) : (w₁ ++ r).head? ≠ some b := by
  cases w₁ with
  | nil => exact hr
  | cons c w =>
    intro h
    obtain rfl : c = b := Option.some.inj h
    exact nomatch hb.symm.trans (hw c List.mem_cons_self)

theorem head?_append_ne (h : (e ++ r).head? ≠ some b) (hr : r'.head? ≠ some b) :
    (e ++ r').head? ≠ some b := by
  cases e with
  | nil => exact hr
  | cons => exact h

/-- With an equals sign behind its expression and blanks around it, a field stays within its literal. -/
theorem Parser.FillsField.lexemes_equals (he : FillsField e) (hw₁ : IsBlankText w₁)
    (hw₂ : IsBlankText w₂) (htriple : w.triple = true)
    (h : lexemes (w.literal (pre ++ '{' :: (e ++ fieldEnding k s post))) =
      [⟨.string, w.literal (pre ++ '{' :: (e ++ fieldEnding k s post))⟩]) :
    lexemes (w.literal (pre ++ '{' :: (e ++ w₁ ++ '=' :: (w₂ ++ fieldEnding k s post)))) =
      [⟨.string, w.literal (pre ++ '{' :: (e ++ w₁ ++ '=' :: (w₂ ++ fieldEnding k s post)))⟩] := by
  have hblank : ∀ c, isFieldBlank c = true → c ≠ '\\' ∧ c ≠ w.quote := by
    intro c hc
    constructor
    · rintro rfl
      cases hc
    · rintro rfl
      rcases isQuote_cases w.isQuote with hq | hq <;> rw [hq] at hc <;> cases hc
  have hgap : ∀ c ∈ w₁ ++ '=' :: w₂, c ≠ '\\' ∧ c ≠ w.quote :=
    List.forall_mem_append.mpr ⟨fun c hc => hblank c (hw₁ c hc),
      List.forall_mem_cons.mpr ⟨⟨by decide, w.quote_ne rfl⟩, fun c hc => hblank c (hw₂ c hc)⟩⟩
  have hlast : (pre ++ '{' :: e).getLast? ≠ some '\\' := by
    rw [List.getLast?_append_of_ne_nil _ (List.cons_ne_nil _ _)]
    intro hlast
    rcases List.mem_cons.mp (List.mem_of_getLast? hlast) with heq | hmem
    · cases heq
    · exact he.ne_slash _ hmem rfl
  have hending : ∃ c r, fieldEnding k s post = c :: r ∧ c ≠ w.quote := by
    obtain ⟨c, r, heq, -, hc, -⟩ := fieldEnding_cons k s post
    exact ⟨c, r, heq, w.quote_ne hc⟩
  have hassoc : ∀ g : List Char, pre ++ '{' :: (e ++ g) = (pre ++ '{' :: e) ++ g := fun g => by
    rw [List.append_assoc, List.cons_append]
  rw [hassoc] at h
  rw [List.append_assoc e, hassoc, ← List.cons_append, ← List.append_assoc w₁]
  exact w.lexemes_insert htriple hlast hending hgap h

/-- A field that is read is read with an equals sign behind its expression too. -/
theorem Parser.FillsField.readsField_equals (he : FillsField e) (hw₁ : IsBlankText w₁)
    (hw₂ : IsBlankText w₂) (h : ReadsField id n isRaw levels (e ++ fieldEnding k s post) ps rest) :
    ∃ v conv spec, ps = [.value (.formattedValue v conv spec)] ∧
      ReadsField id n isRaw levels (e ++ w₁ ++ '=' :: (w₂ ++ fieldEnding k s post))
        [.text (Text.ofChars (e ++ w₁ ++ '=' :: w₂)), .value (.formattedValue v
          (if conv.isNone && spec.isNone then some 'r' else conv) spec)] rest := by
  rw [readsField_iff, isField_iff (he.splitField_ending k s post), fieldShown_ending] at h
  obtain ⟨hvisible, v, hv, hend⟩ := h
  obtain ⟨conv, spec, rfl, hshown⟩ := hend.shown (.text (Text.ofChars (e ++ w₁ ++ '=' :: w₂)))
  have hvisible' : (e ++ w₁).all Unicode.isWhiteSpace = false := by
    rw [List.all_append, hvisible, Bool.false_and]
  have hequals : (w₂ ++ fieldEnding k s post).head? ≠ some '=' := by
    obtain ⟨c, r, heq, -, -, hc, -⟩ := fieldEnding_cons k s post
    rw [heq]
    exact hw₂.head?_append rfl fun h => hc (Option.some.inj h)
  refine ⟨v, conv, spec, rfl, ?_⟩
  rw [readsField_iff, isField_iff (he.splitField_equals hv hw₁ hequals), fieldShown_blanks hw₂]
  exact ⟨hvisible', v, he.embeds_append hw₁ hv, hshown⟩

/-! ## Programs -/

/-- An equals sign behind the expression of a field in a literal between triple quotes, and blanks around
it, put the text of the expression, of the sign and of the blanks in front of the value of the field, where
it is one constant with the text before.  A field with neither a conversion nor a spec gets a conversion.
All else is as it was. -/
theorem parseModule_selfDocumented (w : Frame) (htriple : w.triple = true)
    (hpre : LiteralText w.isRaw pre t) (he : FillsField e) (hw₁ : IsBlankText w₁) (hw₂ : IsBlankText w₂)
    (hliteral : lexemes (w.literal (pre ++ '{' :: (e ++ fieldEnding k s post))) =
      [⟨.string, w.literal (pre ++ '{' :: (e ++ fieldEnding k s post))⟩])
    (h : parseModule (w.literal (pre ++ '{' :: (e ++ fieldEnding k s post))) limit =
      .ok ⟨[.expr (.joinedStr (textValue t ++ .formattedValue v conv spec :: vs))]⟩) :
    parseModule (w.literal (pre ++ '{' :: (e ++ w₁ ++ '=' :: (w₂ ++ fieldEnding k s post)))) limit =
      .ok ⟨[.expr (.joinedStr (.constant (.str (t ++ Text.ofChars (e ++ w₁ ++ '=' :: w₂))) ::
        .formattedValue v (if conv.isNone && spec.isNone then some 'r' else conv) spec :: vs))]⟩ := by
  have hfieldText : ∀ {v conv spec} t, Expr.formattedValue v conv spec ≠ .constant (.str t) := nofun
  obtain ⟨ps, hvalues, hps⟩ := (w.parseSpelled_values id (.inl htriple) hliteral limit).mp h
  obtain ⟨hhead, qs, rest, us, hfield, hus, hmerge⟩ := hpre.exists_field hfieldText hps hvalues
  obtain ⟨v', conv', spec', rfl, hequals⟩ := he.readsField_equals hw₁ hw₂ hfield
  -- the field is the value after the text
  replace hmerge : merge ps = textValue t ++ .formattedValue v' conv' spec' :: merge us := hmerge
  obtain ⟨-, hvalue, rfl⟩ := textValue_append_cons hfieldText hfieldText (hvalues.symm.trans hmerge)
  cases hvalue
  have hhead' : (e ++ w₁ ++ '=' :: (w₂ ++ fieldEnding k s post)).head? ≠ some '{' := by
    rw [List.append_assoc]
    exact head?_append_ne hhead (hw₁.head?_append rfl nofun)
  have hshown : t ++ Text.ofChars (e ++ w₁ ++ '=' :: w₂) ≠ [] := by
    rw [Text.ofChars_append]
    exact List.append_ne_nil_of_right_ne_nil _ (List.append_ne_nil_of_right_ne_nil _ (List.cons_ne_nil _ _))
  obtain ⟨ps', hps', hmerge'⟩ := hpre.reading_field hhead' hequals hus
  have hvalues' : merge ps' = .constant (.str (t ++ Text.ofChars (e ++ w₁ ++ '=' :: w₂))) ::
      .formattedValue v (if conv.isNone && spec.isNone then some 'r' else conv) spec :: merge us := by
    rw [hmerge', List.cons_append, mergeAfter, List.cons_append, mergeAfter, textValue_of_ne_nil hshown]
    rfl
  exact (w.parseSpelled_values id (.inl htriple) (he.lexemes_equals hw₁ hw₂ htriple hliteral) limit).mpr
    ⟨ps', hvalues', hps'⟩

end

/-- The frame of a literal between three double quotes. -/
def Frame.tripleDouble : Frame := { Frame.double with triple := true }

/-- Whether a program is a literal with this text and a field that holds nothing but an expression. -/
def isTextAndFieldProgram (t : Text) (m : Module) : Bool :=
  match m.body with
  | [.expr (.joinedStr [.constant (.str u), .formattedValue _ none none])] => u == t
  | _ => false

/-- The sign after a comparison is not a part of it, and the line break after the sign is shown. -/
theorem parseModule_selfDocumented_comparison : ∃ v,
    parseModule "f\"\"\"a\x7bx<=y\x7d\"\"\"".toList 0 = .ok ⟨[.expr (.joinedStr
      [.constant (.str (Text.ofString "a")), .formattedValue v none none])]⟩ ∧
    parseModule "f\"\"\"a\x7bx<=y =\n\x7d\"\"\"".toList 0 = .ok ⟨[.expr (.joinedStr
      [.constant (.str (Text.ofString "ax<=y =\n")), .formattedValue v (some 'r') none])]⟩ := by
  have hsource : "f\"\"\"a\x7bx<=y\x7d\"\"\"".toList = Frame.tripleDouble.literal
      (['a'] ++ '{' :: (['x', '<', '=', 'y'] ++ fieldEnding none none [])) := rfl
  have hshown : "f\"\"\"a\x7bx<=y =\n\x7d\"\"\"".toList = Frame.tripleDouble.literal
      (['a'] ++ '{' :: (['x', '<', '=', 'y'] ++ [' '] ++ '=' :: (['\n'] ++ fieldEnding none none []))) := rfl
  obtain ⟨⟨stmts⟩, hm, hshape⟩ := exists_of_any (x := parseModule "f\"\"\"a\x7bx<=y\x7d\"\"\"".toList 0)
    (p := isTextAndFieldProgram (Text.ofString "a")) (by decide +kernel)
  unfold isTextAndFieldProgram at hshape
  dsimp only at hshape
  split at hshape
  · next t v =>
    rw [beq_iff_eq] at hshape
    rw [hshape] at hm
    refine ⟨v, hm, ?_⟩
    rw [hshown]
    have hpre : LiteralText Frame.tripleDouble.isRaw ['a'] (Text.ofChars ['a']) :=
      IsPlainText.literalText (by simp [IsPlainText]) _
    have hblank : ∀ c, isFieldBlank c = true → IsBlankText [c] := fun c hc =>
      List.forall_mem_singleton.mpr hc
    have hliteral : lexemes "f\"\"\"a\x7bx<=y\x7d\"\"\"".toList =
        [⟨.string, "f\"\"\"a\x7bx<=y\x7d\"\"\"".toList⟩] := by decide +kernel
    rw [hsource] at hm hliteral
    have hfills : FillsField ['x', '<', '=', 'y'] := rfl
    exact parseModule_selfDocumented .tripleDouble rfl hpre hfills (hblank ' ' rfl) (hblank '\n' rfl)
      hliteral hm
  · cases hshape

end PythonSyntax
