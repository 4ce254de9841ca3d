import PythonSyntax.Proofs.Formatted.Settled
import PythonSyntax.Proofs.Parser.Progress

/-
The readings of a body.

A body is read text by text and field by field, and each field is read in its parts.  The relations below
say what is read, and nothing of the places where the parts stand, of fuel or of bounds: a body has a
reading if and only if the parser finds it with enough fuel, wherever the body stands.
-/

namespace PythonSyntax.Parser

open TokenLikeness

/-! ## Readings -/

/-- The text of a part of a body without fields. -/
def Decodes (isRaw : Bool) (chunk : List Char) (t : Text) : Prop :=
  (if isRaw then (Escape.decodeRaw false chunk).map Text.ofChars else Escape.decode false chunk) = .ok t

/-- A body is texts, doubled braces and fields, where `field` says what a field reads and leaves. -/
inductive Reading (isRaw : Bool) (field : List Char → List Piece → List Char → Prop) :
    List Char → List Piece → Prop where
  | last {text chunk t} : splitLiteral isRaw false text = (chunk, []) → Decodes isRaw chunk t →
      Reading isRaw field text [.text t]
  | doubled {text chunk b r t ps} : b = '{' ∨ b = '}' →
      splitLiteral isRaw false text = (chunk, b :: b :: r) → Decodes isRaw chunk t →
      Reading isRaw field r ps →
      Reading isRaw field text (.text t :: .text (Text.ofChars [b]) :: ps)
  | field {text chunk r t ps rest qs} : splitLiteral isRaw false text = (chunk, '{' :: r) →
      r.head? ≠ some '{' → Decodes isRaw chunk t → field r ps rest → Reading isRaw field rest qs →
      Reading isRaw field text (.text t :: (ps ++ qs))

/-- A format spec, if a colon begins one, and the text after it. -/
inductive ReadsSpec (spec : List Char → List Piece → Prop) :
    List Char → Option Expr → List Char → Prop where
  | none {text} : text.head? ≠ some ':' → ReadsSpec spec text none text
  | some {r inner rest ps} : splitSpec 0 r = (inner, rest) → spec inner ps →
      ReadsSpec spec (':' :: r) (some (.joinedStr (merge ps))) rest

/-- The conversion of a field; one that shows itself has a default. -/
def fullConversion (shown : Option Piece) (conversion : Option Char) (formatSpec : Option Expr) :
    Option Char :=
  if shown.isSome && conversion.isNone && formatSpec.isNone then some 'r' else conversion

/-- The end of a field with the value `v`: a conversion, a spec and the closing brace. -/
inductive ReadsEnd (spec : List Char → List Piece → Prop) (shown : Option Piece) (v : Expr) :
    List Char → List Piece → List Char → Prop where
  | mk {text conversion text' offset formatSpec rest} :
      fieldConversion text 0 = .ok (conversion, text', offset) →
      ReadsSpec spec text' formatSpec ('}' :: rest) →
      ReadsEnd spec shown v text (shown.toList ++
        [.value (.formattedValue v (fullConversion shown conversion formatSpec) formatSpec)]) rest

/-- A field is an expression, perhaps what it shows of itself, and the end. -/
inductive IsField (spell : List Char → List Char) (embeds : List Char → Expr → Prop)
    (spec : List Char → List Piece → Prop) : List Char → List Piece → List Char → Prop where
  | mk {text source tail v shown text' offset ps rest} :
      splitField 0 ⟨0, none, 0⟩ 0 text = .ok (source, tail) → source.all Unicode.isWhiteSpace = false →
      embeds source v → fieldShown spell source tail 0 = (shown, text', offset) →
      ReadsEnd spec shown v text' ps rest → IsField spell embeds spec text ps rest

variable {spell : List Char → List Char} {n : Nesting} {isRaw : Bool} {levels fuel k bound : Nat}
  {l : Literal} {ts us : List Token} {text source chunk rest r : List Char} {t : Text} {v : Expr}
  {ps qs : List Piece}

/-! ## Bodies -/

theorem Decodes.outcome (h : Decodes l.isRaw chunk t) :
    outcome (textPiece l chunk) n ts = .ok ([.text t], ts) := by
  unfold textPiece
  rw [show (if l.isRaw = true then _ else _) = _ from h]
  rfl

theorem decodes_of_outcome (h : outcome (textPiece l chunk) n ts = .ok (ps, us)) :
    us = ts ∧ ∃ t, ps = [.text t] ∧ Decodes l.isRaw chunk t := by
  unfold textPiece at h
  dsimp only at h
  split at h
  · next t hdecode =>
    cases h
    exact ⟨rfl, t, rfl, hdecode⟩
  · cases h

variable {field field' : List Char → List Piece → List Char → Prop}

theorem Reading.mono (h : Reading isRaw field text ps)
    (hf : ∀ text ps rest, field text ps rest → field' text ps rest) : Reading isRaw field' text ps := by
  induction h with
  | last hcut hd => exact .last hcut hd
  | doubled hb hcut hd _ ih => exact .doubled hb hcut hd ih
  | field hcut hr hd h _ ih => exact .field hcut hr hd (hf _ _ _ h) ih

/-- If each field is read with enough fuel, then with enough fuel all of them are. -/
theorem Reading.of_eventually {field : Nat → List Char → List Piece → List Char → Prop}
    (h : Reading isRaw (fun text ps rest => ∃ fuel, ∀ k, fuel ≤ k → field k text ps rest) text ps) :
    ∃ fuel, ∀ k, fuel ≤ k → Reading isRaw (field k) text ps := by
  induction h with
  | last hcut hd => exact ⟨0, fun _ _ => .last hcut hd⟩
  | doubled hb hcut hd _ ih =>
    obtain ⟨fuel, ih⟩ := ih
    exact ⟨fuel, fun k hk => .doubled hb hcut hd (ih k hk)⟩
  | field hcut hr hd h _ ih =>
    obtain ⟨fuel, h⟩ := h
    obtain ⟨fuel', ih⟩ := ih
    refine ⟨max fuel fuel', fun k hk => ?_⟩
    have hle := Nat.max_le.mp hk
    exact .field hcut hr hd (h k hle.1) (ih k hle.2)

section

variable {hole : List Char → Nat → Parser (List Piece × List Char × Nat)}

/-- What a parser of fields reads and leaves, wherever the field stands. -/
def Finds (hole : List Char → Nat → Parser (List Piece × List Char × Nat)) (n : Nesting)
    (text : List Char) (ps : List Piece) (rest : List Char) : Prop :=
  ∀ start ts, ∃ offset, outcome (hole text start) n ts = .ok ((ps, rest, offset), ts)

/-- A reading is found, within any bound above the length of the body. -/
theorem Reading.outcome (h : Reading l.isRaw (Finds hole n) text ps)
    (hshorter : ∀ text ps rest, Finds hole n text ps rest → rest.length < text.length)
    (hbound : text.length < bound) (offset : Nat) (ts : List Token) :
    outcome (piecesUpTo l hole bound text offset) n ts = .ok (ps, ts) := by
  induction h generalizing bound offset with
  | last hcut hd =>
    obtain ⟨bound, rfl⟩ := Nat.exists_eq_add_one_of_ne_zero (Nat.ne_zero_of_lt hbound)
    exact outcome_piecesUpTo_end hcut hd.outcome
  | @doubled text chunk b r t ps hb hcut hd _ ih =>
    obtain ⟨bound, rfl⟩ := Nat.exists_eq_add_one_of_ne_zero (Nat.ne_zero_of_lt hbound)
    have hlength := congrArg List.length (splitLiteral_append l.isRaw false text)
    rw [hcut, List.length_append, List.length_cons, List.length_cons] at hlength
    dsimp only at hlength
    exact outcome_piecesUpTo_doubled hb hcut hd.outcome (ih (by omega) _)
  | @field text chunk r t ps rest qs hcut hr hd h _ ih =>
    obtain ⟨bound, rfl⟩ := Nat.exists_eq_add_one_of_ne_zero (Nat.ne_zero_of_lt hbound)
    have hlength := congrArg List.length (splitLiteral_append l.isRaw false text)
    rw [hcut, List.length_append, List.length_cons] at hlength
    dsimp only at hlength
    have hlt := hshorter _ _ _ h
    obtain ⟨offset', h⟩ := h (offset + byteLength chunk + 1) ts
    exact outcome_piecesUpTo_field hr hcut hd.outcome h (ih (by omega) _)

/-- What is found is a reading. -/
theorem reading_of_outcome
    (hhole : ∀ text start ts r us, outcome (hole text start) n ts = .ok (r, us) → us = ts)
    {offset : Nat} (h : outcome (piecesUpTo l hole bound text offset) n ts = .ok (ps, us)) :
    us = ts ∧ Reading l.isRaw
      (fun text ps rest => ∃ start offset, outcome (hole text start) n ts = .ok ((ps, rest, offset), ts))
      text ps := by
  induction bound generalizing text offset ps us with
  | zero => cases h
  | succ bound ih =>
    -- a brace that is doubled
    have hdoubled : ∀ {chunk b r}, b = '{' ∨ b = '}' →
        splitLiteral l.isRaw false text = (chunk, b :: b :: r) →
        (outcome (textPiece l chunk) n ts >>= fun before => outcome (piecesUpTo l hole bound r
          (offset + byteLength chunk + 2) >>= fun after =>
            pure (before.1 ++ .text (Text.ofChars [b]) :: after)) n before.2) = .ok (ps, us) →
        us = ts ∧ Reading l.isRaw (fun text ps rest => ∃ start offset,
          outcome (hole text start) n ts = .ok ((ps, rest, offset), ts)) text ps := by
      intro chunk b r hb hcut h
      obtain ⟨⟨before, vs⟩, hbefore, h⟩ := bind_ok h
      obtain ⟨rfl, t, rfl, hd⟩ := decodes_of_outcome hbefore
      obtain ⟨⟨after, ws⟩, hafter, h⟩ := bind_ok h
      obtain ⟨rfl, hbody⟩ := ih hafter
      cases h
      exact ⟨rfl, .doubled hb hcut hd hbody⟩
    unfold piecesUpTo at h
    generalize hcut : splitLiteral l.isRaw false text = cut at h hdoubled
    obtain ⟨chunk, rest⟩ := cut
    dsimp only at h
    split at h
    · obtain ⟨rfl, t, rfl, hd⟩ := decodes_of_outcome h
      exact ⟨rfl, .last hcut hd⟩
    · exact hdoubled (.inl rfl) rfl h
    · exact hdoubled (.inr rfl) rfl h
    · next r hr =>
      obtain ⟨⟨before, vs⟩, hbefore, h₁⟩ := bind_ok h
      obtain ⟨rfl, t, rfl, hd⟩ := decodes_of_outcome hbefore
      obtain ⟨⟨⟨pieces, rest, offset'⟩, vs⟩, hfield, h₂⟩ := bind_ok h₁
      obtain rfl : vs = _ := hhole _ _ _ _ _ hfield
      obtain ⟨⟨after, ws⟩, hafter, h₃⟩ := bind_ok h₂
      obtain ⟨rfl, hbody⟩ := ih hafter
      cases h₃
      refine ⟨rfl, .field hcut ?_ hd ⟨_, _, hfield⟩ hbody⟩
      intro hhead
      obtain ⟨s, rfl⟩ := List.head?_eq_some_iff.mp hhead
      exact hr s rfl
    · cases h

end

/-! ## Levels -/

section

variable (spell n isRaw levels)

/-- With enough fuel the expression of a field has this value, wherever it stands. -/
def Embeds (source : List Char) (v : Expr) : Prop :=
  ∃ fuel, ∀ base, Settles spell (fun rule => embedded rule source base) n fuel v

/-- With enough fuel a body in which fields may nest so deep has these pieces, wherever it stands. -/
def ReadsPieces (text : List Char) (ps : List Piece) : Prop :=
  ∃ fuel, ∀ l : Literal, l.isRaw = isRaw → ∀ x,
    Settles spell (fun rule => pieces spell rule l levels text x) n fuel ps

/-- With enough fuel a field with such specs has these pieces and leaves this text, wherever it stands. -/
def ReadsField (text : List Char) (ps : List Piece) (rest : List Char) : Prop :=
  ∃ fuel, ∀ k, fuel ≤ k → ∀ l : Literal, l.isRaw = isRaw →
    Finds (Parser.field spell (Rule.run spell k) (pieces spell (Rule.run spell k) l levels)) n text ps rest

end

theorem embeds_of_ok {base : Nat}
    (h : outcome (embedded (Rule.run spell fuel) source base) n ts = .ok (v, us)) :
    us = ts ∧ Embeds spell n source v := by
  have hread : ∀ base', us = ts ∧ Settles spell (fun rule => embedded rule source base') n fuel v :=
    fun base' => settles_of_ok (p := fun rule => embedded rule source base)
      (fun hrule => embedded_same hrule source False.elim) h
  exact ⟨(hread 0).1, fuel, fun base' => (hread base').2⟩

theorem readsPieces_of_ok {x : Nat}
    (h : outcome (pieces spell (Rule.run spell fuel) l levels text x) n ts = .ok (ps, us)) :
    us = ts ∧ ReadsPieces spell n l.isRaw levels text ps := by
  have hread : ∀ l' : Literal, l'.isRaw = l.isRaw → ∀ y, us = ts ∧
      Settles spell (fun rule => pieces spell rule l' levels text y) n fuel ps :=
    fun l' hraw y => settles_of_ok (readsAlike_pieces l l' hraw.symm levels text x y) h
  exact ⟨(hread l rfl 0).1, fuel, fun l' hraw y => (hread l' hraw y).2⟩

theorem readsField_of_ok {start offset : Nat}
    (h : outcome (Parser.field spell (Rule.run spell fuel) (pieces spell (Rule.run spell fuel) l levels)
      text start) n ts = .ok ((ps, rest, offset), us)) :
    us = ts ∧ ReadsField spell n l.isRaw levels text ps rest := by
  obtain ⟨isRaw, span⟩ := l
  have hread : ∀ span' start', us = ts ∧ ∀ k, fuel ≤ k → ∀ vs, ∃ offset', outcome (Parser.field spell
      (Rule.run spell k) (pieces spell (Rule.run spell k) ⟨isRaw, span'⟩ levels) text start') n vs =
        .ok ((ps, rest, offset'), vs) := fun span' start' =>
    finds_of_ok
      (p := fun rule => Parser.field spell rule (pieces spell rule ⟨isRaw, span⟩ levels) text start)
      (q := fun rule => Parser.field spell rule (pieces spell rule ⟨isRaw, span'⟩ levels) text start')
      (fun hrule => field_same hrule
        (fun text _ _ _ => pieces_same hrule isRaw False.elim levels text False.elim) text False.elim) h
  refine ⟨(hread span 0).1, fuel, fun k hk l' hraw start' vs => ?_⟩
  obtain ⟨isRaw', span'⟩ := l'
  obtain rfl : isRaw' = isRaw := hraw
  exact (hread span' start').2 k hk vs

/-- A field leaves less text than there was. -/
theorem length_of_finds {rule : Rule → Parser Expr} {spec : List Char → Nat → Parser (List Piece)}
    (h : Finds (Parser.field spell rule spec) n text ps rest) : rest.length < text.length := by
  obtain ⟨offset, h⟩ := h 0 []
  have hshorter : Alike (Parser.field spell rule spec text 0) (Parser.field spell rule spec text 0)
      fun r => r.2.1.length < text.length := field_congr (fun _ _ _ _ _ => rfl) (fun _ _ _ => .rfl) 0
  exact (hshorter n []).2 _ _ h

/-- A body is read as its texts and fields are. -/
theorem readsPieces_succ :
    ReadsPieces spell n isRaw (levels + 1) text ps ↔
      Reading isRaw (ReadsField spell n isRaw levels) text ps := by
  constructor
  · rintro ⟨fuel, h⟩
    have hpieces := h ⟨isRaw, ⟨0, 0⟩⟩ rfl 0 fuel (Nat.le_refl fuel) []
    refine (reading_of_outcome (l := ⟨isRaw, ⟨0, 0⟩⟩)
      (fun text start ts r us hfield => ?_) hpieces).2.mono ?_
    · exact (readsField_of_ok hfield).1
    · rintro text ps rest ⟨start, offset, hfield⟩
      exact (readsField_of_ok hfield).2
  · intro h
    obtain ⟨fuel, h⟩ := h.of_eventually
    refine ⟨fuel, fun l hraw x k hk ts => ?_⟩
    subst hraw
    exact ((h k hk).mono fun text ps rest hf => hf l rfl).outcome (fun _ _ _ => length_of_finds)
      (Nat.lt_succ_self _) x ts

/-! ## The parts of a field -/

/-- What shows of a field does not depend on where it stands. -/
theorem fieldShown_moved {tail text' : List Char} {x x' : Nat} {shown : Option Piece}
    (h : fieldShown spell source tail x = (shown, text', x')) (y : Nat) :
    ∃ y', fieldShown spell source tail y = (shown, text', y') := by
  have hsame : SameEnds False (fieldShown spell source tail x) (fieldShown spell source tail y) :=
    fieldShown_same spell source tail False.elim
  rw [h] at hsame
  exact ⟨(fieldShown spell source tail y).2.2, Prod.ext hsame.value.symm (Prod.ext hsame.rest.symm rfl)⟩

theorem fieldEnd_eq_ok {shown : Option Piece} {conversion : Option Char} {formatSpec : Option Expr}
    {x x' : Nat} (h : fieldEnd shown v conversion formatSpec text x = .ok (ps, rest, x')) :
    text = '}' :: rest ∧ ps = shown.toList ++
        [.value (.formattedValue v (fullConversion shown conversion formatSpec) formatSpec)] := by
  unfold fieldEnd at h
  split at h
  · cases h
    exact ⟨rfl, rfl⟩
  · cases h

/-- A spec that is read is one. -/
theorem readsSpec_of_ok {x x' : Nat} {formatSpec : Option Expr}
    (h : outcome (fieldSpec (pieces spell (Rule.run spell fuel) l levels) text x) n ts =
      .ok ((formatSpec, rest, x'), us)) :
    us = ts ∧ ReadsSpec (ReadsPieces spell n l.isRaw levels) text formatSpec rest := by
  unfold fieldSpec at h
  split at h
  · next r =>
    obtain ⟨⟨ps, vs⟩, hpieces, h₁⟩ := bind_ok h
    obtain ⟨rfl, hps⟩ := readsPieces_of_ok hpieces
    cases h₁
    exact ⟨rfl, .some rfl hps⟩
  · next hcolon =>
    cases h
    refine ⟨rfl, .none fun hhead => ?_⟩
    obtain ⟨r, rfl⟩ := List.head?_eq_some_iff.mp hhead
    exact hcolon r rfl

theorem fieldSpec_colon (spec : List Char → Nat → Parser (List Piece)) (r : List Char) (x : Nat) :
    fieldSpec spec (':' :: r) x = (spec (splitSpec 0 r).1 (x + 1) >>= fun ps =>
      pure (some (.joinedStr (merge ps)), (splitSpec 0 r).2, x + 1 + byteLength (splitSpec 0 r).1)) := rfl

theorem ReadsSpec.outcome {formatSpec : Option Expr}
    (h : ReadsSpec (ReadsPieces spell n isRaw levels) text formatSpec rest) :
    ∃ fuel, ∀ k, fuel ≤ k → ∀ l : Literal, l.isRaw = isRaw → ∀ x ts, ∃ x',
      outcome (fieldSpec (pieces spell (Rule.run spell k) l levels) text x) n ts =
        .ok ((formatSpec, rest, x'), ts) := by
  cases h with
  | none hcolon =>
    refine ⟨0, fun k _ l _ x ts => ⟨x, ?_⟩⟩
    unfold fieldSpec
    split
    · exact absurd rfl hcolon
    · rfl
  | @some r inner rest ps hcut hspec =>
    obtain ⟨fuel, hspec⟩ := hspec
    refine ⟨fuel, fun k hk l hraw x ts => ⟨x + 1 + byteLength inner, ?_⟩⟩
    have hps := hspec l hraw (x + 1) k hk ts
    rw [fieldSpec_colon, hcut]
    exact (outcome_bind_of hps _).trans rfl

theorem ofExcept_ok {α : Type} {r : Except SyntaxError α} {p : α × List Token}
    (h : outcome (ofExcept r) n ts = .ok p) : r = .ok p.1 ∧ p.2 = ts := by
  rw [outcome_ofExcept] at h
  obtain ⟨a, rfl, rfl⟩ := map_ok h
  exact ⟨rfl, rfl⟩

/-- A field that is read has its parts. -/
theorem isField_of_ok {start offset : Nat}
    (h : outcome (Parser.field spell (Rule.run spell fuel) (pieces spell (Rule.run spell fuel) l levels)
      text start) n ts = .ok ((ps, rest, offset), us)) :
    IsField spell (Embeds spell n) (ReadsPieces spell n l.isRaw levels) text ps rest := by
  unfold Parser.field at h
  obtain ⟨⟨⟨source, tail⟩, ts₁⟩, h₁, g₁⟩ := bind_ok h
  obtain ⟨hsplit, rfl⟩ := ofExcept_ok h₁
  dsimp only at g₁ hsplit
  split at g₁
  · cases g₁
  · next hvisible =>
    obtain ⟨⟨v, ts₂⟩, h₂, g₂⟩ := bind_ok g₁
    obtain ⟨-, hv⟩ := embeds_of_ok h₂
    obtain ⟨⟨⟨conversion, text₂, x₂⟩, ts₃⟩, h₃, g₃⟩ := bind_ok g₂
    obtain ⟨hconversion, -⟩ := ofExcept_ok h₃
    obtain ⟨⟨⟨formatSpec, text₃, x₃⟩, ts₄⟩, h₄, g₄⟩ := bind_ok g₃
    obtain ⟨-, hspec⟩ := readsSpec_of_ok h₄
    obtain ⟨hend, -⟩ := ofExcept_ok g₄
    obtain ⟨hbrace, rfl⟩ := fieldEnd_eq_ok hend
    obtain rfl : text₃ = '}' :: rest := hbrace
    obtain ⟨y, hshown⟩ := @fieldShown_moved spell source tail _ (start + byteLength source) _ _ rfl 0
    obtain ⟨y', hconversion⟩ := fieldConversion_moved hconversion 0
    exact .mk (splitField_moved hsplit 0 0) (Bool.eq_false_iff.mpr hvisible) hv hshown
      (.mk hconversion hspec)

/-- A field is read as its parts are. -/
theorem readsField_iff : ReadsField spell n isRaw levels text ps rest ↔
    IsField spell (Embeds spell n) (ReadsPieces spell n isRaw levels) text ps rest := by
  constructor
  · rintro ⟨fuel, h⟩
    obtain ⟨offset, h⟩ := h fuel (Nat.le_refl fuel) ⟨isRaw, ⟨0, 0⟩⟩ rfl 0 []
    exact isField_of_ok h
  · intro h
    cases h with | @mk source tail v shown text' _ _ _ hsplit hvisible hv hshown hend
    obtain ⟨fuel, hv⟩ := hv
    obtain ⟨hconversion, hspec⟩ := hend
    obtain ⟨fuel', hspec⟩ := hspec.outcome
    refine ⟨max fuel fuel', fun k hk l hraw start ts => ?_⟩
    obtain ⟨hfuel, hfuel'⟩ := Nat.max_le.mp hk
    obtain ⟨y, hshown⟩ := fieldShown_moved hshown (start + byteLength source)
    obtain ⟨y', hconversion⟩ := fieldConversion_moved hconversion y
    obtain ⟨y'', hspec⟩ := hspec k hfuel' l hraw y' ts
    refine ⟨y'' + 1, ?_⟩
    unfold Parser.field
    rw [splitField_moved hsplit start start, outcome_bind_of (outcome_ofExcept _)]
    dsimp only
    rw [hvisible, if_neg Bool.false_ne_true, outcome_bind_of (hv start k hfuel ts), hshown]
    dsimp only
    rw [hconversion, outcome_bind_of (outcome_ofExcept _)]
    exact (outcome_bind_of hspec _).trans rfl

/-! ## What is read where a field begins -/

section

variable {field : List Char → List Piece → List Char → Prop} {embeds : List Char → Expr → Prop}
  {spec : List Char → List Piece → Prop} {shown : Option Piece} {tail : List Char}

/-- A body in which a field is next. -/
theorem reading_field_iff (hcut : splitLiteral isRaw false text = (chunk, '{' :: r))
    (hr : r.head? ≠ some '{') : Reading isRaw field text ps ↔
      ∃ t qs rest us, Decodes isRaw chunk t ∧ field r qs rest ∧ Reading isRaw field rest us ∧
        ps = .text t :: (qs ++ us) := by
  constructor
  · intro h
    cases h with
    | last hcut' =>
      cases hcut.symm.trans hcut'
    | doubled hb hcut' =>
      cases hcut.symm.trans hcut'
      exact absurd rfl hr
    | field hcut' _ hd h hrest =>
      cases hcut.symm.trans hcut'
      exact ⟨_, _, _, _, hd, h, hrest, rfl⟩
  · rintro ⟨t, qs, rest, us, hd, h, hrest, rfl⟩
    exact .field hcut hr hd h hrest

/-- A field whose expression has been found. -/
theorem isField_iff (hsplit : splitField 0 ⟨0, none, 0⟩ 0 text = .ok (source, tail)) :
    IsField spell embeds spec text ps rest ↔ source.all Unicode.isWhiteSpace = false ∧
      ∃ v, embeds source v ∧ ReadsEnd spec (fieldShown spell source tail 0).1 v
        (fieldShown spell source tail 0).2.1 ps rest := by
  constructor
  · intro h
    cases h with | mk hsplit' hvisible hv hshown hend
    cases hsplit.symm.trans hsplit'
    rw [hshown]
    exact ⟨hvisible, _, hv, hend⟩
  · rintro ⟨hvisible, v, hv, hend⟩
    exact .mk hsplit hvisible hv rfl hend

/-- The end of a field without a conversion and a spec. -/
theorem readsEnd_brace : ReadsEnd spec shown v ('}' :: r) ps rest ↔
    rest = r ∧ ps = shown.toList ++ [.value (.formattedValue v (fullConversion shown none none) none)] := by
  constructor
  · rintro ⟨hconversion, hspec⟩
    cases hconversion
    cases hspec
    exact ⟨rfl, rfl⟩
  · rintro ⟨rfl, rfl⟩
    exact .mk rfl (.none nofun)

/-- The end of a field with a spec and without a conversion. -/
theorem readsEnd_colon : ReadsEnd spec shown v (':' :: r) ps rest ↔
    ∃ inner qs, splitSpec 0 r = (inner, '}' :: rest) ∧ spec inner qs ∧
      ps = shown.toList ++ [.value (.formattedValue v none (some (.joinedStr (merge qs))))] := by
  have hgiven : ∀ e, fullConversion shown none (some e) = none := fun e => by
    rw [fullConversion, Option.isNone_some, Bool.and_false, if_neg Bool.false_ne_true]
  constructor
  · rintro ⟨hconversion, hspec⟩
    cases hconversion
    cases hspec with | some hcut hspec
    rw [hgiven]
    exact ⟨_, _, hcut, hspec, rfl⟩
  · rintro ⟨inner, qs, hcut, hspec, rfl⟩
    rw [← hgiven (.joinedStr (merge qs))]
    exact .mk rfl (.some hcut hspec)

end

end PythonSyntax.Parser
