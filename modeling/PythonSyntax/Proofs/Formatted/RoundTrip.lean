import PythonSyntax.Proofs.Formatted.Field
import PythonSyntax.Proofs.Formatted.Text

/-
Written formatted literals are read back.

A body is read piece by piece: up to a doubled brace, a field or the end.  The pieces are not the
parts that were written, for a brace is a piece of its own, but neighbouring texts become one
constant either way.
-/

namespace PythonSyntax

open PythonSyntax.Parser Filter

variable {spell : List Char → List Char} {n : Nesting} {ts : List Token}

namespace Part

/-! ## Values -/

theorem prepend_nil (es : List Expr) : prepend [] es = es := if_pos rfl

theorem prepend_append (t u : Text) (es : List Expr) :
    prepend (t ++ u) es = prepend t (prepend u es) := by
  by_cases ht : t = []
  · rw [ht, List.nil_append, prepend_nil]
  by_cases hu : u = []
  · rw [hu, List.append_nil, prepend_nil]
  have htu : t ++ u ≠ [] := fun h => ht (List.append_eq_nil_iff.mp h).1
  unfold prepend
  rw [if_neg htu, if_neg ht, if_neg hu]
  split
  · rw [List.append_assoc]
  · rfl

/-- A text before anything but another text is a constant of its own. -/
theorem prepend_apart (t : Text) (es : List Expr) (h : ∀ u vs, es ≠ .constant (.str u) :: vs) :
    prepend t es = textValue t ++ es := by
  unfold prepend textValue
  by_cases ht : t = []
  · rw [if_pos ht, ht]
    rfl
  · rw [if_neg ht, List.isEmpty_eq_false_iff.mpr ht, if_neg Bool.false_ne_true]
    split
    · exact absurd rfl (h _ _)
    · rfl

theorem values_cons {ps qs : List Part} (h : values ps = values qs) (p : Part) :
    values (p :: ps) = values (p :: qs) := by
  cases p with
  | text cs => rw [values, values, h]
  | field name k => rw [values, values, h]

theorem values_text_nil (ps : List Part) : values (text [] :: ps) = values ps := prepend_nil _

theorem values_text_append (cs ds : List Char) (ps : List Part) :
    values (text (cs ++ ds) :: ps) = values (text cs :: text ds :: ps) := by
  rw [values, values, values, Text.ofChars_append, prepend_append]

/-- The piece of a part. -/
def piece : Part → Piece
  | text cs => .text (Text.ofChars cs)
  | field name k => .value (.formattedValue (.load name.text) (k.map Conversion.letter) none)

theorem mergeAfter_piece (t : Text) (ps : List Part) :
    mergeAfter t (ps.map piece) = prepend t (values ps) := by
  induction ps generalizing t with
  | nil =>
    rw [List.map_nil, mergeAfter, values, prepend_apart t [] nofun, List.append_nil]
  | cons p ps ih =>
    cases p with
    | text cs => rw [List.map_cons, piece, mergeAfter, ih, values, prepend_append]
    | field name k =>
      have hapart := prepend_apart t (values (field name k :: ps)) nofun
      rw [List.map_cons, piece, mergeAfter, ih, prepend_nil, hapart, values]

theorem merge_piece (ps : List Part) : merge (ps.map piece) = values ps := by
  rw [merge, mergeAfter_piece, prepend_nil]

end Part

/-! ## One piece of a body -/

namespace Parser

section

variable {l : Literal} {hole : List Char → Nat → Parser (List Piece × List Char × Nat)}
  {bound offset : Nat} {text chunk r : List Char} {t : Text}

theorem outcome_piecesUpTo_end (hcut : splitLiteral l.isRaw false text = (chunk, []))
    (hchunk : outcome (textPiece l chunk) n ts = .ok ([.text t], ts)) :
    outcome (piecesUpTo l hole (bound + 1) text offset) n ts = .ok ([.text t], ts) := by
  unfold piecesUpTo
  rw [hcut]
  exact hchunk

theorem outcome_piecesUpTo_doubled {b : Char} (hb : b = '{' ∨ b = '}') {after : List Piece}
    (hcut : splitLiteral l.isRaw false text = (chunk, b :: b :: r))
    (hchunk : outcome (textPiece l chunk) n ts = .ok ([.text t], ts))
    (hafter : outcome (piecesUpTo l hole bound r (offset + byteLength chunk + 2)) n ts =
      .ok (after, ts)) :
    outcome (piecesUpTo l hole (bound + 1) text offset) n ts =
      .ok (.text t :: .text (Text.ofChars [b]) :: after, ts) := by
  unfold piecesUpTo
  rw [hcut]
  rcases hb with rfl | rfl
  · show outcome (textPiece l chunk >>= _) n ts = _
    rw [outcome_bind_of hchunk, outcome_bind_of hafter]
    rfl
  · show outcome (textPiece l chunk >>= _) n ts = _
    rw [outcome_bind_of hchunk, outcome_bind_of hafter]
    rfl

theorem outcome_piecesUpTo_field (hr : r.head? ≠ some '{') {pieces after : List Piece}
    {rest : List Char} {offset' : Nat}
    (hcut : splitLiteral l.isRaw false text = (chunk, '{' :: r))
    (hchunk : outcome (textPiece l chunk) n ts = .ok ([.text t], ts))
    (hhole : outcome (hole r (offset + byteLength chunk + 1)) n ts =
      .ok ((pieces, rest, offset'), ts))
    (hafter : outcome (piecesUpTo l hole bound rest offset') n ts = .ok (after, ts)) :
    outcome (piecesUpTo l hole (bound + 1) text offset) n ts =
      .ok (.text t :: (pieces ++ after), ts) := by
  rw [piecesUpTo_field hcut hr, outcome_bind_of hchunk, outcome_bind_of hhole,
    outcome_bind_of hafter]
  rfl

end

end Parser

namespace Part

/-! ## Bodies -/

/-- Fields of names are read back. -/
def ReadsFields (spell : List Char → List Char)
    (hole : (Rule → Parser Expr) → List Char → Nat → Parser (List Piece × List Char × Nat)) :
    Prop :=
  ∀ (name : PlainName) k rest start n ts, ∃ offset, ∀ᶠ fuel in atTop,
    outcome (hole (Rule.run spell fuel)
      (name.text.toList ++ (writeConversion k ++ '}' :: rest)) start) n ts =
        .ok (([piece (field name k)], rest, offset), ts)

/-- A body is read back, also if a text without braces stands before it. -/
def ReadsBody (spell : List Char → List Char) (l : Literal)
    (hole : (Rule → Parser Expr) → List Char → Nat → Parser (List Piece × List Char × Nat))
    (ps : List Part) : Prop :=
  ∀ cs bound offset n ts, Braceless cs → ¬ ['\\', 'N', '{'] <:+: cs ++ outline ps →
    (writeText cs ++ body ps).length < bound →
    ∃ qs, (∀ᶠ fuel in atTop, outcome (piecesUpTo l (hole (Rule.run spell fuel)) bound
      (writeText cs ++ body ps) offset) n ts = .ok (qs.map piece, ts)) ∧
        values qs = values (text cs :: ps)

section

variable {l : Literal} (hl : l.isRaw = false)
  {hole : (Rule → Parser Expr) → List Char → Nat → Parser (List Piece × List Char × Nat)}
  {ps : List Part}
include hl

/-- A body with a brace in front is cut there, if nothing seems to be a character name. -/
theorem splitLiteral_before (ps : List Part) {cs : List Char} (rest : List Char)
    (hcs : Braceless cs) (hname : ¬ ['\\', 'N', '{'] <:+: cs ++ outline ps) (hrest : AtBrace rest)
    (hhead : rest.head? = some '{' → (outline ps).head? = some '{') :
    splitLiteral l.isRaw false (writeText cs ++ rest) = (writeText cs, rest) := by
  rw [hl]
  refine splitLiteral_writeText hcs hrest ?_
  rintro ⟨ds, rfl⟩ hbrace
  obtain ⟨r, hr⟩ := List.head?_eq_some_iff.mp (hhead hbrace)
  exact hname ⟨ds, r, by simp [hr]⟩

theorem ReadsBody.nil : ReadsBody spell l hole [] := by
  intro cs bound offset n ts hcs hname hbound
  obtain ⟨bound, rfl⟩ : ∃ k, bound = k + 1 := ⟨bound - 1, by omega⟩
  have hcut := splitLiteral_before hl [] [] hcs hname nofun nofun
  refine ⟨[text cs], .of_forall fun fuel => ?_, rfl⟩
  exact outcome_piecesUpTo_end hcut (textPiece_writeText hl hcs)

theorem ReadsBody.field (hhole : ReadsFields spell hole) (ih : ReadsBody spell l hole ps)
    (name : PlainName) (k : Option Conversion) : ReadsBody spell l hole (field name k :: ps) := by
  intro cs bound offset n ts hcs hname hbound
  obtain ⟨bound, rfl⟩ : ∃ k, bound = k + 1 := ⟨bound - 1, by omega⟩
  have hbody : body (.field name k :: ps) =
      '{' :: (name.text.toList ++ (writeConversion k ++ '}' :: body ps)) := by
    simp [body, write]
  rw [hbody] at hbound ⊢
  have hcut := splitLiteral_before hl (.field name k :: ps)
    ('{' :: (name.text.toList ++ (writeConversion k ++ '}' :: body ps))) hcs hname
    (by rintro _ ⟨⟩; exact .inl rfl) fun _ => rfl
  have hafter : ¬ ['\\', 'N', '{'] <:+: [] ++ outline ps := fun h =>
    hname (h.trans ⟨cs ++ ['{'], [], by simp [outline]⟩)
  obtain ⟨offset', hfield⟩ := hhole name k (body ps) (offset + byteLength (writeText cs) + 1) n ts
  obtain ⟨qs, hqs, hvalues⟩ := ih [] bound offset' n ts nofun hafter
    (by simp [writeText] at hbound ⊢; omega)
  refine ⟨text cs :: .field name k :: qs, (hfield.and hqs).mono fun fuel hfuel => ?_, ?_⟩
  · refine outcome_piecesUpTo_field ?_ hcut (textPiece_writeText hl hcs) hfuel.1 hfuel.2
    obtain ⟨c, r, hc, hchar⟩ := name.exists_cons
    rw [hc]
    exact fun hbrace => Lexeme.ne_of_isNameChar hchar (by decide) (Option.some.inj hbrace)
  · rw [values_text_nil] at hvalues
    exact values_cons (values_cons hvalues _) _

theorem ReadsBody.char {ds : List Char} (ih : ReadsBody spell l hole (text ds :: ps)) (d : Char) :
    ReadsBody spell l hole (text (d :: ds) :: ps) := by
  intro cs bound offset n ts hcs hname hbound
  by_cases hd : d = '{' ∨ d = '}'
  · obtain ⟨bound, rfl⟩ : ∃ k, bound = k + 1 := ⟨bound - 1, by omega⟩
    have hbody : body (text (d :: ds) :: ps) = d :: d :: body (text ds :: ps) := by
      rcases hd with rfl | rfl <;> rfl
    rw [hbody] at hbound ⊢
    have hcut := splitLiteral_before hl (text (d :: ds) :: ps) (d :: d :: body (text ds :: ps)) hcs
      hname (by rintro _ ⟨⟩; exact hd) id
    have hafter : ¬ ['\\', 'N', '{'] <:+: [] ++ outline (text ds :: ps) := fun h =>
      hname (h.trans ⟨cs ++ [d], [], by simp [outline]⟩)
    obtain ⟨qs, hqs, hvalues⟩ := ih [] bound (offset + byteLength (writeText cs) + 2) n ts nofun
      hafter (by simp [writeText] at hbound ⊢; omega)
    refine ⟨text cs :: text [d] :: qs, hqs.mono fun fuel hfuel => ?_, ?_⟩
    · exact outcome_piecesUpTo_doubled hd hcut (textPiece_writeText hl hcs) hfuel
    · rw [values_text_nil] at hvalues
      rw [← List.singleton_append (l := ds)]
      refine values_cons ?_ _
      rw [values_text_append]
      exact values_cons hvalues _
  · have hcs' : Braceless (cs ++ [d]) :=
      List.forall_mem_append.mpr ⟨hcs, List.forall_mem_singleton.mpr (not_or.mp hd)⟩
    have happend : writeText cs ++ body (text (d :: ds) :: ps) =
        writeText (cs ++ [d]) ++ body (text ds :: ps) := by
      simp [body, write, writeText]
    rw [happend] at hbound ⊢
    obtain ⟨qs, hqs, hvalues⟩ := ih (cs ++ [d]) bound offset n ts hcs'
      (by simpa [outline] using hname) hbound
    refine ⟨qs, hqs, hvalues.trans ?_⟩
    rw [values_text_append]
    refine values_cons ?_ _
    rw [← values_text_append]
    rfl

theorem readsBody (hhole : ReadsFields spell hole) (ps : List Part) :
    ReadsBody spell l hole ps := by
  induction ps with
  | nil => exact .nil hl
  | cons p ps ih =>
    cases p with
    | field name k => exact .field hl hhole ih name k
    | text cs =>
      induction cs with
      | nil =>
        intro cs bound offset n ts hcs hname hbound
        obtain ⟨qs, hqs, hvalues⟩ := ih cs bound offset n ts hcs hname hbound
        exact ⟨qs, hqs, hvalues.trans (values_cons (values_text_nil ps).symm _)⟩
      | cons d ds ih => exact .char hl ih d

end

/-! ## Literals -/

/-- The fields of a literal are read back. -/
theorem readsFields (spell : List Char → List Char) (l : Literal) (levels : Nat) :
    ReadsFields spell fun rule => Parser.field spell rule (pieces spell rule l levels) :=
  fun name k rest start _ _ =>
    field_write (fun rule => pieces spell rule l levels) name k rest start

variable {ps : List Part} {t : Token}

theorem literalPieces_literal (hname : ¬ ['\\', 'N', '{'] <:+: outline ps)
    (ht : t.text = String.ofList (literal ps)) :
    ∃ qs, (∀ᶠ fuel in atTop, outcome (literalPieces spell (Rule.run spell fuel) t) n ts =
      .ok (qs.map piece, ts)) ∧ values qs = values ps := by
  obtain ⟨qs, hqs, hvalues⟩ := readsBody (l := ⟨false, t.span⟩) rfl
    (readsFields spell ⟨false, t.span⟩ 1) ps [] ((body ps).length + 1) (t.span.start + 2) n ts nofun
    hname (Nat.lt_succ_self _)
  rw [values_text_nil] at hvalues
  refine ⟨qs, hqs.mono fun fuel hfuel => ?_, hvalues⟩
  unfold literalPieces
  rw [ht, String.toList_ofList, split_literal]
  exact hfuel

/-- A literal is read back as an atom. -/
theorem strings_literal (hname : ¬ ['\\', 'N', '{'] <:+: outline ps)
    (ht : t.text = String.ofList (literal ps)) :
    ∀ᶠ fuel in atTop, outcome (strings spell (Rule.run spell fuel) [t]) n ts =
      .ok (.joinedStr (values ps), ts) := by
  obtain ⟨qs, hqs, hvalues⟩ : ∃ qs, (∀ᶠ fuel in atTop,
      outcome (literalPieces spell (Rule.run spell fuel) t) n ts = .ok (qs.map piece, ts)) ∧
        values qs = values ps := literalPieces_literal hname ht
  refine hqs.mono fun fuel hfuel => ?_
  have hsplit : Quoted.split t.text.toList = ⟨false, false, true, body ps, 2⟩ := by
    rw [ht, String.toList_ofList, split_literal]
  have hmap : outcome ([t].mapM (literalPieces spell (Rule.run spell fuel))) n ts =
      .ok ([qs.map piece], ts) := by
    rw [List.mapM_cons, outcome_bind_of hfuel]
    rfl
  unfold strings
  simp only [List.map_cons, List.map_nil, hsplit, List.any_cons, List.any_nil]
  show outcome (List.mapM _ _ >>= _) n ts = _
  rw [outcome_bind_of hmap, List.flatten_singleton, merge_piece, hvalues]
  rfl

/-- A literal that no other one follows is a run of its own. -/
theorem items_string {next : Token} (ht : t.kind = .string) (hnext : next.kind ≠ .string) :
    Items (optional (atKind .string) advance) n (t :: next :: ts) [t] (next :: ts) := by
  have hstring : (t.kind == .string) = true := beq_iff_eq.mpr ht
  have hother : (next.kind == .string) = false := beq_false_of_ne hnext
  have htake : outcome (optional (atKind .string) advance) n (t :: next :: ts) =
      .ok (some t, next :: ts) := by
    show outcome (if (t.kind == .string) = true then _ else _) n _ = _
    rw [if_pos hstring]
    rfl
  have hstop : outcome (optional (atKind .string) advance) n (next :: ts) =
      .ok (none, next :: ts) := by
    show outcome (if (next.kind == .string) = true then _ else _) n _ = _
    rw [hother, if_neg Bool.false_ne_true]
    rfl
  exact .more htake (Nat.lt_succ_self _) (.done hstop)

end Part

/-- A formatted literal is read back from its writing, if no text of it seems to hold a character
name. -/
theorem parseModule_literal (ps : List Part) (limit : Nat)
    (hname : ¬ ['\\', 'N', '{'] <:+: Part.outline ps) :
    parseModule (Part.literal ps) limit = .ok ⟨[.expr (.joinedStr (Part.values ps))]⟩ := by
  obtain ⟨t, newline, eof, htokens, hword, hnewline, heof⟩ := Part.tokenize_literal ps limit
  obtain ⟨hkind, htext⟩ := Word.mk.inj hword
  have hbegins : ∀ r, Rule.Begins r t.word := fun r => hword ▸ .string
  have hatom : Rule.Takes id .atom ⟨limit, 0⟩ [t, newline, eof] (.joinedStr (Part.values ps))
      [newline, eof] := by
    have hstrings : ∀ᶠ fuel in atTop,
        outcome (strings id (Rule.run id fuel) [t]) ⟨limit, 0⟩ [newline, eof] =
          .ok (.joinedStr (Part.values ps), [newline, eof]) := Part.strings_literal hname htext
    have hother : newline.kind ≠ .string := by
      rw [hnewline]
      decide
    exact Rule.takes_of_body (hstrings.mono fun fuel hfuel =>
      atom_strings hkind (Part.items_string hkind hother) hfuel)
  have htest : Rule.Takes id .test ⟨limit, 0⟩ [t, newline, eof] (.joinedStr (Part.values ps))
      [newline, eof] :=
    hatom.loosen (by decide) (Nat.zero_le _) (hbegins _) (.of_newline hnewline _)
  rw [← List.singleton_append (l := [newline, eof])] at htest
  have hfirst : Rule.Begins .test (current ([t] ++ [newline, eof])).word := hbegins .test
  have hfile := file_takes hnewline heof hfirst htest
  exact parseSpelled_of_eventually htokens hfile

/-- A text with a quote, braces and a backslash, and two fields. -/
theorem parseModule_literal_shown :
    let x : PlainName := ⟨"x", by decide⟩
    let ps : List Part := [.text ['"', '{', '\\'], .field x (some ⟨'r', rfl⟩), .text [], .text ['N'],
      .field x none]
    ¬ ['\\', 'N', '{'] <:+: Part.outline ps ∧
      Part.literal ps = "f\"\\\"\x7b\x7b\\\\\x7bx!r\x7dN\x7bx\x7d\"".toList ∧
      parseModule (Part.literal ps) 0 = .ok ⟨[.expr (.joinedStr [
        .constant (.str (Text.ofString "\"\x7b\\")),
        .formattedValue (.load "x") (some 'r') none, .constant (.str (Text.ofString "N")),
        .formattedValue (.load "x") none none])]⟩ :=
  ⟨by decide, by decide, parseModule_literal _ _ (by decide)⟩

/-- After a doubled backslash the letter `N` and the brace of a field are taken for the beginning of
a character name, and the field for a part of the text. -/
theorem parseModule_literal_hidden :
    let ps : List Part := [.text ['\\', 'N'], .field ⟨"x", by decide⟩ none]
    Part.literal ps = "f\"\\\\N\x7bx\x7d\"".toList ∧
      Part.values ps = [.constant (.str (Text.ofString "\\N")),
        .formattedValue (.load "x") none none] ∧
      parseModule (Part.literal ps) 0 =
        .ok ⟨[.expr (.joinedStr [.constant (.str (Text.ofString "\\N\x7bx\x7d"))])]⟩ :=
  ⟨rfl, rfl, rfl⟩

end PythonSyntax
