import PythonSyntax.Proofs.Formatted.Settled
import PythonSyntax.Proofs.Span.Layout

/-
Literals in a row.

A run of literals is read literal by literal, and what is read is put together in the end: texts and
bytes are appended, pieces are merged.  So a run that is cut in two has the values of its parts, in which
only the texts at the cut become one.
-/

namespace PythonSyntax.Parser

open TokenLikeness
open Node (AreFields)

variable {α : Type} {spell : List Char → List Char} {rule : Rule → Parser Expr} {n : Nesting}
  {fuel : Nat} {ts us tokens as bs : List Token} {t : Token} {a b : Expr}

/-- A token that is a string of some text. -/
def IsString (t : Token) : Prop :=
  ∃ text, ∃ l ∈ lexemes text, l.kind = .string ∧ t.word = ⟨.string, String.ofList l.text⟩

/-- The parts of a literal. -/
def literalParts (t : Token) : Quoted := Quoted.split t.text.toList

/-- No literal holds both bytes and fields. -/
theorem IsString.not_both (h : IsString t) :
    ¬ ((literalParts t).isBytes = true ∧ (literalParts t).isFormatted = true) := by
  obtain ⟨text, l, hl, hkind, hword⟩ := h
  obtain ⟨s, k, hs, htext⟩ := string_of_mem hl hkind
  obtain ⟨i, q, triple, body, hi, hliteral, -⟩ := string_parts hs
  have hchars : t.text.toList = s.take k := by
    rw [show t.text = String.ofList l.text from congrArg Word.text hword, String.toList_ofList, htext]
  rw [literalParts, hchars, hliteral.split_eq]
  simpa using not_both_of_mem_markWords (lower_of_marks hi)

/-! ## Literal by literal -/

/-- If each literal of a run is read, so is the run. -/
theorem settles_mapM {f : (Rule → Parser Expr) → Token → Parser α} {xs : List α}
    (h : List.Forall₂ (fun t x => Settles spell (fun rule => f rule t) n fuel x) tokens xs) :
    Settles spell (fun rule => tokens.mapM (f rule)) n fuel xs := by
  intro k hk ts
  induction h with
  | nil => rfl
  | @cons t x tokens xs ht _ ih =>
    show outcome (List.mapM _ (t :: tokens)) n ts = _
    rw [List.mapM_cons, outcome_bind_of (ht k hk ts), outcome_bind_of ih]
    rfl

/-- If a run is read, so is each literal of it. -/
theorem forall₂_of_mapM {f : (Rule → Parser Expr) → Token → Parser α} {xs : List α}
    (hf : ∀ t, ReadsAlike (fun rule => f rule t) (fun rule => f rule t))
    (h : outcome (tokens.mapM (f (Rule.run spell fuel))) n ts = .ok (xs, us)) :
    List.Forall₂ (fun t x => Settles spell (fun rule => f rule t) n fuel x) tokens xs := by
  induction tokens generalizing ts xs with
  | nil =>
    cases h
    exact .nil
  | cons t tokens ih =>
    rw [List.mapM_cons, outcome_bind] at h
    obtain ⟨⟨x, vs⟩, hx, h⟩ := bind_ok h
    obtain ⟨⟨ys, ws⟩, hys, h⟩ := bind_ok h
    cases h
    exact .cons (settles_of_ok (hf t) hx).2 (ih hys)

/-- What is read off each literal of a run: the pieces, or the text. -/
abbrev ReadPieces (spell : List Char → List Char) (n : Nesting) (fuel : Nat) (tokens : List Token)
    (pieces : List (List Piece)) : Prop :=
  List.Forall₂ (fun t ps => Settles spell (fun rule => literalPieces spell rule t) n fuel ps) tokens pieces

abbrev ReadTexts (spell : List Char → List Char) (n : Nesting) (fuel : Nat) (tokens : List Token)
    (texts : List Text) : Prop :=
  List.Forall₂ (fun t x => Settles spell (fun _ => literalText t) n fuel x) tokens texts

theorem ReadPieces.mono {pieces : List (List Piece)} {k : Nat} (h : ReadPieces spell n fuel tokens pieces)
    (hk : fuel ≤ k) : ReadPieces spell n k tokens pieces :=
  h.imp fun _ _ ht => ht.mono hk

theorem ReadTexts.mono {texts : List Text} {k : Nat} (h : ReadTexts spell n fuel tokens texts)
    (hk : fuel ≤ k) : ReadTexts spell n k tokens texts :=
  h.imp fun _ _ ht => ht.mono hk

theorem areFields_flatten {pieces : List (List Piece)} (h : ReadPieces spell n fuel tokens pieces) :
    AreFields pieces.flatten := by
  induction h with
  | nil => exact nofun
  | cons ht _ ih =>
    intro e he
    rw [List.flatten_cons, List.mem_append] at he
    exact he.elim (areFields_literalPieces ht e) (ih e)

/-- A literal without fields is a piece. -/
theorem settles_textPiece {x : Text} (ht : (literalParts t).isFormatted = false)
    (h : Settles spell (fun _ => literalText t) n fuel x) :
    Settles spell (fun rule => literalPieces spell rule t) n fuel [.text x] := by
  intro k hk ts
  have hx := h k hk ts
  unfold literalText at hx
  unfold literalPieces
  rw [literalParts] at ht
  dsimp only
  rw [ht, if_neg Bool.false_ne_true]
  split at hx
  · cases hx
    rfl
  · cases hx

/-! ## Runs -/

/-- Whether a run holds a literal with fields. -/
def isFormattedRun (tokens : List Token) : Bool := tokens.any fun t => (literalParts t).isFormatted

/-- A run in which bytes and texts meet is refused, whatever the bodies are. -/
theorem strings_mixed {u : Token} (ht : t ∈ tokens) (hu : u ∈ tokens)
    (h : (literalParts t).isBytes ≠ (literalParts u).isBytes) :
    ∃ span, outcome (strings spell rule tokens) n ts = .error ⟨.mixedBytes, span⟩ := by
  cases tokens with
  | nil => exact nomatch ht
  | cons first rest =>
    have hany : ((first :: rest).map fun t => Quoted.split t.text.toList).any
        (·.isBytes != (Quoted.split first.text.toList).isBytes) = true := by
      by_contra hnone
      simp only [List.any_map, List.any_eq_true, Function.comp_apply, bne_iff_ne, not_exists, not_and,
        not_not] at hnone
      exact h ((hnone t ht).trans (hnone u hu).symm)
    unfold strings
    dsimp only
    rw [if_pos hany]
    exact ⟨_, rfl⟩

/-- A run in which no bytes and texts meet is its pieces, or its texts. -/
theorem strings_eq (hne : tokens ≠ []) {isBytes : Bool}
    (h : ∀ t ∈ tokens, (literalParts t).isBytes = isBytes) :
    strings spell rule tokens =
      if isFormattedRun tokens = true then do
        let pieces ← tokens.mapM (literalPieces spell rule)
        return .joinedStr (merge pieces.flatten)
      else do
        let texts ← tokens.mapM literalText
        return .constant (if isBytes then .bytes (Text.lossy texts.flatten) else .str texts.flatten) := by
  cases tokens with
  | nil => exact absurd rfl hne
  | cons first rest =>
    have hfirst : (Quoted.split first.text.toList).isBytes = isBytes := h first List.mem_cons_self
    have hnone : ¬ ((first :: rest).map fun t => Quoted.split t.text.toList).any
        (·.isBytes != (Quoted.split first.text.toList).isBytes) = true := by
      simp only [List.any_map, List.any_eq_true, Function.comp_apply, bne_iff_ne, not_exists, not_and,
        not_not]
      exact fun t ht => (h t ht).trans hfirst.symm
    have hformatted : ((first :: rest).map fun t => Quoted.split t.text.toList).any (·.isFormatted) =
        isFormattedRun (first :: rest) := List.any_map
    unfold strings
    dsimp only
    rw [if_neg hnone, hformatted, hfirst]

/-- The values of a literal: a text that is not empty is one, and an empty one is none. -/
def literalValues : Expr → List Expr
  | .constant (.str t) => textValue t
  | .joinedStr values => values
  | _ => []

/-- A literal that is no bytes: it has fields, or it is a text. -/
def IsTextLiteral : Bool → Expr → Prop
  | true, e => ∃ values, e = .joinedStr values
  | false, e => ∃ t, e = .constant (.str t)

/-- The literal of two literals in a row, of which each is formatted or not. -/
inductive Joins (f g : Bool) : Expr → Expr → Expr → Prop
  | bytes (x y : List Char) : f = false → g = false →
      Joins f g (.constant (.bytes x)) (.constant (.bytes y)) (.constant (.bytes (x ++ y)))
  | values {a b e} : IsTextLiteral f a → IsTextLiteral g b → IsTextLiteral (f || g) e →
      literalValues e = joinValues (literalValues a) (literalValues b) → Joins f g a b e

section

variable {isBytes : Bool}

/-- The texts of a run without fields. -/
theorem readTexts_of_strings (hne : tokens ≠ []) (h : ∀ t ∈ tokens, (literalParts t).isBytes = isBytes)
    (hplain : isFormattedRun tokens = false)
    (ho : outcome (strings spell (Rule.run spell fuel) tokens) n ts = .ok (a, us)) :
    ∃ texts, ReadTexts spell n fuel tokens texts ∧
      a = .constant (if isBytes then .bytes (Text.lossy texts.flatten) else .str texts.flatten) := by
  rw [strings_eq hne h, hplain, if_neg Bool.false_ne_true, outcome_bind] at ho
  obtain ⟨⟨texts, vs⟩, htexts, ho⟩ := bind_ok ho
  cases ho
  exact ⟨texts, forall₂_of_mapM (f := fun _ => literalText)
    (fun t _ _ _ => literalText_same rfl False.elim) htexts, rfl⟩

/-- The pieces of a run of texts and fields. -/
theorem readPieces_of_strings (hne : tokens ≠ []) (h : ∀ t ∈ tokens, (literalParts t).isBytes = false)
    (ho : outcome (strings spell (Rule.run spell fuel) tokens) n ts = .ok (a, us)) :
    ∃ pieces, ReadPieces spell n fuel tokens pieces ∧ literalValues a = merge pieces.flatten ∧
      IsTextLiteral (isFormattedRun tokens) a := by
  cases hformatted : isFormattedRun tokens with
  | true =>
    rw [strings_eq hne h, hformatted, if_pos rfl, outcome_bind] at ho
    obtain ⟨⟨pieces, vs⟩, hpieces, ho⟩ := bind_ok ho
    cases ho
    exact ⟨pieces, forall₂_of_mapM (f := literalPieces spell)
      (fun t => readsAlike_literalPieces rfl) hpieces, rfl, _, rfl⟩
  | false =>
    obtain ⟨texts, htexts, rfl⟩ := readTexts_of_strings hne h hformatted ho
    have hplain : ∀ t ∈ tokens, (literalParts t).isFormatted = false := by
      simpa [isFormattedRun] using hformatted
    refine ⟨texts.map fun x => [.text x], ?_, ?_, _, rfl⟩
    · clear hne h hformatted ho
      induction htexts with
      | nil => exact .nil
      | cons ht _ ih =>
        rw [List.forall_mem_cons] at hplain
        exact .cons (settles_textPiece hplain.1 ht) (ih hplain.2)
    · rw [← List.flatMap_def, ← List.map_eq_flatMap, merge_texts]
      rfl

theorem settles_strings_texts (hne : tokens ≠ []) (h : ∀ t ∈ tokens, (literalParts t).isBytes = isBytes)
    (hplain : isFormattedRun tokens = false) {texts : List Text}
    (htexts : ReadTexts spell n fuel tokens texts) :
    Settles spell (fun rule => strings spell rule tokens) n fuel
      (.constant (if isBytes then .bytes (Text.lossy texts.flatten) else .str texts.flatten)) := by
  intro k hk ts
  show outcome (strings spell (Rule.run spell k) tokens) n ts = _
  rw [strings_eq hne h, hplain, if_neg Bool.false_ne_true,
    outcome_bind_of (settles_mapM (f := fun _ => literalText) htexts k hk ts)]
  rfl

theorem settles_strings_pieces (hne : tokens ≠ []) (h : ∀ t ∈ tokens, (literalParts t).isBytes = isBytes)
    (hformatted : isFormattedRun tokens = true) {pieces : List (List Piece)}
    (hpieces : ReadPieces spell n fuel tokens pieces) :
    Settles spell (fun rule => strings spell rule tokens) n fuel (.joinedStr (merge pieces.flatten)) := by
  intro k hk ts
  show outcome (strings spell (Rule.run spell k) tokens) n ts = _
  rw [strings_eq hne h, hformatted, if_pos rfl,
    outcome_bind_of (settles_mapM (f := literalPieces spell) hpieces k hk ts)]
  rfl

end

/-- A run that is read is all bytes or all texts. -/
theorem isBytes_of_strings {r : Expr × List Token} (ht : t ∈ tokens)
    (ho : outcome (strings spell rule tokens) n ts = .ok r) :
    ∀ u ∈ tokens, (literalParts u).isBytes = (literalParts t).isBytes := by
  intro u hu
  by_contra hne
  obtain ⟨span, hspan⟩ : ∃ span, outcome (strings spell rule tokens) n ts = .error ⟨.mixedBytes, span⟩ :=
    strings_mixed hu ht hne
  exact nomatch ho.symm.trans hspan

/-- Bytes are not formatted. -/
theorem isFormattedRun_of_isBytes (h : ∀ t ∈ tokens, IsString t)
    (hbytes : ∀ t ∈ tokens, (literalParts t).isBytes = true) : isFormattedRun tokens = false := by
  rw [isFormattedRun, List.any_eq_false]
  exact fun t ht hf => (h t ht).not_both ⟨hbytes t ht, hf⟩

/-- Two runs of bytes. -/
theorem joins_bytes (has : as ≠ []) (hbs : bs ≠ []) (hstrings : ∀ t ∈ as ++ bs, IsString t)
    (hbytes : ∀ t ∈ as ++ bs, (literalParts t).isBytes = true) {fuel' : Nat} {ts' us' : List Token}
    (ha : outcome (strings spell (Rule.run spell fuel) as) n ts = .ok (a, us))
    (hb : outcome (strings spell (Rule.run spell fuel') bs) n ts' = .ok (b, us')) :
    ∃ e, Settles spell (fun rule => strings spell rule (as ++ bs)) n (max fuel fuel') e ∧
      Joins (isFormattedRun as) (isFormattedRun bs) a b e := by
  have hboth := isFormattedRun_of_isBytes hstrings hbytes
  obtain ⟨hsa, hsb⟩ := List.forall_mem_append.mp hstrings
  obtain ⟨hba, hbb⟩ := List.forall_mem_append.mp hbytes
  have hfa := isFormattedRun_of_isBytes hsa hba
  have hfb := isFormattedRun_of_isBytes hsb hbb
  obtain ⟨xs, hxs, rfl⟩ := readTexts_of_strings has hba hfa ha
  obtain ⟨ys, hys, rfl⟩ := readTexts_of_strings hbs hbb hfb hb
  have hxys : ReadTexts spell n (max fuel fuel') (as ++ bs) (xs ++ ys) :=
    List.rel_append (hxs.mono (Nat.le_max_left ..)) (hys.mono (Nat.le_max_right ..))
  refine ⟨_, settles_strings_texts (List.append_ne_nil_of_left_ne_nil has bs) hbytes hboth hxys, ?_⟩
  have happend : Text.lossy (xs.flatten ++ ys.flatten) = Text.lossy xs.flatten ++ Text.lossy ys.flatten :=
    List.map_append
  rw [if_pos rfl, if_pos rfl, if_pos rfl, List.flatten_append, happend]
  exact .bytes _ _ hfa hfb

/-- Two runs of texts and fields. -/
theorem joins_values (has : as ≠ []) (hbs : bs ≠ [])
    (htexts : ∀ t ∈ as ++ bs, (literalParts t).isBytes = false) {fuel' : Nat} {ts' us' : List Token}
    (ha : outcome (strings spell (Rule.run spell fuel) as) n ts = .ok (a, us))
    (hb : outcome (strings spell (Rule.run spell fuel') bs) n ts' = .ok (b, us')) :
    ∃ e, Settles spell (fun rule => strings spell rule (as ++ bs)) n (max fuel fuel') e ∧
      Joins (isFormattedRun as) (isFormattedRun bs) a b e := by
  have hne : as ++ bs ≠ [] := List.append_ne_nil_of_left_ne_nil has bs
  have hrun : isFormattedRun (as ++ bs) = (isFormattedRun as || isFormattedRun bs) := List.any_append
  obtain ⟨hta, htb⟩ := List.forall_mem_append.mp htexts
  obtain ⟨ps, hps, hva, hfa⟩ := readPieces_of_strings has hta ha
  obtain ⟨qs, hqs, hvb, hfb⟩ := readPieces_of_strings hbs htb hb
  have hvalues : merge (ps ++ qs).flatten = joinValues (literalValues a) (literalValues b) := by
    rw [List.flatten_append, merge_append (areFields_flatten hps) (areFields_flatten hqs), hva, hvb]
  cases hformatted : isFormattedRun (as ++ bs) with
  | true =>
    have hpqs : ReadPieces spell n (max fuel fuel') (as ++ bs) (ps ++ qs) :=
      List.rel_append (hps.mono (Nat.le_max_left ..)) (hqs.mono (Nat.le_max_right ..))
    refine ⟨_, settles_strings_pieces hne htexts hformatted hpqs, .values hfa hfb ?_ hvalues⟩
    rw [← hrun, hformatted]
    exact ⟨_, rfl⟩
  | false =>
    obtain ⟨hplainA, hplainB⟩ := Bool.or_eq_false_iff.mp (hrun.symm.trans hformatted)
    obtain ⟨xs, hxs, rfl⟩ := readTexts_of_strings has hta hplainA ha
    obtain ⟨ys, hys, rfl⟩ := readTexts_of_strings hbs htb hplainB hb
    have hxys : ReadTexts spell n (max fuel fuel') (as ++ bs) (xs ++ ys) :=
      List.rel_append (hxs.mono (Nat.le_max_left ..)) (hys.mono (Nat.le_max_right ..))
    refine ⟨_, settles_strings_texts hne htexts hformatted hxys, .values hfa hfb ?_ ?_⟩
    · rw [← hrun, hformatted]
      exact ⟨_, rfl⟩
    · show textValue (xs ++ ys).flatten = joinValues (textValue xs.flatten) (textValue ys.flatten)
      rw [List.flatten_append, joinValues_textValue]

/-- Two runs of literals that are both read are read as one run.  Bytes are appended; the values of
other literals follow each other, and only the texts at the seam become one.  The result has fields if and
only if one of the runs has.  But bytes and texts do not go together. -/
theorem strings_append (spell : List Char → List Char) (n : Nesting) (has : as ≠ []) (hbs : bs ≠ [])
    (hstrings : ∀ t ∈ as ++ bs, IsString t) :
    ((∀ t ∈ as, ∀ u ∈ bs, (literalParts t).isBytes = (literalParts u).isBytes) →
      ∀ fuel fuel' ts us ts' us' a b,
        outcome (strings spell (Rule.run spell fuel) as) n ts = .ok (a, us) →
        outcome (strings spell (Rule.run spell fuel') bs) n ts' = .ok (b, us') →
        ∃ e, Settles spell (fun rule => strings spell rule (as ++ bs)) n (max fuel fuel') e ∧
          Joins (isFormattedRun as) (isFormattedRun bs) a b e) ∧
    ((∃ t ∈ as, ∃ u ∈ bs, (literalParts t).isBytes ≠ (literalParts u).isBytes) → ∀ rule ts, ∃ span,
      outcome (strings spell rule (as ++ bs)) n ts = .error ⟨.mixedBytes, span⟩) := by
  refine ⟨fun hsame fuel fuel' ts us ts' us' a b ha hb => ?_, ?_⟩
  · obtain ⟨t, ht⟩ := List.exists_mem_of_ne_nil as has
    obtain ⟨u, hu⟩ := List.exists_mem_of_ne_nil bs hbs
    have hall : ∀ v ∈ as ++ bs, (literalParts v).isBytes = (literalParts t).isBytes :=
      List.forall_mem_append.mpr ⟨isBytes_of_strings ht ha, fun v hv => (hsame t ht v hv).symm⟩
    cases hbytes : (literalParts t).isBytes with
    | true => exact joins_bytes has hbs hstrings (fun v hv => (hall v hv).trans hbytes) ha hb
    | false => exact joins_values has hbs (fun v hv => (hall v hv).trans hbytes) ha hb
  · rintro ⟨t, ht, u, hu, hne⟩ rule ts
    exact strings_mixed (List.mem_append_left bs ht) (List.mem_append_right as hu) hne

/-- Whether a literal is this text and a field. -/
def isTextAndField (t : Text) (e : Expr) : Bool :=
  match literalValues e with
  | [.constant (.str u), .formattedValue ..] => u == t
  | _ => false

/-- A text in front of a text and a field. -/
theorem strings_append_seam :
    ∃ e, Settles id (fun rule => strings id rule
        ([⟨.string, "'a'", ⟨0, 3⟩⟩] ++ [⟨.string, "f'b\x7bc\x7d'", ⟨3, 10⟩⟩])) ⟨50, 0⟩ 100 e ∧
      isTextAndField (Text.ofString "ab") e = true := by
  have hstrings : ∀ t ∈ ([⟨.string, "'a'", ⟨0, 3⟩⟩] ++ [⟨.string, "f'b\x7bc\x7d'", ⟨3, 10⟩⟩] : List Token),
      IsString t := by
    rw [List.singleton_append, List.forall_mem_cons, List.forall_mem_singleton]
    exact ⟨⟨"'a'".toList, ⟨.string, "'a'".toList⟩, by decide +kernel, rfl, rfl⟩,
      ⟨"f'b\x7bc\x7d'".toList, ⟨.string, "f'b\x7bc\x7d'".toList⟩, by decide +kernel, rfl, rfl⟩⟩
  obtain ⟨⟨b, us⟩, hb, hfield⟩ := exists_of_any
    (x := outcome (strings id (Rule.run id 100) [⟨.string, "f'b\x7bc\x7d'", ⟨3, 10⟩⟩]) ⟨50, 0⟩ [])
    (p := fun r => isTextAndField (Text.ofString "b") r.1) (by decide +kernel)
  obtain ⟨e, he, hjoins⟩ := (strings_append id ⟨50, 0⟩ (List.cons_ne_nil _ _) (List.cons_ne_nil _ _)
    hstrings).1 (by decide +kernel) 0 100 [] [] [] us (.constant (.str (Text.ofString "a"))) b rfl hb
  refine ⟨e, he, ?_⟩
  cases hjoins with
  | values _ _ _ hvalues =>
    unfold isTextAndField at hfield ⊢
    rw [hvalues]
    dsimp only at hfield
    split at hfield
    · next hb =>
      rw [hb]
      rw [beq_iff_eq] at hfield
      rw [hfield]
      rfl
    · cases hfield

end PythonSyntax.Parser
