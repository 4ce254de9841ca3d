import PythonSyntax.Proofs.Literal.Bytes
import PythonSyntax.Proofs.Parser.Input
import PythonSyntax.Proofs.Parser.Rule

/-
Runs of string literals yield trees of the grammar.

The expression of a field is shorter than the literal that it stands in, and so is what follows the
field; hence the rules are still below the bound of the literal in it, and the pieces of a body are
no more than its characters.
-/

namespace PythonSyntax.Parser

variable {ts : List Token} {spell : List Char → List Char} {rule : Rule → Parser Expr} {b : Nat}

/-! ## The parts of a body -/

theorem splitLiteral_append (isRaw inName : Bool) (text : List Char) :
    (splitLiteral isRaw inName text).1 ++ (splitLiteral isRaw inName text).2 = text := by
  induction text generalizing inName with
  | nil => rfl
  | cons c r ih =>
    unfold splitLiteral
    split
    · exact congrArg (c :: ·) (ih _)
    · split
      · rfl
      · exact congrArg (c :: ·) (ih _)

/-- A body is cut at a brace. -/
theorem splitLiteral_rest (isRaw inName : Bool) (text : List Char) :
    (splitLiteral isRaw inName text).2 = [] ∨
      ∃ c r, (splitLiteral isRaw inName text).2 = c :: r ∧ (c = '{' ∨ c = '}') := by
  induction text generalizing inName with
  | nil => exact .inl rfl
  | cons c r ih =>
    unfold splitLiteral
    split
    · exact ih _
    · split
      · next hc => exact .inr ⟨c, r, rfl, hc⟩
      · exact ih _

/-- With an equals sign a field shows its expression, the sign and the blanks behind it. -/
theorem fieldShown_equals (spell : List Char → List Char) (source r : List Char) (offset : Nat) :
    fieldShown spell source ('=' :: r) offset =
      (some (.text (Text.ofChars (spell (source ++ '=' :: r.takeWhile isFieldBlank)))),
        r.drop (r.takeWhile isFieldBlank).length, offset + 1 + (r.takeWhile isFieldBlank).length) := rfl

/-- Without one it shows nothing. -/
theorem fieldShown_none {text : List Char} (h : text.head? ≠ some '=') (spell : List Char → List Char)
    (source : List Char) (offset : Nat) : fieldShown spell source text offset = (none, text, offset) := by
  unfold fieldShown
  split
  · exact absurd rfl h
  · rfl

theorem splitField_append {start offset : Nat} {s : FieldScan} {text source rest : List Char}
    (h : splitField start s offset text = .ok (source, rest)) : source ++ rest = text := by
  induction text generalizing s offset source rest with
  | nil =>
    unfold splitField at h
    split at h <;> exact nomatch h
  | cons c r ih =>
    unfold splitField at h
    split at h
    · exact nomatch h
    · cases h; rfl
    · obtain ⟨⟨a, b⟩, hab, hr⟩ := map_ok h
      cases hr
      exact congrArg (c :: ·) (ih hab)

theorem splitSpec_append (depth : Nat) (text : List Char) :
    (splitSpec depth text).1 ++ (splitSpec depth text).2 = text := by
  induction text generalizing depth with
  | nil => rfl
  | cons c r ih =>
    unfold splitSpec
    split
    · rfl
    · exact congrArg (c :: ·) (ih _)

/-- Blanks take one byte each. -/
theorem byteLength_blanks (text : List Char) :
    byteLength (text.takeWhile isFieldBlank) = (text.takeWhile isFieldBlank).length := by
  induction text with
  | nil => rfl
  | cons c r ih =>
    rw [List.takeWhile_cons]
    split
    · next hc =>
      have hone : c.utf8Size = 1 := by
        simp only [isFieldBlank, Bool.or_eq_true, beq_iff_eq] at hc
        rcases hc with (((rfl | rfl) | rfl) | rfl) | rfl <;> rfl
      rw [byteLength_cons, ih, hone, List.length_cons, Nat.add_comm]
    · rfl

theorem utf8Size_of_isConversion {c : Char} (h : isConversion c = true) : c.utf8Size = 1 := by
  simp only [isConversion, Bool.or_eq_true, beq_iff_eq] at h
  rcases h with (rfl | rfl) | rfl <;> rfl

/-- What a field shows of itself is a text, and what follows is no longer. -/
theorem fieldShown_spec (spell : List Char → List Char) (source text : List Char) (offset : Nat) :
    (∀ p ∈ (fieldShown spell source text offset).1, Derives (.piece p)) ∧
      (fieldShown spell source text offset).2.1.length ≤ text.length := by
  unfold fieldShown
  split
  · dsimp only
    refine ⟨?_, ?_⟩
    · rintro _ ⟨⟩
      exact .text
    · rw [List.length_drop, List.length_cons]
      omega
  · exact ⟨nofun, Nat.le_refl _⟩

/-- The conversion of a field is one of the letters, and what follows is no longer. -/
theorem fieldConversion_spec {text rest : List Char} {offset offset' : Nat}
    {conversion : Option Char}
    (h : fieldConversion text offset = .ok (conversion, rest, offset')) :
    (∀ c ∈ conversion, isConversion c = true) ∧ rest.length ≤ text.length := by
  unfold fieldConversion at h
  split at h
  · exact nomatch h
  · split at h
    · next hc =>
      cases h
      refine ⟨?_, by simp only [List.length_cons]; omega⟩
      rintro _ ⟨⟩
      exact hc
    · exact nomatch h
  · cases h
    exact ⟨nofun, Nat.le_refl _⟩

namespace FieldScan

/-- What the search for the end of an expression does with a character. -/
inductive Passes (f : FieldScan) (c : Char) (r : List Char) :
    Except Cause (Option FieldScan) → Prop where
  /-- The character was seen with one in front of it. -/
  | seen {n} : f.skip = n + 1 → Passes f c r (.ok (some { f with skip := n }))
  | backslash : f.skip = 0 → c = '\\' → Passes f c r (.error .fieldBackslash)
  | closeString {q n} : f.skip = 0 → c ≠ '\\' → f.quote = some (q, n) → c = q →
      n ≤ quoteRun q (c :: r) → Passes f c r (.ok (some { f with quote := none, skip := n - 1 }))
  /-- A string is opened by one quote or three. -/
  | openString {n} : f.skip = 0 → c ≠ '\\' → f.quote = none → Quoted.isQuote c = true →
      n = 1 ∨ n = 3 → n ≤ quoteRun c (c :: r) →
      Passes f c r (.ok (some { f with quote := some (c, n), skip := n - 1 }))
  | comment : f.skip = 0 → f.quote = none → c = '#' → Passes f c r (.error .fieldComment)
  | openBracket : f.skip = 0 → f.quote = none → c = '(' ∨ c = '[' ∨ c = '{' →
      Passes f c r (.ok (some { f with depth := f.depth + 1 }))
  | closeBracket : f.skip = 0 → f.quote = none → c = ')' ∨ c = ']' ∨ (c = '}' ∧ 0 < f.depth) →
      Passes f c r (.ok (some { f with depth := f.depth - 1 }))
  /-- The equals sign behind a character is seen with it. -/
  | operator : f.skip = 0 → f.quote = none → c = '=' ∨ c = '!' ∨ c = '<' ∨ c = '>' →
      r.head? = some '=' → Passes f c r (.ok (some { f with skip := 1 }))
  | stop : f = ⟨0, none, 0⟩ → c = '}' ∨ c = ':' ∨ (c = '!' ∨ c = '=') ∧ r.head? ≠ some '=' →
      Passes f c r (.ok none)
  | plain : f.skip = 0 → c ≠ '\\' → Passes f c r (.ok (some f))

theorem passes_pass (f : FieldScan) (c : Char) (r : List Char) : Passes f c r (f.pass c r) := by
  unfold pass
  split
  · next n hskip => exact .seen hskip
  · next hskip =>
    split
    · next hc => exact .backslash hskip hc
    · next hc =>
      split
      · next q n hquote =>
        split
        · next hclose => exact .closeString hskip hc hquote hclose.1 hclose.2
        · exact .plain hskip hc
      · next hquote =>
        dsimp only
        split_ifs with hq hthree hhash hopen hclose hequals hstop
        · exact .openString hskip hc hquote hq (.inr rfl) hthree
        · exact .openString hskip hc hquote hq (.inl rfl) (by simp [quoteRun])
        · exact .comment hskip hquote hhash
        · exact .openBracket hskip hquote hopen
        · exact .closeBracket hskip hquote hclose
        · exact .operator hskip hquote hequals.1 hequals.2
        · refine .stop ?_ ?_
          · obtain ⟨depth, quote, skip⟩ := f
            cases hskip
            cases hquote
            cases hstop.2
            rfl
          · rcases hstop.1 with rfl | rfl | rfl | rfl
            · exact .inl rfl
            · exact .inr (.inr ⟨.inl rfl, fun hhead => hequals ⟨.inr (.inl rfl), hhead⟩⟩)
            · exact .inr (.inl rfl)
            · exact .inr (.inr ⟨.inr rfl, fun hhead => hequals ⟨.inl rfl, hhead⟩⟩)
        · exact .plain hskip hc

/-- The search gives up at a backslash or at a comment. -/
theorem pass_error {f : FieldScan} {c : Char} {r : List Char} {cause : Cause}
    (h : f.pass c r = .error cause) :
    (cause = .fieldBackslash ∧ c = '\\') ∨ (cause = .fieldComment ∧ c = '#') := by
  have hpasses := f.passes_pass c r
  rw [h] at hpasses
  cases hpasses with
  | backslash _ hc => exact .inl ⟨rfl, hc⟩
  | comment _ _ hc => exact .inr ⟨rfl, hc⟩

end FieldScan

theorem fueled_splitField (start offset : Nat) (s : FieldScan) (text : List Char) :
    Fueled (splitField start s offset text) := by
  induction text generalizing s offset with
  | nil =>
    unfold splitField
    exact .ite (fun _ => .error nofun) fun _ => .error nofun
  | cons c r ih =>
    unfold splitField
    split
    · next cause h =>
      refine .error ?_
      rcases FieldScan.pass_error h with ⟨rfl, -⟩ | ⟨rfl, -⟩ <;> exact nofun
    · exact .ok
    · exact .map (ih _ _)

theorem fueled_fieldConversion (text : List Char) (offset : Nat) :
    Fueled (fieldConversion text offset) := by
  unfold fieldConversion
  split
  · exact .error nofun
  · split
    · exact .ok
    · exact .error nofun
  · exact .ok

theorem fueled_fieldEnd (shown : Option Piece) (value : Expr) (conversion : Option Char)
    (formatSpec : Option Expr) (text : List Char) (offset : Nat) :
    Fueled (fieldEnd shown value conversion formatSpec text offset) := by
  unfold fieldEnd
  split
  · exact .ok
  · exact .error nofun

/-! ## Fields -/

/-- Pieces of the grammar, and less text than there was. -/
def IsFieldEnd (text : List Char) (r : List Piece × List Char × Nat) : Prop :=
  (∀ p ∈ r.1, Derives (.piece p)) ∧ r.2.1.length < text.length

/-- A rule, or a `yield`, in front of which there is nothing. -/
theorem reads_yieldOr (h : Below rule b) {r : Rule} {k : Nat} (hb : 32 * weight ts + k ≤ b)
    (hk : r.rank < k) (hr : r ≠ .bracketed) :
    Reads ts (yieldOr rule r) fun e us => weight us < weight ts ∧ YieldOr r e := by
  refine .atWord_bind (.ite (fun _ => ?_) fun _ => ?_)
  · refine .mono (h.front (k := k) hb ?_ nofun) fun e _ _ he => ⟨he.1, .inr he.2⟩
    exact Nat.lt_of_le_of_lt (Nat.zero_le _) hk
  · exact .mono (h.front hb hk hr) fun e _ _ he => ⟨he.1, .inl he.2⟩

theorem reads_embedded (h : Below rule b) {text : List Char} (hb : 32 * (text.length + 2) ≤ b)
    (base : Nat) : Reads ts (embedded rule text base) fun e _ => YieldOr .starTestList e := by
  refine .read_bind fun n => ?_
  refine .ofExcept_bind (fueled_run _ _ _) fun tokens ht => ?_
  obtain ⟨hr, hw⟩ := readable_of_tokenizeEmbedded ht
  refine .withTokens hr (.atKind_bind (.ite (fun _ => .fail nofun) fun _ => ?_))
  refine .bind (reads_yieldOr h (k := 32) (by omega) (by decide) nofun) fun e us _ he => ?_
  exact .atKind_bind (.ite (fun _ => .pure he.2) fun _ => .fail nofun)

theorem reads_fieldSpec {spec : List Char → Nat → Parser (List Piece)} {text : List Char}
    (hspec : ∀ inner start, inner.length ≤ text.length →
      Reads ts (spec inner start) fun ps _ => ∀ p ∈ ps, Derives (.piece p)) (offset : Nat) :
    Reads ts (fieldSpec spec text offset) fun r _ =>
      (∃ o : Option (List Piece), r.1 = o.map (fun ps => Expr.joinedStr (merge ps)) ∧
        ∀ ps ∈ o, ∀ p ∈ ps, Derives (.piece p)) ∧ r.2.1.length ≤ text.length := by
  unfold fieldSpec
  split
  · next r =>
    have hlen := congrArg List.length (splitSpec_append 0 r)
    rw [List.length_append] at hlen
    simp only [List.length_cons] at hspec ⊢
    refine .bind (hspec _ _ (by omega)) fun ps us _ hps => .pure ?_
    refine ⟨⟨some ps, rfl, ?_⟩, by dsimp only; omega⟩
    rintro _ ⟨⟩
    exact hps
  · exact .pure ⟨⟨none, rfl, nofun⟩, Nat.le_refl _⟩

theorem reads_fieldEnd {shown : Option Piece} {value : Expr} {spec : Option (List Piece)}
    (hshown : ∀ p ∈ shown, Derives (.piece p)) (hvalue : YieldOr .starTestList value)
    (hspec : ∀ ps ∈ spec, ∀ p ∈ ps, Derives (.piece p)) {conversion : Option Char}
    (hconversion : ∀ c ∈ conversion, isConversion c = true) (text : List Char) (offset : Nat) :
    Reads ts (ofExcept (fieldEnd shown value conversion
      (spec.map fun ps => .joinedStr (merge ps)) text offset)) fun r _ => IsFieldEnd text r := by
  refine .ofExcept (fueled_fieldEnd _ _ _ _ _ _) fun r hr => ?_
  unfold fieldEnd at hr
  split at hr
  · cases hr
    refine ⟨List.forall_mem_append.mpr ⟨by simpa using hshown, ?_⟩, by simp⟩
    rw [List.forall_mem_singleton]
    have hletter : ∀ c ∈ (if shown.isSome && conversion.isNone &&
        (spec.map fun ps => Expr.joinedStr (merge ps)).isNone then some 'r' else conversion),
        isConversion c = true := by
      split
      · rintro _ ⟨⟩
        rfl
      · exact hconversion
    rcases hvalue with hd | hd
    · exact .field (.inl rfl) hd hletter hspec
    · exact .field (.inr rfl) hd hletter hspec
  · exact nomatch hr

theorem reads_field (h : Below rule b) {spec : List Char → Nat → Parser (List Piece)}
    {text : List Char} (hb : 32 * (text.length + 2) ≤ b)
    (hspec : ∀ us inner start, inner.length ≤ text.length →
      Reads us (spec inner start) fun ps _ => ∀ p ∈ ps, Derives (.piece p)) (start : Nat) :
    Reads ts (field spell rule spec text start) fun r _ => IsFieldEnd text r := by
  unfold field
  refine .ofExcept_bind (fueled_splitField _ _ _ _) ?_
  rintro ⟨source, rest⟩ hsplit
  have hlen := congrArg List.length (splitField_append hsplit)
  rw [List.length_append] at hlen
  refine .ite (fun _ => .failAt nofun) fun _ => ?_
  refine .bind (reads_embedded h (by omega) start) fun value us _ hvalue => ?_
  have hshown := fieldShown_spec spell source rest (start + byteLength source)
  generalize fieldShown spell source rest (start + byteLength source) = shown at hshown ⊢
  obtain ⟨shown, rest₁, offset₁⟩ := shown
  refine .ofExcept_bind (fueled_fieldConversion _ _) ?_
  rintro ⟨conversion, rest₂, offset₂⟩ hconversion
  obtain ⟨hletter, hrest₂⟩ := fieldConversion_spec hconversion
  refine .bind (reads_fieldSpec (fun inner o hi => hspec _ inner o ?_) offset₂) ?_
  · dsimp only at hshown
    omega
  · rintro ⟨formatSpec, rest₃, offset₃⟩ us - ⟨⟨o, rfl, ho⟩, hrest₃⟩
    refine (reads_fieldEnd hshown.1 hvalue ho hletter rest₃ offset₃).mono fun r _ _ hr => ?_
    have hlt := hr.2
    dsimp only at hshown hrest₃
    exact ⟨hr.1, by omega⟩

/-! ## Bodies -/

theorem reads_textPiece (l : Literal) (text : List Char) :
    Reads ts (textPiece l text) fun ps _ => ∀ p ∈ ps, Derives (.piece p) := by
  unfold textPiece
  dsimp only
  split
  · exact .pure (List.forall_mem_singleton.mpr .text)
  · exact .failAt nofun

section

variable {l : Literal} {hole : List Char → Nat → Parser (List Piece × List Char × Nat)}
  {fuel x : Nat} {text chunk r : List Char}

/-- A body goes on with a field. -/
theorem piecesUpTo_field (h : splitLiteral l.isRaw false text = (chunk, '{' :: r))
    (hr : r.head? ≠ some '{') : piecesUpTo l hole (fuel + 1) text x = (do
      let before ← textPiece l chunk
      let (pieces, r, offset) ← hole r (x + byteLength chunk + 1)
      let after ← piecesUpTo l hole fuel r offset
      return before ++ pieces ++ after) := by
  rw [piecesUpTo, h]
  dsimp only
  split
  · next heq => cases heq
  · next heq => cases heq; exact absurd rfl hr
  · next heq => exact absurd (List.cons.inj heq).1 (by decide)
  · next heq => cases heq; rfl
  · next hfield => exact absurd rfl (hfield r)

/-- A brace that closes nothing is refused. -/
theorem piecesUpTo_lone (h : splitLiteral l.isRaw false text = (chunk, '}' :: r))
    (hr : r.head? ≠ some '}') : piecesUpTo l hole (fuel + 1) text x =
      reject (errorAt (x + byteLength chunk) .loneBrace) := by
  rw [piecesUpTo, h]
  dsimp only
  split
  · next heq => cases heq
  · next heq => exact absurd (List.cons.inj heq).1 (by decide)
  · next heq => cases heq; exact absurd rfl hr
  · next heq => exact absurd (List.cons.inj heq).1 (by decide)
  · rfl

end

theorem reads_piecesUpTo {l : Literal} {hole : List Char → Nat → Parser (List Piece × List Char × Nat)}
    {fuel : Nat} {text : List Char}
    (hhole : ∀ us text' start, text'.length < text.length →
      Reads us (hole text' start) fun r _ => IsFieldEnd text' r)
    (hfuel : text.length < fuel) (offset : Nat) :
    Reads ts (piecesUpTo l hole fuel text offset) fun ps _ => ∀ p ∈ ps, Derives (.piece p) := by
  induction fuel generalizing ts text offset with
  | zero => exact absurd hfuel (Nat.not_lt_zero _)
  | succ fuel ih =>
    unfold piecesUpTo
    have hlen := congrArg List.length (splitLiteral_append l.isRaw false text)
    rw [List.length_append] at hlen
    generalize splitLiteral l.isRaw false text = cut at hlen ⊢
    obtain ⟨chunk, rest⟩ := cut
    dsimp only at hlen ⊢
    -- a doubled brace and what follows it
    have hbrace : ∀ (r : List Char) (brace : Text), r.length + 2 = rest.length →
        Reads ts (do
          let before ← textPiece l chunk
          let after ← piecesUpTo l hole fuel r (offset + byteLength chunk + 2)
          return before ++ .text brace :: after) fun ps _ => ∀ p ∈ ps, Derives (.piece p) := by
      intro r brace hr
      refine .bind (reads_textPiece l chunk) fun before us _ hbefore => ?_
      refine .bind (ih (fun us t s ht => hhole us t s (by omega)) (by omega) _)
        fun after vs _ hafter => .pure ?_
      exact List.forall_mem_append.mpr ⟨hbefore, List.forall_mem_cons.mpr ⟨.text, hafter⟩⟩
    split
    · exact reads_textPiece l chunk
    · exact hbrace _ _ rfl
    · exact hbrace _ _ rfl
    · next r _ =>
      rw [List.length_cons] at hlen
      refine .bind (reads_textPiece l chunk) fun before us _ hbefore => ?_
      refine .bind (hhole us r _ (by omega)) ?_
      rintro ⟨ps, rest', offset'⟩ us - ⟨hps, hrest⟩
      replace hrest : rest'.length < r.length := hrest
      refine .bind (ih (fun us t s (ht : t.length < rest'.length) => hhole us t s (by omega)) (by omega) _)
        fun after vs _ hafter => .pure ?_
      exact List.forall_mem_append.mpr ⟨List.forall_mem_append.mpr ⟨hbefore, hps⟩, hafter⟩
    · exact .failAt nofun

theorem reads_pieces (h : Below rule b) {l : Literal} (levels : Nat) {text : List Char}
    (hb : 32 * (text.length + 2) ≤ b) (offset : Nat) :
    Reads ts (pieces spell rule l levels text offset) fun ps _ => ∀ p ∈ ps, Derives (.piece p) := by
  induction levels generalizing ts text offset with
  | zero =>
    unfold pieces
    exact reads_piecesUpTo (fun _ _ _ _ => .failAt (by decide)) (Nat.lt_succ_self _) offset
  | succ levels ih =>
    refine reads_piecesUpTo (fun us text' start hlt => ?_) (Nat.lt_succ_self _) offset
    exact reads_field h (by omega) (fun vs inner o hi => ih (by omega) o) start

/-! ## Runs of literals -/

/-- A formatted literal has a letter and two quotes around its body. -/
theorem length_body_of_isFormatted {text : List Char}
    (h : (Quoted.split text).isFormatted = true) :
    (Quoted.split text).body.length + 2 ≤ text.length := by
  unfold Quoted.split at h ⊢
  dsimp only at h ⊢
  split at h
  · next hquote =>
    rw [if_pos hquote]
    obtain ⟨q, hq, hisq⟩ := List.any_eq_true.mp hquote
    generalize hm : text.takeWhile (fun c => !Quoted.isQuote c) = marks at h ⊢
    have hmarks : marks ≠ [] := by
      rintro rfl
      exact nomatch h
    have hlt : marks.length < text.length := by
      have hle := (List.takeWhile_prefix (fun c => !Quoted.isQuote c) (l := text)).length_le
      rw [hm] at hle
      refine Nat.lt_of_le_of_ne hle fun heq => ?_
      have hall : marks = text := (hm ▸ List.takeWhile_prefix _).eq_of_length heq
      have := List.all_takeWhile (p := fun c => !Quoted.isQuote c) (l := text)
      rw [hm, hall, List.all_eq_true] at this
      have := this q hq
      rw [hisq] at this
      exact nomatch this
    have hpos := List.length_pos_iff.mpr hmarks
    have hcount : 1 ≤ Quoted.quoteCount (text.drop marks.length) := by
      unfold Quoted.quoteCount
      split <;> decide
    simp only [List.length_take, List.length_drop]
    omega
  · exact nomatch h

theorem reads_literalPieces (h : Below rule b) {t : Token} (hb : 32 * t.text.length ≤ b) :
    Reads ts (literalPieces spell rule t) fun ps _ => ∀ p ∈ ps, Derives (.piece p) := by
  unfold literalPieces
  dsimp only
  split
  · next hf =>
    have := length_body_of_isFormatted hf
    rw [String.length_toList] at this
    exact reads_pieces h _ (by omega) _
  · split
    · exact .pure (List.forall_mem_singleton.mpr .text)
    · exact .failAt nofun

theorem reads_literalText (t : Token) :
    Reads ts (literalText t) fun text _ =>
      (Quoted.split t.text.toList).isBytes = true → text.IsBytes := by
  unfold literalText
  split
  · next text h => exact .pure fun hb => Quoted.isBytes_of_decode hb h
  · exact .failAt nofun

/-- A run of literals is an atom. -/
theorem reads_strings (h : Below rule b) {tokens : List Token}
    (hb : ∀ t ∈ tokens, 32 * t.text.length ≤ b) :
    Reads ts (strings spell rule tokens) fun e _ => Derives (.expr .atom e) := by
  unfold strings
  split
  · exact .unexpected
  · next first rest =>
    dsimp only
    refine .ite (fun _ => .failAt nofun) fun hsame => .ite (fun _ => ?_) fun _ => ?_
    · refine .bind (.mapM (P := fun ps => ∀ p ∈ ps, Derives (.piece p)) _
        fun t ht us _ => reads_literalPieces h (hb t ht)) fun pss us _ hpss => .pure (.formatted ?_)
      intro p hp
      obtain ⟨ps, hps, hp⟩ := List.mem_flatten.mp hp
      exact hpss ps hps p hp
    · generalize hf : (Quoted.split first.text.toList).isBytes = isBytes at hsame ⊢
      refine .bind (.mapM (P := fun text => isBytes = true → text.IsBytes) _
        fun t ht us _ => (reads_literalText t).mono fun text _ _ htext => ?_) fun texts us _ htexts => ?_
      · rintro rfl
        refine htext ?_
        simp only [List.any_map, List.any_eq_true, not_exists, not_and, Function.comp_apply] at hsame
        simpa using hsame t ht
      · split
        · exact .pure (.bytes (Text.IsBytes.flatten fun t ht => htexts t ht ‹_›).lossy)
        · exact .pure .str

end PythonSyntax.Parser
