import PythonSyntax.Proofs.Formatted.Write
import PythonSyntax.Proofs.Parser.FormattedString
import PythonSyntax.Proofs.Spelling.Program

/-
The reading of written fields.

The expression of a field is cut out of the text, read as tokens of its own, and followed by a
conversion and the closing brace.  In a written field the expression is a name.
-/

namespace PythonSyntax

open PythonSyntax.Parser PythonSyntax.Lexeme Filter

variable {spell : List Char → List Char} {rule : Rule → Parser Expr} {n : Nesting} {e : Expr}
  {text rest source : List Char} {ts us tokens : List Token} {start : Nat}

/-! ## The expression of a field -/

namespace Parser

/-- An expression that takes all the tokens of its text is the one of the field. -/
theorem embedded_take (ht : tokenizeEmbedded text start (n.limit - n.depth) = .ok tokens)
    (hne : (current tokens).kind ≠ .endMarker)
    (h : outcome (yieldOr rule .starTestList) n tokens = .ok (e, us))
    (heof : (current us).kind = .endMarker) :
    outcome (embedded rule text start) n ts = .ok (e, ts) := by
  have hnot : ((current tokens).kind == .endMarker) = false := beq_false_of_ne hne
  have hend : ((current us).kind == .endMarker) = true := beq_iff_eq.mpr heof
  unfold embedded
  rw [outcome_bind_of outcome_read, ht, outcome_bind_of (outcome_ofExcept _), outcome_withTokens]
  have hbody : ∀ p : Parser Expr,
      outcome (do if ← atKind .endMarker then fail .fieldEmpty else p) n tokens =
        outcome p n tokens := by
    intro p
    show outcome (if ((current tokens).kind == .endMarker) = true then _ else p) n tokens = _
    rw [hnot, if_neg Bool.false_ne_true]
  rw [hbody, outcome_bind_of h]
  show (outcome (if ((current us).kind == .endMarker) = true then pure e else _) n us).map _ = _
  rw [hend, if_pos rfl]
  rfl

end Parser

/-- The tokens of a field that holds a name. -/
theorem tokenizeEmbedded_name (h : isAsciiName text = true) (start limit : Nat) :
    ∃ t eof, tokenizeEmbedded text start limit = .ok [t, eof] ∧
      t.word = ⟨.name, String.ofList text⟩ ∧ eof.kind = .endMarker := by
  have hfront := front?_name h apart_nil
  rw [List.append_nil] at hfront
  have hlexemes : lexemes text = [⟨.name, text⟩] := by
    rw [lexemes_of_front hfront, List.take_length, List.drop_length, lexemes_nil]
  obtain ⟨t, s, hstep, ht, hbrackets⟩ : ∃ t s,
      Layout.step ⟨.embedded, limit, start⟩ .start ⟨.name, text⟩ = .ok ([t], s) ∧
        t.word = ⟨.name, String.ofList text⟩ ∧ s.brackets = [] := by
    have hkind : Layout.contentKind? .name = some .name := rfl
    have hmarks : ∀ here, Layout.lineMarks ⟨.embedded, limit, start⟩ .start here = .ok ([], [0]) :=
      fun _ => rfl
    exact ⟨_, _, Layout.step_content hkind rfl (hmarks _) rfl, rfl, rfl⟩
  refine ⟨t, ⟨.endMarker, "", ⟨start + s.offset, start + s.offset⟩⟩, ?_, ht, rfl⟩
  rw [tokenizeEmbedded, hlexemes]
  exact Layout.run_cons hstep (Layout.finish_embedded rfl hbrackets)

/-- A name is read in a field. -/
theorem embedded_name (name : PlainName) (start : Nat) :
    ∀ᶠ fuel in atTop, outcome (embedded (Rule.run spell fuel) name.text.toList start) n ts =
      .ok (.load name.text, ts) := by
  obtain ⟨t, eof, htokens, ht, heof⟩ := tokenizeEmbedded_name
    (isAsciiName_of_isPlainName name.isPlain) start (n.limit - n.depth)
  rw [String.ofList_toList] at ht
  have hkeyword := isKeyword_of_isPlainName name.isPlain
  have hends : Rule.Ends .test eof.word :=
    .of_kind (show eof.kind ≠ .op by rw [heof]; decide) (show eof.kind ≠ .name by rw [heof]; decide)
  have hbegins : ∀ r, Rule.Begins r t.word := fun r => ht ▸ .name hkeyword
  have hatom : Rule.Takes spell .atom n [t, eof] (.load name.text) [eof] := by
    have hname : Rule.Takes spell .atom n [t, eof] (.name (normalizeIdentifier name.text) .load)
        [eof] := .name ht hkeyword (List.cons_ne_nil eof [])
    rwa [normalizeIdentifier_of_isPlainName name.isPlain] at hname
  have htest : Rule.Takes spell .test n [t, eof] (.load name.text) [eof] :=
    hatom.loosen (by decide) (Nat.zero_le _) (hbegins _) hends
  have hlist : Rule.Takes spell .starTestList n [t, eof] (.load name.text) [eof] :=
    htest.starTestList ((hbegins .test).isOp (by decide) (by decide))
      (by rw [current, Token.isOp, heof]; rfl)
  have hname : t.kind ≠ .endMarker := by
    rw [show t.kind = .name from congrArg Word.kind ht]
    decide
  exact hlist.mono fun fuel hfuel => embedded_take htokens hname
    (yieldOr_plain ((hbegins .test).isWord (by decide) (by decide)) hfuel) heof

/-! ## Cutting a field -/

/-- The search for the end of an expression goes on after this character. -/
theorem pass_nameChar {c : Char} (hc : (c.isAlphanum || c == '_') = true) (r : List Char) :
    FieldScan.pass ⟨0, none, 0⟩ c r = .ok (some ⟨0, none, 0⟩) := by
  have hne : ∀ d ∈ ['\\', '#', '(', '[', '{', ')', ']', '}', '=', '!', '<', '>', ':'], c ≠ d := by
    have hnone : ['\\', '#', '(', '[', '{', ')', ']', '}', '=', '!', '<', '>', ':'].all
        (fun d => !(d.isAlphanum || d == '_')) = true := by decide
    intro d hd
    exact ne_of_isNameChar hc ((Bool.not_eq_true' _).mp (List.all_eq_true.mp hnone d hd))
  simp only [List.forall_mem_cons] at hne
  obtain ⟨h₁, h₂, h₃, h₄, h₅, h₆, h₇, h₈, h₉, h₁₀, h₁₁, h₁₂, h₁₃, -⟩ := hne
  simp [FieldScan.pass, isQuote_of_isNameChar hc, h₁, h₂, h₃, h₄, h₅, h₆, h₇, h₈, h₉, h₁₀, h₁₁, h₁₂,
    h₁₃]

theorem splitField_name (hsource : ∀ c ∈ source, (c.isAlphanum || c == '_') = true)
    {c : Char} {r : List Char} (hc : FieldScan.pass ⟨0, none, 0⟩ c r = .ok none)
    (start offset : Nat) :
    splitField start ⟨0, none, 0⟩ offset (source ++ c :: r) = .ok (source, c :: r) := by
  induction source generalizing offset with
  | nil =>
    rw [List.nil_append, splitField, hc]
  | cons d source ih =>
    rw [List.forall_mem_cons] at hsource
    rw [List.cons_append, splitField, pass_nameChar hsource.1]
    dsimp only
    rw [ih hsource.2]
    rfl

namespace Part

/-! ## Conversions -/

/-- A conversion or the closing brace ends the expression of a field. -/
theorem pass_writeConversion (k : Option Conversion) (rest : List Char) :
    ∃ c r, writeConversion k ++ '}' :: rest = c :: r ∧
      FieldScan.pass ⟨0, none, 0⟩ c r = .ok none ∧ c ≠ '=' := by
  cases k with
  | none => exact ⟨_, _, rfl, rfl, by decide⟩
  | some k =>
    refine ⟨'!', k.letter :: '}' :: rest, rfl, ?_, by decide⟩
    rcases k.letter_eq with h | h | h <;> rw [h] <;> rfl

theorem fieldConversion_write (k : Option Conversion) (rest : List Char) (offset : Nat) :
    ∃ offset', fieldConversion (writeConversion k ++ '}' :: rest) offset =
      .ok (k.map Conversion.letter, '}' :: rest, offset') := by
  cases k with
  | none => exact ⟨_, rfl⟩
  | some k => exact ⟨_, if_pos k.isConversion⟩

/-! ## Fields -/

theorem isWhiteSpace_of_isNameChar {c : Char} (h : (c.isAlphanum || c == '_') = true) :
    Unicode.isWhiteSpace c = false := by
  have hrange : 0x20 < c.toNat ∧ c.toNat < 0x80 := by
    refine ⟨?_, toNat_lt_of_isNameChar h⟩
    rcases Bool.or_eq_true_iff.mp h with h | h
    · rcases Bool.or_eq_true_iff.mp h with h | h
      · have := toNat_of_isAlpha h
        omega
      · have := toNat_of_isDigit h
        omega
    · rw [beq_iff_eq.mp h]
      decide
  rw [← Bool.not_eq_true]
  simp only [Unicode.isWhiteSpace, Bool.or_eq_true, Bool.and_eq_true, decide_eq_true_eq, beq_iff_eq]
  omega

/-- A name is not blank. -/
theorem all_isWhiteSpace_name (name : PlainName) :
    name.text.toList.all Unicode.isWhiteSpace = false := by
  obtain ⟨c, r, hname, hc⟩ := name.exists_cons
  rw [hname, List.all_cons, isWhiteSpace_of_isNameChar hc, Bool.false_and]

/-- The piece of a written field. -/
theorem field_write (spec : (Rule → Parser Expr) → List Char → Nat → Parser (List Piece))
    (name : PlainName) (k : Option Conversion) (rest : List Char) (start : Nat) :
    ∃ offset, ∀ᶠ fuel in atTop,
      outcome (Parser.field spell (Rule.run spell fuel) (spec (Rule.run spell fuel))
        (name.text.toList ++ (writeConversion k ++ '}' :: rest)) start) n ts =
        .ok (([.value (.formattedValue (.load name.text) (k.map Conversion.letter) none)], rest,
          offset), ts) := by
  have hchars := isNameChar_of_isAsciiName (isAsciiName_of_isPlainName name.isPlain)
  obtain ⟨c, r, htail, hc, hequals⟩ := pass_writeConversion k rest
  have hsplit := splitField_name hchars hc start start
  obtain ⟨offset, hconversion⟩ := fieldConversion_write k rest (start + byteLength name.text.toList)
  have hvalue : ∀ᶠ fuel in atTop,
      outcome (embedded (Rule.run spell fuel) name.text.toList start) n ts =
        .ok (.load name.text, ts) := embedded_name name start
  have hshown : fieldShown spell name.text.toList (c :: r) (start + byteLength name.text.toList) =
      (none, c :: r, start + byteLength name.text.toList) :=
    have hhead : (c :: r).head? ≠ some '=' := fun h => hequals (Option.some.inj h)
    fieldShown_none hhead _ _ _
  rw [htail] at hconversion ⊢
  refine ⟨offset + 1, hvalue.mono fun fuel hfuel => ?_⟩
  unfold Parser.field
  rw [hsplit, outcome_bind_of (outcome_ofExcept _)]
  dsimp only
  rw [all_isWhiteSpace_name, if_neg Bool.false_ne_true, outcome_bind_of hfuel, hshown]
  dsimp only
  rw [hconversion, outcome_bind_of (outcome_ofExcept _)]
  rfl

end Part

end PythonSyntax
