import Mathlib.Tactic.Common
import PythonSyntax.Proofs.Json.Value
import PythonSyntax.Proofs.Literal.Numeral

/-
Strings, words and numbers are read back.

The spelling of a code point is read as that code point, so a written string is read as its text.
The text of a number is a run of the characters of numbers, and is read as that token.
-/

namespace PythonSyntax

open JsonValue

/-! ## Strings -/

namespace JsonValue

variable {c : Char} {r s : List Char}

theorem readString_quote : readString ('"' :: r) = some ([], r) := by
  rw [readString.eq_def]
  exact if_pos rfl

theorem readString_plain (hquote : c ≠ '"') (hslash : c ≠ '\\') (hc : ¬ c.toNat < 0x20) :
    readString (c :: r) = consPoint (some (.scalar c)) (readString r) := by
  rw [readString.eq_def]
  exact (if_neg hquote).trans ((if_neg hslash).trans (if_neg hc))

theorem readString_escaped (hc : c ≠ 'u') :
    readString ('\\' :: c :: r) = consPoint ((escaped? c).map .scalar) (readString r) := by
  rw [readString.eq_def]
  simp only [show ¬ '\\' = '"' by decide, if_false, if_true]
  split
  · next heq => cases heq; exact absurd rfl hc
  · next heq => cases heq; rfl
  · next heq => cases heq

/-- The digit of a number below 16 denotes it. -/
theorem digitValue?_hexDigit (n : Nat) : digitValue? 16 (Json.hexDigit n) = some (n % 16) := by
  have hdigits : ∀ d : Fin 16, digitValue? 16 (Nat.digitChar d) = some d.val := by decide
  exact hdigits ⟨n % 16, Nat.mod_lt n (by decide)⟩

theorem readString_unicodeEscape {n : Nat} (h : n < 0x10000) :
    readString (Json.unicodeEscape n ++ r) = consPoint (CodePoint.ofNat? n) (readString r) := by
  have hdigits : natOfDigits? 16 [Json.hexDigit (n / 4096), Json.hexDigit (n / 256),
      Json.hexDigit (n / 16), Json.hexDigit n] = some n := by
    have hsum : (((n / 4096 % 16) * 16 + n / 256 % 16) * 16 + n / 16 % 16) * 16 + n % 16 = n := by
      omega
    simp [natOfDigits?, digitValue?_hexDigit, hsum]
  rw [readString.eq_def]
  simp only [Json.unicodeEscape, List.cons_append, show ¬ '\\' = '"' by decide, if_false, if_true,
    List.nil_append, hdigits]
  rfl

theorem ofNat?_surrogate (i : Fin 2048) : CodePoint.ofNat? (0xD800 + i) = some (.surrogate i) := by
  have hvalid : ¬ (0xD800 + i.val).isValidChar := by
    rintro (h | ⟨h, -⟩) <;> omega
  rw [CodePoint.ofNat?, if_neg hvalid, dif_pos ⟨by omega, by omega⟩]
  simp

theorem ofNat?_toNat (c : Char) : CodePoint.ofNat? c.toNat = some (.scalar c) := by
  have hvalid : c.toNat.isValidChar := c.valid
  rw [CodePoint.ofNat?, if_pos hvalid, Char.ofNat_toNat]

/-- A character is spelled by a letter after a backslash, by its number, or by itself. -/
theorem escape_cases (c : Char) :
    (∃ d, Json.escape (.scalar c) = ['\\', d] ∧ d ≠ 'u' ∧ escaped? d = some c) ∨
    Json.escape (.scalar c) = Json.unicodeEscape c.toNat ∧ c.toNat < 0x20 ∨
    Json.escape (.scalar c) = [c] ∧ c ≠ '"' ∧ c ≠ '\\' ∧ ¬ c.toNat < 0x20 := by
  rw [Json.escape]
  split
  · next h => exact .inl ⟨_, rfl, by decide, by rw [h]; rfl⟩
  split
  · next h => exact .inl ⟨_, rfl, by decide, by rw [h]; rfl⟩
  split
  · next h => exact .inl ⟨_, rfl, by decide, by rw [h]; rfl⟩
  split
  · next h => exact .inl ⟨_, rfl, by decide, by rw [h]; rfl⟩
  split
  · next h => exact .inl ⟨_, rfl, by decide, by rw [h]; rfl⟩
  split
  · next h => exact .inl ⟨_, rfl, by decide, by rw [h]; rfl⟩
  split
  · next h => exact .inl ⟨_, rfl, by decide, by rw [h]; rfl⟩
  split
  · next h => exact .inr (.inl ⟨rfl, h⟩)
  · next hquote hslash _ _ _ _ _ hc => exact .inr (.inr ⟨rfl, hquote, hslash, hc⟩)

/-- The spelling of a code point is read as that code point. -/
theorem readString_escape (p : CodePoint) :
    readString (Json.escape p ++ r) = consPoint (some p) (readString r) := by
  cases p with
  | surrogate i =>
    rw [Json.escape, readString_unicodeEscape (by omega), ofNat?_surrogate]
  | scalar c =>
    rcases escape_cases c with ⟨d, hd, hu, hc⟩ | ⟨hd, hc⟩ | ⟨hd, hquote, hslash, hc⟩
    · rw [hd, List.cons_append, List.cons_append, readString_escaped hu, hc]
      rfl
    · rw [hd, readString_unicodeEscape (by omega), ofNat?_toNat]
    · rw [hd]
      exact readString_plain hquote hslash hc

/-- A written string is read as its text. -/
theorem readString_points (t : Text) :
    readString (t.foldr (fun p r => Json.escape p ++ r) ('"' :: r)) = some (t, r) := by
  induction t with
  | nil => exact readString_quote
  | cons p t ih =>
    rw [List.foldr_cons, readString_escape, ih]
    rfl

/-! ## Words and numbers -/

/-- Nothing that could go on with a number stands at the front of a text. -/
def Delimited (s : List Char) : Prop := ∀ c ∈ s.head?, isNumberChar c = false

theorem delimited_cons (h : isNumberChar c = false) : Delimited (c :: r) := by
  intro d hd
  cases hd
  exact h

theorem takeWhile_number {token : List Char} (htoken : ∀ c ∈ token, isNumberChar c = true)
    (h : Delimited r) : (token ++ r).takeWhile isNumberChar = token := by
  rw [List.takeWhile_append_of_pos htoken]
  have hrest : r.takeWhile isNumberChar = [] := by
    cases r with
    | nil => rfl
    | cons c r => exact List.takeWhile_cons_of_neg (by rw [h c rfl]; exact Bool.false_ne_true)
  rw [hrest, List.append_nil]

theorem readScalar_number {token : List Char} (hne : token ≠ [])
    (htoken : ∀ c ∈ token, isNumberChar c = true) (h : Delimited r) :
    readScalar (token ++ r) = some (number token, r) := by
  obtain ⟨c, token, rfl⟩ := List.exists_cons_of_ne_nil hne
  have hc : isNumberChar c = true := htoken c List.mem_cons_self
  have hword : ∀ d w, isNumberChar d = false → (d :: w).isPrefixOf (c :: token ++ r) = false := by
    intro d w hd
    have hdc : (d == c) = false := by
      rw [beq_eq_false_iff_ne]
      rintro rfl
      rw [hd] at hc
      cases hc
    show (d == c && _) = false
    rw [hdc, Bool.false_and]
  rw [readScalar, hword _ _ (by decide), hword _ _ (by decide), hword _ _ (by decide)]
  simp only [Bool.false_eq_true, if_false, takeWhile_number htoken h, List.isEmpty_cons,
    List.drop_left]

end JsonValue

/-! ## Numbers -/

theorem isNumberChar_of_isDigit {c : Char} (h : c.isDigit = true) : isNumberChar c = true := by
  simp [isNumberChar, h]

theorem isNumberChar_of_toString (n : Nat) :
    ∀ c ∈ (toString n).toList, isNumberChar c = true := by
  intro c hc
  rw [show toString n = n.repr from rfl, Nat.toList_repr] at hc
  exact isNumberChar_of_isDigit (Nat.isDigit_of_mem_toDigits (by decide) (by decide) hc)

theorem toList_toString_ne_nil (n : Nat) : (toString n).toList ≠ [] := by
  rw [show toString n = n.repr from rfl, Nat.toList_repr]
  exact Nat.toDigits_ne_nil

namespace Binary64

theorem mem_of_mem_trimZeros {ds : List Char} {c : Char} (h : c ∈ trimZeros ds) : c ∈ ds := by
  rw [trimZeros, List.mem_reverse] at h
  exact List.mem_reverse.mp ((List.dropWhile_suffix _).subset h)

theorem isNumberChar_of_layout {ds : List Char} (h : ∀ c ∈ ds, isNumberChar c = true) (e : Int) :
    ∀ c ∈ layout ds e, isNumberChar c = true := by
  have hzeros : ∀ n, ∀ c ∈ List.replicate n '0', isNumberChar c = true := by
    intro n c hc
    rw [(List.mem_replicate.mp hc).2]
    decide
  have hpart : ∀ n, ∀ c ∈ (if (ds.drop n).isEmpty then ['0'] else ds.drop n),
      isNumberChar c = true := by
    intro n c hc
    split at hc
    · rw [List.mem_singleton.mp hc]
      decide
    · exact h c (List.mem_of_mem_drop hc)
  unfold layout
  split
  · split
    · simp only [List.cons_append, List.forall_mem_cons, List.forall_mem_append]
      exact ⟨by decide, by decide, hzeros _, h⟩
    · simp only [List.forall_mem_cons, List.forall_mem_append]
      exact ⟨⟨fun c hc => h c (List.mem_of_mem_take hc), hzeros _⟩, by decide, hpart _⟩
  · simp only [List.forall_mem_cons, List.forall_mem_append]
    refine ⟨?_, by decide, ?_, isNumberChar_of_toString _⟩
    · split
      · exact List.forall_mem_nil _
      · exact h
      · rw [List.forall_mem_cons] at h
        exact List.forall_mem_cons.mpr ⟨h.1, List.forall_mem_cons.mpr ⟨by decide, h.2⟩⟩
    · split <;> decide

theorem layout_ne_nil (ds : List Char) (e : Int) : layout ds e ≠ [] := by
  unfold layout
  split
  · split
    · exact List.cons_ne_nil _ _
    · exact List.append_ne_nil_of_right_ne_nil _ (List.cons_ne_nil _ _)
  · exact List.append_ne_nil_of_right_ne_nil _ (List.cons_ne_nil _ _)

/-- The text of a float is a sign and digits with a point, an exponent, or both. -/
theorem render_cases (x : Binary64) : ∃ body, x.render =
      (if x.isNegative then ['-'] else []) ++ body ∧
    (body = ['0', '.', '0'] ∨ ∃ ds e, (∀ c ∈ ds, isNumberChar c = true) ∧ body = layout ds e) := by
  by_cases h : x.significand = 0
  · exact ⟨_, if_pos h, .inl rfl⟩
  · refine ⟨_, if_neg h, .inr ⟨_, _, fun c hc => ?_, rfl⟩⟩
    exact isNumberChar_of_toString _ c (mem_of_mem_trimZeros hc)

/-- The text of a float is a token of a number. -/
theorem isNumberChar_of_render (x : Binary64) : ∀ c ∈ x.render, isNumberChar c = true := by
  have hsign : ∀ c ∈ (if x.isNegative then ['-'] else []), isNumberChar c = true := by
    split
    · exact List.forall_mem_singleton.mpr (by decide)
    · exact List.forall_mem_nil _
  obtain ⟨body, hx, rfl | ⟨ds, e, hds, rfl⟩⟩ := x.render_cases
  · rw [hx]
    exact List.forall_mem_append.mpr ⟨hsign, by simp [isNumberChar, Char.isDigit]⟩
  · rw [hx]
    exact List.forall_mem_append.mpr ⟨hsign, isNumberChar_of_layout hds e⟩

theorem render_ne_nil (x : Binary64) : x.render ≠ [] := by
  obtain ⟨body, hx, rfl | ⟨ds, e, -, rfl⟩⟩ := x.render_cases
  · rw [hx]
    exact List.append_ne_nil_of_right_ne_nil _ (List.cons_ne_nil _ _)
  · rw [hx]
    exact List.append_ne_nil_of_right_ne_nil _ (layout_ne_nil _ _)

end Binary64

end PythonSyntax
