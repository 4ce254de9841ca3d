import PythonSyntax.Proofs.Json.Scalar

/-
Compact texts are lines.

A control character is escaped wherever it can occur, so the compact text of a value has none, and
in particular no line break.
-/

namespace PythonSyntax

open JsonValue

namespace Json

/-- A text without the characters below U+0020. -/
def Shown (s : List Char) : Prop := ∀ c ∈ s, 0x20 ≤ c.toNat

namespace Shown

variable {s r : List Char} {c : Char}

theorem nil : Shown [] := List.forall_mem_nil _

theorem cons (hc : 0x20 ≤ c.toNat) (h : Shown r) : Shown (c :: r) :=
  List.forall_mem_cons.mpr ⟨hc, h⟩

theorem append (hs : Shown s) (hr : Shown r) : Shown (s ++ r) :=
  List.forall_mem_append.mpr ⟨hs, hr⟩

/-- There is no line break in such a text. -/
theorem inLine (h : Shown s) (hc : c ∈ s) : c ≠ '\n' ∧ c ≠ '\r' := by
  refine ⟨?_, ?_⟩
  · rintro rfl
    exact absurd (h _ hc) (by decide)
  · rintro rfl
    exact absurd (h _ hc) (by decide)

end Shown

variable {rest : List Char}

/-! ## Strings and numbers -/

theorem shown_hexDigit (n : Nat) : 0x20 ≤ (hexDigit n).toNat := by
  have hdigits : ∀ d < 16, 0x20 ≤ (Nat.digitChar d).toNat := by decide
  exact hdigits (n % 16) (Nat.mod_lt n (by decide))

theorem shown_unicodeEscape (n : Nat) : Shown (unicodeEscape n) :=
  .cons (by decide) <| .cons (by decide) <| .cons (shown_hexDigit _) <| .cons (shown_hexDigit _) <|
    .cons (shown_hexDigit _) <| .cons (shown_hexDigit _) .nil

/-- A letter after a backslash is not a control character. -/
theorem shown_of_escaped? {c d : Char} (h : escaped? d = some c) : 0x20 ≤ d.toNat := by
  by_contra hlow
  have hnone : escaped? d = none := by
    have hne : ∀ e : Char, 0x20 ≤ e.toNat → d ≠ e := by
      rintro e he rfl
      exact hlow he
    rw [escaped?, if_neg, if_neg (hne _ (by decide)), if_neg (hne _ (by decide)),
      if_neg (hne _ (by decide)), if_neg (hne _ (by decide)), if_neg (hne _ (by decide))]
    rintro (heq | heq | heq)
    · exact hne _ (by decide) heq
    · exact hne _ (by decide) heq
    · exact hne _ (by decide) heq
  rw [hnone] at h
  cases h

theorem shown_escape (p : CodePoint) : Shown (escape p) := by
  cases p with
  | surrogate i => exact shown_unicodeEscape _
  | scalar c =>
    rcases escape_cases c with ⟨d, hd, -, hc⟩ | ⟨hd, -⟩ | ⟨hd, -, -, hc⟩
    · rw [hd]
      exact .cons (by decide) (.cons (shown_of_escaped? hc) .nil)
    · rw [hd]
      exact shown_unicodeEscape _
    · rw [hd]
      exact .cons (Nat.le_of_not_lt hc) .nil

theorem shown_writeText (t : Text) (h : Shown rest) : Shown (writeText t rest) := by
  refine .cons (by decide) ?_
  induction t with
  | nil => exact .cons (by decide) h
  | cons p t ih => exact (shown_escape p).append ih

theorem shown_of_isNumberChar {c : Char} (h : isNumberChar c = true) : 0x20 ≤ c.toNat := by
  simp only [isNumberChar, Char.isDigit, Bool.or_eq_true, Bool.and_eq_true, decide_eq_true_eq,
    beq_iff_eq, UInt32.le_iff_toNat_le] at h
  rcases h with ((((⟨h, -⟩ | rfl) | rfl) | rfl) | rfl) | rfl
  · exact Nat.le_trans (by decide) h
  all_goals decide

theorem shown_writeScalar (j : Json) (h : Shown rest) : Shown (j.writeScalar rest) := by
  have hword : ∀ w : List Char, (w.all fun c => 0x20 ≤ c.toNat) = true → Shown w :=
    fun w hw c hc => of_decide_eq_true (List.all_eq_true.mp hw c hc)
  unfold writeScalar
  split
  · exact (hword _ (by decide)).append h
  · exact (hword _ (by decide)).append h
  · exact .append (fun c hc => shown_of_isNumberChar (isNumberChar_of_toString _ c hc)) h
  · exact .append (fun c hc => shown_of_isNumberChar (Binary64.isNumberChar_of_render _ c hc)) h
  · exact shown_writeText _ h
  · exact (hword _ (by decide)).append h

/-! ## Values -/

mutual

theorem shown_write (j : Json) {rest : List Char} (h : Shown rest) : Shown (j.write rest) := by
  match j with
  | null | bool _ | nat _ | float _ | str _ => exact shown_writeScalar _ h
  | arr [] | obj [] => exact .cons (by decide) (.cons (by decide) h)
  | arr (item :: items) =>
    rw [write]
    exact .cons (by decide) (shown_write item (shown_writeItems items (.cons (by decide) h)))
  | obj ((k, v) :: fields) =>
    rw [write]
    exact .cons (by decide) (shown_writeText _
      (.cons (by decide) (shown_write v (shown_writeFields fields (.cons (by decide) h)))))

theorem shown_writeItems (items : List Json) {rest : List Char} (h : Shown rest) :
    Shown (writeItems items rest) := by
  match items with
  | [] => exact h
  | item :: items =>
    rw [writeItems]
    exact .cons (by decide) (shown_write item (shown_writeItems items h))

theorem shown_writeFields (fields : List (String × Json)) {rest : List Char} (h : Shown rest) :
    Shown (writeFields fields rest) := by
  match fields with
  | [] => exact h
  | (k, v) :: fields =>
    rw [writeFields]
    exact .cons (by decide) (shown_writeText _
      (.cons (by decide) (shown_write v (shown_writeFields fields h))))

end

/-- The compact text of a value has no control characters. -/
theorem shown_compact (j : Json) : Shown j.compact.toList := by
  rw [compact, String.toList_ofList]
  exact shown_write j .nil

end Json

end PythonSyntax
