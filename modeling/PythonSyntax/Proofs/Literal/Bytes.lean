import Mathlib.Algebra.GroupWithZero.Nat
import PythonSyntax.Literal.Quoted
import PythonSyntax.Proofs.Result

/-
The values of bytes literals are bytes.

No spelling in the body of a bytes literal denotes a character above 255: the characters themselves
are ASCII, an octal escape is taken modulo 256 and a hexadecimal one has two digits.
-/

namespace PythonSyntax

/-- Whether every code point of a text is a byte. -/
def Text.IsBytes (t : Text) : Prop := ∀ p ∈ t, ∃ c : Char, p = .scalar c ∧ c.toNat < 256

namespace Text.IsBytes

theorem nil : IsBytes [] := nofun

theorem cons {c : Char} {t : Text} (hc : c.toNat < 256) (ht : IsBytes t) :
    IsBytes (.scalar c :: t) := List.forall_mem_cons.mpr ⟨⟨c, rfl, hc⟩, ht⟩

theorem append {t u : Text} (ht : IsBytes t) (hu : IsBytes u) : IsBytes (t ++ u) :=
  List.forall_mem_append.mpr ⟨ht, hu⟩

theorem flatten {ts : List Text} (h : ∀ t ∈ ts, IsBytes t) : IsBytes ts.flatten := by
  intro p hp
  obtain ⟨t, ht, hp⟩ := List.mem_flatten.mp hp
  exact h t ht p hp

theorem ofChars {cs : List Char} (h : ∀ c ∈ cs, c.toNat < 256) : IsBytes (Text.ofChars cs) := by
  intro p hp
  obtain ⟨c, hc, rfl⟩ := List.mem_map.mp hp
  exact ⟨c, rfl, h c hc⟩

theorem lossy {t : Text} (h : IsBytes t) : ∀ c ∈ t.lossy, c.toNat < 256 := by
  intro c hc
  obtain ⟨p, hp, rfl⟩ := List.mem_map.mp hc
  obtain ⟨d, rfl, hd⟩ := h p hp
  exact hd

end Text.IsBytes

namespace Escape

open Text

theorem isBytes_of_codePoint {n : Nat} {p : CodePoint} (hn : n < 256) (h : codePoint n = .ok p) :
    IsBytes [p] := by
  have hvalid : n.isValidChar := Or.inl (by omega)
  unfold codePoint CodePoint.ofNat? at h
  rw [if_pos hvalid] at h
  cases h
  refine .cons ?_ .nil
  rw [Char.ofNat, dif_pos hvalid]
  exact hn

theorem digitValue_lt {base d : Nat} {c : Char} (h : digitValue? base c = some d) : d < base :=
  of_decide_eq_true (Option.filter_eq_some_iff.mp h).2

theorem foldlM_digits_lt {base m n : Nat} {cs : List Char}
    (h : cs.foldlM (fun n c => (digitValue? base c).map (n * base + ·)) m = some n) :
    n < (m + 1) * base ^ cs.length := by
  induction cs generalizing m with
  | nil =>
    cases h
    simp
  | cons c cs ih =>
    rw [List.foldlM_cons, Option.bind_eq_bind, Option.bind_eq_some_iff] at h
    obtain ⟨k, hk, h⟩ := h
    obtain ⟨d, hd, rfl⟩ := Option.map_eq_some_iff.mp hk
    have hlt := digitValue_lt hd
    calc n < (m * base + d + 1) * base ^ cs.length := ih h
      _ ≤ ((m + 1) * base) * base ^ cs.length :=
        Nat.mul_le_mul_right _ (by rw [Nat.add_mul]; omega)
      _ = (m + 1) * base ^ (c :: cs).length := by
        rw [List.length_cons, Nat.pow_succ, Nat.mul_assoc, Nat.mul_comm base]

/-- A number is below the power of its base that has as many digits. -/
theorem natOfDigits_lt {base n : Nat} {cs : List Char} (h : natOfDigits? base cs = some n) :
    n < base ^ cs.length := by
  unfold natOfDigits? at h
  split at h
  · exact nomatch h
  · have := foldlM_digits_lt h
    omega

theorem toNat_of_simple {c d : Char} (h : simple? c = some d) : d.toNat < 256 := by
  unfold simple? at h
  split at h <;> cases h <;> decide

/-- An escape in a bytes literal denotes bytes. -/
theorem isBytes_of_escape {c : Char} {r : List Char} {t : Text} {n : Nat}
    (h : escape true c r = .ok (t, n)) : IsBytes t := by
  unfold escape at h
  split at h
  · next d hd =>
    cases h
    exact .cons (toNat_of_simple hd) .nil
  · split at h
    · cases h; exact .nil
    · split at h
      · cases h; exact .nil
      · split at h
        · next d hd =>
          dsimp only at h
          rw [if_pos rfl] at h
          obtain ⟨p, hp, h⟩ := map_ok h
          cases h
          exact isBytes_of_codePoint (Nat.mod_lt _ (by decide)) hp
        · split at h
          · obtain ⟨p, hp, h⟩ := map_ok h
            cases h
            unfold hex at hp
            dsimp only at hp
            split at hp
            · next m hm =>
              split at hp
              · exact nomatch hp
              · refine isBytes_of_codePoint (Nat.lt_of_lt_of_le (natOfDigits_lt hm) ?_) hp
                exact Nat.pow_le_pow_right (by decide) (List.length_take_le 2 r)
            · exact nomatch hp
          · rw [if_pos rfl] at h
            split at h
            · exact nomatch h
            · next hc =>
              cases h
              exact .cons (by decide) (.cons (by omega) .nil)

theorem isBytes_of_decodeUpTo {fuel : Nat} {body : List Char} {t : Text}
    (h : decodeUpTo true fuel body = .ok t) : IsBytes t := by
  induction fuel generalizing body t with
  | zero => cases h; exact .nil
  | succ fuel ih =>
    cases body with
    | nil => cases h; exact .nil
    | cons c r =>
      unfold decodeUpTo at h
      split at h
      · cases r with
        | nil => cases h; exact .cons (by decide) .nil
        | cons d r =>
          dsimp only at h
          obtain ⟨tn, he, h⟩ := bind_ok h
          obtain ⟨rest, hrest, h⟩ := bind_ok h
          cases h
          exact (isBytes_of_escape he).append (ih hrest)
      · split at h
        · exact nomatch h
        · next hascii =>
          rw [Bool.true_and, decide_eq_true_eq, Nat.not_le] at hascii
          split at h
          · obtain ⟨rest, hrest, rfl⟩ := map_ok h
            exact .cons (by decide) (ih hrest)
          · obtain ⟨rest, hrest, rfl⟩ := map_ok h
            exact .cons (by omega) (ih hrest)

theorem toNat_of_decodeRaw {body cs : List Char} (h : decodeRaw true body = .ok cs) :
    ∀ c ∈ cs, c.toNat < 256 := by
  fun_induction decodeRaw true body generalizing cs with
  | case1 => cases h; exact nofun
  | case2 => exact nomatch h
  | case3 r hascii ih =>
    obtain ⟨ds, hds, rfl⟩ := map_ok h
    exact List.forall_mem_cons.mpr ⟨by decide, ih hds⟩
  | case4 r hascii hr ih =>
    obtain ⟨ds, hds, rfl⟩ := map_ok h
    exact List.forall_mem_cons.mpr ⟨by decide, ih hds⟩
  | case5 c r hascii hcr ih =>
    obtain ⟨ds, hds, rfl⟩ := map_ok h
    simp only [Bool.true_and, decide_eq_true_eq, Nat.not_le] at hascii
    exact List.forall_mem_cons.mpr ⟨by omega, ih hds⟩

end Escape

/-- The value of a bytes literal holds bytes. -/
theorem Quoted.isBytes_of_decode {q : Quoted} {t : Text} (hq : q.isBytes = true)
    (h : q.decode = .ok t) : t.IsBytes := by
  unfold Quoted.decode at h
  rw [hq] at h
  split at h
  · obtain ⟨cs, hcs, rfl⟩ := map_ok h
    exact .ofChars (Escape.toNat_of_decodeRaw hcs)
  · exact Escape.isBytes_of_decodeUpTo h

end PythonSyntax
