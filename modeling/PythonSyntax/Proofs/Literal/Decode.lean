import Mathlib.Data.List.Basic
import Mathlib.Data.List.Forall2
import Mathlib.Data.List.Induction
import Mathlib.Data.Nat.Digits.Defs
import PythonSyntax.Proofs.Json.Scalar
import PythonSyntax.Proofs.Literal.Bytes

/-
Decoding undoes every spelling.

In the body of a literal a code point may stand for itself, or be written as a letter or a number
after a backslash, and a bytes literal leaves fewer ways to do so.  Each spelling fixes how long it
is: a number has all of its digits, so what stands behind it cannot run into it.  Hence a body
that is put together from spellings, whichever they are, denotes what the spellings stand for.
-/

namespace PythonSyntax.Escape

variable {isBytes : Bool} {base count d n : Nat} {c : Char} {p : CodePoint} {points : Text}
  {cs rest spelling : List Char} {ds : List Nat} {spellings : List (List Char)}

/-! ## Spellings -/

/-- The letters that stand for one character after a backslash, and the characters. -/
def letters : List (Char × Char) :=
  [('\\', '\\'), ('\'', '\''), ('"', '"'), ('a', '\x07'), ('b', '\x08'), ('f', '\x0c'),
    ('n', '\n'), ('r', '\r'), ('t', '\t'), ('v', '\x0b')]

/-- A character is a digit of some value; digits above nine are letters of either case. -/
def IsDigit (base : Nat) (c : Char) (d : Nat) : Prop :=
  d < base ∧ (c = d.digitChar ∨ c = d.digitChar.toUpper)

instance : Decidable (IsDigit base c d) := inferInstanceAs (Decidable (_ ∧ _))

/-- A number is written with `count` digits, the highest first. -/
def IsNumeral (base count n : Nat) (cs : List Char) : Prop :=
  ∃ ds, cs.length = count ∧ List.Forall₂ (IsDigit base) cs ds ∧ Nat.ofDigits base ds.reverse = n

/-- The spellings of a code point in the body of a literal. -/
inductive Spells (isBytes : Bool) : CodePoint → List Char → Prop
  | itself {c : Char} (backslash : c ≠ '\\') (carriageReturn : c ≠ '\r')
      (ascii : isBytes = true → c.toNat < 0x80) : Spells isBytes (.scalar c) [c]
  | letter {letter c : Char} (known : (letter, c) ∈ letters) :
      Spells isBytes (.scalar c) ['\\', letter]
  | hexByte {p : CodePoint} {cs : List Char} (digits : IsNumeral 16 2 p.value cs) :
      Spells isBytes p ('\\' :: 'x' :: cs)
  | octal {p : CodePoint} {cs : List Char} (digits : IsNumeral 8 3 p.value cs)
      (byte : isBytes = true → p.value < 256) : Spells isBytes p ('\\' :: cs)
  | hexShort {p : CodePoint} {cs : List Char} (digits : IsNumeral 16 4 p.value cs)
      (text : isBytes = false) : Spells isBytes p ('\\' :: 'u' :: cs)
  | hexLong {p : CodePoint} {cs : List Char} (digits : IsNumeral 16 8 p.value cs)
      (text : isBytes = false) : Spells isBytes p ('\\' :: 'U' :: cs)

/-! ## Digits -/

theorem digitValue?_of_isDigit (hbase : base ≤ 16) (h : IsDigit base c d) :
    digitValue? base c = some d := by
  obtain ⟨hlt, hc⟩ := h
  have hlower : ∀ d : Fin 16, digitValue? 16 (Nat.digitChar d) = some d.val := by decide
  have hupper : ∀ d : Fin 16, digitValue? 16 (Nat.digitChar d).toUpper = some d.val := by decide
  have h16 : digitValue? 16 c = some d := by
    rcases hc with rfl | rfl
    · exact hlower ⟨d, by omega⟩
    · exact hupper ⟨d, by omega⟩
  -- a smaller base has the same digits, as far as they go
  unfold digitValue? at h16 ⊢
  obtain ⟨hd, -⟩ := Option.filter_eq_some_iff.mp h16
  exact Option.filter_eq_some_iff.mpr ⟨hd, by simpa using hlt⟩

theorem foldlM_digits (hbase : base ≤ 16) (h : List.Forall₂ (IsDigit base) cs ds) (m : Nat) :
    cs.foldlM (fun n c => (digitValue? base c).map (n * base + ·)) m =
      some (ds.foldl (fun n d => n * base + d) m) := by
  induction h generalizing m with
  | nil => rfl
  | cons hd hds ih =>
    rw [List.foldlM_cons, digitValue?_of_isDigit hbase hd]
    exact ih _

theorem foldl_eq_ofDigits (base : Nat) (ds : List Nat) :
    ds.foldl (fun n d => n * base + d) 0 = Nat.ofDigits base ds.reverse := by
  induction ds using List.reverseRec with
  | nil => rfl
  | append_singleton ds d ih =>
    have hlast : Nat.ofDigits base (ds ++ [d]).reverse = d + base * Nat.ofDigits base ds.reverse := by
      rw [List.reverse_concat, Nat.ofDigits_cons]
    rw [List.foldl_append, List.foldl_cons, List.foldl_nil, ih, hlast, Nat.mul_comm, Nat.add_comm]

/-- A numeral denotes its number. -/
theorem IsNumeral.natOfDigits (hbase : base ≤ 16) (hcount : 0 < count)
    (h : IsNumeral base count n cs) : natOfDigits? base cs = some n := by
  obtain ⟨ds, hlen, hds, rfl⟩ := h
  have hne : cs.isEmpty = false := by
    rw [List.isEmpty_eq_false_iff_exists_mem]
    exact List.exists_mem_of_length_pos (by omega)
  rw [natOfDigits?, hne, foldlM_digits hbase hds, foldl_eq_ofDigits]
  rfl

/-! ## Escapes -/

theorem codePoint_value (p : CodePoint) : codePoint p.value = .ok p := by
  have hvalue : CodePoint.ofNat? p.value = some p := by
    cases p with
    | scalar c => exact JsonValue.ofNat?_toNat c
    | surrogate i => exact JsonValue.ofNat?_surrogate i
  rw [codePoint, hvalue]

/-- As many digits as are asked for are read, and no more. -/
theorem hex_of_isNumeral {fault : StringFault} (hcount : 0 < count)
    (h : IsNumeral 16 count p.value cs) : hex count fault (cs ++ rest) = .ok p := by
  have hn := h.natOfDigits (by omega) hcount
  obtain ⟨ds, hlen, -⟩ := h
  have htake : (cs ++ rest).take count = cs := by rw [← hlen, List.take_left]
  unfold hex
  simp only [htake, hn, hlen, Nat.lt_irrefl, if_false]
  exact codePoint_value p

theorem octal_of_isNumeral (rest : List Char) (h : IsNumeral 8 3 n cs) :
    ∃ first d c₂ c₃, cs = [first, c₂, c₃] ∧ IsDigit 8 first d ∧
      octal d 2 (c₂ :: c₃ :: rest) = (n, 2) := by
  obtain ⟨ds, hlen, hds, rfl⟩ := h
  obtain ⟨c₁, c₂, c₃, rfl⟩ := List.length_eq_three.mp hlen
  obtain ⟨d₁, ds₁, h₁, hds₁, rfl⟩ := List.forall₂_cons_left_iff.mp hds
  obtain ⟨d₂, ds₂, h₂, hds₂, rfl⟩ := List.forall₂_cons_left_iff.mp hds₁
  obtain ⟨d₃, ds₃, h₃, hds₃, rfl⟩ := List.forall₂_cons_left_iff.mp hds₂
  obtain rfl := List.forall₂_nil_left_iff.mp hds₃
  refine ⟨c₁, d₁, c₂, c₃, rfl, h₁, ?_⟩
  rw [← foldl_eq_ofDigits]
  simp [octal, digitValue?_of_isDigit (by omega) h₂, digitValue?_of_isDigit (by omega) h₃]

/-- An octal digit begins no other escape. -/
theorem simple?_of_isDigit (h : IsDigit 8 c d) : simple? c = none ∧ c ≠ '\n' ∧ c ≠ '\r' := by
  obtain ⟨hlt, hc⟩ := h
  have hnone : ∀ d : Fin 8, simple? (Nat.digitChar d) = none ∧ Nat.digitChar d ≠ '\n' ∧
      Nat.digitChar d ≠ '\r' := by decide
  have hupper : ∀ d : Fin 8, (Nat.digitChar d).toUpper = Nat.digitChar d := by decide
  rcases hc with rfl | rfl
  · exact hnone ⟨d, hlt⟩
  · rw [hupper ⟨d, hlt⟩]
    exact hnone ⟨d, hlt⟩

theorem simple?_of_mem_letters {letter : Char} (h : (letter, c) ∈ letters) :
    simple? letter = some c := by
  have hall : ∀ e ∈ letters, simple? e.1 = some e.2 := by decide
  exact hall _ h

/-- An escape ends where its spelling does. -/
theorem escape_of_spells (h : Spells isBytes p ('\\' :: c :: cs)) :
    escape isBytes c (cs ++ rest) = .ok ([p], cs.length) := by
  cases h with
  | letter known => rw [escape, simple?_of_mem_letters known]; rfl
  | hexByte digits =>
    have hlen : cs.length = 2 := digits.choose_spec.1
    show (hex 2 .truncatedByte (cs ++ rest)).map (fun p => ([p], 2)) = _
    rw [hex_of_isNumeral (by omega) digits, hlen]
    rfl
  | octal digits byte =>
    obtain ⟨first, d, c₂, c₃, heq, hd, hoctal⟩ := octal_of_isNumeral rest digits
    obtain ⟨rfl, rfl⟩ := List.cons.inj heq
    obtain ⟨hnone, hfeed, hreturn⟩ := simple?_of_isDigit hd
    have hmod : (if isBytes = true then p.value % 256 else p.value) = p.value := by
      split
      · next hbytes => exact Nat.mod_eq_of_lt (byte hbytes)
      · rfl
    unfold escape
    simp only [hnone, hfeed, hreturn, if_false, digitValue?_of_isDigit (by omega) hd,
      List.cons_append, List.nil_append, hoctal, hmod, codePoint_value]
    rfl
  | hexShort digits text =>
    subst text
    have hlen : cs.length = 4 := digits.choose_spec.1
    show (hex 4 .truncatedShort (cs ++ rest)).map (fun p => ([p], 4)) = _
    rw [hex_of_isNumeral (by omega) digits, hlen]
    rfl
  | hexLong digits text =>
    subst text
    have hlen : cs.length = 8 := digits.choose_spec.1
    show (hex 8 .truncatedLong (cs ++ rest)).map (fun p => ([p], 8)) = _
    rw [hex_of_isNumeral (by omega) digits, hlen]
    rfl

/-! ## Bodies -/

/-- A spelling is itself, or a backslash and something after it. -/
theorem Spells.cases_head (h : Spells isBytes p spelling) :
    (∃ c, p = .scalar c ∧ spelling = [c] ∧ c ≠ '\\' ∧ c ≠ '\r' ∧
      (isBytes = true → c.toNat < 0x80)) ∨ ∃ c cs, spelling = '\\' :: c :: cs := by
  cases h with
  | itself backslash carriageReturn ascii =>
    exact .inl ⟨_, rfl, rfl, backslash, carriageReturn, ascii⟩
  | letter known => exact .inr ⟨_, _, rfl⟩
  | hexByte digits => exact .inr ⟨_, _, rfl⟩
  | octal digits byte =>
    obtain ⟨first, d, c₂, c₃, rfl, -⟩ := octal_of_isNumeral [] digits
    exact .inr ⟨_, _, rfl⟩
  | hexShort digits text => exact .inr ⟨_, _, rfl⟩
  | hexLong digits text => exact .inr ⟨_, _, rfl⟩

/-- A character that begins nothing denotes itself. -/
theorem decodeUpTo_itself (isBytes : Bool) {c : Char} (hbackslash : c ≠ '\\') (hreturn : c ≠ '\r')
    (fuel : Nat) (r : List Char) :
    decodeUpTo isBytes (fuel + 1) (c :: r) =
      if isBytes && 0x80 ≤ c.toNat then .error .nonAsciiBytes
      else (decodeUpTo isBytes fuel r).map (.scalar c :: ·) := by
  rw [decodeUpTo.eq_def]
  simp only [hbackslash, hreturn, if_false]

/-- One step of decoding takes one spelling. -/
theorem decodeUpTo_of_spells (fuel : Nat) (h : Spells isBytes p spelling) :
    decodeUpTo isBytes (fuel + 1) (spelling ++ rest) =
      (decodeUpTo isBytes fuel rest).map (p :: ·) := by
  rcases h.cases_head with ⟨c, rfl, rfl, hbackslash, hreturn, hascii⟩ | ⟨c, cs, rfl⟩
  · have hbyte : (isBytes && decide (0x80 ≤ c.toNat)) = false := by
      cases isBytes with
      | false => rfl
      | true =>
        have := hascii rfl
        simp
        omega
    rw [List.singleton_append, decodeUpTo_itself isBytes hbackslash hreturn, hbyte,
      if_neg Bool.false_ne_true]
  · rw [List.cons_append, List.cons_append, decodeUpTo.eq_def]
    simp only [if_true, escape_of_spells h]
    show (decodeUpTo isBytes fuel ((cs ++ rest).drop cs.length) >>= _) = _
    rw [List.drop_left]
    cases decodeUpTo isBytes fuel rest <;> rfl

/-- Spellings one after another are taken one after another. -/
theorem decodeUpTo_flatten {fuel : Nat} (h : List.Forall₂ (Spells isBytes) points spellings)
    (hfuel : spellings.flatten.length ≤ fuel) :
    decodeUpTo isBytes fuel spellings.flatten = .ok points := by
  induction h generalizing fuel with
  | nil => cases fuel <;> rfl
  | @cons p spelling points spellings hp hps ih =>
    have hpos : 0 < spelling.length := by
      rcases hp.cases_head with ⟨c, -, rfl, -⟩ | ⟨c, cs, rfl⟩ <;> simp
    rw [List.flatten_cons, List.length_append] at hfuel
    obtain ⟨fuel, rfl⟩ : ∃ k, fuel = k + 1 := ⟨fuel - 1, by omega⟩
    rw [List.flatten_cons, decodeUpTo_of_spells fuel hp, ih (by omega)]
    rfl

/-! ## Main result -/

/-- The text that consists of some bytes. -/
def textOfBytes (bytes : List UInt8) : Text := bytes.map fun b => .scalar (Char.ofNat b.toNat)

/-- A body that consists of spellings denotes what they stand for: any code points, or in a bytes
literal any bytes. -/
theorem decode_spelled :
    (∀ points spellings, List.Forall₂ (Spells false) points spellings →
      decode false spellings.flatten = .ok points) ∧
    ∀ bytes spellings, List.Forall₂ (Spells true) (textOfBytes bytes) spellings →
      decode true spellings.flatten = .ok (textOfBytes bytes) ∧
        (textOfBytes bytes).hasSurrogates = false ∧
        (textOfBytes bytes).map CodePoint.value = bytes.map UInt8.toNat := by
  refine ⟨fun points spellings h => decodeUpTo_flatten h (Nat.le_refl _), ?_⟩
  intro bytes spellings h
  refine ⟨decodeUpTo_flatten h (Nat.le_refl _), ?_, ?_⟩
  · simp [Text.hasSurrogates, textOfBytes, CodePoint.isSurrogate]
  · have hvalue : ∀ b : UInt8, (CodePoint.scalar (Char.ofNat b.toNat)).value = b.toNat := by
      intro b
      have hvalid : b.toNat.isValidChar := .inl (by have := b.toNat_lt; omega)
      rw [CodePoint.value, Char.ofNat, dif_pos hvalid]
      rfl
    rw [textOfBytes, List.map_map]
    exact List.map_congr_left fun b _ => hvalue b

/-- Spellings that could run into each other: a byte before a digit, an octal number before one. -/
theorem decode_spelled_digits :
    (List.Forall₂ (Spells false) [.scalar 'A', .scalar '1', .surrogate 0, .scalar 'é', .scalar '7']
        [['\\', 'x', '4', '1'], ['1'], ['\\', 'u', 'D', '8', '0', '0'], ['\\', '3', '5', '1'], ['7']] ∧
      decode false "\\x411\\uD800\\3517".toList =
        .ok [.scalar 'A', .scalar '1', .surrogate 0, .scalar 'é', .scalar '7']) ∧
    List.Forall₂ (Spells true) (textOfBytes [255, 10, 92])
        [['\\', 'x', 'f', 'F'], ['\\', '0', '1', '2'], ['\\', '\\']] ∧
      decode true "\\xfF\\012\\\\".toList = .ok (textOfBytes [255, 10, 92]) := by
  have hpoints : List.Forall₂ (Spells false)
      [.scalar 'A', .scalar '1', .surrogate 0, .scalar 'é', .scalar '7']
      [['\\', 'x', '4', '1'], ['1'], ['\\', 'u', 'D', '8', '0', '0'], ['\\', '3', '5', '1'], ['7']] := by
    refine .cons (.hexByte ⟨[4, 1], rfl, ?_, rfl⟩) <| .cons (.itself (by decide) (by decide) nofun) <|
      .cons (.hexShort ⟨[13, 8, 0, 0], rfl, ?_, rfl⟩ rfl) <|
      .cons (.octal ⟨[3, 5, 1], rfl, ?_, rfl⟩ nofun) <|
      .cons (.itself (by decide) (by decide) nofun) .nil
    · exact .cons (by decide) (.cons (by decide) .nil)
    · exact .cons (by decide) (.cons (by decide) (.cons (by decide) (.cons (by decide) .nil)))
    · exact .cons (by decide) (.cons (by decide) (.cons (by decide) .nil))
  have hbytes : List.Forall₂ (Spells true) (textOfBytes [255, 10, 92])
      [['\\', 'x', 'f', 'F'], ['\\', '0', '1', '2'], ['\\', '\\']] := by
    refine .cons (.hexByte ⟨[15, 15], rfl, ?_, rfl⟩) <|
      .cons (.octal ⟨[0, 1, 2], rfl, ?_, rfl⟩ fun _ => by decide) <|
      .cons (.letter (by decide)) .nil
    · exact .cons (by decide) (.cons (by decide) .nil)
    · exact .cons (by decide) (.cons (by decide) (.cons (by decide) .nil))
  exact ⟨⟨hpoints, decode_spelled.1 _ _ hpoints⟩, hbytes, (decode_spelled.2 _ _ hbytes).1⟩

end PythonSyntax.Escape
