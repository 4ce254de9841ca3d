import PythonSyntax.Proofs.Span.Place

/-
Texts by offsets and indices.

An offset cuts a text only between two characters, and an index finds a byte only inside the text.
Everywhere else there is no answer, nor is there one where a number falls below zero or outgrows the
word that holds it.  So what is written with these steps, and always has an answer, stays in its
ranges.
-/

namespace PythonSyntax.Indexed

variable {text pre mid post r : List Char} {a b i j n : Nat} {c d q : Char}

/-! ## Numbers -/

/-- The difference of two numbers, if it is one. -/
def minus? (a b : Nat) : Option Nat := if b ≤ a then some (a - b) else none

theorem minus?_add (a b : Nat) : minus? (a + b) a = some b := by
  rw [minus?, if_pos (Nat.le_add_right a b), Nat.add_sub_cancel_left]

/-- A number in a word of which the greatest number is `top`. -/
def fits? (top n : Nat) : Option Nat := if n ≤ top then some n else none

theorem fits?_eq {top : Nat} (h : n ≤ top) : fits? top n = some n := if_pos h

/-- A number that takes at most 32 bits. -/
def word? (n : Nat) : Option Nat := fits? 0xffffffff n

theorem word?_eq (h : n < 0x100000000) : word? n = some n := fits?_eq (Nat.le_of_lt_succ h)

/-! ## Offsets -/

/-- The text behind an offset. -/
def after? : List Char → Nat → Option (List Char)
  | text, 0 => some text
  | [], _ + 1 => none
  | c :: r, n + 1 => if c.utf8Size ≤ n + 1 then after? r (n + 1 - c.utf8Size) else none

/-- The text in front of an offset. -/
def before? : List Char → Nat → Option (List Char)
  | _, 0 => some []
  | [], _ + 1 => none
  | c :: r, n + 1 =>
    if c.utf8Size ≤ n + 1 then (before? r (n + 1 - c.utf8Size)).map (c :: ·) else none

/-- The text between two offsets, the first of which is not the greater one. -/
def slice? (text : List Char) (start stop : Nat) : Option (List Char) := do
  let n ← minus? stop start
  before? (← after? text start) n

theorem exists_byteLength_cons (c : Char) (a : List Char) : ∃ k, c.utf8Size + byteLength a = k + 1 :=
  Nat.exists_eq_add_one.mpr (Nat.add_pos_left c.utf8Size_pos _)

theorem after?_append (a b : List Char) : after? (a ++ b) (byteLength a) = some b := by
  induction a with
  | nil =>
    rw [List.nil_append, byteLength_nil]
    cases b <;> rfl
  | cons c a ih =>
    obtain ⟨k, hk⟩ := exists_byteLength_cons c a
    rw [List.cons_append, byteLength_cons, hk, after?, if_pos (by omega), ← hk,
      Nat.add_sub_cancel_left]
    exact ih

theorem before?_append (a b : List Char) : before? (a ++ b) (byteLength a) = some a := by
  induction a with
  | nil =>
    rw [List.nil_append, byteLength_nil]
    cases b <;> rfl
  | cons c a ih =>
    obtain ⟨k, hk⟩ := exists_byteLength_cons c a
    rw [List.cons_append, byteLength_cons, hk, before?, if_pos (by omega), ← hk,
      Nat.add_sub_cancel_left, ih]
    rfl

theorem exists_of_after? (h : after? text n = some r) :
    ∃ a, text = a ++ r ∧ byteLength a = n := by
  induction text generalizing n with
  | nil =>
    cases n with
    | zero => exact ⟨[], by cases h; rfl, rfl⟩
    | succ n => cases h
  | cons c text ih =>
    cases n with
    | zero => exact ⟨[], by cases h; rfl, rfl⟩
    | succ n =>
      rw [after?] at h
      split at h
      · obtain ⟨a, rfl, ha⟩ := ih h
        exact ⟨c :: a, rfl, by rw [byteLength_cons]; omega⟩
      · cases h

theorem slice?_middle (pre mid post : List Char) :
    slice? (pre ++ (mid ++ post)) (byteLength pre) (byteLength pre + byteLength mid) = some mid := by
  unfold slice?
  rw [minus?_add, after?_append]
  exact before?_append mid post

/-- No slice begins inside of a character, or ends behind the text. -/
example : slice? ['é', 'x'] 2 3 = some ['x'] ∧ slice? ['é', 'x'] 1 3 = none ∧
    slice? ['é', 'x'] 2 4 = none := by decide

theorem length_le_byteLength (text : List Char) : text.length ≤ byteLength text := by
  induction text with
  | nil => exact Nat.zero_le _
  | cons c text ih =>
    have hpos := c.utf8Size_pos
    rw [List.length_cons, byteLength_cons]
    omega

theorem byteLength_pos (h : text ≠ []) : 0 < byteLength text := by
  obtain ⟨c, r, rfl⟩ := List.exists_cons_of_ne_nil h
  rw [byteLength_cons]
  exact Nat.add_pos_left c.utf8Size_pos _

/-! ## Bytes -/

/-- The bytes of a text. -/
def bytes (text : List Char) : List UInt8 := text.flatMap String.utf8EncodeChar

/-- The byte of an ASCII character. -/
def code (c : Char) : UInt8 := UInt8.ofNat c.toNat

/-- The first byte of a character. -/
def lead (c : Char) : UInt8 := (String.utf8EncodeChar c).headD 0

theorem bytes_append (a b : List Char) : bytes (a ++ b) = bytes a ++ bytes b :=
  List.flatMap_append

theorem bytes_cons (c : Char) (r : List Char) :
    bytes (c :: r) = String.utf8EncodeChar c ++ bytes r := List.flatMap_cons

theorem length_bytes (text : List Char) : (bytes text).length = byteLength text := by
  induction text with
  | nil => rfl
  | cons c r ih =>
    rw [bytes_cons, List.length_append, String.length_utf8EncodeChar, ih, byteLength_cons]

theorem encode_ascii (hc : c.toNat < 128) : String.utf8EncodeChar c = [code c] := by
  have hle : c.toNat ≤ 127 := by omega
  simp [String.utf8EncodeChar, code, hle]

theorem utf8Size_ascii (hc : c.toNat < 128) : c.utf8Size = 1 := by
  rw [← String.length_utf8EncodeChar, encode_ascii hc]
  rfl

theorem toNat_code (hc : c.toNat < 128) : (code c).toNat = c.toNat :=
  UInt8.toNat_ofNat_of_lt' (Nat.lt_trans hc (by decide))

/-- The bytes of a character beyond ASCII are none of an ASCII character. -/
theorem high_of_mem_encode (hc : 128 ≤ c.toNat) : ∀ b ∈ String.utf8EncodeChar c, 128 ≤ b.toNat := by
  have hgt : ¬ c.toNat ≤ 127 := by omega
  unfold String.utf8EncodeChar
  simp only [Char.toNat_val, if_neg hgt]
  intro b hb
  split at hb <;> try split at hb
  all_goals
    simp only [List.mem_cons, List.not_mem_nil, or_false] at hb
    rcases hb with rfl | rfl | rfl | rfl
  all_goals
    rw [UInt8.toNat_ofNat']
    omega

theorem ne_code_of_high {b : UInt8} (hb : 128 ≤ b.toNat) (hd : d.toNat < 128) : b ≠ code d := by
  rintro rfl
  rw [toNat_code hd] at hb
  omega

theorem ne_of_high (hc : 128 ≤ c.toNat) (hd : d.toNat < 128) : c ≠ d := by
  rintro rfl
  omega

theorem code_eq_code (hc : c.toNat < 128) (hd : d.toNat < 128) : code c = code d ↔ c = d := by
  constructor
  · intro h
    have hnat := congrArg UInt8.toNat h
    rw [toNat_code hc, toNat_code hd] at hnat
    exact Char.toNat_inj.mp hnat
  · exact congrArg code

/-- A character is its first byte and perhaps further ones. -/
theorem exists_encode (c : Char) : ∃ bs, String.utf8EncodeChar c = lead c :: bs := by
  obtain ⟨b, bs, hbs⟩ := List.exists_cons_of_ne_nil (String.utf8EncodeChar_ne_nil (c := c))
  exact ⟨bs, by rw [lead, hbs]; rfl⟩

/-- A byte of ASCII begins no other character. -/
theorem lead_eq_code (hd : d.toNat < 128) : lead c = code d ↔ c = d := by
  constructor
  · intro h
    by_cases hc : c.toNat < 128
    · rw [lead, encode_ascii hc] at h
      exact (code_eq_code hc hd).mp h
    · obtain ⟨bs, hbs⟩ := exists_encode c
      have hhigh := high_of_mem_encode (Nat.not_lt.mp hc) (lead c) (hbs ▸ List.mem_cons_self)
      exact absurd h (ne_code_of_high hhigh hd)
  · rintro rfl
    rw [lead, encode_ascii hd]
    rfl

theorem getElem?_bytes_append (pre r : List Char) :
    (bytes (pre ++ r))[byteLength pre]? = r.head?.map lead := by
  rw [bytes_append, List.getElem?_append_right (Nat.le_of_eq (length_bytes pre)), length_bytes,
    Nat.sub_self]
  cases r with
  | nil => rfl
  | cons c r =>
    obtain ⟨bs, hbs⟩ := exists_encode c
    rw [bytes_cons, hbs]
    rfl

/-- At the first byte of a text there is an ASCII character if the text begins with it. -/
theorem getElem?_bytes_eq_code (hd : d.toNat < 128) :
    (bytes (pre ++ r))[byteLength pre]? = some (code d) ↔ r.head? = some d := by
  rw [getElem?_bytes_append, Option.map_eq_some_iff]
  constructor
  · rintro ⟨c, hc, hlead⟩
    rw [hc, (lead_eq_code hd).mp hlead]
  · intro h
    exact ⟨d, h, (lead_eq_code hd).mpr rfl⟩

/-- So it is behind an ASCII character. -/
theorem getElem?_bytes_next (hc : c.toNat < 128) (hd : d.toNat < 128) (pre r : List Char) :
    (bytes (pre ++ c :: r))[byteLength pre + 1]? = some (code d) ↔ r.head? = some d := by
  have hsplit : pre ++ c :: r = (pre ++ [c]) ++ r := by rw [List.append_assoc]; rfl
  have hlength : byteLength (pre ++ [c]) = byteLength pre + 1 := by
    rw [byteLength_append, byteLength_cons, byteLength_nil, utf8Size_ascii hc]
  rw [hsplit, ← hlength]
  exact getElem?_bytes_eq_code hd

/-- Each byte of a character beyond ASCII is found, and is none of an ASCII character. -/
theorem high_getElem?_bytes (pre r : List Char) (hc : 128 ≤ c.toNat) (hj : j < c.utf8Size) :
    ∃ b, (bytes (pre ++ c :: r))[byteLength pre + j]? = some b ∧ 128 ≤ b.toNat := by
  have hlt : j < (String.utf8EncodeChar c).length := by rwa [String.length_utf8EncodeChar]
  refine ⟨(String.utf8EncodeChar c)[j], ?_, high_of_mem_encode hc _ (List.getElem_mem _)⟩
  rw [bytes_append, List.getElem?_append_right (by rw [length_bytes]; omega), length_bytes,
    Nat.add_sub_cancel_left, bytes_cons, List.getElem?_append_left hlt, List.getElem?_eq_getElem hlt]

end PythonSyntax.Indexed
