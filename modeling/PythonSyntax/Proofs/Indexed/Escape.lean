import PythonSyntax.Proofs.Indexed.Slice
import PythonSyntax.Proofs.Literal.Bytes
import PythonSyntax.Proofs.Literal.Shape

/-
The values of literals, over 32 bits and byte offsets.

The number of an escape is built up digit by digit in 32 bits.  At most eight digits are read, and
those of eight hexadecimal ones are just enough; three octal digits are far below.  The parts of a
literal are slices of its text, in which every quote takes one byte.
-/

namespace PythonSyntax.Indexed

open Escape

variable {count limit value k base d n : Nat} {fault : StringFault} {isBytes : Bool} {c : Char}
  {r : List Char}

/-! ## Numbers of escapes -/

/-- The number of the digits of `value` and of one more, in 32 bits. -/
def pushDigit? (base value d : Nat) : Option Nat := do
  let shifted ← word? (value * base)
  word? (shifted + d)

/-- The number of exactly `count` more hexadecimal digits after those of `value`. -/
def hexNumber? (fault : StringFault) : Nat → Nat → List Char → Option (Except StringFault Nat)
  | 0, value, _ => some (.ok value)
  | _ + 1, _, [] => some (.error fault)
  | count + 1, value, c :: r =>
    match digitValue? 16 c with
    | some d => do
      let value ← pushDigit? 16 value d
      hexNumber? fault count value r
    | none => some (.error fault)

/-- The code point of exactly `count` hexadecimal digits. -/
def hex? (count : Nat) (fault : StringFault) (r : List Char) : Option (Except StringFault CodePoint) :=
  (hexNumber? fault count 0 r).map fun number => number >>= codePoint

/-- The number of at most `limit` more octal digits after those of `value`, and their count. -/
def octal? (value : Nat) : Nat → List Char → Option (Nat × Nat)
  | 0, _ => some (value, 0)
  | _ + 1, [] => some (value, 0)
  | limit + 1, c :: r =>
    match digitValue? 8 c with
    | some d => do
      let value ← pushDigit? 8 value d
      let (value, n) ← octal? value limit r
      return (value, n + 1)
    | none => some (value, 0)

/-- One more digit fits as long as the number of all digits does. -/
theorem pushDigit?_eq (hvalue : value < base ^ k) (hd : d < base) (hk : base ^ (k + 1) ≤ 0x100000000) :
    pushDigit? base value d = some (value * base + d) ∧ value * base + d < base ^ (k + 1) := by
  have hlt : value * base + d < base ^ (k + 1) := by
    have hle : (value + 1) * base ≤ base ^ k * base := Nat.mul_le_mul_right base hvalue
    rw [Nat.succ_mul] at hle
    rw [Nat.pow_succ]
    omega
  refine ⟨?_, hlt⟩
  rw [pushDigit?, word?_eq (by omega), Option.bind_eq_bind, Option.bind_some, word?_eq (by omega)]

theorem hexNumber?_eq (hvalue : value < 16 ^ k) (hk : k + count ≤ 8) (r : List Char) :
    hexNumber? fault count value r =
      some (match (r.take count).foldlM (fun n c => (digitValue? 16 c).map (n * 16 + ·)) value with
        | some n => if (r.take count).length < count then .error fault else .ok n
        | none => .error fault) := by
  induction count generalizing value k r with
  | zero => rfl
  | succ count ih =>
    cases r with
    | nil => rfl
    | cons c r =>
      rw [hexNumber?, List.take_succ_cons, List.foldlM_cons]
      cases hc : digitValue? 16 c with
      | none => rfl
      | some d =>
        have hpow : 16 ^ (k + 1) ≤ 0x100000000 :=
          Nat.le_trans (Nat.pow_le_pow_right (by decide) (show k + 1 ≤ 8 by omega)) (by decide)
        obtain ⟨hpush, hlt⟩ := pushDigit?_eq hvalue (digitValue_lt hc) hpow
        dsimp only
        rw [hpush, Option.bind_eq_bind, Option.bind_some, ih hlt (by omega) r]
        simp

/-- The digits of an escape never outgrow 32 bits. -/
theorem hex?_eq (hcount : 0 < count) (hle : count ≤ 8) (fault : StringFault) (r : List Char) :
    hex? count fault r = some (hex count fault r) := by
  obtain ⟨n, rfl⟩ : ∃ n, count = n + 1 := ⟨_, (Nat.succ_pred (by omega)).symm⟩
  rw [hex?, hexNumber?_eq (k := 0) (by decide) (by omega), hex, natOfDigits?]
  cases r with
  | nil => rfl
  | cons c r =>
    rw [List.take_succ_cons, List.isEmpty_cons, if_neg Bool.false_ne_true, Option.map_some]
    cases (c :: r.take n).foldlM (fun n c => (digitValue? 16 c).map (n * 16 + ·)) 0 with
    | none => rfl
    | some number =>
      dsimp only
      split <;> rfl

/-- The octal digits of an escape never outgrow 32 bits. -/
theorem octal?_eq (hvalue : value < 8 ^ k) (hk : k + limit ≤ 8) (r : List Char) :
    octal? value limit r = some (octal value limit r) := by
  induction limit generalizing value k r with
  | zero => cases r <;> rfl
  | succ limit ih =>
    cases r with
    | nil => rfl
    | cons c r =>
      rw [octal?, octal]
      cases hc : digitValue? 8 c with
      | none => rfl
      | some d =>
        have hpow : 8 ^ (k + 1) ≤ 0x100000000 :=
          Nat.le_trans (Nat.pow_le_pow_right (by decide) (show k + 1 ≤ 8 by omega)) (by decide)
        obtain ⟨hpush, hlt⟩ := pushDigit?_eq hvalue (digitValue_lt hc) hpow
        dsimp only
        rw [hpush, Option.bind_eq_bind, Option.bind_some, ih hlt (by omega) r]
        rfl

/-! ## Bodies -/

/-- The escape that begins with `c` after a backslash, its number taken in 32 bits. -/
def escape? (isBytes : Bool) (c : Char) (r : List Char) : Option (Except StringFault (Text × Nat)) :=
  match digitValue? 8 c with
  | some d => do
    let (value, n) ← octal? d 2 r
    return (codePoint (if isBytes then value % 256 else value)).map fun p => ([p], n)
  | none =>
    if c = 'x' then (hex? 2 .truncatedByte r).map (·.map fun p => ([p], 2))
    else if c = 'u' ∧ isBytes = false then (hex? 4 .truncatedShort r).map (·.map fun p => ([p], 4))
    else if c = 'U' ∧ isBytes = false then (hex? 8 .truncatedLong r).map (·.map fun p => ([p], 8))
    else some (escape isBytes c r)

theorem simple?_of_digit (hc : digitValue? 8 c = some d) : simple? c = none ∧ c ≠ '\n' ∧ c ≠ '\r' := by
  refine ⟨?_, ?_, ?_⟩
  · unfold simple?
    split <;> first | rfl | cases hc
  · rintro rfl
    cases hc
  · rintro rfl
    cases hc

theorem escape?_eq (isBytes : Bool) (c : Char) (r : List Char) :
    escape? isBytes c r = some (escape isBytes c r) := by
  unfold escape?
  split
  · next d hd =>
    obtain ⟨hsimple, hn, hr⟩ := simple?_of_digit hd
    rw [octal?_eq (k := 1) (digitValue_lt hd) (by decide), escape, hsimple]
    simp only [if_neg hn, if_neg hr, hd]
    rfl
  · next hd =>
    by_cases hx : c = 'x'
    · subst hx
      rw [if_pos rfl, hex?_eq (by decide) (by decide)]
      rfl
    rw [if_neg hx]
    by_cases hu : c = 'u' ∧ isBytes = false
    · obtain ⟨rfl, rfl⟩ := hu
      rw [if_pos ⟨rfl, rfl⟩, hex?_eq (by decide) (by decide)]
      rfl
    rw [if_neg hu]
    by_cases hU : c = 'U' ∧ isBytes = false
    · obtain ⟨rfl, rfl⟩ := hU
      rw [if_pos ⟨rfl, rfl⟩, hex?_eq (by decide) (by decide)]
      rfl
    rw [if_neg hU]

/-- The value of a body, at most `fuel` characters of it, its numbers taken in 32 bits. -/
def decodeUpTo? (isBytes : Bool) : Nat → List Char → Option (Except StringFault Text)
  | 0, _ => some (.ok [])
  | _ + 1, [] => some (.ok [])
  | fuel + 1, c :: r =>
    if c = '\\' then
      match r with
      | [] => some (.ok [.scalar '\\'])
      | d :: r => do
        match ← escape? isBytes d r with
        | .error fault => return .error fault
        | .ok (text, n) => (decodeUpTo? isBytes fuel (r.drop n)).map (·.map (text ++ ·))
    else if isBytes && 0x80 ≤ c.toNat then some (.error .nonAsciiBytes)
    else if c = '\r' then
      let r := match r with
        | '\n' :: r => r
        | r => r
      (decodeUpTo? isBytes fuel r).map (·.map (.scalar '\n' :: ·))
    else (decodeUpTo? isBytes fuel r).map (·.map (.scalar c :: ·))

theorem decodeUpTo?_eq (isBytes : Bool) (fuel : Nat) (r : List Char) :
    decodeUpTo? isBytes fuel r = some (decodeUpTo isBytes fuel r) := by
  induction fuel generalizing r with
  | zero => rw [decodeUpTo?, decodeUpTo]
  | succ fuel ih =>
    cases r with
    | nil => rw [decodeUpTo?, decodeUpTo]
    | cons c r =>
      rw [decodeUpTo?.eq_def, decodeUpTo.eq_def]
      dsimp only
      split
      · cases r with
        | nil => rfl
        | cons d r =>
          dsimp only
          rw [escape?_eq, Option.bind_eq_bind, Option.bind_some]
          cases escape isBytes d r with
          | error fault => rfl
          | ok cut =>
            obtain ⟨text, n⟩ := cut
            dsimp only
            rw [ih]
            show some _ = some (decodeUpTo isBytes fuel (r.drop n) >>= fun rest => .ok (text ++ rest))
            cases decodeUpTo isBytes fuel (r.drop n) <;> rfl
      · split
        · rfl
        · split
          · rw [ih]
            rfl
          · rw [ih]
            rfl

/-! ## Literals -/

/-- The parts of a literal, cut at byte offsets. -/
def split? (text : List Char) : Option Quoted := do
  let quoteAt := if text.any Quoted.isQuote then byteLength (text.takeWhile fun c => !Quoted.isQuote c)
    else 0
  let marks ← before? text quoteAt
  let rest ← after? text quoteAt
  let count := Quoted.quoteCount rest
  let body ← slice? rest count (max (byteLength rest - count) count)
  let letters := marks.map Char.toLower
  return {
    isRaw := letters.contains 'r'
    isBytes := letters.contains 'b'
    isFormatted := letters.contains 'f'
    body := body
    bodyStart := quoteAt + count }

/-- The slices of a literal exist, and are its parts. -/
theorem split?_eq {text marks body : List Char} {q : Char} {triple : Bool}
    (h : IsLiteral text marks q triple body) : split? text = some (Quoted.split text) := by
  have hany : text.any Quoted.isQuote = true := by
    rw [h.eq]
    cases triple <;> simp [quotes, h.quote]
  have hcount := byteLength_quotes h.quote triple
  have hstop : max (byteLength (quotes q triple ++ (body ++ quotes q triple)) -
      (quotes q triple).length) (quotes q triple).length = (quotes q triple).length + byteLength body := by
    rw [byteLength_append, byteLength_append, hcount]
    omega
  have hbody := slice?_middle (quotes q triple) body (quotes q triple)
  rw [h.split_eq, split?, if_pos hany, h.takeWhile_eq, h.eq, before?_append, after?_append]
  simp only [Option.bind_eq_bind, Option.bind_some]
  rw [h.count, hstop, ← hcount, hbody]
  rfl

/-- The value of the body of a literal that is not formatted. -/
def decode? (q : Quoted) : Option (Except StringFault Text) :=
  if q.isRaw then some (q.decode) else decodeUpTo? q.isBytes q.body.length q.body

theorem decode?_eq (q : Quoted) : decode? q = some q.decode := by
  unfold decode?
  split
  · rfl
  · next hraw => rw [decodeUpTo?_eq, Quoted.decode, if_neg hraw, decode]

end PythonSyntax.Indexed
