import PythonSyntax.Proofs.Indexed.Slice
import PythonSyntax.Proofs.LineEnding.Field

/-
The scanners of fields, over bytes.

Two scanners look for the end of a field's expression and of its format spec byte by byte, and
leave offsets at which the text is cut.  They find the ends that `splitField` and `splitSpec` find
character by character: the bytes that they look for are those of ASCII characters, and a character
beyond has no such byte.  So their offsets are ones at which a slice exists.
-/

namespace PythonSyntax.Indexed

open PythonSyntax.Parser

variable {text pre r : List Char} {c q : Char} {top start base fuel n : Nat}

/-! ## The end of an expression -/

/-- The number of bytes of a kind in a row from an index on, at most three. -/
def quoteRun? (bs : List UInt8) (index : Nat) (q : UInt8) : Option Nat :=
  if index ≤ bs.length then some (((bs.drop index).take 3).takeWhile (· == q)).length else none

/-- Where the search for the end of an expression stands: the index of the next byte, the open
brackets, and the open quote and how many of it opened the string. -/
structure Scan where
  index : Nat
  depth : Nat
  quote : Option (UInt8 × Nat)

namespace Scan

/-- The state behind the next `n` bytes. -/
def skip (s : Scan) (n : Nat) : Scan := { s with index := s.index + n }

/-- The state after a byte inside of a string that `n` quotes opened. -/
def inside? (bs : List UInt8) (s : Scan) (b q : UInt8) (n : Nat) : Option Scan := do
  let closes ← if b = q then (quoteRun? bs s.index q).map fun run => decide (n ≤ run) else some false
  return if closes then { s.skip n with quote := none } else s.skip 1

/-- The state after a byte outside of strings, unless the expression ends there. -/
def outside? (bs : List UInt8) (s : Scan) (b : UInt8) : Option (Except Cause (Option Scan)) :=
  if b = code '\'' ∨ b = code '"' then do
    let run ← quoteRun? bs s.index b
    let n := if 3 ≤ run then 3 else 1
    return .ok (some { s.skip n with quote := some (b, n) })
  else if b = code '#' then some (.error .fieldComment)
  else if b = code '(' ∨ b = code '[' ∨ b = code '{' then
    some (.ok (some { s.skip 1 with depth := s.depth + 1 }))
  else if b = code ')' ∨ b = code ']' then
    some (.ok (some { s.skip 1 with depth := s.depth - 1 }))
  else if b = code '}' ∧ 0 < s.depth then do
    let depth ← minus? s.depth 1
    return .ok (some { s.skip 1 with depth := depth })
  else if (b = code '=' ∨ b = code '!' ∨ b = code '<' ∨ b = code '>') ∧
      bs[s.index + 1]? = some (code '=') then
    some (.ok (some (s.skip 2)))
  else if (b = code '}' ∨ b = code '!' ∨ b = code ':' ∨ b = code '=') ∧ s.depth = 0 then
    some (.ok none)
  else some (.ok (some (s.skip 1)))

/-- The state after the next byte, unless the expression ends there. -/
def step? (bs : List UInt8) (s : Scan) : Option (Except Cause (Option Scan)) := do
  let b ← bs[s.index]?
  if b = code '\\' then return .error .fieldBackslash
  else match s.quote with
    | some (q, n) => return .ok (some (← s.inside? bs b q n))
    | none => s.outside? bs b

/-- A state of which the numbers fit, and the offsets on both sides of its byte. -/
def inWord? (top base : Nat) (s : Scan) : Option Scan := do
  let _ ← fits? top (base + s.index + 1)
  let _ ← fits? top s.depth
  return s

/-- Where the expression ends that begins at `start`, in at most `fuel` steps. -/
def stop? (top : Nat) (bs : List UInt8) (base start : Nat) :
    Nat → Scan → Option (Except SyntaxError Nat)
  | 0, _ => none
  | fuel + 1, s => do
    let s ← s.inWord? top base
    if s.index < bs.length then
      match ← s.step? bs with
      | .error cause => return .error (errorAt (base + s.index) cause)
      | .ok none => return .ok s.index
      | .ok (some s) => stop? top bs base start fuel s
    else if s.quote.isSome then return .error (errorAt (base + start) .fieldOpenString)
    else return .error (errorAt (base + bs.length) .fieldUnclosed)

theorem inWord?_eq {s : Scan} (hindex : base + s.index + 1 ≤ top) (hdepth : s.depth ≤ top) :
    s.inWord? top base = some s := by
  rw [inWord?, fits?_eq hindex, fits?_eq hdepth]
  rfl

/-- The state of the search by characters, where its next character stands at an offset. -/
def ofField (f : FieldScan) (offset : Nat) : Scan :=
  ⟨offset + f.skip, f.depth, f.quote.map fun (q, n) => (code q, n)⟩

end Scan

/-- What a search knows: at least one quote opened a string, and what is passed over unseen is
there. -/
structure Steady (f : FieldScan) (text : List Char) : Prop extends f.Sound text where
  opened : ∀ q n, f.quote = some (q, n) → 0 < n
  skip_le : f.skip ≤ text.length

theorem quoteRun_le (q : Char) (text : List Char) : quoteRun q text ≤ text.length :=
  ((List.takeWhile_prefix _).trans (List.take_prefix 3 text)).length_le

/-- A character opens one bracket at most. -/
theorem depth_of_pass {f f' : FieldScan} (h : f.pass c r = .ok (some f')) :
    f'.depth ≤ f.depth + 1 := by
  have hpasses := f.passes_pass c r
  rw [h] at hpasses
  cases hpasses <;> try dsimp only
  all_goals omega

/-- A step keeps what is known. -/
theorem Steady.pass {f f' : FieldScan} (hf : Steady f (c :: r)) (h : f.pass c r = .ok (some f')) :
    Steady f' r := by
  have hrun : ∀ q, quoteRun q (c :: r) ≤ r.length + 1 := fun q => quoteRun_le q (c :: r)
  have hskip := hf.skip_le
  rw [List.length_cons] at hskip
  have hsound := (hf.toSound.pass_some h).1
  have hpasses := f.passes_pass c r
  rw [h] at hpasses
  cases hpasses with
  | seen hseen => exact ⟨hsound, hf.opened, by dsimp only; omega⟩
  | @closeString q =>
    have := hrun q
    exact ⟨hsound, nofun, by dsimp only; omega⟩
  | openString _ _ _ _ hone =>
    have := hrun c
    refine ⟨hsound, ?_, by dsimp only; omega⟩
    rintro q n ⟨⟩
    omega
  | openBracket hzero => exact ⟨hsound, hf.opened, by dsimp only; omega⟩
  | closeBracket hzero => exact ⟨hsound, hf.opened, by dsimp only; omega⟩
  | operator _ _ _ hhead =>
    refine ⟨hsound, hf.opened, ?_⟩
    cases r with
    | nil => cases hhead
    | cons a r => exact Nat.succ_le_succ (Nat.zero_le _)
  | plain hzero => exact ⟨hsound, hf.opened, by omega⟩

theorem ascii_of_isQuote (hq : Quoted.isQuote q = true) : q.toNat < 128 := by
  rcases isQuote_cases hq with rfl | rfl <;> decide

theorem quoteRun?_eq (hq : q.toNat < 128) (pre r : List Char) :
    quoteRun? (bytes (pre ++ r)) (byteLength pre) (code q) = some (quoteRun q r) := by
  have hrun : ∀ (k : Nat) (r : List Char), (((bytes r).take k).takeWhile (· == code q)).length =
      ((r.take k).takeWhile (· == q)).length := by
    intro k r
    induction k generalizing r with
    | zero => rw [List.take_zero, List.take_zero]; rfl
    | succ k ih =>
      cases r with
      | nil => rfl
      | cons c r =>
        by_cases hc : c = q
        · rw [hc, bytes_cons, encode_ascii hq]
          simp [ih]
        · have hlead : lead c ≠ code q := fun h => hc ((lead_eq_code hq).mp h)
          obtain ⟨bs, hbs⟩ := exists_encode c
          rw [bytes_cons, hbs]
          simp [hc, hlead]
  rw [quoteRun?, if_pos (by rw [length_bytes, byteLength_append]; omega), bytes_append,
    ← length_bytes pre, List.drop_left, hrun]
  rfl

/-- A byte that is none of ASCII is passed over. -/
theorem Scan.step?_high {bs : List UInt8} {s : Scan} {b : UInt8} (hb : bs[s.index]? = some b)
    (hhigh : 128 ≤ b.toNat) (hq : ∀ q n, s.quote = some (q, n) → q.toNat < 128) :
    s.step? bs = some (.ok (some (s.skip 1))) := by
  have hcode : ∀ d : Char, d.toNat < 128 → b ≠ code d := fun d => ne_code_of_high hhigh
  unfold Scan.step?
  rw [hb]
  simp only [Option.bind_eq_bind, Option.bind_some, if_neg (hcode '\\' (by decide))]
  split
  · next q n hquote =>
    have hbq : b ≠ q := by
      rintro rfl
      exact absurd (hq b n hquote) (by omega)
    rw [Scan.inside?, if_neg hbq]
    rfl
  · rw [Scan.outside?]
    simp (disch := decide) only [hcode, or_false, false_and, if_false]

/-- Inside of a string, the two searches do the same at an ASCII character. -/
theorem Scan.inside?_eq {q : Char} {n : Nat} (hq : Quoted.isQuote q = true) (hn : 0 < n)
    (hc : c.toNat < 128) (depth : Nat) (pre r : List Char) :
    (ofField ⟨depth, some (q, n), 0⟩ (byteLength pre)).inside? (bytes (pre ++ c :: r)) (code c)
        (code q) n =
      some (ofField (if c = q ∧ n ≤ quoteRun q (c :: r) then ⟨depth, none, n - 1⟩
        else ⟨depth, some (q, n), 0⟩) (byteLength pre + 1)) := by
  have hascii := ascii_of_isQuote hq
  have hcode := code_eq_code hc hascii
  have hindex : byteLength pre + 0 + n = byteLength pre + 1 + (n - 1) := by omega
  unfold Scan.inside?
  by_cases hcq : c = q
  · rw [if_pos (hcode.mpr hcq)]
    subst hcq
    show ((quoteRun? (bytes (pre ++ c :: r)) (byteLength pre) (code c)).map _).bind _ = _
    rw [quoteRun?_eq hascii]
    by_cases hrun : n ≤ quoteRun c (c :: r)
    · simp only [hrun, ofField, skip, hindex, and_self, if_true, Option.map_some, Option.bind_some,
        decide_true, Option.map_none]
      rfl
    · simp [hrun, ofField, skip]
  · rw [if_neg (fun h => hcq (hcode.mp h))]
    simp [hcq, ofField, skip]

/-- Outside of strings, the two searches do the same at an ASCII character. -/
theorem Scan.outside?_eq (hc : c.toNat < 128) (hslash : c ≠ '\\') (depth : Nat) (pre r : List Char) :
    (ofField ⟨depth, none, 0⟩ (byteLength pre)).outside? (bytes (pre ++ c :: r)) (code c) =
      some ((FieldScan.pass ⟨depth, none, 0⟩ c r).map fun f? =>
        f?.map fun f => ofField f (byteLength pre + 1)) := by
  have hcode : ∀ d : Char, d.toNat < 128 → (code c = code d ↔ c = d) := fun d => code_eq_code hc
  have hnext : (bytes (pre ++ c :: r))[byteLength pre + 1]? = some (code '=') ↔ r.head? = some '=' :=
    getElem?_bytes_next hc (by decide) pre r
  unfold Scan.outside? FieldScan.pass
  simp (disch := decide) only [ofField, Nat.add_zero, hcode, hnext, if_neg hslash, Quoted.isQuote,
    Bool.or_eq_true, beq_iff_eq]
  by_cases hquote : c = '\'' ∨ c = '"'
  · rw [if_pos hquote, if_pos hquote, quoteRun?_eq hc]
    by_cases hrun : 3 ≤ quoteRun c (c :: r)
    · simp [hrun, skip, Except.map]
    · simp [hrun, skip, Except.map]
  rw [if_neg hquote, if_neg hquote]
  by_cases hcomment : c = '#'
  · rw [if_pos hcomment, if_pos hcomment]
    rfl
  rw [if_neg hcomment, if_neg hcomment]
  by_cases hopen : c = '(' ∨ c = '[' ∨ c = '{'
  · rw [if_pos hopen, if_pos hopen]
    rfl
  rw [if_neg hopen, if_neg hopen]
  by_cases hclose : c = ')' ∨ c = ']'
  · rw [if_pos hclose, if_pos (or_assoc.mp (.inl hclose))]
    rfl
  rw [if_neg hclose]
  by_cases hbrace : c = '}' ∧ 0 < depth
  · rw [if_pos hbrace, if_pos (.inr (.inr hbrace)), minus?, if_pos (show 1 ≤ depth from hbrace.2)]
    rfl
  rw [if_neg hbrace, if_neg fun h => (or_assoc.mpr h).elim hclose hbrace]
  split
  · rfl
  · split <;> rfl

/-- The two searches do the same at an ASCII character. -/
theorem Scan.step?_ascii {f : FieldScan} (hf : Steady f (c :: r)) (hskip : f.skip = 0)
    (hc : c.toNat < 128) (pre : List Char) :
    (ofField f (byteLength pre)).step? (bytes (pre ++ c :: r)) =
      some ((f.pass c r).map fun f? => f?.map fun f => ofField f (byteLength pre + 1)) := by
  obtain ⟨depth, quote, skip⟩ := f
  dsimp only at hskip
  subst hskip
  have hb : (bytes (pre ++ c :: r))[(ofField ⟨depth, quote, 0⟩ (byteLength pre)).index]? =
      some (code c) := (getElem?_bytes_eq_code hc).mpr rfl
  have hslash : code c = code '\\' ↔ c = '\\' := code_eq_code hc (by decide)
  unfold Scan.step?
  rw [hb, Option.bind_eq_bind, Option.bind_some]
  by_cases hcs : c = '\\'
  · rw [if_pos (hslash.mpr hcs), FieldScan.pass, if_pos hcs]
    rfl
  rw [if_neg fun h => hcs (hslash.mp h)]
  cases quote with
  | none => exact outside?_eq hc hcs depth pre r
  | some quote =>
    obtain ⟨q, n⟩ := quote
    have hq := hf.quote q n rfl
    have hn := hf.opened q n rfl
    show ((ofField ⟨depth, some (q, n), 0⟩ (byteLength pre)).inside? _ (code c) (code q) n).bind _ = _
    rw [inside?_eq hq hn hc, FieldScan.pass, if_neg hcs]
    dsimp only
    split <;> rfl

/-- The search by characters passes over a character beyond ASCII. -/
theorem pass_high {f : FieldScan} (hf : f.Sound (c :: r)) (hskip : f.skip = 0) (hc : 128 ≤ c.toNat) :
    f.pass c r = .ok (some f) := by
  have hne : ∀ d : Char, d.toNat < 128 → c ≠ d := fun d => ne_of_high hc
  have hquote : Quoted.isQuote c = false :=
    Bool.eq_false_iff.mpr fun h => absurd (ascii_of_isQuote h) (by omega)
  unfold FieldScan.pass
  rw [hskip]
  dsimp only
  rw [if_neg (hne '\\' (by decide))]
  split
  · next q n hq => rw [if_neg fun h => hne q (ascii_of_isQuote (hf.quote q n hq)) h.1]
  · simp (disch := decide) only [hne, hquote, or_false, false_and, if_false, Bool.false_eq_true]

/-! ## Runs of the two searches -/

theorem length_bytes_append (pre r : List Char) :
    (bytes (pre ++ r)).length = byteLength pre + byteLength r := by
  rw [length_bytes, byteLength_append]

theorem ascii_quote {f : FieldScan} (hf : Steady f r) :
    ∀ q n, (f.quote.map fun (q, n) => (code q, n)) = some (q, n) → q.toNat < 128 := by
  intro q n hq
  obtain ⟨⟨q', n'⟩, hquote, heq⟩ := Option.map_eq_some_iff.mp hq
  have hascii := ascii_of_isQuote (hf.quote q' n' hquote)
  cases heq
  rwa [toNat_code hascii]

/-- The bytes of a character beyond ASCII are passed over one by one. -/
theorem Scan.stop?_high {s : Scan} (hc : 128 ≤ c.toNat)
    (hq : ∀ q n, s.quote = some (q, n) → q.toNat < 128) {j k : Nat} (hk : j + k ≤ c.utf8Size)
    (hs : s.index = byteLength pre + j) (htop : base + byteLength (pre ++ c :: r) + 1 ≤ top)
    (hdepth : s.depth ≤ top) :
    stop? top (bytes (pre ++ c :: r)) base start (fuel + k) s =
      stop? top (bytes (pre ++ c :: r)) base start fuel (s.skip k) := by
  induction k generalizing j s with
  | zero => rfl
  | succ k ih =>
    have hindex : base + s.index + 1 ≤ top := by
      rw [byteLength_append, byteLength_cons] at htop
      omega
    obtain ⟨b, hb, hhigh⟩ := high_getElem?_bytes pre r hc (show j < c.utf8Size by omega)
    rw [← hs] at hb
    have hlt : s.index < (bytes (pre ++ c :: r)).length := (List.getElem?_eq_some_iff.mp hb).1
    rw [← Nat.add_assoc, stop?, inWord?_eq hindex hdepth, Option.bind_eq_bind, Option.bind_some,
      if_pos hlt, step?_high hb hhigh hq, Option.bind_eq_bind, Option.bind_some]
    dsimp only
    have hnext : (s.skip 1).index = byteLength pre + (j + 1) := by rw [← Nat.add_assoc, ← hs]; rfl
    have hboth : (s.skip 1).skip k = s.skip (k + 1) := by
      rw [Nat.add_comm k]
      simp only [skip, Nat.add_assoc]
    rw [ih (s := s.skip 1) hq (by omega) hnext hdepth, hboth]

/-- The search by bytes in a state `s` ends where the search by characters does that goes on with `r`
in a state `f`. -/
def SameEnd (top base start fuel : Nat) (s : Scan) (f : FieldScan) (pre r : List Char) : Prop :=
  s.stop? top (bytes (pre ++ r)) base start fuel =
    some ((splitField (base + start) f (base + byteLength pre) r).map fun cut =>
      byteLength pre + byteLength cut.1)

/-- Behind a character that the search by characters passes over, both have it in front of them. -/
theorem SameEnd.behind {f f' : FieldScan} (hpass : f.pass c r = .ok (some f'))
    (h : SameEnd top base start fuel (Scan.ofField f' (byteLength (pre ++ [c]))) f' (pre ++ [c]) r) :
    SameEnd top base start fuel (Scan.ofField f' (byteLength pre + c.utf8Size)) f pre (c :: r) := by
  have hlength : byteLength (pre ++ [c]) = byteLength pre + c.utf8Size := by
    rw [byteLength_append, byteLength_cons, byteLength_nil, Nat.add_zero]
  unfold SameEnd at h ⊢
  rw [hlength, List.append_assoc, List.singleton_append, ← Nat.add_assoc] at h
  rw [h, splitField, hpass]
  dsimp only
  cases splitField (base + start) f' (base + byteLength pre + c.utf8Size) r with
  | error e => rfl
  | ok cut =>
    simp only [Except.map, byteLength_cons]
    rw [Nat.add_assoc]

/-- The state of the search by characters fits if the whole text does, and no more brackets are open
than there are bytes before. -/
theorem inWord?_ofField {f : FieldScan} (hskip : f.skip = 0)
    (htop : base + byteLength (pre ++ r) + 1 ≤ top) (hdepth : f.depth ≤ byteLength pre) :
    (Scan.ofField f (byteLength pre)).inWord? top base = some (Scan.ofField f (byteLength pre)) := by
  rw [byteLength_append] at htop
  refine Scan.inWord?_eq ?_ ?_
  · show base + (byteLength pre + f.skip) + 1 ≤ top
    omega
  · show f.depth ≤ top
    omega

theorem sameEnd_nil {f : FieldScan} (hf : Steady f []) (htop : base + byteLength (pre ++ []) + 1 ≤ top)
    (hdepth : f.depth ≤ byteLength pre) :
    SameEnd top base start (fuel + 1) (Scan.ofField f (byteLength pre)) f pre [] := by
  have hskip : f.skip = 0 := Nat.le_zero.mp hf.skip_le
  have hlength : (bytes (pre ++ [])).length = byteLength pre := by
    rw [length_bytes_append, byteLength_nil, Nat.add_zero]
  have hindex : (Scan.ofField f (byteLength pre)).index = byteLength pre := by
    rw [Scan.ofField, hskip, Nat.add_zero]
  unfold SameEnd
  rw [Scan.stop?, inWord?_ofField hskip htop hdepth, Option.bind_eq_bind, Option.bind_some,
    if_neg (by omega), splitField, hlength, Scan.ofField, Option.isSome_map]
  split <;> rfl

/-- An ASCII character takes both searches one step. -/
theorem sameEnd_ascii {f : FieldScan} (hf : Steady f (c :: r)) (hskip : f.skip = 0) (hc : c.toNat < 128)
    (htop : base + byteLength (pre ++ c :: r) + 1 ≤ top) (hdepth : f.depth ≤ byteLength pre)
    (hbehind : ∀ f', f.pass c r = .ok (some f') →
      SameEnd top base start fuel (Scan.ofField f' (byteLength pre + c.utf8Size)) f pre (c :: r)) :
    SameEnd top base start (fuel + 1) (Scan.ofField f (byteLength pre)) f pre (c :: r) := by
  have hindex : (Scan.ofField f (byteLength pre)).index = byteLength pre := by
    rw [Scan.ofField, hskip, Nat.add_zero]
  have hlt : (Scan.ofField f (byteLength pre)).index < (bytes (pre ++ c :: r)).length := by
    rw [hindex, length_bytes_append, byteLength_cons, utf8Size_ascii hc]
    omega
  unfold SameEnd at hbehind ⊢
  rw [Scan.stop?, inWord?_ofField hskip htop hdepth, Option.bind_eq_bind, Option.bind_some,
    if_pos hlt, Scan.step?_ascii hf hskip hc, Option.bind_eq_bind, Option.bind_some]
  cases hpass : f.pass c r with
  | error cause =>
    rw [splitField, hpass, hindex]
    rfl
  | ok f? =>
    cases f? with
    | none =>
      rw [splitField, hpass]
      show some (Except.ok (byteLength pre + f.skip)) = _
      rw [hskip]
      rfl
    | some f' =>
      rw [← hbehind f' hpass, utf8Size_ascii hc]
      rfl

/-- A character beyond ASCII takes the search by bytes a step for each of its bytes. -/
theorem sameEnd_high {f : FieldScan} (hf : Steady f (c :: r)) (hskip : f.skip = 0) (hc : 128 ≤ c.toNat)
    (htop : base + byteLength (pre ++ c :: r) + 1 ≤ top) (hdepth : f.depth ≤ byteLength pre)
    (hbehind : SameEnd top base start fuel (Scan.ofField f (byteLength pre + c.utf8Size)) f pre (c :: r)) :
    SameEnd top base start (fuel + c.utf8Size) (Scan.ofField f (byteLength pre)) f pre (c :: r) := by
  have hindex : (Scan.ofField f (byteLength pre)).index = byteLength pre + 0 := by
    rw [Scan.ofField, hskip]
  unfold SameEnd at hbehind ⊢
  have hfits : (Scan.ofField f (byteLength pre)).depth ≤ top := by
    rw [byteLength_append] at htop
    show f.depth ≤ top
    omega
  rw [Scan.stop?_high hc (ascii_quote hf) (by omega) hindex htop hfits, ← hbehind]
  simp only [Scan.ofField, Scan.skip, hskip, Nat.add_zero]

/-- A character that has been seen before moves the search by characters only. -/
theorem sameEnd_skipped {f : FieldScan} {n : Nat} (hf : Steady f (c :: r)) (hn : f.skip = n + 1)
    (hbehind : ∀ f', f.pass c r = .ok (some f') →
      SameEnd top base start fuel (Scan.ofField f' (byteLength pre + c.utf8Size)) f pre (c :: r)) :
    SameEnd top base start fuel (Scan.ofField f (byteLength pre)) f pre (c :: r) := by
  have hpass : f.pass c r = .ok (some { f with skip := n }) := by
    rw [FieldScan.pass, hn]
  have hc : c.toNat < 128 := by
    rcases hf.skipped c (by rw [hn]; exact List.mem_cons_self) with hc | rfl
    · exact ascii_of_isQuote hc
    · decide
  have hstate : Scan.ofField { f with skip := n } (byteLength pre + c.utf8Size) =
      Scan.ofField f (byteLength pre) := by
    rw [utf8Size_ascii hc]
    simp only [Scan.ofField, hn, Nat.add_assoc, Nat.add_comm 1 n]
  rw [← hstate]
  exact hbehind _ hpass

/-- The search by bytes ends where the search by characters does. -/
theorem Scan.stop?_eq {f : FieldScan} (hf : Steady f r) (hfuel : byteLength r < fuel)
    (htop : base + byteLength (pre ++ r) + 1 ≤ top) (hdepth : f.depth ≤ byteLength pre) :
    SameEnd top base start fuel (ofField f (byteLength pre)) f pre r := by
  induction r generalizing f pre fuel with
  | nil =>
    obtain ⟨fuel, rfl⟩ : ∃ k, fuel = k + 1 := ⟨_, (Nat.succ_pred (by omega)).symm⟩
    exact sameEnd_nil hf htop hdepth
  | cons c r ih =>
    rw [byteLength_cons] at hfuel
    have hpos := c.utf8Size_pos
    -- the searches go on behind the character
    have hbehind : ∀ fuel', byteLength r < fuel' → ∀ f', f.pass c r = .ok (some f') →
        SameEnd top base start fuel' (ofField f' (byteLength pre + c.utf8Size)) f pre (c :: r) := by
      intro fuel' hfuel' f' hpass
      refine .behind hpass (ih (hf.pass hpass) hfuel' ?_ ?_)
      · rwa [List.append_assoc]
      · have := depth_of_pass hpass
        rw [byteLength_append, byteLength_cons, byteLength_nil]
        omega
    cases hskip : f.skip with
    | succ n => exact sameEnd_skipped hf hskip (hbehind fuel (by omega))
    | zero =>
      by_cases hc : c.toNat < 128
      · obtain ⟨fuel, rfl⟩ : ∃ k, fuel = k + 1 := ⟨_, (Nat.succ_pred (by omega)).symm⟩
        exact sameEnd_ascii hf hskip hc htop hdepth (hbehind fuel (by omega))
      · have hc := Nat.not_lt.mp hc
        obtain ⟨fuel, rfl⟩ : ∃ k, fuel = k + c.utf8Size := ⟨_, (Nat.sub_add_cancel (by omega)).symm⟩
        exact sameEnd_high hf hskip hc htop hdepth
          (hbehind fuel (by omega) f (pass_high hf.toSound hskip hc))

/-- Where the expression of the field ends that begins at `start`. -/
def expressionEnd? (top : Nat) (text : List Char) (base start : Nat) :
    Option (Except SyntaxError Nat) :=
  Scan.stop? top (bytes text) base start ((bytes text).length + 1) ⟨start, 0, none⟩

theorem expressionEnd?_eq (htop : base + byteLength (pre ++ r) + 1 ≤ top) :
    expressionEnd? top (pre ++ r) base (byteLength pre) =
      some ((splitField (base + byteLength pre) ⟨0, none, 0⟩ (base + byteLength pre) r).map fun cut =>
        byteLength pre + byteLength cut.1) := by
  have hsteady : Steady ⟨0, none, 0⟩ r := ⟨⟨nofun, nofun⟩, nofun, Nat.zero_le _⟩
  have hfuel : byteLength r < (bytes (pre ++ r)).length + 1 := by
    rw [length_bytes_append]
    omega
  exact Scan.stop?_eq hsteady hfuel htop (Nat.zero_le _)

/-! ## The end of a format spec -/

/-- The index of the brace that closes the field, after `depth` more, or else of the end. -/
def specStop? (top : Nat) : Nat → Nat → List UInt8 → Option Nat
  | _, index, [] => fits? top index
  | depth, index, b :: bs => do
    let index ← fits? top index
    let depth ← fits? top depth
    if b = code '{' then specStop? top (depth + 1) (index + 1) bs
    else if b = code '}' ∧ depth = 0 then some index
    else if b = code '}' then do
      let depth ← minus? depth 1
      specStop? top depth (index + 1) bs
    else specStop? top depth (index + 1) bs

/-- Where the format spec ends that begins at `start`. -/
def specEnd? (top : Nat) (bs : List UInt8) (start : Nat) : Option Nat :=
  if start ≤ bs.length then specStop? top 0 start (bs.drop start) else none

/-- A step of the search where its numbers fit. -/
theorem specStop?_cons {depth index : Nat} {b : UInt8} {bs : List UInt8}
    (hindex : index ≤ top) (hdepth : depth ≤ top) : specStop? top depth index (b :: bs) =
      if b = code '{' then specStop? top (depth + 1) (index + 1) bs
      else if b = code '}' ∧ depth = 0 then some index
      else if b = code '}' then (minus? depth 1).bind fun depth => specStop? top depth (index + 1) bs
      else specStop? top depth (index + 1) bs := by
  rw [specStop?, fits?_eq hindex, fits?_eq hdepth]
  rfl

theorem specStop?_high {hs : List UInt8} (h : ∀ b ∈ hs, 128 ≤ b.toNat) {depth index : Nat}
    (bs : List UInt8) (htop : index + hs.length ≤ top) (hdepth : depth ≤ index) :
    specStop? top depth index (hs ++ bs) = specStop? top depth (index + hs.length) bs := by
  induction hs generalizing index with
  | nil => rfl
  | cons b hs ih =>
    rw [List.forall_mem_cons] at h
    rw [List.length_cons] at htop
    have hcode : ∀ d : Char, d.toNat < 128 → b ≠ code d := fun d => ne_code_of_high h.1
    rw [List.cons_append, specStop?_cons (by omega) (by omega), if_neg (hcode _ (by decide)),
      if_neg fun hb => hcode _ (by decide) hb.1, if_neg (hcode _ (by decide)),
      ih h.2 (by omega) (by omega), List.length_cons, Nat.add_assoc, Nat.add_comm 1]

theorem specStop?_eq {depth index : Nat} (htop : index + byteLength r ≤ top) (hdepth : depth ≤ index) :
    specStop? top depth index (bytes r) = some (index + byteLength (splitSpec depth r).1) := by
  induction r generalizing depth index with
  | nil => exact fits?_eq htop
  | cons c r ih =>
    have hpos := c.utf8Size_pos
    rw [byteLength_cons] at htop
    rw [bytes_cons]
    by_cases hc : c.toNat < 128
    · have hcode : ∀ d : Char, d.toNat < 128 → (code c = code d ↔ c = d) := fun d => code_eq_code hc
      rw [encode_ascii hc, List.singleton_append, specStop?_cons (by omega) (by omega), splitSpec]
      simp (disch := decide) only [hcode]
      by_cases hopen : c = '{'
      · subst hopen
        rw [if_pos rfl, if_neg fun h => absurd h.1 (by decide), if_pos rfl,
          ih (by omega) (by omega)]
        simp only [byteLength_cons]
        rw [utf8Size_ascii hc, Nat.add_assoc]
      · rw [if_neg hopen, if_neg hopen]
        split
        · rfl
        · next hstop =>
          split
          · next hclose =>
            have hopened : 1 ≤ depth := Nat.pos_of_ne_zero fun h => hstop ⟨hclose, h⟩
            rw [minus?, if_pos hopened, Option.bind_some, ih (by omega) (by omega)]
            simp only [byteLength_cons]
            rw [utf8Size_ascii hc, Nat.add_assoc]
          · rw [ih (by omega) (by omega)]
            simp only [byteLength_cons]
            rw [utf8Size_ascii hc, Nat.add_assoc]
    · have hne : ∀ d : Char, d.toNat < 128 → c ≠ d := fun d => ne_of_high (Nat.not_lt.mp hc)
      have hsize := String.length_utf8EncodeChar (c := c)
      rw [specStop?_high (high_of_mem_encode (Nat.not_lt.mp hc)) _ (by omega) hdepth, hsize,
        ih (by omega) (by omega), splitSpec, if_neg fun h => hne _ (by decide) h.1,
        if_neg (hne _ (by decide)), if_neg (hne _ (by decide))]
      simp only [byteLength_cons]
      rw [Nat.add_assoc]

/-- The spec by bytes ends where the spec by characters does. -/
theorem specEnd?_eq (htop : byteLength (pre ++ r) ≤ top) :
    specEnd? top (bytes (pre ++ r)) (byteLength pre) =
      some (byteLength pre + byteLength (splitSpec 0 r).1) := by
  rw [byteLength_append] at htop
  rw [specEnd?, if_pos (by rw [length_bytes_append]; omega), bytes_append, ← length_bytes pre,
    List.drop_left, length_bytes]
  exact specStop?_eq htop (Nat.zero_le _)

end PythonSyntax.Indexed
