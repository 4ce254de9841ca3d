import PythonSyntax.Proofs.Indexed.Scan

/-
The texts between fields, over bytes.

A third scanner goes byte by byte to the next brace.  Where the name of a character begins it looks
for the closing brace of that and goes on behind it, or at the end if there is none.  It ends where
`splitLiteral` does, so the chunks in between are slices.
-/

namespace PythonSyntax.Indexed

open PythonSyntax.Parser

variable {pre r : List Char} {c : Char} {top : Nat}

/-- Whether a byte at an index is the backslash of a character's name. -/
def opensName (isRaw : Bool) (bs : List UInt8) (index : Nat) (b : UInt8) : Bool :=
  b == code '\\' && !isRaw && bs[index + 1]? == some (code 'N') && bs[index + 2]? == some (code '{')

/-- The index behind the brace that closes a name, or else the end. -/
def nameEnd? (text : List Char) (index : Nat) : Option Nat := do
  let rest ← after? text index
  return if '}' ∈ rest then index + byteLength (rest.takeWhile (· != '}')) + 1
    else (bytes text).length

/-- The index of the next brace that is none of a name, or else the end, in at most `fuel` steps.
Each step looks two bytes ahead. -/
def braceAt? (top : Nat) (isRaw : Bool) (text : List Char) : Nat → Nat → Option Nat
  | 0, _ => none
  | fuel + 1, index => do
    let _ ← fits? top (index + 2)
    if index < (bytes text).length then
      let b ← (bytes text)[index]?
      if opensName isRaw (bytes text) index b then
        braceAt? top isRaw text fuel (← nameEnd? text index)
      else if b = code '{' ∨ b = code '}' then return index
      else braceAt? top isRaw text fuel (index + 1)
    else some index

/-- Where the text between fields ends that begins at `start`. -/
def chunkEnd? (top : Nat) (isRaw : Bool) (text : List Char) (start : Nat) : Option Nat :=
  braceAt? top isRaw text ((bytes text).length + 1) start

theorem splitLiteral_name {name : List Char} (h : '}' ∉ name) (isRaw : Bool) (r : List Char) :
    splitLiteral isRaw true (name ++ '}' :: r) =
      (name ++ '}' :: (splitLiteral isRaw false r).1, (splitLiteral isRaw false r).2) := by
  induction name with
  | nil => rfl
  | cons c name ih =>
    obtain ⟨hc, hname⟩ := not_or.mp (mt List.mem_cons.mpr h)
    have hin : (c != '}') = true := bne_iff_ne.mpr (Ne.symm hc)
    rw [List.cons_append, splitLiteral, if_pos rfl, hin, ih hname]
    rfl

theorem splitLiteral_openName (h : '}' ∉ r) (isRaw : Bool) : splitLiteral isRaw true r = (r, []) := by
  induction r with
  | nil => rfl
  | cons c r ih =>
    obtain ⟨hc, hr⟩ := not_or.mp (mt List.mem_cons.mpr h)
    have hin : (c != '}') = true := bne_iff_ne.mpr (Ne.symm hc)
    rw [splitLiteral, if_pos rfl, hin, ih hr]

/-- A name is passed over from its backslash on. -/
theorem splitLiteral_opens {isRaw : Bool}
    (h : (c == '\\' && !isRaw && ['N', '{'].isPrefixOf r) = true) :
    splitLiteral isRaw false (c :: r) = splitLiteral isRaw true (c :: r) := by
  have hslash : c = '\\' := by
    simp only [Bool.and_eq_true, beq_iff_eq] at h
    exact h.1.1
  rw [splitLiteral, splitLiteral, if_neg Bool.false_ne_true, if_pos rfl, h, hslash]
  rfl

theorem opensName_eq (hc : c.toNat < 128) (isRaw : Bool) (pre r : List Char) :
    opensName isRaw (bytes (pre ++ c :: r)) (byteLength pre) (code c) =
      (c == '\\' && !isRaw && ['N', '{'].isPrefixOf r) := by
  have hslash : (code c == code '\\') = (c == '\\') :=
    decide_eq_decide.mpr (code_eq_code hc (by decide))
  have hname : ((bytes (pre ++ c :: r))[byteLength pre + 1]? == some (code 'N') &&
      (bytes (pre ++ c :: r))[byteLength pre + 2]? == some (code '{')) = ['N', '{'].isPrefixOf r := by
    have hN := getElem?_bytes_next (d := 'N') hc (by decide) pre r
    rw [Bool.eq_iff_iff, Bool.and_eq_true, beq_iff_eq, beq_iff_eq, hN]
    cases r with
    | nil => simp
    | cons d r =>
      have hbrace := getElem?_bytes_next (c := 'N') (d := '{') (by decide) (by decide) (pre ++ [c]) r
      rw [List.append_assoc, List.singleton_append, byteLength_append, byteLength_cons, byteLength_nil,
        utf8Size_ascii hc] at hbrace
      by_cases hd : d = 'N'
      · rw [hd, hbrace]
        cases r with
        | nil => simp
        | cons d r => simp [List.isPrefixOf, Eq.comm (b := '{')]
      · simp [hd, Ne.symm hd]
  unfold opensName
  rw [hslash, Bool.and_assoc (_ && _), hname]

/-- Behind its name, a text goes on as if it had none. -/
theorem nameEnd?_eq (isRaw : Bool) (pre : List Char) (c : Char) (r : List Char) :
    ∃ name rest, c :: r = name ++ rest ∧ name ≠ [] ∧
      nameEnd? (pre ++ c :: r) (byteLength pre) = some (byteLength pre + byteLength name) ∧
      (splitLiteral isRaw true (c :: r)).1 = name ++ (splitLiteral isRaw false rest).1 := by
  unfold nameEnd?
  rw [after?_append, Option.bind_eq_bind, Option.bind_some]
  by_cases h : '}' ∈ c :: r
  · obtain ⟨name, rest, heq, hname⟩ := List.eq_append_cons_of_mem h
    have htake : (name ++ '}' :: rest).takeWhile (· != '}') = name := by
      have hne : ∀ d ∈ name, (d != '}') = true := by
        intro d hd
        rw [bne_iff_ne]
        rintro rfl
        exact hname hd
      rw [List.takeWhile_append_of_pos hne]
      exact List.append_nil name
    refine ⟨name ++ ['}'], rest, by rw [heq, List.append_assoc]; rfl, by simp, ?_, ?_⟩
    · rw [if_pos h, heq, htake, byteLength_append, ← Nat.add_assoc]
      rfl
    · rw [heq, splitLiteral_name hname, List.append_assoc]
      rfl
  · refine ⟨c :: r, [], (List.append_nil _).symm, List.cons_ne_nil _ _, ?_, ?_⟩
    · rw [if_neg h, length_bytes_append]
      rfl
    · rw [splitLiteral_openName h]
      exact (List.append_nil _).symm

/-- The search passes over the bytes of a character beyond ASCII one by one. -/
theorem braceAt?_high (hc : 128 ≤ c.toNat) (isRaw : Bool)
    (htop : byteLength (pre ++ c :: r) + 2 ≤ top) (fuel : Nat) {j k : Nat}
    (hk : j + k ≤ c.utf8Size) :
    braceAt? top isRaw (pre ++ c :: r) (fuel + k) (byteLength pre + j) =
      braceAt? top isRaw (pre ++ c :: r) fuel (byteLength pre + (j + k)) := by
  induction k generalizing j with
  | zero => rfl
  | succ k ih =>
    obtain ⟨b, hb, hhigh⟩ := high_getElem?_bytes pre r hc (show j < c.utf8Size by omega)
    have hlt : byteLength pre + j < (bytes (pre ++ c :: r)).length := (List.getElem?_eq_some_iff.mp hb).1
    have hcode : ∀ d : Char, d.toNat < 128 → b ≠ code d := fun d => ne_code_of_high hhigh
    have hopens : opensName isRaw (bytes (pre ++ c :: r)) (byteLength pre + j) b = false := by
      rw [opensName, beq_false_of_ne (hcode '\\' (by decide))]
      rfl
    have hbrace : ¬ (b = code '{' ∨ b = code '}') :=
      not_or.mpr ⟨hcode _ (by decide), hcode _ (by decide)⟩
    have hrest := ih (j := j + 1) (by omega)
    have hindex : byteLength pre + j + 2 ≤ top := by
      rw [byteLength_append, byteLength_cons] at htop
      omega
    rw [← Nat.add_assoc, braceAt?, fits?_eq hindex, Option.bind_eq_bind, Option.bind_some, if_pos hlt,
      hb, Option.bind_eq_bind, Option.bind_some, hopens, if_neg Bool.false_ne_true, if_neg hbrace,
      Nat.add_assoc, hrest, Nat.add_assoc j, Nat.add_comm 1]

/-- One step of the search at an ASCII character. -/
theorem braceAt?_ascii (hc : c.toNat < 128) (isRaw : Bool)
    (htop : byteLength (pre ++ c :: r) + 2 ≤ top) (fuel : Nat) :
    braceAt? top isRaw (pre ++ c :: r) (fuel + 1) (byteLength pre) =
      if c == '\\' && !isRaw && ['N', '{'].isPrefixOf r then
        (nameEnd? (pre ++ c :: r) (byteLength pre)).bind (braceAt? top isRaw (pre ++ c :: r) fuel)
      else if c = '{' ∨ c = '}' then some (byteLength pre)
      else braceAt? top isRaw (pre ++ c :: r) fuel (byteLength pre + 1) := by
  have hlt : byteLength pre < (bytes (pre ++ c :: r)).length := by
    rw [length_bytes_append, byteLength_cons, utf8Size_ascii hc]
    omega
  have hcode : (code c = code '{' ∨ code c = code '}') ↔ (c = '{' ∨ c = '}') :=
    or_congr (code_eq_code hc (by decide)) (code_eq_code hc (by decide))
  have hindex : byteLength pre + 2 ≤ top := by
    rw [byteLength_append] at htop
    omega
  rw [braceAt?, fits?_eq hindex, Option.bind_eq_bind, Option.bind_some, if_pos hlt,
    (getElem?_bytes_eq_code hc).mpr rfl, Option.bind_eq_bind, Option.bind_some, opensName_eq hc]
  simp only [hcode]
  rfl

/-- The search by bytes from the front of `r` on finds the end of the chunk that is cut off `r` by
characters. -/
def FindsEnd (top : Nat) (isRaw : Bool) (fuel : Nat) (pre r : List Char) : Prop :=
  braceAt? top isRaw (pre ++ r) fuel (byteLength pre) =
    some (byteLength pre + byteLength (splitLiteral isRaw false r).1)

/-- The search goes on behind a character that ends no chunk and begins no name. -/
theorem FindsEnd.behind {isRaw : Bool} {fuel : Nat} (h : FindsEnd top isRaw fuel (pre ++ [c]) r)
    (hopens : (c == '\\' && !isRaw && ['N', '{'].isPrefixOf r) = false) (hbrace : ¬ (c = '{' ∨ c = '}')) :
    braceAt? top isRaw (pre ++ c :: r) fuel (byteLength pre + c.utf8Size) =
      some (byteLength pre + byteLength (splitLiteral isRaw false (c :: r)).1) := by
  have hnext : byteLength (pre ++ [c]) = byteLength pre + c.utf8Size := by
    rw [byteLength_append, byteLength_cons, byteLength_nil, Nat.add_zero]
  unfold FindsEnd at h
  rw [hnext, List.append_assoc, List.singleton_append] at h
  rw [h, splitLiteral, if_neg Bool.false_ne_true, if_neg hbrace, hopens]
  dsimp only
  rw [byteLength_cons, Nat.add_assoc]

/-- The search goes on behind the name of a character. -/
theorem findsEnd_name {isRaw : Bool} {fuel : Nat} (hc : c.toNat < 128)
    (hopens : (c == '\\' && !isRaw && ['N', '{'].isPrefixOf r) = true)
    (htop : byteLength (pre ++ c :: r) + 2 ≤ top)
    (hbehind : ∀ name rest, c :: r = name ++ rest → name ≠ [] →
      FindsEnd top isRaw fuel (pre ++ name) rest) :
    FindsEnd top isRaw (fuel + 1) pre (c :: r) := by
  obtain ⟨name, rest, heq, hname, hend, hcut⟩ := nameEnd?_eq isRaw pre c r
  have hrest := hbehind name rest heq hname
  unfold FindsEnd at hrest ⊢
  rw [List.append_assoc, ← heq, byteLength_append] at hrest
  rw [braceAt?_ascii hc isRaw htop, if_pos hopens, hend, Option.bind_some, hrest,
    splitLiteral_opens hopens, hcut, byteLength_append, Nat.add_assoc]

/-- The search by bytes finds the end of the chunk that is cut off by characters. -/
theorem braceAt?_eq {fuel : Nat} (hfuel : byteLength r < fuel) (isRaw : Bool)
    (htop : byteLength (pre ++ r) + 2 ≤ top) : FindsEnd top isRaw fuel pre r := by
  -- a name takes one step for all its bytes, so the fuel behind it is any that suffices
  induction fuel using Nat.strong_induction_on generalizing pre r with
  | h fuel ih =>
    obtain ⟨fuel, rfl⟩ : ∃ k, fuel = k + 1 := ⟨_, (Nat.succ_pred (by omega)).symm⟩
    cases r with
    | nil =>
      have hindex : byteLength pre + 2 ≤ top := by
        rw [byteLength_append] at htop
        omega
      unfold FindsEnd
      rw [braceAt?, fits?_eq hindex, Option.bind_eq_bind, Option.bind_some,
        if_neg (by rw [length_bytes_append, byteLength_nil]; omega)]
      rfl
    | cons c r =>
      rw [byteLength_cons] at hfuel
      have hpos := c.utf8Size_pos
      have hnext : pre ++ c :: r = (pre ++ [c]) ++ r := by rw [List.append_assoc]; rfl
      by_cases hc : c.toNat < 128
      · cases hopens : (c == '\\' && !isRaw && ['N', '{'].isPrefixOf r) with
        | true =>
          refine findsEnd_name hc hopens htop fun name rest heq hname =>
            ih fuel (Nat.lt_succ_self _) ?_ ?_
          · have hlength := congrArg byteLength heq
            rw [byteLength_cons, byteLength_append] at hlength
            have hname := byteLength_pos hname
            omega
          · rwa [List.append_assoc, ← heq]
        | false =>
          unfold FindsEnd
          rw [braceAt?_ascii hc isRaw htop, hopens, if_neg Bool.false_ne_true]
          by_cases hbrace : c = '{' ∨ c = '}'
          · rw [if_pos hbrace, splitLiteral, if_neg Bool.false_ne_true, if_pos hbrace]
            rfl
          · rw [if_neg hbrace, ← utf8Size_ascii hc]
            exact (ih fuel (Nat.lt_succ_self _) (by omega) (hnext ▸ htop)).behind hopens hbrace
      · have hhigh := Nat.not_lt.mp hc
        have hne : ∀ d : Char, d.toNat < 128 → c ≠ d := fun d => ne_of_high hhigh
        have hopens : (c == '\\' && !isRaw && ['N', '{'].isPrefixOf r) = false := by
          rw [beq_false_of_ne (hne '\\' (by decide))]
          rfl
        have hbrace : ¬ (c = '{' ∨ c = '}') := not_or.mpr ⟨hne _ (by decide), hne _ (by decide)⟩
        obtain ⟨k, hk⟩ : ∃ k, fuel + 1 = k + c.utf8Size := ⟨_, (Nat.sub_add_cancel (by omega)).symm⟩
        have hstep := braceAt?_high hhigh isRaw htop k (j := 0) (k := c.utf8Size) (by omega)
        rw [Nat.add_zero, Nat.zero_add] at hstep
        unfold FindsEnd
        rw [hk, hstep]
        exact (ih k (by omega) (by omega) (hnext ▸ htop)).behind hopens hbrace

theorem chunkEnd?_eq (isRaw : Bool) (htop : byteLength (pre ++ r) + 2 ≤ top) :
    chunkEnd? top isRaw (pre ++ r) (byteLength pre) =
      some (byteLength pre + byteLength (splitLiteral isRaw false r).1) :=
  braceAt?_eq (by rw [length_bytes_append]; omega) isRaw htop

end PythonSyntax.Indexed
