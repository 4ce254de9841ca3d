import PythonSyntax.Proofs.LineEnding.Measure
import PythonSyntax.Proofs.Literal.Decode

/-
Values of literals under another line ending.

A line break in a body denotes a line feed however it is written, and one after a backslash denotes
nothing.  No other escape has a line break in it, so a body and its spelling have the same value, or
the same fault.
-/

namespace PythonSyntax

variable {e : LineEnding} {isBytes : Bool}

/-! ## Names and digits -/

/-- No character has a line break in its name. -/
theorem characterNamed_of_break {name : List Char} {c : Char} (hmem : c ∈ name)
    (hc : c = '\n' ∨ c = '\r') : Unicode.characterNamed? name = none := by
  have hnot : (name.map Char.toUpper).all Unicode.isNamePart = false := by
    rw [List.all_eq_false]
    refine ⟨c.toUpper, List.mem_map_of_mem hmem, ?_⟩
    rcases hc with rfl | rfl <;> decide
  rw [Unicode.characterNamed?, Unicode.codePointNamed?, hnot]
  rfl

theorem characterNamed_spell (name : List Char) :
    Unicode.characterNamed? (e.spell name) = Unicode.characterNamed? name := by
  by_cases h : '\n' ∈ name
  · have htake : '\n' ∈ name.take name.length := by rwa [List.take_length]
    obtain ⟨c, hmem, hc⟩ := e.break_mem_take htake
    rw [characterNamed_of_break h (.inl rfl), characterNamed_of_break (List.mem_of_mem_take hmem) hc]
  · rw [e.spell_eq_self h]

/-- A text with a character that is no digit is no number. -/
theorem natOfDigits_of_not_digit {base : Nat} {cs : List Char} {c : Char} (hmem : c ∈ cs)
    (hc : digitValue? base c = none) : natOfDigits? base cs = none := by
  have hfold : ∀ n, cs.foldlM (fun n c => (digitValue? base c).map (n * base + ·)) n = none := by
    induction cs with
    | nil => exact nomatch hmem
    | cons d cs ih =>
      intro n
      rw [List.foldlM_cons]
      rcases List.mem_cons.mp hmem with rfl | hmem
      · rw [hc]
        rfl
      · cases hd : digitValue? base d with
        | none => rfl
        | some v => exact ih hmem _
  unfold natOfDigits?
  rw [hfold]
  split <;> rfl

namespace Escape

open PythonSyntax.Lexeme (not_mem_drop)

/-! ## Raw bodies -/

theorem decodeRaw_spell {body : List Char} (hs : '\r' ∉ body) :
    decodeRaw isBytes (e.spell body) = decodeRaw isBytes body := by
  induction body with
  | nil => rfl
  | cons c r ih =>
    have ih := ih fun h => hs (List.mem_cons_of_mem _ h)
    by_cases hc : c = '\n'
    · subst hc
      have hbreak : ∀ r, decodeRaw isBytes ('\n' :: r) = (decodeRaw isBytes r).map ('\n' :: ·) := by
        intro r
        rw [decodeRaw.eq_def]
        simp
      rw [hbreak, ← ih]
      cases e with
      | lf => exact hbreak _
      | crlf =>
        show decodeRaw isBytes ('\r' :: '\n' :: LineEnding.crlf.spell r) = _
        rw [decodeRaw]
        simp
    · have hr : c ≠ '\r' := fun h => hs (h ▸ List.mem_cons_self)
      have hother : ∀ r, decodeRaw isBytes (c :: r) =
          if isBytes && 0x80 ≤ c.toNat then .error .nonAsciiBytes
          else (decodeRaw isBytes r).map (c :: ·) := by
        intro r
        rw [decodeRaw.eq_def]
        simp only [hr, if_false]
      rw [e.spell_cons hc, hother, hother, ih]

/-! ## Single escapes -/

/-- A line break is no digit. -/
theorem digitValue_break {c : Char} (hc : c = '\n' ∨ c = '\r') (base : Nat) :
    digitValue? base c = none := by
  rcases hc with rfl | rfl <;> rfl

theorem octal_spell (value limit : Nat) (r : List Char) :
    octal value limit (e.spell r) = octal value limit r ∧ '\n' ∉ r.take (octal value limit r).2 := by
  induction limit generalizing value r with
  | zero => exact ⟨by unfold octal; rfl, by unfold octal; exact List.not_mem_nil⟩
  | succ limit ih =>
    cases r with
    | nil => exact ⟨rfl, List.not_mem_nil⟩
    | cons c r =>
      by_cases hc : c = '\n'
      · subst hc
        have hstop : ∀ d r, d = '\n' ∨ d = '\r' → octal value (limit + 1) (d :: r) = (value, 0) := by
          intro d r hd
          rw [octal, digitValue_break hd]
        rw [hstop _ _ (.inl rfl)]
        refine ⟨?_, List.not_mem_nil⟩
        cases e with
        | lf => exact hstop _ _ (.inl rfl)
        | crlf => exact hstop _ _ (.inr rfl)
      · rw [e.spell_cons hc, octal, octal]
        cases hd : digitValue? 8 c with
        | none => exact ⟨rfl, List.not_mem_nil⟩
        | some d =>
          obtain ⟨heq, hline⟩ := ih (value * 8 + d) r
          dsimp only
          rw [heq, List.take_succ_cons, List.mem_cons, not_or]
          exact ⟨rfl, Ne.symm hc, hline⟩

/-- Hexadecimal digits stand on one line. -/
theorem hex_of_break {count : Nat} {fault : StringFault} {r : List Char} {c : Char}
    (hmem : c ∈ r.take count) (hc : c = '\n' ∨ c = '\r') : hex count fault r = .error fault := by
  rw [hex, natOfDigits_of_not_digit hmem (digitValue_break hc _)]

theorem hex_spell (count : Nat) (fault : StringFault) (r : List Char) :
    hex count fault (e.spell r) = hex count fault r := by
  by_cases h : '\n' ∈ r.take count
  · obtain ⟨c, hmem, hc⟩ := e.break_mem_take h
    rw [hex_of_break h (.inl rfl), hex_of_break hmem hc]
  · rw [hex, hex, e.take_spell_of_line h]

theorem line_of_hex {count : Nat} {fault : StringFault} {r : List Char} {p : CodePoint}
    (h : hex count fault r = .ok p) : '\n' ∉ r.take count := by
  intro hmem
  rw [hex_of_break hmem (.inl rfl)] at h
  exact nomatch h

theorem named_spell (r : List Char) : named (e.spell r) = named r := by
  cases r with
  | nil => rfl
  | cons c r =>
    by_cases hc : c = '{'
    · subst hc
      have hp : decide ('\r' ≠ '}') = decide ('\n' ≠ '}') := by decide
      have hdrop := e.drop_takeWhile_spell (p := fun c => decide (c ≠ '}')) hp r
      have htake := e.takeWhile_spell (p := fun c => decide (c ≠ '}')) hp r
      have hempty : ∀ a : List Char, (e.spell a).isEmpty = a.isEmpty := by
        intro a
        rw [Bool.eq_iff_iff, List.isEmpty_iff, List.isEmpty_iff, e.spell_eq_nil]
      rw [e.spell_cons (by decide), named, named, hdrop, htake, hempty, hempty]
      split
      · rfl
      · rw [characterNamed_spell]
        split
        · next hname =>
          have hline : '\n' ∉ r.takeWhile fun c => decide (c ≠ '}') := by
            intro hmem
            rw [characterNamed_of_break hmem (.inl rfl)] at hname
            exact nomatch hname
          rw [e.spell_eq_self hline]
        · rfl
    · have hno : ∀ d r, d ≠ '{' → named (d :: r) = .error .malformedName := by
        intro d r hd
        unfold named
        split
        · next h => exact absurd (List.cons.inj h).1 hd
        · rfl
      rw [hno c r hc]
      by_cases hn : c = '\n'
      · subst hn
        cases e with
        | lf => exact hno _ _ (by decide)
        | crlf => exact hno _ _ (by decide)
      · rw [e.spell_cons hn, hno c _ hc]

/-- A text after the characters of a class. -/
theorem exists_takeWhile_append (p : Char → Bool) (s : List Char) :
    ∃ rest, s = s.takeWhile p ++ rest ∧ ∀ c r, rest = c :: r → p c = false := by
  refine ⟨s.dropWhile p, List.takeWhile_append_dropWhile.symm, fun c r h => ?_⟩
  have := List.head?_dropWhile_not p s
  rw [h] at this
  simpa using this

theorem line_of_named {r : List Char} {c : Char} {n : Nat} (h : named r = .ok (c, n)) :
    '\n' ∉ r.take n := by
  unfold named at h
  split at h
  · next r =>
    dsimp only at h
    split at h
    · exact nomatch h
    · next hrest =>
      split at h
      · next d hname =>
        cases h
        have hline : '\n' ∉ r.takeWhile fun c => decide (c ≠ '}') := by
          intro hmem
          rw [characterNamed_of_break hmem (.inl rfl)] at hname
          exact nomatch hname
        -- the brace after the name
        obtain ⟨rest, hr, hstop⟩ := exists_takeWhile_append (fun c => decide (c ≠ '}')) r
        generalize (r.takeWhile fun c => decide (c ≠ '}')) = name at hline hr hrest
        subst hr
        cases rest with
        | nil => simp at hrest
        | cons d after =>
          have hd : d = '}' := by simpa using hstop d after rfl
          subst hd
          simp [List.take_add, hline]
      · exact nomatch h
  · exact nomatch h

/-- An escape other than that of a line break is the same, and has no line break in it. -/
theorem escape_spell (isBytes : Bool) {c : Char} (hn : c ≠ '\n') (hr : c ≠ '\r') (r : List Char) :
    escape isBytes c (e.spell r) = escape isBytes c r ∧
      ∀ text n, escape isBytes c r = .ok (text, n) → '\n' ∉ r.take n := by
  -- escapes that take nothing more
  have hnone : ∀ {t : Text} (text : Text) n,
      (Except.ok (t, 0) : Except StringFault _) = .ok (text, n) → '\n' ∉ r.take n := by
    rintro t _ _ ⟨⟩
    exact nofun
  have hfail : ∀ {f : StringFault} (text : Text) n, Except.error f = .ok (text, n) →
      '\n' ∉ r.take n := fun _ _ h => nomatch h
  have hhex : ∀ {count fault} (text : Text) n,
      (hex count fault r).map (fun p => ([p], count)) = .ok (text, n) → '\n' ∉ r.take n := by
    intro count fault text n h
    cases hp : hex count fault r with
    | error => rw [hp] at h; exact nomatch h
    | ok p =>
      rw [hp] at h
      cases h
      exact line_of_hex hp
  unfold escape
  cases simple? c with
  | some d => exact ⟨rfl, hnone⟩
  | none =>
    simp only [hn, hr, if_false, hex_spell, named_spell]
    cases digitValue? 8 c with
    | some d =>
      obtain ⟨heq, hline⟩ := octal_spell (e := e) d 2 r
      dsimp only
      rw [heq]
      refine ⟨rfl, fun text n h => ?_⟩
      generalize codePoint _ = p at h
      cases p with
      | error => exact nomatch h
      | ok p =>
        cases h
        exact hline
    | none =>
      refine ⟨rfl, ?_⟩
      dsimp only
      split
      · exact hhex
      · split
        · split
          · exact hfail
          · exact hnone
        · split
          · exact hhex
          · split
            · exact hhex
            · split
              · intro text n h
                cases hp : named r with
                | error => rw [hp] at h; exact nomatch h
                | ok p =>
                  rw [hp] at h
                  cases h
                  exact line_of_named hp
              · exact hnone

/-! ## Bodies with escapes -/

theorem decodeUpTo_nil (fuel : Nat) : decodeUpTo isBytes fuel [] = .ok [] := by
  cases fuel <;> rfl

/-- A line break denotes a line feed. -/
theorem decodeUpTo_break (isBytes : Bool) (fuel : Nat) (r : List Char) (h : (e.text ++ r).length ≤ fuel) :
    ∃ fuel', r.length ≤ fuel' ∧ decodeUpTo isBytes fuel (e.text ++ r) =
      (decodeUpTo isBytes fuel' r).map (.scalar '\n' :: ·) := by
  cases fuel with
  | zero => cases e <;> exact absurd h (Nat.not_succ_le_zero _)
  | succ fuel =>
    refine ⟨fuel, ?_, ?_⟩
    · cases e <;> simp [LineEnding.text] at h <;> omega
    · cases e <;> cases isBytes <;> rfl

/-- A line break after a backslash denotes nothing. -/
theorem decodeUpTo_escape_break (fuel : Nat) (r : List Char) :
    decodeUpTo isBytes (fuel + 1) ('\\' :: (e.text ++ r)) = decodeUpTo isBytes fuel r := by
  have hstep : ∀ text : Except StringFault Text, (do return [] ++ (← text)) = text := by
    intro text
    cases text <;> rfl
  cases e <;> exact hstep _

/-- An escape other than that of a line break has the value of its spelling, if what is behind it has. -/
theorem decodeUpTo_escape_spell {c : Char} (hn : c ≠ '\n') (hr : c ≠ '\r') {r : List Char}
    {fuel fuel' : Nat} (hrest : ∀ n, '\n' ∉ r.take n →
      decodeUpTo isBytes fuel' (e.spell (r.drop n)) = decodeUpTo isBytes fuel (r.drop n)) :
    decodeUpTo isBytes (fuel' + 1) ('\\' :: c :: e.spell r) =
      decodeUpTo isBytes (fuel + 1) ('\\' :: c :: r) := by
  obtain ⟨heq, hline⟩ := escape_spell (e := e) isBytes hn hr r
  show (escape isBytes c (e.spell r) >>= fun t => _) = (escape isBytes c r >>= fun t => _)
  rw [heq]
  cases hp : escape isBytes c r with
  | error => rfl
  | ok p =>
    have htaken := hline p.1 p.2 hp
    show (decodeUpTo isBytes fuel' ((e.spell r).drop p.2) >>= _) =
      (decodeUpTo isBytes fuel (r.drop p.2) >>= _)
    rw [e.drop_spell_of_line htaken, hrest p.2 htaken]

theorem decodeUpTo_spell {fuel fuel' : Nat} {s : List Char} (hs : '\r' ∉ s)
    (h : s.length ≤ fuel) (h' : (e.spell s).length ≤ fuel') :
    decodeUpTo isBytes fuel' (e.spell s) = decodeUpTo isBytes fuel s := by
  induction fuel generalizing fuel' s with
  | zero =>
    obtain rfl : s = [] := List.length_eq_zero_iff.mp (Nat.le_zero.mp h)
    exact decodeUpTo_nil fuel'
  | succ fuel ih =>
    cases s with
    | nil => exact decodeUpTo_nil fuel'
    | cons c r =>
      have hr : '\r' ∉ r := fun h => hs (List.mem_cons_of_mem _ h)
      have hlen : r.length ≤ fuel := Nat.le_of_succ_le_succ h
      by_cases hc : c = '\n'
      · subst hc
        obtain ⟨fuel'', hle, heq⟩ := decodeUpTo_break isBytes fuel' (e.spell r) h'
        rw [LineEnding.spell_break, heq, ih hr hlen hle]
        cases isBytes <;> rfl
      · have hcr : c ≠ '\r' := fun h => hs (h ▸ List.mem_cons_self)
        rw [e.spell_cons hc] at h' ⊢
        obtain ⟨fuel', rfl⟩ : ∃ k, fuel' = k + 1 := ⟨fuel' - 1, by simp at h'; omega⟩
        have hlen' : (e.spell r).length ≤ fuel' := Nat.le_of_succ_le_succ h'
        by_cases hesc : c = '\\'
        · subst hesc
          cases r with
          | nil => rfl
          | cons d r =>
            have hr' : '\r' ∉ r := fun h => hr (List.mem_cons_of_mem _ h)
            by_cases hd : d = '\n'
            · subst hd
              rw [LineEnding.spell_break] at hlen' ⊢
              rw [List.length_append] at hlen'
              rw [decodeUpTo_escape_break, ih hr' (by simp at hlen; omega) (by omega)]
              exact (decodeUpTo_escape_break (e := .lf) fuel r).symm
            · have hdr : d ≠ '\r' := fun h => hr (h ▸ List.mem_cons_self)
              rw [e.spell_cons hd] at hlen' ⊢
              refine decodeUpTo_escape_spell hd hdr fun n hline => ih (not_mem_drop hr' n) ?_ ?_
              · rw [List.length_drop]
                simp at hlen
                omega
              · rw [← e.drop_spell_of_line hline, List.length_drop]
                simp at hlen'
                omega
        · rw [decodeUpTo_itself isBytes hesc hcr, decodeUpTo_itself isBytes hesc hcr, ih hr hlen hlen']

/-- A body and its spelling have the same value. -/
theorem decode_spell {body : List Char} (hs : '\r' ∉ body) :
    decode isBytes (e.spell body) = decode isBytes body :=
  decodeUpTo_spell hs (Nat.le_refl _) (Nat.le_refl _)

end Escape

end PythonSyntax
