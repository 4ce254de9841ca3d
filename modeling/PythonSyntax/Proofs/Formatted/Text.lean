import PythonSyntax.Proofs.Formatted.Write
import PythonSyntax.Proofs.Literal.Decode
import PythonSyntax.Proofs.Parser.FormattedString
import PythonSyntax.Proofs.Spelling.Program

/-
The reading of written texts.

A body is cut at its braces.  What stands for a text without braces has none either, so it is cut as
a whole and decoded to what it was.  There is one exception: after a doubled backslash the letter
`N` and a brace are taken for the beginning of a character name.
-/

namespace PythonSyntax.Part

open PythonSyntax.Parser PythonSyntax.Lexeme Filter

variable {cs rest : List Char} {n : Nesting} {ts us : List Token}

/-! ## Texts -/

/-- No brace stands in a text. -/
def Braceless (cs : List Char) : Prop := ∀ c ∈ cs, c ≠ '{' ∧ c ≠ '}'

/-- Nothing follows, or a brace does. -/
def AtBrace (rest : List Char) : Prop := ∀ c ∈ rest.head?, c = '{' ∨ c = '}'

theorem writeText_cons (c : Char) (cs : List Char) :
    writeText (c :: cs) = writeChar c ++ writeText cs := List.flatMap_cons

/-- The first character of what stands for `c` is `c` or a backslash. -/
theorem Stands.head {c : Char} {s : List Char} (h : Stands c s) :
    ∃ d r, s = d :: r ∧ (d = c ∨ d = '\\') := by
  cases h with
  | escaped => exact ⟨_, _, rfl, .inr rfl⟩
  | doubled => exact ⟨_, _, rfl, .inl rfl⟩
  | itself => exact ⟨_, _, rfl, .inl rfl⟩

/-- A written text before a brace begins with a character that is not written otherwise only if
the text does. -/
theorem head_of_writeText {d : Char} (hd : d ≠ '\\') (h : (writeText cs ++ rest).head? = some d) :
    cs.head? = some d ∨ cs = [] ∧ rest.head? = some d := by
  cases cs with
  | nil => exact .inr ⟨rfl, h⟩
  | cons c cs =>
    obtain ⟨d', r, hc, hd'⟩ := (stands_writeChar c).head
    rw [writeText_cons, hc] at h
    cases h
    exact .inl (congrArg some (hd'.resolve_right hd).symm)

/-- What looks like the beginning of a character name in a written text. -/
theorem opensName_writeText (hcs : Braceless cs) (hrest : AtBrace rest)
    (h : ['N', '{'].isPrefixOf (writeText cs ++ rest) = true) :
    cs = ['N'] ∧ rest.head? = some '{' := by
  obtain ⟨r, hr⟩ := List.isPrefixOf_iff_prefix.mp h
  have hhead : (writeText cs ++ rest).head? = some 'N' := by
    rw [← hr]
    rfl
  rcases head_of_writeText (by decide) hhead with hN | ⟨-, hN⟩
  · obtain ⟨cs, rfl⟩ := List.head?_eq_some_iff.mp hN
    have htail : (writeText cs ++ rest).head? = some '{' := by
      have hcons : 'N' :: (writeText cs ++ rest) = 'N' :: '{' :: r := hr.symm
      rw [(List.cons.inj hcons).2]
      rfl
    rcases head_of_writeText (by decide) htail with hbrace | ⟨rfl, hbrace⟩
    · exact absurd rfl (hcs '{' (List.mem_cons_of_mem _ (List.mem_of_mem_head? hbrace))).1
    · exact ⟨rfl, hbrace⟩
  · rcases hrest _ hN with h | h <;> cases h

theorem splitLiteral_cons {c : Char} {r : List Char} (hc : c ≠ '{' ∧ c ≠ '}')
    (hname : c = '\\' → ['N', '{'].isPrefixOf r = false) :
    splitLiteral false false (c :: r) =
      (c :: (splitLiteral false false r).1, (splitLiteral false false r).2) := by
  have hopens : (c == '\\' && !false && ['N', '{'].isPrefixOf r) = false := by
    by_cases hbackslash : c = '\\'
    · rw [hname hbackslash, Bool.and_false]
    · rw [beq_false_of_ne hbackslash]
      rfl
  rw [splitLiteral, if_neg Bool.false_ne_true, if_neg (not_or.mpr hc), hopens]

/-- A written text is cut at the brace that follows it, unless a character name seems to begin
there. -/
theorem splitLiteral_writeText (hcs : Braceless cs) (hrest : AtBrace rest)
    (hname : ['\\', 'N'] <:+ cs → rest.head? ≠ some '{') :
    splitLiteral false false (writeText cs ++ rest) = (writeText cs, rest) := by
  induction cs with
  | nil =>
    show splitLiteral false false rest = ([], rest)
    cases rest with
    | nil => rfl
    | cons c r =>
      rw [splitLiteral, if_neg Bool.false_ne_true, if_pos (hrest c rfl)]
  | cons c cs ih =>
    have hcs' : Braceless cs := fun d hd => hcs d (List.mem_cons_of_mem _ hd)
    have ih := ih hcs' fun h => hname (h.trans (List.suffix_cons _ _))
    have hc := hcs c List.mem_cons_self
    have hopens : c = '\\' → ['N', '{'].isPrefixOf (writeText cs ++ rest) = false := by
      rintro rfl
      rw [← Bool.not_eq_true]
      intro h
      obtain ⟨rfl, hbrace⟩ := opensName_writeText hcs' hrest h
      exact hname (List.suffix_refl _) hbrace
    have hwritten := stands_writeChar c
    rw [writeText_cons, List.append_assoc]
    generalize writeChar c = s at hwritten
    cases hwritten with
    | @escaped d hd hc' =>
      have hbraces : d ≠ '{' ∧ d ≠ '}' ∧ d ≠ 'N' := by
        constructor
        · rintro rfl; exact absurd hd (by decide)
        constructor
        · rintro rfl; exact absurd hd (by decide)
        · rintro rfl; exact absurd hd (by decide)
      have hsecond : d = '\\' → ['N', '{'].isPrefixOf (writeText cs ++ rest) = false := by
        rintro rfl
        exact hopens (Option.some.inj hc').symm
      have hfirst : ['N', '{'].isPrefixOf (d :: (writeText cs ++ rest)) = false := by
        show ('N' == d && _) = false
        rw [beq_false_of_ne hbraces.2.2.symm]
        rfl
      show splitLiteral false false ('\\' :: d :: (writeText cs ++ rest)) = _
      rw [splitLiteral_cons (by decide) fun _ => hfirst,
        splitLiteral_cons ⟨hbraces.1, hbraces.2.1⟩ hsecond, ih]
      rfl
    | doubled h => exact (h.elim hc.1 hc.2).elim
    | itself =>
      show splitLiteral false false (c :: (writeText cs ++ rest)) = _
      rw [splitLiteral_cons hc hopens, ih]
      rfl

theorem decodeUpTo_writeText {fuel : Nat} (hcs : Braceless cs)
    (hfuel : (writeText cs).length ≤ fuel) :
    Escape.decodeUpTo false fuel (writeText cs) = .ok (Text.ofChars cs) := by
  induction cs generalizing fuel with
  | nil => cases fuel <;> rfl
  | cons c cs ih =>
    have hc := hcs c List.mem_cons_self
    have hcs' : Braceless cs := fun d hd => hcs d (List.mem_cons_of_mem _ hd)
    have hwritten := stands_writeChar c
    rw [writeText_cons, List.length_append] at hfuel
    rw [writeText_cons]
    generalize writeChar c = s at hwritten hfuel
    cases hwritten with
    | @escaped d hd hc' =>
      obtain ⟨fuel, rfl⟩ : ∃ k, fuel = k + 1 := ⟨fuel - 1, by simp at hfuel; omega⟩
      have hescape : ∀ r, Escape.escape false d r = .ok ([.scalar c], 0) := by
        intro r
        rw [Escape.escape, hc']
      show Escape.decodeUpTo false (fuel + 1) ('\\' :: d :: writeText cs) = _
      rw [Escape.decodeUpTo, if_pos rfl]
      show (Escape.escape false d (writeText cs) >>= _) = _
      rw [hescape]
      show (Escape.decodeUpTo false fuel (writeText cs) >>= _) = _
      rw [ih hcs' (by simp at hfuel; omega)]
      rfl
    | doubled h => exact (h.elim hc.1 hc.2).elim
    | itself h =>
      obtain ⟨fuel, rfl⟩ : ∃ k, fuel = k + 1 := ⟨fuel - 1, by simp at hfuel; omega⟩
      have hbackslash : c ≠ '\\' := by rintro rfl; exact h (by decide)
      have hreturn : c ≠ '\r' := by rintro rfl; exact h (by decide)
      rw [List.singleton_append, Escape.decodeUpTo_itself false hbackslash hreturn, Bool.false_and,
        if_neg Bool.false_ne_true, ih hcs' (by simp at hfuel; omega)]
      rfl

/-- A written text is decoded to what it was. -/
theorem textPiece_writeText {l : Literal} (hl : l.isRaw = false) (hcs : Braceless cs) :
    outcome (textPiece l (writeText cs)) n ts = .ok ([.text (Text.ofChars cs)], ts) := by
  have hdecode : Escape.decode false (writeText cs) = .ok (Text.ofChars cs) :=
    decodeUpTo_writeText hcs (Nat.le_refl _)
  rw [textPiece, hl, if_neg Bool.false_ne_true, hdecode]
  rfl

end PythonSyntax.Part
