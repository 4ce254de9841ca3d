import PythonSyntax.Proofs.Lexeme.Filler
import PythonSyntax.Proofs.Lexeme.Word

/-
Texts that are the same up to the end of a line.

A piece is found without what stands behind the first line break after it, unless it is an open quote:
whether a literal is closed is told from what follows it.  In a short literal that breaks off, though,
nothing counts behind the line break where it does.
-/

namespace PythonSyntax.Lexeme

variable {a b w : List Char} {l : Lexeme} {ls : List Lexeme} {q : Char} {kept marks : List Char}

/-! ## Pieces of the same line -/

/-- Texts that are the same, or the same up to a line break. -/
inductive SameLine : List Char → List Char → Prop where
  | same {x} : SameLine x x
  | upTo {x a b} : Breaks x → SameLine (x ++ a) (x ++ b)

theorem Breaks.append_left (w : List Char) (h : Breaks a) : Breaks (w ++ a) := by
  obtain ⟨c, hc, hbreak⟩ := h
  exact ⟨c, List.mem_append_right w hc, hbreak⟩

theorem Breaks.ne_nil (h : Breaks a) : a ≠ [] := by
  obtain ⟨c, hc, -⟩ := h
  exact List.ne_nil_of_mem hc

theorem SameLine.append (w : List Char) (h : SameLine a b) : SameLine (w ++ a) (w ++ b) := by
  cases h with
  | same => exact .same
  | upTo hx =>
    rw [← List.append_assoc, ← List.append_assoc]
    exact .upTo (hx.append_left w)

theorem SameLine.head? (h : SameLine a b) : b.head? = a.head? := by
  cases h with
  | same => rfl
  | upTo hx =>
    obtain ⟨c, r, rfl⟩ := List.exists_cons_of_ne_nil hx.ne_nil
    rfl

theorem front?_sameLine {kind : LexemeKind} (h : front? (w ++ a) = some (kind, w.length))
    (hkind : kind ≠ .openQuote) (hab : SameLine a b) : front? (w ++ b) = some (kind, w.length) := by
  cases hab with
  | same => exact h
  | @upTo x a b hx =>
    rw [← List.append_assoc] at h ⊢
    have hlt : w.length < (w ++ x).length := by
      have hpos := List.length_pos_iff.mpr hx.ne_nil
      rw [List.length_append]
      omega
    exact front?_append (hx.append_left w) (front?_trimmed h hkind (Nat.le_of_lt hlt)) hkind hlt

/-- The front piece of a text is measured by its own text. -/
theorem front?_of_lexemes {rest : List Char} (h : lexemes (l.text ++ rest) = l :: ls) :
    front? (l.text ++ rest) = some (l.kind, l.text.length) ∧ ls = lexemes rest := by
  obtain ⟨n, hfront, htext, hrest⟩ := front_of_lexemes h
  have hn : l.text.length = n := by
    rw [htext, List.length_take, Nat.min_eq_left (front_le hfront)]
  rw [← hn, List.drop_left] at hrest
  exact ⟨hn ▸ hfront, hrest⟩

theorem lexemes_of_front?_text {rest : List Char}
    (h : front? (l.text ++ rest) = some (l.kind, l.text.length)) :
    lexemes (l.text ++ rest) = l :: lexemes rest := by
  rw [lexemes_of_front h, List.take_left, List.drop_left]

/-- A piece that is no open quote is the same before texts of the same line. -/
theorem lexemes_sameLine (h : lexemes (l.text ++ a) = l :: ls) (hl : l.kind ≠ .openQuote)
    (hab : SameLine a b) : lexemes (l.text ++ b) = l :: lexemes b :=
  lexemes_of_front?_text (front?_sameLine (front?_of_lexemes h).1 hl hab)

theorem lexemes_append_sameLine {pre : List Lexeme} (h : lexemes (textOf pre ++ a) = pre ++ ls)
    (hpre : ∀ l ∈ pre, l.kind ≠ .openQuote) (hab : SameLine a b) :
    lexemes (textOf pre ++ b) = pre ++ lexemes b := by
  induction pre with
  | nil => rfl
  | cons l pre ih =>
    rw [List.forall_mem_cons] at hpre
    rw [textOf_cons, List.append_assoc, List.cons_append] at h
    rw [textOf_cons, List.append_assoc, List.cons_append,
      lexemes_sameLine h hpre.1 (hab.append _), ih (front?_of_lexemes h).2.symm hpre.2]

/-! ## Literals that break off -/

/-- What stands behind the quote `q` of a short literal that breaks off, through the line break where
it does.  A backslash takes the next character with it, a line break too. -/
inductive BreaksOff (q : Char) : List Char → Prop where
  | lineBreak {c} : ¬ InLine c → BreaksOff q [c]
  | escape {c r} : BreaksOff q r → BreaksOff q ('\\' :: c :: r)
  | char {c r} : c ≠ '\\' → c ≠ q → InLine c → BreaksOff q r → BreaksOff q (c :: r)

theorem BreaksOff.breaks (h : BreaksOff q kept) : Breaks kept := by
  induction h with
  | lineBreak hc => exact ⟨_, List.mem_singleton_self _, hc⟩
  | @escape c r _ ih => exact ih.append_left ['\\', c]
  | @char c r _ _ _ _ ih => exact ih.append_left [c]

/-- The literal is not closed, whatever comes behind. -/
theorem BreaksOff.closeSingle (hq : Quoted.isQuote q = true) (h : BreaksOff q kept) (b : List Char) :
    closeSingle q (kept ++ b) = none := by
  have hne : ∀ {c}, ¬ InLine c → c ≠ '\\' ∧ c ≠ q := by
    intro c hc
    constructor
    · rintro rfl
      exact hc (by unfold InLine; decide)
    · rintro rfl
      rcases isQuote_cases hq with rfl | rfl <;> exact hc (by unfold InLine; decide)
  induction h with
  | @lineBreak c hc =>
    have hbreak : c = '\n' ∨ c = '\r' := by
      unfold InLine at hc
      tauto
    rw [List.singleton_append, closeSingle_break (hne hc).1 (hne hc).2 hbreak]
  | @escape c r _ ih =>
    rw [List.cons_append, List.cons_append, closeSingle_escape, ih]
    rfl
  | @char c r hc hcq hline _ ih =>
    have hbreak : ¬ (c = '\n' ∨ c = '\r') := by
      rintro (h | h)
      · exact hline.1 h
      · exact hline.2 h
    rw [List.cons_append, closeSingle_cons hc hcq hbreak, ih]
    rfl

/-- The quote is the only one. -/
theorem BreaksOff.not_startsTriple (hq : Quoted.isQuote q = true) (h : BreaksOff q kept) (d : Char)
    (b : List Char) : startsTriple d (q :: (kept ++ b)) = false := by
  have hkept : ∃ c r, kept ++ b = c :: r ∧ c ≠ q := by
    cases h with
    | lineBreak hc =>
      refine ⟨_, _, rfl, ?_⟩
      rintro rfl
      rcases isQuote_cases hq with rfl | rfl <;> exact hc (by unfold InLine; decide)
    | escape => exact ⟨_, _, rfl, (ne_backslash_of_isQuote hq).symm⟩
    | char _ hcq => exact ⟨_, _, rfl, hcq⟩
  obtain ⟨c, r, hr, hcq⟩ := hkept
  rw [hr, startsTriple, ← Bool.not_eq_true, List.isPrefixOf_iff_prefix, List.cons_prefix_cons,
    List.cons_prefix_cons]
  rintro ⟨rfl, hcd, -⟩
  exact hcq hcd.symm

/-- One quote, or three. -/
theorem openQuotes_take {s : List Char} {n : Nat} (h : openQuotes s = some n) :
    ∃ d, Quoted.isQuote d = true ∧ (s.take n = [d] ∨ s.take n = [d, d, d]) := by
  have htriple : ∀ d, exactly [d, d, d] s = some n → s.take n = [d, d, d] := by
    intro d hd
    unfold exactly at hd
    split at hd
    · next hlead =>
      cases hd
      exact (List.prefix_iff_eq_take.mp (List.isPrefixOf_iff_prefix.mp hlead)).symm
    · cases hd
  rcases Option.or_eq_some_iff.mp h with h | ⟨-, h⟩
  · exact ⟨'"', rfl, .inr (htriple _ h)⟩
  rcases Option.or_eq_some_iff.mp h with h | ⟨-, h⟩
  · exact ⟨'\'', rfl, .inr (htriple _ h)⟩
  cases s with
  | nil => cases h
  | cons d r =>
    have hone : (if (d == '"' || d == '\'') = true then some 1 else none) = some n := h
    split at hone
    · next hd =>
      cases hone
      exact ⟨d, (Bool.or_comm _ _).trans hd, .inl rfl⟩
    · cases hone

/-- An open quote that is one quote stands behind its letters. -/
theorem openQuote_short {s : List Char} (h : openQuote s = some (marks.length + 1))
    (hs : s.take (marks.length + 1) = marks ++ [q]) (hmarks : q ∉ marks) :
    optional stringMark s = some marks.length ∧ Quoted.isQuote q = true := by
  obtain ⟨i, j, hi, hj, hn⟩ := andThen_eq_some.mp h
  obtain ⟨d, hd, hquotes⟩ := openQuotes_take hj
  rw [← hn, List.take_add] at hs
  rcases hquotes with hquotes | hquotes
  · rw [hquotes] at hs
    obtain ⟨htake, hdq⟩ := List.append_inj' hs rfl
    have hlength : i = marks.length := by
      rw [← htake, List.length_take, Nat.min_eq_left (bounded_marks s i hi)]
    exact ⟨hlength ▸ hi, (List.cons.inj hdq).1 ▸ hd⟩
  · rw [hquotes, show s.take i ++ [d, d, d] = (s.take i ++ [d, d]) ++ [d] by simp] at hs
    obtain ⟨htake, hdq⟩ := List.append_inj' hs rfl
    rw [← htake, ← (List.cons.inj hdq).1] at hmarks
    exact absurd (by simp) hmarks

/-- What is not taken for another piece before it, and is no string, is an open quote. -/
theorem front?_openQuote {s : List Char} {n : Nat} : front? s = some (.openQuote, n) ↔
    (kindsBefore.findSome? fun km => (km.2 s).map fun n => (km.1, n)) = none ∧
      Lexeme.string s = none ∧ openQuote s = some n := by
  have hother : ∀ kms : List (LexemeKind × Measure), (∀ km ∈ kms, km.1 ≠ .openQuote) →
      (kms.findSome? fun km => (km.2 s).map fun n => (km.1, n)) ≠ some (.openQuote, n) := by
    intro kms hkms h
    obtain ⟨km, hkm, hm⟩ := List.exists_of_findSome?_eq_some h
    obtain ⟨k, -, heq⟩ := Option.map_eq_some_iff.mp hm
    exact hkms km hkm (Prod.mk.inj heq).1
  rw [front?_eq]
  constructor
  · intro h
    rcases Option.or_eq_some_iff.mp h with hfirst | ⟨hbefore, h⟩
    · exact absurd hfirst (hother kindsBefore (by simp [kindsBefore]))
    rcases Option.or_eq_some_iff.mp h with hstring | ⟨hstring, h⟩
    · obtain ⟨k, -, heq⟩ := Option.map_eq_some_iff.mp hstring
      cases heq
    refine ⟨hbefore, Option.map_eq_none_iff.mp hstring, ?_⟩
    rw [kindsAfter, List.findSome?_cons] at h
    dsimp only at h
    cases hopen : openQuote s with
    | some k =>
      rw [hopen] at h
      cases h
      rfl
    | none =>
      rw [hopen] at h
      exact absurd h (hother [(.number, number), (.name, name), (.op, op), (.stray, one fun _ => true)]
        (by simp))
  · rintro ⟨hbefore, hstring, hopen⟩
    rw [hbefore, hstring, kindsAfter, List.findSome?_cons]
    dsimp only
    rw [hopen]
    rfl

/-- A quote that breaks off on its line opens no string, whatever comes behind. -/
theorem front?_breaksOff (hmarks : q ∉ marks)
    (h : front? (marks ++ q :: (kept ++ a)) = some (.openQuote, marks.length + 1))
    (hkept : BreaksOff q kept) (b : List Char) :
    front? (marks ++ q :: (kept ++ b)) = some (.openQuote, marks.length + 1) := by
  have hx : Breaks (marks ++ q :: kept) := (hkept.breaks.append_left [q]).append_left marks
  have happend : ∀ y, marks ++ q :: (kept ++ y) = (marks ++ q :: kept) ++ y := by simp
  obtain ⟨hbefore, -, hopen⟩ := front?_openQuote.mp h
  rw [happend] at hbefore hopen
  rw [local_openQuote _ _ hx] at hopen
  obtain ⟨hletters, hq⟩ := openQuote_short hopen (List.take_length_add_append 1) hmarks
  refine front?_openQuote.mpr ⟨?_, ?_, ?_⟩
  · rw [happend]
    refine (findSome?_carries (P := fun _ k => k < _) (stays_before hx)).1 ?_
    exact (findSome?_carries (P := fun _ k => k ≤ _) fun km hkm =>
      (trims_before km hkm).carries _ _).1 hbefore
  · have hquoted : quoted (q :: (kept ++ b)) = none := by
      unfold quoted
      rw [hkept.not_startsTriple hq, hkept.not_startsTriple hq, if_neg Bool.false_ne_true,
        if_neg Bool.false_ne_true]
      rcases isQuote_cases hq with rfl | rfl
      · exact congrArg (Option.map (· + 1)) (hkept.closeSingle rfl b)
      · exact congrArg (Option.map (· + 1)) (hkept.closeSingle rfl b)
    have hall : optional stringMark (marks ++ q :: (kept ++ b)) = some marks.length := by
      rw [happend, local_marks _ _ hx, hletters]
    rw [Lexeme.string, andThen, hall]
    show (quoted ((marks ++ q :: (kept ++ b)).drop marks.length)).bind _ = none
    rw [List.drop_left, hquoted]
    rfl
  · rw [happend, local_openQuote _ _ hx, hopen]

end PythonSyntax.Lexeme
