import PythonSyntax.Proofs.LineEnding.Measure
import PythonSyntax.Proofs.Literal.Shape

/-
Strings under another line ending.

A string in three quotes follows an ending.  One in single quotes may hide a line break after a
backslash, which takes one character with it and no more: under the ending CRLF the line feed is
left over, and ends the string before its closing quote.  `string_crlf` says exactly which strings
remain, and `openQuote_of_hidesBreak` what becomes of the others.
-/

namespace PythonSyntax.Lexeme

variable {e : LineEnding}

/-! ## Three quotes -/

theorem startsTriple_spell {q : Char} (hq : InLine q) (s : List Char) :
    startsTriple q (e.spell s) = startsTriple q s :=
  LineEnding.isPrefixOf_spell (by simpa using hq.1.symm) (by simpa using hq.2.symm) s

theorem not_startsTriple {q c : Char} (hc : c ≠ q) (r : List Char) :
    ¬ startsTriple q (c :: r) = true := by
  intro h
  rw [startsTriple, List.isPrefixOf, Bool.and_eq_true, beq_iff_eq] at h
  exact hc h.1.symm

/-- A line break is passed over. -/
theorem closeTriple_break {q : Char} (hq : InLine q) (x : List Char) :
    closeTriple q (e.text ++ x) = (closeTriple q x).map (· + e.text.length) := by
  have hn := not_startsTriple hq.1.symm x
  cases e with
  | lf => exact closeTriple_cons (by decide) hn
  | crlf =>
    refine (closeTriple_cons (by decide) (not_startsTriple hq.2.symm _)).trans ?_
    rw [show ['\n'].append x = '\n' :: x from rfl, closeTriple_cons (by decide) hn, Option.map_map]
    rfl

/-- A backslash takes the first character of a line break with it, and the rest is passed over. -/
theorem closeTriple_escape_break {q : Char} (hq : InLine q) (x : List Char) :
    closeTriple q ('\\' :: (e.text ++ x)) = (closeTriple q x).map (· + (e.text.length + 1)) := by
  cases e with
  | lf => exact closeTriple_escape q _ x
  | crlf =>
    refine (closeTriple_escape q _ _).trans ?_
    rw [show ['\n'].append x = '\n' :: x from rfl,
      closeTriple_cons (by decide) (not_startsTriple hq.1.symm x), Option.map_map]
    rfl

theorem follows_closeTriple {q : Char} (hq : InLine q) : Follows e (closeTriple q) := by
  intro s hs
  induction s using closeTriple.induct q with
  | case1 => rfl
  | case2 => rfl
  | case3 d r ih =>
    have ih := ih fun h => hs (List.mem_cons_of_mem _ (List.mem_cons_of_mem _ h))
    rw [closeTriple_escape, e.spell_cons (by decide)]
    by_cases hd : d = '\n'
    · subst hd
      rw [LineEnding.spell_break, closeTriple_escape_break hq, ih]
      cases closeTriple q r with
      | none => rfl
      | some m =>
        simp [e.spell_cons (show '\\' ≠ '\n' by decide)]
        omega
    · rw [e.spell_cons hd, closeTriple_escape, ih]
      cases closeTriple q r with
      | none => rfl
      | some m => simp [e.spell_cons hd, e.spell_cons (show '\\' ≠ '\n' by decide)]
  | case4 c r hc hstart =>
    have hq3 : (c :: r).take 3 = [q, q, q] :=
      (List.prefix_iff_eq_take.mp (List.isPrefixOf_iff_prefix.mp hstart)).symm
    have hcq : c = q := (List.cons.inj (show c :: (r.take 2) = q :: [q, q] from hq3)).1
    subst hcq
    have hspell : startsTriple c (e.spell (c :: r)) = true := (startsTriple_spell hq _).trans hstart
    rw [e.spell_cons hq.1] at hspell ⊢
    rw [closeTriple_start hc hstart, closeTriple_start hc hspell, Option.map_some, hq3,
      LineEnding.spell_eq_self]
    · rfl
    · simpa using hq.1.symm
  | case5 c r hc hstart ih =>
    have ih := ih fun h => hs (List.mem_cons_of_mem _ h)
    rw [closeTriple_cons hc hstart]
    by_cases hn : c = '\n'
    · subst hn
      rw [LineEnding.spell_break, closeTriple_break hq, ih]
      cases closeTriple q r with
      | none => rfl
      | some m =>
        simp
        omega
    · rw [e.spell_cons hn, closeTriple_cons hc, ih]
      · cases closeTriple q r with
        | none => rfl
        | some m => simp [e.spell_cons hn]
      · rw [← e.spell_cons hn, startsTriple_spell hq]
        exact hstart

/-! ## One quote -/

/-- Characters in front of a piece add to it if none of them is a line break. -/
theorem filter_map_line {o : Option Nat} {r s : List Char} {k : Nat}
    (hmem : ∀ m, '\n' ∈ s.take (m + k) ↔ '\n' ∈ r.take m)
    (hlen : ∀ m, (LineEnding.crlf.spell (s.take (m + k))).length =
      (LineEnding.crlf.spell (r.take m)).length + k) :
    ((o.map (· + k)).filter fun n => !(s.take n).contains '\n').map
        (fun n => (LineEnding.crlf.spell (s.take n)).length) =
      ((o.filter fun n => !(r.take n).contains '\n').map
        fun n => (LineEnding.crlf.spell (r.take n)).length).map (· + k) := by
  cases o with
  | none => rfl
  | some m =>
    have hmem : (s.take (m + k)).contains '\n' = (r.take m).contains '\n' := by
      rw [Bool.eq_iff_iff, List.contains_iff_mem, List.contains_iff_mem]
      exact hmem m
    simp only [Option.map_some, Option.filter_some, hmem]
    split
    · exact congrArg some (hlen m)
    · rfl

/-- Under the ending CRLF a string in single quotes is closed only if it has no line break. -/
theorem closeSingle_crlf {q : Char} (hq : InLine q) (s : List Char) (hs : '\r' ∉ s) :
    closeSingle q (LineEnding.crlf.spell s) =
      ((closeSingle q s).filter fun n => !(s.take n).contains '\n').map
        fun n => (LineEnding.crlf.spell (s.take n)).length := by
  induction s using closeSingle.induct q with
  | case1 => rfl
  | case2 => rfl
  | case3 d r ih =>
    have ih := ih fun h => hs (List.mem_cons_of_mem _ (List.mem_cons_of_mem _ h))
    rw [closeSingle_escape, LineEnding.spell_cons (by decide)]
    by_cases hd : d = '\n'
    · subst hd
      have hnone : closeSingle q ('\n' :: LineEnding.crlf.spell r) = none :=
        closeSingle_break (by decide) hq.1.symm (.inl rfl)
      show closeSingle q ('\\' :: '\r' :: '\n' :: LineEnding.crlf.spell r) = _
      rw [closeSingle_escape, hnone]
      cases closeSingle q r with
      | none => rfl
      | some m => simp [Option.filter]
    · rw [LineEnding.spell_cons hd, closeSingle_escape, ih]
      refine (filter_map_line (fun m => ?_) fun m => ?_).symm
      · simp [Ne.symm hd]
      · simp [LineEnding.spell_cons hd, LineEnding.spell_cons (show '\\' ≠ '\n' by decide)]
  | case4 r hne =>
    rw [LineEnding.spell_cons hq.1, closeSingle_quote hne, closeSingle_quote hne]
    simp [Option.filter, hq.1.symm, LineEnding.spell_cons hq.1]
  | case5 c r hc hne hbreak =>
    rcases hbreak with rfl | rfl
    · rw [closeSingle_break hc hne (.inl rfl)]
      exact closeSingle_break (by decide) hq.2.symm (.inr rfl)
    · exact absurd List.mem_cons_self hs
  | case6 c r hc hne hbreak ih =>
    have ih := ih fun h => hs (List.mem_cons_of_mem _ h)
    have hn : c ≠ '\n' := fun h => hbreak (.inl h)
    rw [LineEnding.spell_cons hn, closeSingle_cons hc hne hbreak, closeSingle_cons hc hne hbreak, ih]
    refine (filter_map_line (fun m => ?_) fun m => ?_).symm
    · simp [Ne.symm hn]
    · simp [LineEnding.spell_cons hn]

/-! ## Literals -/

/-- Whether a literal in single quotes hides a line break. -/
def hidesBreak (text : List Char) : Bool :=
  text.contains '\n' && Quoted.quoteCount (text.dropWhile fun c => !Quoted.isQuote c) == 1

theorem inLine_of_isQuote {q : Char} (h : Quoted.isQuote q = true) : InLine q :=
  inLine_of_class (by decide) (by decide) q h

/-- Marks do not matter. -/
theorem hidesBreak_append {marks : List Char} (hm : ∀ c ∈ marks, IsMark c) (x : List Char) :
    hidesBreak (marks ++ x) = hidesBreak x := by
  have hdrop : (marks ++ x).dropWhile (fun c => !Quoted.isQuote c) =
      x.dropWhile fun c => !Quoted.isQuote c := by
    refine List.dropWhile_append_of_pos fun c hc => ?_
    rw [isQuote_of_isMark (hm c hc)]
    rfl
  have hcontains : (marks ++ x).contains '\n' = x.contains '\n' := by
    have hmarks : '\n' ∉ marks := fun h => (inLine_of_isMark (hm _ h)).1 rfl
    simp [hmarks]
  rw [hidesBreak, hidesBreak, hdrop, hcontains]

/-- A text in quotes hides a line break if it holds one and is not in three quotes. -/
theorem hidesBreak_cons {q : Char} (hq : Quoted.isQuote q = true) (x : List Char) :
    hidesBreak (q :: x) = (x.contains '\n' && Quoted.quoteCount (q :: x) == 1) := by
  have hn : ¬ '\n' = q := (inLine_of_isQuote hq).1.symm
  simp [hidesBreak, hq, hn]

/-- Three quotes hide nothing. -/
theorem hidesBreak_triple {q : Char} (hq : Quoted.isQuote q = true) (x : List Char) :
    hidesBreak ([q, q, q] ++ x) = false := by
  have hcount : Quoted.quoteCount ([q, q, q] ++ x) = 3 := by
    have hcases : q = '\'' ∨ q = '"' := by simpa [Quoted.isQuote] using hq
    rcases hcases with rfl | rfl <;> simp [Quoted.quoteCount, startsTriple, List.isPrefixOf]
  have h := hidesBreak_cons hq (q :: q :: x)
  rw [show q :: q :: q :: x = [q, q, q] ++ x from rfl, hcount] at h
  rw [h]
  exact Bool.and_false _

/-- A literal that hides a line break is in single quotes and has it in its body. -/
theorem short_of_hidesBreak {text marks body : List Char} {q : Char} {triple : Bool}
    (h : IsLiteral text marks q triple body) (hhides : hidesBreak text = true) :
    triple = false ∧ '\n' ∈ body := by
  have hq := inLine_of_isQuote h.quote
  rw [h.eq, hidesBreak_append h.marks] at hhides
  cases triple with
  | true =>
    rw [quotes, if_pos rfl, hidesBreak_triple h.quote] at hhides
    cases hhides
  | false =>
    rw [quotes, if_neg Bool.false_ne_true, List.singleton_append, hidesBreak_cons h.quote, Bool.and_eq_true,
      List.contains_iff_mem, List.mem_append, List.mem_singleton] at hhides
    exact ⟨rfl, hhides.1.resolve_right (Ne.symm hq.1)⟩

theorem quoted_of_not_isQuote {c : Char} {r : List Char} (h : ¬ Quoted.isQuote c = true) :
    quoted (c :: r) = none := by
  have hc : '"' ≠ c ∧ '\'' ≠ c := ⟨fun hc => h (hc ▸ rfl), fun hc => h (hc ▸ rfl)⟩
  unfold quoted
  rw [if_neg (not_startsTriple hc.1.symm r), if_neg (not_startsTriple hc.2.symm r)]
  split
  · next heq => cases heq; exact absurd rfl hc.1
  · next heq => cases heq; exact absurd rfl hc.2
  · rfl

/-- In three quotes nothing is hidden, so the string remains. -/
theorem tripleQuoted_crlf {q : Char} (hquote : Quoted.isQuote q = true) {s : List Char}
    (hs : '\r' ∉ s) (hstart : startsTriple q s = true) :
    (closeTriple q ((LineEnding.crlf.spell s).drop 3)).map (· + 3) =
      (((closeTriple q (s.drop 3)).map (· + 3)).filter fun n => !hidesBreak (s.take n)).map
        fun n => (LineEnding.crlf.spell (s.take n)).length := by
  have hq := inLine_of_isQuote hquote
  have htake : s.take 3 = [q, q, q] :=
    (List.prefix_iff_eq_take.mp (List.isPrefixOf_iff_prefix.mp hstart)).symm
  have hspell : LineEnding.crlf.spell (s.take 3) = [q, q, q] := by
    rw [htake, LineEnding.spell_eq_self]
    simpa using hq.1.symm
  have hdrop := LineEnding.drop_spell (e := .crlf) 3 s
  rw [hspell] at hdrop
  rw [show 3 = [q, q, q].length from rfl, hdrop, follows_closeTriple hq _ (not_mem_drop hs 3)]
  cases closeTriple q (s.drop 3) with
  | none => rfl
  | some m =>
    have hsplit : s.take (m + 3) = [q, q, q] ++ (s.drop 3).take m := by
      rw [Nat.add_comm, List.take_add, htake]
    have hlen : (LineEnding.crlf.spell (s.take (m + 3))).length =
        (LineEnding.crlf.spell ((s.drop 3).take m)).length + 3 := by
      rw [hsplit, LineEnding.spell_append, ← htake, hspell, List.length_append, Nat.add_comm]
      rfl
    have hkeep : (!hidesBreak (s.take (m + 3))) = true := by
      rw [hsplit, hidesBreak_triple hquote]
      rfl
    show some _ = (if (!hidesBreak (s.take (m + 3))) = true then some (m + 3) else none).map _
    rw [if_pos hkeep]
    exact congrArg some hlen.symm

/-- In single quotes a string hides the line breaks it has in it. -/
theorem hidesBreak_take {q : Char} (hquote : Quoted.isQuote q = true) {r : List Char}
    (hdouble : ¬ startsTriple '"' (q :: r) = true) (hsimple : ¬ startsTriple '\'' (q :: r) = true)
    (m : Nat) : hidesBreak ((q :: r).take (m + 1)) = (r.take m).contains '\n' := by
  have hcount : Quoted.quoteCount (q :: r.take m) = 1 := by
    rw [Quoted.quoteCount, if_neg]
    rw [Bool.or_eq_true]
    rintro (h | h)
    · exact hdouble (startsTriple_of_take (n := m + 1) h)
    · exact hsimple (startsTriple_of_take (n := m + 1) h)
  rw [List.take_succ_cons, hidesBreak_cons hquote, hcount]
  exact Bool.and_true _

/-- In single quotes a string remains if it hides nothing. -/
theorem singleQuoted_crlf {q : Char} (hquote : Quoted.isQuote q = true) {r : List Char}
    (hr : '\r' ∉ r) (hdouble : ¬ startsTriple '"' (q :: r) = true)
    (hsimple : ¬ startsTriple '\'' (q :: r) = true) :
    (closeSingle q (LineEnding.crlf.spell r)).map (· + 1) =
      (((closeSingle q r).map (· + 1)).filter fun n => !hidesBreak ((q :: r).take n)).map
        fun n => (LineEnding.crlf.spell ((q :: r).take n)).length := by
  have hq := inLine_of_isQuote hquote
  rw [closeSingle_crlf hq r hr]
  cases closeSingle q r with
  | none => rfl
  | some m =>
    simp only [Option.map_some, Option.filter_some, hidesBreak_take hquote hdouble hsimple]
    split
    · simp [LineEnding.spell_cons hq.1]
    · rfl

theorem quoted_crlf (s : List Char) (hs : '\r' ∉ s) :
    quoted (LineEnding.crlf.spell s) =
      ((quoted s).filter fun n => !hidesBreak (s.take n)).map
        fun n => (LineEnding.crlf.spell (s.take n)).length := by
  cases s with
  | nil => rfl
  | cons c r =>
    by_cases hquote : Quoted.isQuote c = true
    · unfold quoted
      rw [startsTriple_spell (inLine_of_isQuote rfl), startsTriple_spell (inLine_of_isQuote rfl)]
      split
      · next hstart => exact tripleQuoted_crlf rfl hs hstart
      · next hdouble =>
        split
        · next hstart => exact tripleQuoted_crlf rfl hs hstart
        · next hsimple =>
          have hc := singleQuoted_crlf hquote (fun h => hs (List.mem_cons_of_mem _ h)) hdouble
            hsimple
          rw [LineEnding.spell_cons (inLine_of_isQuote hquote).1]
          have hcases : c = '\'' ∨ c = '"' := by simpa [Quoted.isQuote] using hquote
          rcases hcases with rfl | rfl <;> exact hc
    · rw [quoted_of_not_isQuote hquote]
      by_cases hn : c = '\n'
      · subst hn
        exact quoted_of_not_isQuote (by decide)
      · rw [LineEnding.spell_cons hn, quoted_of_not_isQuote hquote]
        rfl

/-- Under the ending CRLF a string is one only if it hides no line break. -/
theorem string_crlf (s : List Char) (hs : '\r' ∉ s) :
    Lexeme.string (LineEnding.crlf.spell s) =
      ((Lexeme.string s).filter fun n => !hidesBreak (s.take n)).map
        fun n => (LineEnding.crlf.spell (s.take n)).length := by
  have hmarks := follows_stringMark.optional (e := .crlf) s hs
  unfold Lexeme.string andThen
  rw [hmarks]
  cases hi : optional stringMark s with
  | none => rfl
  | some i =>
    show (quoted ((LineEnding.crlf.spell s).drop (LineEnding.crlf.spell (s.take i)).length) >>= _) = _
    rw [LineEnding.drop_spell, quoted_crlf _ (not_mem_drop hs i)]
    cases hj : quoted (s.drop i) with
    | none => simp [hj]
    | some j =>
      have hhides : hidesBreak (s.take (i + j)) = hidesBreak ((s.drop i).take j) := by
        rw [List.take_add]
        exact hidesBreak_append (within_stringMark.optional s i hi) _
      have hlen : (LineEnding.crlf.spell (s.take (i + j))).length =
          (LineEnding.crlf.spell (s.take i)).length +
            (LineEnding.crlf.spell ((s.drop i).take j)).length := by
        rw [List.take_add, LineEnding.spell_append, List.length_append]
      simp only [hj, Option.filter_some, Option.bind_eq_bind, Option.bind_some, hhides]
      cases hidesBreak ((s.drop i).take j)
      · exact congrArg some hlen.symm
      · rfl

/-- The spelling of a literal has the same marks and quotes around the spelling of its body. -/
theorem isLiteral_spell {text marks body : List Char} {q : Char} {triple : Bool}
    (h : IsLiteral text marks q triple body) :
    IsLiteral (e.spell text) marks q triple (e.spell body) := by
  have hmarks : e.spell marks = marks :=
    e.spell_eq_self fun hmem => (inLine_of_isMark (h.marks _ hmem)).1 rfl
  have hq := inLine_of_isQuote h.quote
  have hquotes : e.spell (quotes q triple) = quotes q triple := by
    refine e.spell_eq_self fun hmem => ?_
    cases triple <;> exact hq.1 (by simpa [quotes, eq_comm] using hmem)
  have hrest : quotes q triple ++ (e.spell body ++ quotes q triple) =
      e.spell (quotes q triple ++ (body ++ quotes q triple)) := by
    rw [e.spell_append, e.spell_append, hquotes]
  refine ⟨?_, h.marks, h.quote, ?_⟩
  · rw [h.eq, e.spell_append, hmarks, hrest]
  · rw [hrest, Quoted.quoteCount, startsTriple_spell (inLine_of_isQuote rfl),
      startsTriple_spell (inLine_of_isQuote rfl)]
    exact h.count

/-- A literal in three quotes is not short. -/
theorem three_le_of_quoted {d : Char} {s : List Char} {n : Nat} (h : quoted s = some n)
    (hstart : startsTriple d s = true) : 3 ≤ n := by
  obtain ⟨q, r, rfl⟩ : ∃ q r, s = q :: r := by
    cases s with
    | nil => exact nomatch hstart
    | cons q r => exact ⟨q, r, rfl⟩
  have hq : q = d := by
    by_contra hne
    exact not_startsTriple hne r hstart
  subst hq
  have hquote : Quoted.isQuote q = true := by
    by_contra hne
    rw [quoted_of_not_isQuote hne] at h
    exact nomatch h
  have hcases : q = '\'' ∨ q = '"' := by simpa [Quoted.isQuote] using hquote
  unfold quoted at h
  rcases hcases with rfl | rfl
  · rw [if_neg (not_startsTriple (by decide) r), if_pos hstart] at h
    obtain ⟨m, -, rfl⟩ := Option.map_eq_some_iff.mp h
    exact Nat.le_add_left 3 m
  · rw [if_pos hstart] at h
    obtain ⟨m, -, rfl⟩ := Option.map_eq_some_iff.mp h
    exact Nat.le_add_left 3 m

/-- A literal that hides a line break opens with one quote after its marks. -/
theorem openQuote_of_hidesBreak {s : List Char} {n : Nat} (h : Lexeme.string s = some n)
    (hhides : hidesBreak (s.take n) = true) :
    ∃ marks q r, s = marks ++ q :: r ∧ (∀ c ∈ marks, IsMark c) ∧ Quoted.isQuote q = true ∧
      openQuote s = some (marks.length + 1) := by
  obtain ⟨i, j, hi, hj, rfl⟩ := andThen_eq_some.mp h
  have hmarks := within_stringMark.optional s i hi
  rw [List.take_add, hidesBreak_append hmarks] at hhides
  have hshort : ∀ d, Quoted.isQuote d = true → ¬ startsTriple d (s.drop i) = true := by
    intro d hd hstart
    have htake : ((s.drop i).take j).take 3 = [d, d, d] := by
      rw [List.take_take, Nat.min_eq_left (three_le_of_quoted hj hstart)]
      exact (List.prefix_iff_eq_take.mp (List.isPrefixOf_iff_prefix.mp hstart)).symm
    rw [← List.take_append_drop 3 ((s.drop i).take j), htake, hidesBreak_triple hd] at hhides
    exact nomatch hhides
  cases hdrop : s.drop i with
  | nil =>
    rw [hdrop] at hj
    exact nomatch hj
  | cons q r =>
    have hquote : Quoted.isQuote q = true := by
      by_contra hq
      rw [hdrop, quoted_of_not_isQuote hq] at hj
      exact nomatch hj
    have hlt : i < s.length := by
      have := congrArg List.length hdrop
      rw [List.length_drop, List.length_cons] at this
      omega
    have hlen : (s.take i).length = i := List.length_take_of_le (Nat.le_of_lt hlt)
    have hthree : ∀ d, Quoted.isQuote d = true → exactly [d, d, d] (s.drop i) = none :=
      fun d hd => if_neg (hshort d hd)
    refine ⟨s.take i, q, r, by rw [← hdrop, List.take_append_drop], hmarks, hquote, ?_⟩
    refine andThen_eq_some.mpr ⟨i, 1, hi, ?_, by rw [hlen]⟩
    have hone : one (fun c => c == '"' || c == '\'') (s.drop i) = some 1 := by
      rw [hdrop, one, if_pos]
      rwa [Quoted.isQuote, Bool.or_comm] at hquote
    rw [orElse, orElse, hthree _ (by rfl), hthree _ (by rfl), hone]
    rfl

end PythonSyntax.Lexeme
