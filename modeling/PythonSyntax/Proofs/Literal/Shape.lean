import PythonSyntax.Literal.Quoted
import PythonSyntax.Proofs.Lexeme.Class

/-
The parts of a literal.

A string that the lexer takes has marks, quotes, a body and the same quotes again, and
`Quoted.split` cuts it there.  In a short one a line break stands only after a backslash.
-/

namespace PythonSyntax

open PythonSyntax.Lexeme

/-- The quotes at either end of a literal. -/
def quotes (q : Char) (triple : Bool) : List Char := if triple then [q, q, q] else [q]

theorem isQuote_cases {q : Char} (hq : Quoted.isQuote q = true) : q = '\'' ∨ q = '"' := by
  rwa [Quoted.isQuote, Bool.or_eq_true, beq_iff_eq, beq_iff_eq] at hq

theorem ne_backslash_of_isQuote {q : Char} (hq : Quoted.isQuote q = true) : q ≠ '\\' := by
  rcases isQuote_cases hq with rfl | rfl <;> decide

theorem byteLength_quotes {q : Char} (hq : Quoted.isQuote q = true) (triple : Bool) :
    byteLength (quotes q triple) = (quotes q triple).length := by
  rcases isQuote_cases hq with rfl | rfl <;> cases triple <;> rfl

/-- A literal is its marks, quotes, a body and the same quotes. -/
structure IsLiteral (text marks : List Char) (q : Char) (triple : Bool) (body : List Char) :
    Prop where
  eq : text = marks ++ (quotes q triple ++ (body ++ quotes q triple))
  marks : ∀ c ∈ marks, IsMark c
  quote : Quoted.isQuote q = true
  count : Quoted.quoteCount (quotes q triple ++ (body ++ quotes q triple)) =
    (quotes q triple).length

/-! ## Closing quotes -/

section

variable {q c d : Char} {r : List Char}

/-- What the first character decides. -/
theorem closeTriple_first : closeTriple q (c :: r) =
    if c = '\\' then
      match r with
      | [] => none
      | _ :: r => (closeTriple q r).map (· + 2)
    else if startsTriple q (c :: r) = true then some 3
    else (closeTriple q r).map (· + 1) :=
  closeTriple.eq_def q (c :: r)

/-- Where nothing is escaped, a quoted text goes on up to three quotes. -/
theorem closeTriple_open (hc : c ≠ '\\') (r : List Char) :
    closeTriple q (c :: r) = if startsTriple q (c :: r) = true then some 3
      else (closeTriple q r).map (· + 1) := by
  rw [closeTriple_first, if_neg hc]

/-- Three quotes close. -/
theorem closeTriple_start (hc : c ≠ '\\') (hs : startsTriple q (c :: r) = true) :
    closeTriple q (c :: r) = some 3 := by
  rw [closeTriple_open hc, if_pos hs]

/-- Characters that neither escape nor close are passed over one by one. -/
theorem closeTriple_cons (hc : c ≠ '\\') (hs : ¬ startsTriple q (c :: r) = true) :
    closeTriple q (c :: r) = (closeTriple q r).map (· + 1) := by
  rw [closeTriple_open hc, if_neg hs]

theorem closeTriple_escape (q d : Char) (r : List Char) :
    closeTriple q ('\\' :: d :: r) = (closeTriple q r).map (· + 2) := by
  rw [closeTriple_first, if_pos rfl]

/-- What the first character decides, within a line. -/
theorem closeSingle_first : closeSingle q (c :: r) =
    if c = '\\' then
      match r with
      | [] => none
      | _ :: r => (closeSingle q r).map (· + 2)
    else if c = q then some 1
    else if c = '\n' ∨ c = '\r' then none
    else (closeSingle q r).map (· + 1) :=
  closeSingle.eq_def q (c :: r)

theorem closeSingle_escape (q d : Char) (r : List Char) :
    closeSingle q ('\\' :: d :: r) = (closeSingle q r).map (· + 2) := by
  rw [closeSingle_first, if_pos rfl]

/-- Where nothing is escaped, a quoted text goes on up to its quote or the end of the line. -/
theorem closeSingle_open (hc : c ≠ '\\') (r : List Char) :
    closeSingle q (c :: r) = if c = q then some 1 else if c = '\n' ∨ c = '\r' then none
      else (closeSingle q r).map (· + 1) := by
  rw [closeSingle_first, if_neg hc]

theorem closeSingle_quote (hq : q ≠ '\\') (r : List Char) : closeSingle q (q :: r) = some 1 := by
  rw [closeSingle_open hq, if_pos rfl]

/-- Characters that neither escape, close nor break the line are passed over one by one. -/
theorem closeSingle_cons (hc : c ≠ '\\') (hq : c ≠ q) (hbreak : ¬ (c = '\n' ∨ c = '\r')) :
    closeSingle q (c :: r) = (closeSingle q r).map (· + 1) := by
  rw [closeSingle_open hc, if_neg hq, if_neg hbreak]

/-- A line break leaves nothing to close. -/
theorem closeSingle_break (hc : c ≠ '\\') (hq : c ≠ q) (hbreak : c = '\n' ∨ c = '\r') :
    closeSingle q (c :: r) = none := by
  rw [closeSingle_open hc, if_neg hq, if_pos hbreak]

end

theorem closeTriple_shape {q : Char} {s : List Char} {n : Nat} (h : closeTriple q s = some n) :
    ∃ body, s.take n = body ++ [q, q, q] := by
  induction s using closeTriple.induct q generalizing n with
  | case1 => exact nomatch h
  | case2 => exact nomatch h
  | case3 d r ih =>
    rw [closeTriple_escape] at h
    obtain ⟨m, hm, rfl⟩ := Option.map_eq_some_iff.mp h
    obtain ⟨body, hbody⟩ := ih hm
    exact ⟨'\\' :: d :: body, by simp [hbody]⟩
  | case4 c r hc hstart =>
    rw [closeTriple_start hc hstart] at h
    cases h
    have := List.prefix_iff_eq_take.mp (List.isPrefixOf_iff_prefix.mp hstart)
    exact ⟨[], this.symm⟩
  | case5 c r hc hstart ih =>
    rw [closeTriple_cons hc hstart] at h
    obtain ⟨m, hm, rfl⟩ := Option.map_eq_some_iff.mp h
    obtain ⟨body, hbody⟩ := ih hm
    exact ⟨c :: body, by simp [hbody]⟩

theorem closeSingle_shape {q : Char} {s : List Char} {n : Nat} (h : closeSingle q s = some n) :
    ∃ body, s.take n = body ++ [q] ∧ ('\n' ∈ body → '\\' ∈ body) := by
  induction s using closeSingle.induct q generalizing n with
  | case1 => exact nomatch h
  | case2 => exact nomatch h
  | case3 d r ih =>
    rw [closeSingle_escape] at h
    obtain ⟨m, hm, rfl⟩ := Option.map_eq_some_iff.mp h
    obtain ⟨body, hbody, -⟩ := ih hm
    exact ⟨'\\' :: d :: body, by simp [hbody], fun _ => List.mem_cons_self⟩
  | case4 r hq =>
    rw [closeSingle_quote hq] at h
    cases h
    exact ⟨[], rfl, nofun⟩
  | case5 c r hc hq hbreak =>
    rw [closeSingle_break hc hq hbreak] at h
    cases h
  | case6 c r hc hq hbreak ih =>
    rw [closeSingle_cons hc hq hbreak] at h
    obtain ⟨m, hm, rfl⟩ := Option.map_eq_some_iff.mp h
    obtain ⟨body, hbody, hesc⟩ := ih hm
    refine ⟨c :: body, by simp [hbody], fun hmem => List.mem_cons_of_mem _ (hesc ?_)⟩
    rcases List.mem_cons.mp hmem with rfl | hmem
    · exact absurd (.inl rfl) hbreak
    · exact hmem

/-! ## Literals -/

/-- A text begins with three quotes if a part from its start does. -/
theorem startsTriple_of_take {q : Char} {s : List Char} {n : Nat}
    (h : startsTriple q (s.take n) = true) : startsTriple q s = true :=
  List.isPrefixOf_iff_prefix.mpr ((List.isPrefixOf_iff_prefix.mp h).trans (List.take_prefix n s))

/-- The parts of what `quoted` measures. -/
theorem quoted_shape {s : List Char} {n : Nat} (h : quoted s = some n) :
    ∃ q triple body, s.take n = quotes q triple ++ (body ++ quotes q triple) ∧
      Quoted.isQuote q = true ∧ Quoted.quoteCount (s.take n) = (quotes q triple).length ∧
      (triple = false → '\n' ∈ body → '\\' ∈ body) := by
  -- a text with three quotes at its start
  have htriple : ∀ q, startsTriple q s = true →
      (closeTriple q (s.drop 3)).map (· + 3) = some n →
      ∃ body, s.take n = quotes q true ++ (body ++ quotes q true) ∧
        startsTriple q (s.take n) = true := by
    intro q hstart hclose
    obtain ⟨m, hm, rfl⟩ := Option.map_eq_some_iff.mp hclose
    obtain ⟨body, hbody⟩ := closeTriple_shape hm
    have htake : s.take 3 = [q, q, q] :=
      (List.prefix_iff_eq_take.mp (List.isPrefixOf_iff_prefix.mp hstart)).symm
    have heq : s.take (m + 3) = quotes q true ++ (body ++ quotes q true) := by
      rw [Nat.add_comm, List.take_add, htake, hbody]
      rfl
    refine ⟨body, heq, ?_⟩
    rw [heq]
    simp [startsTriple, quotes, List.isPrefixOf]
  -- a text with one quote at its start
  have hsingle : ∀ q r, s = q :: r → (closeSingle q r).map (· + 1) = some n →
      ∃ body, s.take n = quotes q false ++ (body ++ quotes q false) ∧
        ('\n' ∈ body → '\\' ∈ body) := by
    rintro q r rfl hclose
    obtain ⟨m, hm, rfl⟩ := Option.map_eq_some_iff.mp hclose
    obtain ⟨body, hbody, hesc⟩ := closeSingle_shape hm
    exact ⟨body, by rw [List.take_succ_cons, hbody]; rfl, hesc⟩
  unfold quoted at h
  split at h
  · next hstart =>
    obtain ⟨body, heq, hthree⟩ := htriple '"' hstart h
    exact ⟨'"', true, body, heq, rfl, by simp [Quoted.quoteCount, hthree, quotes], nofun⟩
  · next hdouble =>
    split at h
    · next hstart =>
      obtain ⟨body, heq, hthree⟩ := htriple '\'' hstart h
      exact ⟨'\'', true, body, heq, rfl, by simp [Quoted.quoteCount, hthree, quotes], nofun⟩
    · next hquote =>
      have hcount : Quoted.quoteCount (s.take n) = 1 := by
        rw [Quoted.quoteCount, if_neg]
        rw [Bool.or_eq_true]
        rintro (hstart | hstart)
        · exact hdouble (startsTriple_of_take hstart)
        · exact hquote (startsTriple_of_take hstart)
      split at h
      · obtain ⟨body, heq, hesc⟩ := hsingle '"' _ rfl h
        exact ⟨'"', false, body, heq, rfl, hcount, fun _ => hesc⟩
      · obtain ⟨body, heq, hesc⟩ := hsingle '\'' _ rfl h
        exact ⟨'\'', false, body, heq, rfl, hcount, fun _ => hesc⟩
      · exact nomatch h

/-- The parts of what the lexer takes for a string, marks first. -/
theorem string_parts {s : List Char} {n : Nat} (h : Lexeme.string s = some n) :
    ∃ i q triple body, Lexeme.optional stringMark s = some i ∧
      IsLiteral (s.take n) (s.take i) q triple body ∧
        (triple = false → '\n' ∈ body → '\\' ∈ body) := by
  obtain ⟨i, j, hi, hj, rfl⟩ := andThen_eq_some.mp h
  obtain ⟨q, triple, body, heq, hquote, hcount, hesc⟩ := quoted_shape hj
  refine ⟨i, q, triple, body, hi, ⟨?_, within_stringMark.optional s i hi, hquote, ?_⟩, hesc⟩
  · rw [List.take_add, heq]
  · rw [← heq, hcount]

/-- What the lexer takes for a string is a literal. -/
theorem string_shape {s : List Char} {n : Nat} (h : Lexeme.string s = some n) :
    ∃ marks q triple body, IsLiteral (s.take n) marks q triple body ∧
      (triple = false → '\n' ∈ body → '\\' ∈ body) := by
  obtain ⟨i, q, triple, body, -, hliteral, hesc⟩ := string_parts h
  exact ⟨s.take i, q, triple, body, hliteral, hesc⟩

theorem lower_of_letter {c : Char} {s : List Char} {n : Nat} (h : letter c s = some n) :
    (s.take n).map Char.toLower = [c] := by
  cases s with
  | nil => cases h
  | cons d r =>
    rw [letter, one] at h
    split at h
    · next hd =>
      cases h
      simpa using hd
    · cases h

theorem lower_of_letters {c d : Char} {s : List Char} {n : Nat}
    (h : andThen (letter c) (letter d) s = some n) : (s.take n).map Char.toLower = [c, d] := by
  obtain ⟨i, j, hi, hj, rfl⟩ := andThen_eq_some.mp h
  rw [List.take_add, List.map_append, lower_of_letter hi, lower_of_letter hj]
  rfl

/-- The letters that may stand in front of the quotes of a literal, in lower case. -/
def markWords : List (List Char) :=
  [[], ['r'], ['u'], ['b'], ['f'], ['r', 'b'], ['b', 'r'], ['f', 'r'], ['r', 'f']]

theorem lower_of_marks {s : List Char} {i : Nat} (h : Lexeme.optional stringMark s = some i) :
    (s.take i).map Char.toLower ∈ markWords := by
  unfold Lexeme.optional at h
  cases hmark : stringMark s with
  | none =>
    rw [hmark] at h
    cases h
    exact List.mem_cons_self
  | some n =>
    rw [hmark] at h
    cases h
    show (s.take n).map Char.toLower ∈ markWords
    simp only [stringMark, orElse, Option.or_eq_some_iff] at hmark
    rcases hmark with hm | ⟨-, hm | ⟨-, hm | ⟨-, hm | ⟨-, hm⟩⟩⟩⟩
    · rw [lower_of_letters hm]; decide
    · rw [lower_of_letters hm]; decide
    · rw [lower_of_letters hm]; decide
    · rw [lower_of_letters hm]; decide
    · cases s with
      | nil => cases hm
      | cons c r =>
        rw [one] at hm
        split at hm
        · next hc =>
          cases hm
          simp only [Bool.or_eq_true, beq_iff_eq] at hc
          rw [List.take_succ_cons, List.take_zero, List.map_singleton]
          rcases hc with ((hc | hc) | hc) | hc <;> rw [hc] <;> decide
        · cases hm

/-- No marks stand for both bytes and fields. -/
theorem not_both_of_mem_markWords {m : List Char} (h : m ∈ markWords) : ¬ ('b' ∈ m ∧ 'f' ∈ m) := by
  have hall : ∀ m ∈ markWords, ¬ ('b' ∈ m ∧ 'f' ∈ m) := by decide
  exact hall m h

/-! ## Cutting a literal -/

theorem isQuote_of_isMark {c : Char} (h : IsMark c) : Quoted.isQuote c = false := by
  have hnot : ∀ q ∈ ['\'', '"'], ¬ IsMark q := by
    simp [IsMark]
  rw [Quoted.isQuote, Bool.or_eq_false_iff, beq_eq_false_iff_ne, beq_eq_false_iff_ne]
  constructor
  · rintro rfl
    exact hnot _ (by decide) h
  · rintro rfl
    exact hnot _ (by decide) h

namespace IsLiteral

variable {text marks body : List Char} {q : Char} {triple : Bool}

/-- What follows the marks begins with the first quote. -/
theorem takeWhile_eq (h : IsLiteral text marks q triple body) :
    text.takeWhile (fun c => !Quoted.isQuote c) = marks := by
  have hstop : (quotes q triple ++ (body ++ quotes q triple)).takeWhile
      (fun c => !Quoted.isQuote c) = [] := by
    cases triple <;> simp [quotes, h.quote]
  rw [h.eq, List.takeWhile_append_of_pos, hstop, List.append_nil]
  intro c hc
  rw [isQuote_of_isMark (h.marks c hc)]
  rfl

/-- A literal is cut into its parts. -/
theorem split_eq (h : IsLiteral text marks q triple body) :
    Quoted.split text =
      { isRaw := (marks.map Char.toLower).contains 'r'
        isBytes := (marks.map Char.toLower).contains 'b'
        isFormatted := (marks.map Char.toLower).contains 'f'
        body := body
        bodyStart := byteLength marks + (quotes q triple).length } := by
  have hany : text.any Quoted.isQuote = true := by
    rw [h.eq]
    cases triple <;> simp [quotes, h.quote]
  have hdrop : text.drop marks.length = quotes q triple ++ (body ++ quotes q triple) := by
    rw [h.eq, List.drop_left]
  unfold Quoted.split
  simp only [hany, if_true, h.takeWhile_eq, hdrop, h.count, List.drop_left, List.length_append]
  have hlen : (quotes q triple).length + (body.length + (quotes q triple).length) -
      (quotes q triple).length - (quotes q triple).length = body.length := by omega
  rw [hlen, List.take_left]

end IsLiteral

/-! ## Putting a literal together -/

section

variable {marks body r : List Char} {q : Char} {triple : Bool}

theorem isMark_of_mem_marks (h : marks.map Char.toLower ∈ markWords) : ∀ c ∈ marks, IsMark c := by
  have hall : ∀ m ∈ markWords, ∀ d ∈ m, d ∈ ['r', 'u', 'b', 'f'] := by simp [markWords]
  exact fun c hc => hall _ h _ (List.mem_map_of_mem hc)

/-- The marks are all the letters in front of the quotes. -/
theorem optional_stringMark_append (h : marks.map Char.toLower ∈ markWords)
    (hq : Quoted.isQuote q = true) (r : List Char) :
    Lexeme.optional stringMark (marks ++ q :: r) = some marks.length := by
  have hquote : q.toLower = q ∧ q ≠ 'r' ∧ q ≠ 'u' ∧ q ≠ 'b' ∧ q ≠ 'f' := by
    rcases isQuote_cases hq with rfl | rfl <;> decide
  obtain ⟨hlower, hr, hu, hb, hf⟩ := hquote
  unfold Lexeme.optional stringMark
  rcases marks with _ | ⟨c, _ | ⟨d, _ | ⟨e, marks⟩⟩⟩
  · simp [orElse, andThen, letter, one, hlower, hr, hu, hb, hf]
  · simp only [markWords, List.map_cons, List.map_nil, List.mem_cons, List.cons.injEq, reduceCtorEq,
      List.not_mem_nil, and_true, and_false, false_or, or_false] at h
    rcases h with h | h | h | h <;> simp [orElse, andThen, letter, one, h, hlower, hr, hb, hf]
  · simp only [markWords, List.map_cons, List.map_nil, List.mem_cons, List.cons.injEq, reduceCtorEq,
      List.not_mem_nil, and_true, and_false, false_or, or_false] at h
    rcases h with h | h | h | h <;> simp [orElse, andThen, letter, one, h]
  · simp [markWords] at h

/-- One quote with no other behind it does not begin three. -/
theorem startsTriple_quote (hbody : body.head? ≠ some q) (d : Char) :
    startsTriple d (q :: (body ++ [q])) = false := by
  rw [startsTriple, ← Bool.not_eq_true, List.isPrefixOf_iff_prefix, List.cons_prefix_cons]
  rintro ⟨rfl, hlead⟩
  cases body with
  | nil => exact absurd hlead.length_le (by simp)
  | cons c r => exact hbody (congrArg some (List.cons_prefix_cons.mp hlead).1.symm)

theorem startsTriple_quotes (q : Char) (r : List Char) : startsTriple q (quotes q true ++ r) = true :=
  List.isPrefixOf_iff_prefix.mpr ⟨r, rfl⟩

/-- Three quotes open a body, or one if no quote follows it. -/
theorem isLiteral_quotes (hmarks : marks.map Char.toLower ∈ markWords) (hq : Quoted.isQuote q = true)
    (h : triple = true ∨ body.head? ≠ some q) :
    IsLiteral (marks ++ (quotes q triple ++ (body ++ quotes q triple))) marks q triple body where
  eq := rfl
  marks := isMark_of_mem_marks hmarks
  quote := hq
  count := by
    unfold Quoted.quoteCount
    cases triple with
    | true =>
      have hstart := startsTriple_quotes q (body ++ quotes q true)
      rcases isQuote_cases hq with rfl | rfl
      · rw [hstart, Bool.or_true]
        rfl
      · rw [hstart]
        rfl
    | false =>
      have hbody := h.resolve_left Bool.false_ne_true
      show (if (startsTriple '"' (q :: (body ++ [q])) || startsTriple '\'' (q :: (body ++ [q]))) = true
        then 3 else 1) = 1
      rw [startsTriple_quote hbody, startsTriple_quote hbody]
      rfl

/-- A literal is a string as far as its quotes close. -/
theorem quoted_quotes (hq : Quoted.isQuote q = true) (h : triple = true ∨ body.head? ≠ some q) :
    quoted (quotes q triple ++ (body ++ quotes q triple)) =
      ((if triple then closeTriple q else closeSingle q) (body ++ quotes q triple)).map
        (· + (quotes q triple).length) := by
  unfold quoted
  cases triple with
  | true =>
    rw [if_pos rfl]
    rcases isQuote_cases hq with rfl | rfl <;> rfl
  | false =>
    have hbody := h.resolve_left Bool.false_ne_true
    show (if startsTriple '"' (q :: (body ++ [q])) = true then _
      else if startsTriple '\'' (q :: (body ++ [q])) = true then _ else _) = _
    rw [startsTriple_quote hbody, startsTriple_quote hbody, if_neg Bool.false_ne_true,
      if_neg Bool.false_ne_true, if_neg Bool.false_ne_true]
    rcases isQuote_cases hq with rfl | rfl <;> rfl

theorem string_append (hmarks : marks.map Char.toLower ∈ markWords) (hq : Quoted.isQuote q = true)
    (hr : r.head? = some q) : Lexeme.string (marks ++ r) = (quoted r).map (marks.length + ·) := by
  obtain ⟨s, rfl⟩ := List.head?_eq_some_iff.mp hr
  rw [Lexeme.string, andThen, optional_stringMark_append hmarks hq]
  show (quoted ((marks ++ q :: s).drop marks.length)).bind _ = _
  rw [List.drop_left]
  cases quoted (q :: s) <;> rfl

end

end PythonSyntax
