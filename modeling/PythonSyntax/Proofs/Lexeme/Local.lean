import PythonSyntax.Proofs.Literal.Shape

/-
Lexemes of a text that is continued.

`Local m` says that a measure does not look past a line break.  Only an open quote does, and a
string, which closes where it did before.  So a text that ends in a line break keeps its lexemes
when it is continued, but for that line break itself: a carriage return takes a line feed after it.
-/

namespace PythonSyntax.Lexeme

variable {a b m : Measure} {x y : List Char}

/-! ## Local measures -/

/-- A text with a line break in it. -/
def Breaks (x : List Char) : Prop := ∃ c ∈ x, ¬ InLine c

/-- A measure measures the same piece when a text with a line break is continued. -/
def Local (m : Measure) : Prop := ∀ x y, Breaks x → m (x ++ y) = m x

theorem Breaks.tail {c : Char} {r : List Char} (h : Breaks (c :: r)) (hc : InLine c) :
    Breaks r := by
  obtain ⟨d, hd, hbreak⟩ := h
  rcases List.mem_cons.mp hd with rfl | hd
  · exact absurd hc hbreak
  · exact ⟨d, hd, hbreak⟩

/-- Beyond characters that break no line there is the line break still. -/
theorem Breaks.drop {n : Nat} (h : Breaks x) (hn : ∀ c ∈ x.take n, InLine c) :
    Breaks (x.drop n) ∧ n < x.length := by
  obtain ⟨c, hc, hbreak⟩ := h
  rw [← List.take_append_drop n x, List.mem_append] at hc
  have hdrop : c ∈ x.drop n := hc.resolve_left fun htake => hbreak (hn c htake)
  have hlength := List.length_pos_of_mem hdrop
  rw [List.length_drop] at hlength
  exact ⟨⟨c, hdrop, hbreak⟩, by omega⟩

theorem local_one (p : Char → Bool) : Local (one p) := by
  intro x y h
  cases x with
  | nil =>
    obtain ⟨c, hc, -⟩ := h
    exact nomatch hc
  | cons c r => rfl

theorem Local.andThen (hin : Within InLine a) (ha : Local a) (hb : Local b) :
    Local (andThen a b) := by
  intro x y h
  unfold Lexeme.andThen
  rw [ha x y h]
  cases hi : a x with
  | none => rfl
  | some i =>
    obtain ⟨hdrop, hlt⟩ := h.drop (hin x i hi)
    show (do
      let j ← b ((x ++ y).drop i)
      some (i + j)) = _
    rw [List.drop_append_of_le_length (Nat.le_of_lt hlt), hb _ y hdrop]
    rfl

theorem Local.orElse (ha : Local a) (hb : Local b) : Local (orElse a b) := by
  intro x y h
  unfold Lexeme.orElse
  rw [ha x y h, hb x y h]

theorem Local.optional (ha : Local a) : Local (optional a) := by
  intro x y h
  unfold Lexeme.optional
  rw [ha x y h]

theorem takeWhile_append {p : Char → Bool} (hp : ∀ c, p c = true → InLine c) (h : Breaks x) :
    (x ++ y).takeWhile p = x.takeWhile p := by
  rw [List.takeWhile_append, if_neg]
  intro hall
  obtain ⟨c, hc, hbreak⟩ := h
  rw [← (List.takeWhile_prefix p).eq_of_length hall] at hc
  exact hbreak (hp c (List.mem_takeWhile_imp hc))

theorem local_run {p : Char → Bool} (hp : ∀ c, p c = true → InLine c) : Local (run p) := by
  intro x y h
  unfold run
  rw [takeWhile_append hp h]

/-- A word within a line is at the front of a text or not, whatever follows the line. -/
theorem isPrefixOf_append {w : List Char} (hw : ∀ c ∈ w, InLine c) (h : Breaks x) :
    w.isPrefixOf (x ++ y) = w.isPrefixOf x := by
  rw [Bool.eq_iff_iff, List.isPrefixOf_iff_prefix, List.isPrefixOf_iff_prefix]
  refine ⟨fun hxy => ?_, fun hx => hx.trans (List.prefix_append x y)⟩
  refine (List.prefix_or_prefix_of_prefix hxy (List.prefix_append x y)).resolve_right fun hall => ?_
  obtain ⟨c, hc, hbreak⟩ := h
  exact hbreak (hw c (hall.subset hc))

theorem local_exactly {w : List Char} (hw : ∀ c ∈ w, InLine c) : Local (exactly w) := by
  intro x y h
  unfold exactly
  rw [isPrefixOf_append hw h]

/-! ## Pieces of one line -/

theorem local_digitsAfter {p : Char → Bool} (hp : ∀ c, p c = true → InLine c) (h : Breaks x) :
    digitsAfter p (x ++ y) = digitsAfter p x := by
  induction x using digitsAfter.induct p with
  | case1 =>
    obtain ⟨c, hc, -⟩ := h
    cases hc
  | case2 c r hc ih =>
    rw [List.cons_append, digitsAfter_digit hc, digitsAfter_digit hc, ih (h.tail (hp c hc))]
  | case3 hu =>
    obtain ⟨c, hc, -⟩ := h.tail (c := '_') (by unfold InLine; decide)
    cases hc
  | case4 d r hd hu ih =>
    have hr := (h.tail (c := '_') (by unfold InLine; decide)).tail (hp d hd)
    rw [List.cons_append, List.cons_append, digitsAfter_joined hu, digitsAfter_joined hu, ih hr]
  | case5 d r hd hu =>
    rw [List.cons_append, List.cons_append, digitsAfter_joined hu, digitsAfter_joined hu, if_neg hd,
      if_neg hd]
  | case6 c r hc hu =>
    rw [List.cons_append, digitsAfter_other hc hu, digitsAfter_other hc hu]

theorem local_digits : Local digits :=
  Local.andThen (within_class (by decide)).inLine (local_one _) fun _ _ h =>
    congrArg some (local_digitsAfter (inLine_of_class (by decide) (by decide)) h)

theorem local_based {mark : Char} {p : Char → Bool} (hm : Within InLine (letter mark))
    (hn : p '\n' = false) (hr : p '\r' = false) : Local (based mark p) := by
  refine Local.andThen (within_class (by decide)).inLine (local_one _) ?_
  refine Local.andThen hm (local_one _) fun x y h => ?_
  rw [local_digitsAfter (inLine_of_class hn hr) h]

theorem local_exponent : Local exponent :=
  Local.andThen (within_class (by decide)).inLine (local_one _) <|
    Local.andThen (within_class (by decide)).inLine.optional (local_one _).optional
      local_digits

theorem local_float : Local float := by
  have hpoint : Within InLine (one (· == '.')) := (within_class (by decide)).inLine
  have hpointed : Local pointed :=
    (Local.andThen within_digits.inLine.optional local_digits.optional
      (Local.andThen hpoint (local_one _) local_digits)).orElse
      (Local.andThen within_digits.inLine local_digits (local_one _))
  exact (Local.andThen within_pointed.inLine hpointed local_exponent.optional).orElse
    (Local.andThen within_digits.inLine local_digits local_exponent)

theorem local_number : Local number := by
  have hx : Within InLine (letter 'x') := (within_class (by decide)).inLine
  have ho : Within InLine (letter 'o') := (within_class (by decide)).inLine
  have hb : Within InLine (letter 'b') := (within_class (by decide)).inLine
  exact (Local.andThen (within_float.orElse within_digits).inLine (local_float.orElse local_digits)
      (local_one _)).orElse <|
    (local_based hx (by decide) (by decide)).orElse <|
    (local_based ho (by decide) (by decide)).orElse <|
    (local_based hb (by decide) (by decide)).orElse <| local_float.orElse local_digits

theorem local_name : Local name := by
  intro x y h
  cases x with
  | nil =>
    obtain ⟨c, hc, -⟩ := h
    exact nomatch hc
  | cons c r =>
    show (if _ then some (((r ++ y).takeWhile _).length + 1) else none) = name (c :: r)
    rw [name]
    split
    · next hc =>
      have hstart : InLine c := (clear_of_class isIdentifierStart_stops c hc).inLine
      rw [takeWhile_append (fun d hd => (clear_of_class isIdentifierContinue_stops d hd).inLine)
        (h.tail hstart)]
    · rfl

theorem local_op : Local op := by
  intro x y h
  have hfind : ∀ ws : List (List Char), (∀ w ∈ ws, ∀ c ∈ w, InLine c) →
      ws.find? (·.isPrefixOf (x ++ y)) = ws.find? (·.isPrefixOf x) := by
    intro ws hws
    induction ws with
    | nil => rfl
    | cons w ws ih =>
      rw [List.forall_mem_cons] at hws
      rw [List.find?_cons, List.find?_cons, isPrefixOf_append hws.1 h, ih hws.2]
  unfold op
  rw [hfind operators inLine_operators]

theorem local_blank : Local blank := local_run (inLine_of_class (by decide) (by decide))

theorem local_comment : Local comment := by
  intro x y h
  cases x with
  | nil =>
    obtain ⟨c, hc, -⟩ := h
    exact nomatch hc
  | cons c r =>
    by_cases hc : c = '#'
    · subst hc
      show some (((r ++ y).takeWhile _).length + 1) = some ((r.takeWhile _).length + 1)
      rw [takeWhile_append (inLine_of_class (by decide) (by decide))
        (h.tail (by unfold InLine; decide))]
    · simp [comment, hc]

/-! ## Strings -/

theorem local_marks : Local (optional stringMark) := by
  have hletter : ∀ d ∈ ['r', 'u', 'b', 'f'], Within InLine (letter d) := by
    intro d hd
    refine within_one fun c hc => inLine_of_isMark ?_
    rw [IsMark, beq_iff_eq.mp hc]
    exact hd
  have htwo : ∀ d ∈ ['r', 'u', 'b', 'f'], ∀ e, Local (andThen (letter d) (letter e)) :=
    fun d hd e => Local.andThen (hletter d hd) (local_one _) (local_one _)
  exact Local.optional <| (htwo 'r' (by decide) 'b').orElse <| (htwo 'b' (by decide) 'r').orElse <|
    (htwo 'f' (by decide) 'r').orElse <| (htwo 'r' (by decide) 'f').orElse <| local_one _

theorem inLine_quotes {q : Char} (hq : q = '"' ∨ q = '\'') : ∀ c ∈ [q, q, q], InLine c := by
  rcases hq with rfl | rfl <;> simp [InLine]

theorem local_openQuote : Local openQuote :=
  Local.andThen (within_marks.mono fun _ => inLine_of_isMark) local_marks <|
    (local_exactly (inLine_quotes (.inl rfl))).orElse <|
    (local_exactly (inLine_quotes (.inr rfl))).orElse <| local_one _

/-- Three quotes are looked for in a text that has room for them. -/
theorem startsTriple_append {q : Char} (y : List Char) (h : 3 ≤ x.length) :
    startsTriple q (x ++ y) = startsTriple q x := by
  obtain ⟨c, d, e, r, rfl⟩ : ∃ c d e r, x = c :: d :: e :: r := by
    match x, h with
    | c :: d :: e :: r, _ => exact ⟨c, d, e, r, rfl⟩
  rfl

/-- Where triple quotes close there is room for them, and they are taken. -/
theorem three_le_of_closeTriple {q : Char} {n : Nat} (h : closeTriple q x = some n) :
    3 ≤ n ∧ 3 ≤ x.length := by
  obtain ⟨body, hbody⟩ := closeTriple_shape h
  have hlength := congrArg List.length hbody
  rw [List.length_take, List.length_append] at hlength
  simp at hlength
  omega

theorem closeTriple_append {q : Char} {n : Nat} (y : List Char) (h : closeTriple q x = some n) :
    closeTriple q (x ++ y) = some n := by
  induction x using closeTriple.induct q generalizing n with
  | case1 => cases h
  | case2 => cases h
  | case3 d r ih =>
    rw [closeTriple_escape] at h
    obtain ⟨m, hm, rfl⟩ := Option.map_eq_some_iff.mp h
    rw [List.cons_append, List.cons_append, closeTriple_escape, ih hm]
    rfl
  | case4 c r hc hstart =>
    rw [closeTriple_start hc hstart] at h
    have hlead := (List.isPrefixOf_iff_prefix.mp hstart).trans (List.prefix_append (c :: r) y)
    rw [← h]
    exact closeTriple_start hc (List.isPrefixOf_iff_prefix.mpr hlead)
  | case5 c r hc hstart ih =>
    rw [closeTriple_cons hc hstart] at h
    obtain ⟨m, hm, rfl⟩ := Option.map_eq_some_iff.mp h
    have hlength := (three_le_of_closeTriple hm).2
    have hstart' : ¬ startsTriple q ((c :: r) ++ y) = true := by
      rwa [startsTriple_append y (by rw [List.length_cons]; omega)]
    refine (closeTriple_cons hc hstart').trans ?_
    rw [List.append_eq, ih hm]
    rfl

theorem closeSingle_append {q : Char} {n : Nat} (y : List Char) (h : closeSingle q x = some n) :
    closeSingle q (x ++ y) = some n := by
  induction x using closeSingle.induct q generalizing n with
  | case1 => cases h
  | case2 => cases h
  | case3 d r ih =>
    rw [closeSingle_escape] at h
    obtain ⟨m, hm, rfl⟩ := Option.map_eq_some_iff.mp h
    rw [List.cons_append, List.cons_append, closeSingle_escape, ih hm]
    rfl
  | case4 r hne =>
    rw [closeSingle_quote hne] at h
    exact (closeSingle_quote hne _).trans h
  | case5 c r hc hne hbreak =>
    rw [closeSingle_break hc hne hbreak] at h
    cases h
  | case6 c r hc hne hbreak ih =>
    rw [closeSingle_cons hc hne hbreak] at h
    obtain ⟨m, hm, rfl⟩ := Option.map_eq_some_iff.mp h
    rw [List.cons_append, closeSingle_cons hc hne hbreak, ih hm]
    rfl

/-- A quoted part is closed where it was before, if the quotes at its front are the same. -/
theorem quoted_append {n : Nat}
    (htriple : ∀ q, q = '"' ∨ q = '\'' → startsTriple q (x ++ y) = startsTriple q x)
    (h : quoted x = some n) : quoted (x ++ y) = some n := by
  have hdrop : ∀ {q}, startsTriple q x = true → (x ++ y).drop 3 = x.drop 3 ++ y := fun hstart =>
    List.drop_append_of_le_length (List.isPrefixOf_iff_prefix.mp hstart).length_le
  unfold quoted at h ⊢
  rw [htriple _ (.inl rfl), htriple _ (.inr rfl)]
  split
  · next hstart =>
    rw [if_pos hstart] at h
    obtain ⟨m, hm, rfl⟩ := Option.map_eq_some_iff.mp h
    rw [hdrop hstart, closeTriple_append y hm]
    rfl
  · next hdouble =>
    rw [if_neg hdouble] at h
    split
    · next hstart =>
      rw [if_pos hstart] at h
      obtain ⟨m, hm, rfl⟩ := Option.map_eq_some_iff.mp h
      rw [hdrop hstart, closeTriple_append y hm]
      rfl
    · next hsingle =>
      rw [if_neg hsingle] at h
      split at h
      · obtain ⟨m, hm, rfl⟩ := Option.map_eq_some_iff.mp h
        exact congrArg (Option.map (· + 1)) (closeSingle_append y hm)
      · obtain ⟨m, hm, rfl⟩ := Option.map_eq_some_iff.mp h
        exact congrArg (Option.map (· + 1)) (closeSingle_append y hm)
      · exact nomatch h

theorem string_append {n : Nat} (hx : Breaks x) (h : Lexeme.string x = some n) :
    Lexeme.string (x ++ y) = some n := by
  obtain ⟨i, j, hi, hj, rfl⟩ := andThen_eq_some.mp h
  obtain ⟨hdrop, hlt⟩ := hx.drop fun c hc => inLine_of_isMark (within_marks x i hi c hc)
  refine andThen_eq_some.mpr ⟨i, j, (local_marks x y hx).trans hi, ?_, rfl⟩
  rw [List.drop_append_of_le_length (Nat.le_of_lt hlt)]
  exact quoted_append (fun q hq => isPrefixOf_append (inLine_quotes hq) hdrop) hj

/-- Where there is a string, its opening quote could be taken alone. -/
theorem openQuote_ne_none {n : Nat} (h : Lexeme.string x = some n) : openQuote x ≠ none := by
  obtain ⟨i, j, hi, hj, -⟩ := andThen_eq_some.mp h
  obtain ⟨q, triple, body, hshape, hquote, -⟩ := quoted_shape hj
  obtain ⟨r, hr⟩ : ∃ r, x.drop i = q :: r := by
    cases hx : x.drop i with
    | nil => 
      rw [hx] at hj
      exact nomatch hj
    | cons c r =>
      rw [hx] at hshape
      cases j with
      | zero => cases triple <;> exact nomatch hshape
      | succ j => cases triple <;> exact ⟨r, by rw [(List.cons.inj hshape).1]⟩
  have hone : one (fun c => c == '"' || c == '\'') (x.drop i) = some 1 := by
    rw [hr, one, if_pos]
    rw [Quoted.isQuote, Bool.or_comm] at hquote
    exact hquote
  intro hnone
  unfold openQuote Lexeme.andThen Lexeme.orElse at hnone
  rw [hi] at hnone
  simp [hone] at hnone

/-! ## The piece at the front -/

section

variable {s t : List Char}

/-- A measure finds in the text `t` what it finds in `s`, if that is nothing or a length with `P`. -/
def Carries (P : Nat → Prop) (m : Measure) (s t : List Char) : Prop :=
  (m s = none → m t = none) ∧ ∀ n, m s = some n → P n → m t = some n

theorem carries_of_eq {P : Nat → Prop} (h : m t = m s) : Carries P m s t := by
  rw [Carries, h]
  exact ⟨id, fun _ hn _ => hn⟩

/-- The first of some measures is the first in another text, if each finds there what it finds
here. -/
theorem findSome?_carries {P : LexemeKind → Nat → Prop} {ms : List (LexemeKind × Measure)}
    (h : ∀ km ∈ ms, Carries (P km.1) km.2 s t) :
    ((ms.findSome? fun km => (km.2 s).map fun n => (km.1, n)) = none →
      (ms.findSome? fun km => (km.2 t).map fun n => (km.1, n)) = none) ∧
    ∀ kind n, (ms.findSome? fun km => (km.2 s).map fun n => (km.1, n)) = some (kind, n) →
      P kind n →
      (ms.findSome? fun km => (km.2 t).map fun n => (km.1, n)) = some (kind, n) := by
  induction ms with
  | nil => exact ⟨id, nofun⟩
  | cons km ms ih =>
    rw [List.forall_mem_cons] at h
    obtain ⟨ihnone, ihsome⟩ := ih h.2
    simp only [List.findSome?_cons]
    cases hkm : km.2 s with
    | none =>
      rw [h.1.1 hkm]
      exact ⟨ihnone, ihsome⟩
    | some k =>
      refine ⟨nofun, fun kind n hn hP => ?_⟩
      cases hn
      rw [h.1.2 k hkm hP]
      rfl

/-- The piece at the front of a text is at the front of another one too, if it is no open quote and
each kind finds there what it finds here. -/
theorem front?_carries {P : LexemeKind → Nat → Prop}
    (hbefore : ∀ km ∈ kindsBefore, Carries (P km.1) km.2 s t)
    (hstring : ∀ n, Lexeme.string s = some n → P .string n → Lexeme.string t = some n)
    (hafter : ∀ km ∈ kindsAfter, Carries (P km.1) km.2 s t) {kind : LexemeKind} {n : Nat}
    (h : front? s = some (kind, n)) (hkind : kind ≠ .openQuote) (hn : P kind n) :
    front? t = some (kind, n) := by
  obtain ⟨hbeforeNone, hbeforeSome⟩ := findSome?_carries hbefore
  rw [front?_eq] at h ⊢
  rcases Option.or_eq_some_iff.mp h with hfirst | ⟨hnone, h⟩
  · rw [hbeforeSome kind n hfirst hn]
    rfl
  · rw [hbeforeNone hnone, Option.none_or]
    rcases Option.or_eq_some_iff.mp h with hfound | ⟨-, hlast⟩
    · obtain ⟨k, hk, heq⟩ := Option.map_eq_some_iff.mp hfound
      obtain ⟨rfl, rfl⟩ := Prod.mk.inj heq
      rw [hstring k hk hn]
      rfl
    · -- no quote opens in `s`, so none opens in `t`, where then is no string either
      have hquote : openQuote s = none := by
        cases hquote : openQuote s with
        | none => rfl
        | some k =>
          simp only [kindsAfter, List.findSome?_cons, hquote, Option.map_some] at hlast
          cases hlast
          exact absurd rfl hkind
      have hopen : openQuote t = none :=
        (hafter (.openQuote, openQuote) List.mem_cons_self).1 hquote
      have hnostring : Lexeme.string t = none := by
        cases hsome : Lexeme.string t with
        | none => rfl
        | some k => exact absurd hopen (openQuote_ne_none hsome)
      rw [hnostring, (findSome?_carries hafter).2 kind n hlast hn]
      rfl

end

/-- The outcome of a measure stays when the text `x` is continued with `y`, if the piece ends before
`x` does. -/
def Stays (x y : List Char) (m : Measure) : Prop :=
  (m x = none → m (x ++ y) = none) ∧
    ∀ n, m x = some n → n < x.length → m (x ++ y) = some n

theorem Local.stays (h : Local m) (hx : Breaks x) : Stays x y m := carries_of_eq (h x y hx)

theorem lineBreak_other {c : Char} (hc : InLine c) (r : List Char) : lineBreak (c :: r) = none := by
  unfold lineBreak
  split
  · next heq => exact absurd (List.cons.inj heq).1 hc.2
  · next heq => exact absurd (List.cons.inj heq).1 hc.1
  · next heq => exact absurd (List.cons.inj heq).1 hc.2
  · rfl

theorem lineBreak_carriageReturn {d : Char} (hd : d ≠ '\n') (r : List Char) :
    lineBreak ('\r' :: d :: r) = some 1 := by
  simp [lineBreak, hd]

theorem stays_lineBreak (hx : x ≠ []) : Stays x y lineBreak := by
  obtain ⟨c, r, rfl⟩ := List.exists_cons_of_ne_nil hx
  by_cases hc : InLine c
  · rw [Stays, lineBreak_other hc, List.cons_append, lineBreak_other hc]
    exact ⟨fun _ => rfl, nofun⟩
  · obtain rfl | rfl : c = '\n' ∨ c = '\r' := by
      unfold InLine at hc
      tauto
    · exact ⟨nofun, fun n hn _ => hn⟩
    · cases r with
      | nil => exact ⟨nofun, fun n hn hlt => by cases hn; exact absurd hlt (by decide)⟩
      | cons d r =>
        by_cases hd : d = '\n'
        · subst hd
          exact ⟨nofun, fun n hn _ => hn⟩
        · rw [Stays, lineBreak_carriageReturn hd, List.cons_append, List.cons_append,
            lineBreak_carriageReturn hd]
          exact ⟨nofun, fun n hn _ => hn⟩

theorem continuation_cons (r : List Char) :
    continuation ('\\' :: r) = (lineBreak r).map (1 + ·) := by
  show (lineBreak r).bind _ = _
  cases lineBreak r <;> rfl

theorem continuation_other {c : Char} (hc : c ≠ '\\') (r : List Char) :
    continuation (c :: r) = none := by
  simp [continuation, andThen, one, hc]

/-- A line break is hidden where it was before, if there is more than the backslash. -/
theorem stays_continuation_cons {c : Char} {r : List Char} (hr : c = '\\' → r ≠ []) :
    Stays (c :: r) y continuation := by
  by_cases hc : c = '\\'
  · subst hc
    obtain ⟨hnone, hsome⟩ := stays_lineBreak (y := y) (hr rfl)
    rw [Stays, List.cons_append, continuation_cons, continuation_cons]
    constructor
    · rw [Option.map_eq_none_iff, Option.map_eq_none_iff]
      exact hnone
    · intro n hn hlt
      obtain ⟨k, hk, rfl⟩ := Option.map_eq_some_iff.mp hn
      rw [hsome k hk (by rw [List.length_cons] at hlt; omega)]
      rfl
  · rw [Stays, List.cons_append, continuation_other hc, continuation_other hc]
    exact ⟨id, nofun⟩

theorem stays_continuation (hx : Breaks x) : Stays x y continuation := by
  cases x with
  | nil =>
    obtain ⟨c, hc, -⟩ := hx
    exact nomatch hc
  | cons c r =>
    refine stays_continuation_cons ?_
    rintro rfl rfl
    obtain ⟨c, hc, -⟩ := hx.tail (by unfold InLine; decide)
    exact nomatch hc

theorem stays_before (hx : Breaks x) : ∀ km ∈ kindsBefore, Stays x y km.2 := by
  have hne : x ≠ [] := by
    obtain ⟨c, hc, -⟩ := hx
    exact List.ne_nil_of_mem hc
  simp only [kindsBefore, List.forall_mem_cons, List.not_mem_nil, false_imp_iff, implies_true,
    and_true]
  exact ⟨stays_continuation hx, stays_lineBreak hne, local_blank.stays hx, local_comment.stays hx⟩

theorem stays_after (hx : Breaks x) : ∀ km ∈ kindsAfter, Stays x y km.2 := by
  simp only [kindsAfter, List.forall_mem_cons, List.not_mem_nil, false_imp_iff, implies_true,
    and_true]
  exact ⟨local_openQuote.stays hx, local_number.stays hx, local_name.stays hx, local_op.stays hx,
    (local_one _).stays hx⟩

/-- The piece at the front of a text stays when the text is continued, if it ends before a line
break does and is no open quote. -/
theorem front?_append {kind : LexemeKind} {n : Nat} (hx : Breaks x)
    (h : front? x = some (kind, n)) (hkind : kind ≠ .openQuote) (hn : n < x.length) :
    front? (x ++ y) = some (kind, n) :=
  front?_carries (P := fun _ k => k < x.length) (stays_before hx)
    (fun _ hk _ => string_append hx hk) (stays_after hx) h hkind hn

/-! ## Texts -/

/-- A text that ends in a line break keeps its other lexemes when it is continued. -/
theorem lexemes_append {x : List Char} {pre : List Lexeme} {last : Lexeme}
    (h : lexemes x = pre ++ [last]) (hlast : Breaks last.text)
    (hpre : ∀ l ∈ pre, l.kind ≠ .openQuote) (y : List Char) :
    lexemes (x ++ y) = pre ++ lexemes (last.text ++ y) := by
  induction pre generalizing x with
  | nil =>
    have htext := flatten_lexemes x
    rw [h] at htext
    rw [← htext]
    simp
  | cons l pre ih =>
    cases x with
    | nil => exact nomatch h
    | cons c r =>
      cases hfront : front? (c :: r) with
      | none => exact absurd hfront (front_ne_none c r)
      | some kn =>
        obtain ⟨kind, n⟩ := kn
        rw [lexemes_of_front hfront] at h
        obtain ⟨rfl, hrest⟩ := List.cons.inj h
        rw [List.forall_mem_cons] at hpre
        have hrest : lexemes ((c :: r).drop n) = pre ++ [last] := hrest
        have htext := flatten_lexemes ((c :: r).drop n)
        rw [hrest, List.map_append, List.flatten_append, List.map_singleton,
          List.flatten_singleton] at htext
        obtain ⟨d, hd, hbreak⟩ := hlast
        have hmem : d ∈ (c :: r).drop n := htext ▸ List.mem_append_right _ hd
        have hlt : n < (c :: r).length := by
          have := List.length_pos_of_mem hmem
          rw [List.length_drop] at this
          omega
        have hfront' := front?_append (y := y) ⟨d, List.mem_of_mem_drop hmem, hbreak⟩ hfront
          hpre.1 hlt
        rw [lexemes_of_front hfront', List.take_append_of_le_length (Nat.le_of_lt hlt),
          List.drop_append_of_le_length (Nat.le_of_lt hlt), ih hrest hpre.2]
        rfl

theorem front?_of_lineBreak {s : List Char} {n : Nat} (h : lineBreak s = some n) :
    front? s = some (.lineBreak, n) := by
  have hnone : continuation s = none := by
    cases s with
    | nil => rfl
    | cons c r =>
      refine continuation_other ?_ r
      rintro rfl
      rw [lineBreak_other (by unfold InLine; decide)] at h
      exact nomatch h
  rw [front?_eq, kindsBefore, List.findSome?_cons]
  simp only [hnone, h, Option.map_none, Option.map_some, List.findSome?_cons]
  rfl

theorem lineBreak_of_front? {s : List Char} {n : Nat} (h : front? s = some (.lineBreak, n)) :
    lineBreak s = some n := by
  obtain ⟨⟨kind, m⟩, hkm, hm⟩ := List.exists_of_findSome?_eq_some h
  obtain ⟨k, hk, heq⟩ := Option.map_eq_some_iff.mp hm
  obtain ⟨rfl, rfl⟩ := Prod.mk.inj heq
  have hm : m = lineBreak := by simpa [kinds] using hkm
  rw [← hm]
  exact hk

/-- A line break is a line feed, a carriage return, or the pair. -/
theorem lineBreak_text {s : List Char} {n : Nat} (h : lineBreak s = some n) :
    s.take n = ['\n'] ∨ s.take n = ['\r'] ∨ s.take n = ['\r', '\n'] := by
  unfold lineBreak at h
  split at h
  · cases h
    exact .inr (.inr rfl)
  · cases h
    exact .inl rfl
  · cases h
    exact .inr (.inl rfl)
  · exact nomatch h

/-- The text of a lexeme that is a line break. -/
theorem text_of_lineBreak {s : List Char} {l : Lexeme} (h : l ∈ lexemes s)
    (hl : l.kind = .lineBreak) : l.text = ['\n'] ∨ l.text = ['\r'] ∨ l.text = ['\r', '\n'] := by
  obtain ⟨pre, post, hsplit⟩ := List.append_of_mem h
  have hrest := lexemes_of_append hsplit
  generalize ((l :: post).map Lexeme.text).flatten = r at hrest
  cases hfront : front? r with
  | none =>
    cases r with
    | nil => exact nomatch hrest
    | cons c r => exact absurd hfront (front_ne_none c r)
  | some kn =>
    rw [lexemes_of_front hfront] at hrest
    obtain ⟨rfl, -⟩ := List.cons.inj hrest
    obtain ⟨kind, n⟩ := kn
    obtain rfl : kind = .lineBreak := hl
    exact lineBreak_text (lineBreak_of_front? hfront)

/-- A text that ends in a line break keeps its lexemes when it is continued with `y`, and so does
`y`.  Only a line feed after a carriage return is no line break of its own then. -/
theorem lexemes_continued {x text : List Char} {pre : List Lexeme}
    (h : lexemes x = pre ++ [⟨.lineBreak, text⟩]) (hpre : ∀ l ∈ pre, l.kind ≠ .openQuote)
    (y : List Char) :
    ∃ text' skipped ls, text.length ≤ text'.length ∧ (∀ l ∈ skipped, l.kind = .lineBreak) ∧
      lexemes y = skipped ++ ls ∧ lexemes (x ++ y) = pre ++ ⟨.lineBreak, text'⟩ :: ls := by
  have hmem : ⟨.lineBreak, text⟩ ∈ lexemes x := by
    rw [h]
    exact List.mem_append_right _ List.mem_cons_self
  have htext := text_of_lineBreak hmem rfl
  dsimp only at htext
  have hbreaks : Breaks text := by
    rcases htext with rfl | rfl | rfl
    all_goals exact ⟨_, List.mem_cons_self, by unfold InLine; decide⟩
  have hgoes : ∀ n, lineBreak (text ++ y) = some n →
      lexemes (x ++ y) = pre ++ ⟨.lineBreak, (text ++ y).take n⟩ :: lexemes ((text ++ y).drop n) := by
    intro n hn
    rw [lexemes_append h hbreaks hpre y, lexemes_of_front (front?_of_lineBreak hn)]
  rcases htext with rfl | rfl | rfl
  · exact ⟨['\n'], [], _, Nat.le_refl _, nofun, rfl, hgoes 1 rfl⟩
  · by_cases hy : ∃ r, y = '\n' :: r
    · obtain ⟨r, rfl⟩ := hy
      have hfirst : front? ('\n' :: r) = some (.lineBreak, 1) := front?_of_lineBreak rfl
      exact ⟨['\r', '\n'], [⟨.lineBreak, ['\n']⟩], lexemes r, by decide, by simp,
        lexemes_of_front hfirst, hgoes 2 rfl⟩
    · refine ⟨['\r'], [], _, Nat.le_refl _, nofun, rfl, hgoes 1 ?_⟩
      cases y with
      | nil => rfl
      | cons d r => exact lineBreak_carriageReturn (fun hd => hy ⟨r, by rw [hd]⟩) r
  · exact ⟨['\r', '\n'], [], _, Nat.le_refl _, nofun, rfl, hgoes 2 rfl⟩

end PythonSyntax.Lexeme
