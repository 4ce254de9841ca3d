import PythonSyntax.Proofs.Lexeme.Bound
import PythonSyntax.Proofs.Lexeme.Local

/-
A text before a seal.

Blanks, line breaks, number signs, semicolons and closing brackets are in no number and no name, and
no operator goes on with one; nor does a quote follow a seal.  So a text whose last piece is a token
keeps its lexemes when a seal follows it, whatever comes after.  Blanks and comments take more than
that, and so they may not be the last.
-/

namespace PythonSyntax

/-- Whether the pieces of a kind become tokens with text. -/
def LexemeKind.isContent : LexemeKind → Bool
  | string | number | name | op => true
  | continuation | lineBreak | blank | comment | openQuote | stray => false

namespace Lexeme

variable {a b m : Measure} {x y : List Char} {c : Char}

/-! ## Measures that a seal ends -/

/-- A measure measures the same piece before a character, whatever follows. -/
def Sealed (c : Char) (m : Measure) : Prop := ∀ x r, m (x ++ c :: r) = m x

theorem sealed_one {p : Char → Bool} (hp : p c = false) : Sealed c (one p) := by
  intro x r
  cases x with
  | nil =>
    rw [List.nil_append, one, hp]
    rfl
  | cons d x => rfl

theorem Sealed.andThen (hle : Bounded a) (ha : Sealed c a) (hb : Sealed c b) :
    Sealed c (andThen a b) := by
  intro x r
  unfold Lexeme.andThen
  rw [ha x r]
  cases hi : a x with
  | none => rfl
  | some i =>
    show (do
      let j ← b ((x ++ c :: r).drop i)
      some (i + j)) = _
    rw [List.drop_append_of_le_length (hle x i hi), hb]
    rfl

theorem Sealed.orElse (ha : Sealed c a) (hb : Sealed c b) : Sealed c (orElse a b) := by
  intro x r
  unfold Lexeme.orElse
  rw [ha x r, hb x r]

theorem Sealed.optional (ha : Sealed c a) : Sealed c (optional a) := by
  intro x r
  unfold Lexeme.optional
  rw [ha x r]

theorem takeWhile_sealed {p : Char → Bool} (hp : p c = false) (x r : List Char) :
    (x ++ c :: r).takeWhile p = x.takeWhile p := by
  rw [List.takeWhile_append]
  split
  · next hall =>
    have heq := (List.takeWhile_prefix p).eq_of_length hall
    rw [List.takeWhile_cons_of_neg (by rw [hp]; exact Bool.false_ne_true), List.append_nil, heq]
  · rfl

theorem sealed_run {p : Char → Bool} (hp : p c = false) : Sealed c (run p) := by
  intro x r
  unfold run
  rw [takeWhile_sealed hp]

/-- A word without the character that follows a text is at its front or not, whatever comes after. -/
theorem isPrefixOf_sealed {w : List Char} (hw : c ∉ w) (x r : List Char) :
    w.isPrefixOf (x ++ c :: r) = w.isPrefixOf x := by
  rw [Bool.eq_iff_iff, List.isPrefixOf_iff_prefix, List.isPrefixOf_iff_prefix]
  refine ⟨fun h => ?_, fun h => h.trans (List.prefix_append x _)⟩
  rcases List.prefix_or_prefix_of_prefix h (List.prefix_append x _) with hx | ⟨w', rfl⟩
  · exact hx
  · cases w' with
    | nil => simp
    | cons d w' =>
      have htail : d :: w' <+: c :: r := (List.prefix_append_right_inj x).mp h
      rw [List.cons_prefix_cons] at htail
      exact absurd (by simp [htail.1]) hw

theorem sealed_exactly {w : List Char} (hw : c ∉ w) : Sealed c (exactly w) := by
  intro x r
  unfold exactly
  rw [isPrefixOf_sealed hw]

/-! ## Numbers -/

theorem digitsAfter_sealed {p : Char → Bool} (hp : p c = false) (hu : c ≠ '_') (x r : List Char) :
    digitsAfter p (x ++ c :: r) = digitsAfter p x := by
  induction x using digitsAfter.induct p with
  | case1 => exact digitsAfter_other (by rw [hp]; exact Bool.false_ne_true) hu
  | case2 d x hd ih => rw [List.cons_append, digitsAfter_digit hd, digitsAfter_digit hd, ih]
  | case3 hn =>
    rw [List.cons_append, List.nil_append, digitsAfter_joined hn, hp, digitsAfter_last hn]
    rfl
  | case4 d x hd hn ih =>
    rw [List.cons_append, List.cons_append, digitsAfter_joined hn, digitsAfter_joined hn, ih]
  | case5 d x hd hn =>
    rw [List.cons_append, List.cons_append, digitsAfter_joined hn, digitsAfter_joined hn,
      if_neg hd, if_neg hd]
  | case6 d x hd hn =>
    rw [List.cons_append, digitsAfter_other hd hn, digitsAfter_other hd hn]

theorem sealed_digits (hd : c.isDigit = false) (hu : c ≠ '_') : Sealed c digits :=
  (sealed_one hd).andThen (bounded_one _) fun x r => congrArg some (digitsAfter_sealed hd hu x r)

theorem sealed_based {mark : Char} {p : Char → Bool} (hzero : Sealed c (one (· == '0')))
    (hm : Sealed c (letter mark)) (hp : p c = false) (hu : c ≠ '_') :
    Sealed c (based mark p) := by
  refine hzero.andThen (bounded_one _) (hm.andThen (bounded_one _) fun x r => ?_)
  rw [digitsAfter_sealed hp hu]

/-- Whether a character may stand in a number with a point or an exponent. -/
def inFloat (c : Char) : Bool :=
  c.isDigit || c == '_' || c == '.' || c == '+' || c == '-' || c.toLower == 'e'

theorem sealed_float (h : inFloat c = false) : Sealed c float := by
  simp only [inFloat, Bool.or_eq_false_iff, beq_eq_false_iff_ne] at h
  obtain ⟨⟨⟨⟨⟨hdigit, hunderscore⟩, hpoint⟩, hplus⟩, hminus⟩, he⟩ := h
  have hdigits := sealed_digits hdigit hunderscore
  have hpoint : Sealed c (one (· == '.')) := sealed_one (beq_false_of_ne hpoint)
  have hsign : Sealed c (one fun d => d == '+' || d == '-') :=
    sealed_one (Bool.or_eq_false_iff.mpr ⟨beq_false_of_ne hplus, beq_false_of_ne hminus⟩)
  have hletter : Sealed c (letter 'e') := sealed_one (beq_false_of_ne he)
  have hexponent : Sealed c exponent :=
    hletter.andThen (bounded_one _) (hsign.optional.andThen (bounded_one _).optional hdigits)
  have hpointed : Sealed c pointed :=
    (hdigits.optional.andThen bounded_digits.optional
      (hpoint.andThen (bounded_one _) hdigits)).orElse (hdigits.andThen bounded_digits hpoint)
  exact (hpointed.andThen bounded_pointed hexponent.optional).orElse
    (hdigits.andThen bounded_digits hexponent)

/-! ## Seals -/

/-- Characters that end numbers, names, operators and the openings of strings. -/
def seals : List Char := [' ', '\t', '\x0c', '\n', '\r', '\\', '#', ';', ')', '}']

theorem eq_false_of_mem_seals {p : Char → Bool} (h : seals.all (fun c => !p c) = true)
    (hc : c ∈ seals) : p c = false :=
  (Bool.not_eq_true' _).mp (List.all_eq_true.mp h c hc)

theorem ne_of_mem_seals {d : Char} (hd : d ∉ seals) (hc : c ∈ seals) : c ≠ d :=
  fun h => hd (h ▸ hc)

theorem sealed_class {p : Char → Bool} (h : seals.all (fun c => !p c) = true) (hc : c ∈ seals) :
    Sealed c (one p) :=
  sealed_one (eq_false_of_mem_seals h hc)

theorem sealed_number (hc : c ∈ seals) : Sealed c number := by
  have hfloat : Sealed c float := sealed_float (eq_false_of_mem_seals (by decide) hc)
  have hdigits : Sealed c digits :=
    sealed_digits (eq_false_of_mem_seals (by decide) hc) (ne_of_mem_seals (by decide) hc)
  have hbased : ∀ {mark : Char} {p : Char → Bool},
      seals.all (fun c => !(c.toLower == mark)) = true → seals.all (fun c => !p c) = true →
      Sealed c (based mark p) := fun hmark hp =>
    sealed_based (sealed_class (by decide) hc) (sealed_class hmark hc)
      (eq_false_of_mem_seals hp hc) (ne_of_mem_seals (by decide) hc)
  exact ((hfloat.orElse hdigits).andThen (bounded_float.orElse bounded_digits)
      (sealed_class (by decide) hc)).orElse <|
    (hbased (by decide) (by decide)).orElse <| (hbased (by decide) (by decide)).orElse <|
    (hbased (by decide) (by decide)).orElse <| hfloat.orElse hdigits

theorem sealed_name (hc : c ∈ seals) : Sealed c name := by
  intro x r
  cases x with
  | nil =>
    have hstart : (Unicode.isIdentifierStart c || c == '_') = false :=
      eq_false_of_mem_seals (p := fun c => Unicode.isIdentifierStart c || c == '_')
        (by decide +kernel) hc
    rw [List.nil_append, name, hstart]
    rfl
  | cons d x =>
    have hcontinue : Unicode.isIdentifierContinue c = false :=
      eq_false_of_mem_seals (by decide +kernel) hc
    rw [List.cons_append, name, name, takeWhile_sealed hcontinue]

/-- Seals may be operators themselves, and so they end only those that have begun. -/
theorem op_sealed {d : Char} (hc : c ∈ seals) (r : List Char) :
    op (d :: x ++ c :: r) = op (d :: x) := by
  have htails : operators.all (fun w => seals.all fun c => !w.tail.contains c) = true := by decide
  have hlead : ∀ w ∈ operators, w.isPrefixOf (d :: x ++ c :: r) = w.isPrefixOf (d :: x) := by
    intro w hw
    have htail := List.all_eq_true.mp (List.all_eq_true.mp htails w hw) c hc
    rw [Bool.not_eq_true', ← Bool.not_eq_true, List.contains_iff_mem] at htail
    cases w with
    | nil => rfl
    | cons e w =>
      rw [List.tail_cons] at htail
      show (e == d && w.isPrefixOf (x ++ c :: r)) = (e == d && w.isPrefixOf x)
      rw [isPrefixOf_sealed htail]
  rw [op, op, ← List.head?_filter, ← List.head?_filter, List.filter_congr hlead]

/-! ## Strings -/

theorem sealed_marks (hc : ¬ IsMark c) : Sealed c (optional stringMark) := by
  have hne : ∀ d ∈ ['r', 'u', 'b', 'f'], (c.toLower == d) = false := by
    intro d hd
    refine beq_false_of_ne ?_
    rintro rfl
    exact hc hd
  have hletter : ∀ d ∈ ['r', 'u', 'b', 'f'], Sealed c (letter d) := fun d hd => sealed_one (hne d hd)
  have htwo : ∀ d ∈ ['r', 'u', 'b', 'f'], ∀ e ∈ ['r', 'u', 'b', 'f'],
      Sealed c (Lexeme.andThen (letter d) (letter e)) :=
    fun d hd e he => (hletter d hd).andThen (bounded_one _) (hletter e he)
  refine Sealed.optional <| (htwo 'r' (by decide) 'b' (by decide)).orElse <|
    (htwo 'b' (by decide) 'r' (by decide)).orElse <|
    (htwo 'f' (by decide) 'r' (by decide)).orElse <|
    (htwo 'r' (by decide) 'f' (by decide)).orElse <| sealed_one ?_
  rw [hne 'r' (by decide), hne 'u' (by decide), hne 'b' (by decide), hne 'f' (by decide)]
  rfl

theorem not_isMark_of_mem_seals (hc : c ∈ seals) : ¬ IsMark c := by
  have hmarks : (['r', 'u', 'b', 'f'].contains c.toLower) = false :=
    eq_false_of_mem_seals (p := fun c => ['r', 'u', 'b', 'f'].contains c.toLower) (by decide) hc
  rwa [← Bool.not_eq_true, List.contains_iff_mem] at hmarks

theorem not_mem_quotes (hc : c ∈ seals) {q : Char} (hq : q = '"' ∨ q = '\'') : c ∉ [q, q, q] := by
  have hne : q ∉ seals := by rcases hq with rfl | rfl <;> decide
  simpa using ne_of_mem_seals hne hc

theorem sealed_openQuote (hc : c ∈ seals) : Sealed c openQuote :=
  (sealed_marks (not_isMark_of_mem_seals hc)).andThen bounded_marks <|
    (sealed_exactly (not_mem_quotes hc (.inl rfl))).orElse <|
    (sealed_exactly (not_mem_quotes hc (.inr rfl))).orElse <| sealed_class (by decide) hc

/-! ## The piece at the front -/

/-- What is taken of a text stays when the text is continued, if it ends before the text does. -/
theorem takeWhile_stays {p : Char → Bool} (h : (x.takeWhile p).length < x.length) :
    (x ++ y).takeWhile p = x.takeWhile p := by
  rw [List.takeWhile_append, if_neg (Nat.ne_of_lt h)]

theorem stays_run {p : Char → Bool} (hx : x ≠ []) : Stays x y (run p) := by
  have hlt : (x.takeWhile p).length < x.length → run p (x ++ y) = run p x := fun h => by
    unfold run
    rw [takeWhile_stays h]
  constructor
  · intro hnone
    refine (hlt ?_).trans hnone
    unfold run at hnone
    split at hnone
    · next hzero =>
      rw [hzero]
      exact List.length_pos_iff.mpr hx
    · cases hnone
  · intro n hn hle
    refine (hlt ?_).trans hn
    unfold run at hn
    split at hn <;> cases hn
    next hk => rwa [hk]

theorem stays_comment (hx : x ≠ []) : Stays x y comment := by
  obtain ⟨c, r, rfl⟩ := List.exists_cons_of_ne_nil hx
  by_cases hc : c = '#'
  · subst hc
    refine ⟨fun hnone => (by cases hnone), fun n hn hlt => ?_⟩
    cases hn
    have hstays := takeWhile_stays (y := y) (Nat.lt_of_succ_lt_succ hlt)
    exact congrArg (fun l : List Char => some (l.length + 1)) hstays
  · have hnone : ∀ r, comment (c :: r) = none := fun r => by simp [comment, hc]
    rw [Stays, List.cons_append, hnone, hnone]
    exact ⟨id, fun n hn _ => by cases hn⟩

/-- A string that is closed before a seal is the same when that follows. -/
theorem string_sealed (hc : c ∈ seals) {n : Nat} (h : Lexeme.string x = some n) (r : List Char) :
    Lexeme.string (x ++ c :: r) = some n := by
  obtain ⟨i, j, hi, hj, rfl⟩ := andThen_eq_some.mp h
  have hmarks := sealed_marks (not_isMark_of_mem_seals hc)
  refine andThen_eq_some.mpr ⟨i, j, (hmarks x r).trans hi, ?_, rfl⟩
  rw [List.drop_append_of_le_length (bounded_marks x i hi)]
  exact quoted_append (fun q hq => isPrefixOf_sealed (not_mem_quotes hc hq) _ r) hj

/-- The piece at the front of a text is there before a seal too, if it ends before the text does or
is of a kind that becomes a token. -/
theorem front?_sealed (hc : c ∈ seals) {kind : LexemeKind} {n : Nat}
    (h : front? x = some (kind, n)) (hkind : kind ≠ .openQuote ∧ kind ≠ .stray)
    (hn : n < x.length ∨ kind.isContent = true) (r : List Char) :
    front? (x ++ c :: r) = some (kind, n) := by
  obtain ⟨d, x, rfl⟩ : ∃ d x', x = d :: x' := by
    cases x with
    | nil => cases h
    | cons d x => exact ⟨d, x, rfl⟩
  have hbefore : ∀ km ∈ kindsBefore, Stays (d :: x) (c :: r) km.2 := by
    simp only [kindsBefore, List.forall_mem_cons, List.not_mem_nil, false_imp_iff, implies_true,
      and_true]
    refine ⟨stays_continuation_cons ?_, stays_lineBreak (List.cons_ne_nil d x),
      stays_run (List.cons_ne_nil d x), stays_comment (List.cons_ne_nil d x)⟩
    rintro rfl rfl
    cases h
    exact hkind.2 rfl
  -- the kinds before strings become no tokens, so their pieces end before the text
  have hlt : ∀ km ∈ kindsBefore, km.1.isContent = false := by decide
  refine front?_carries (P := fun kind n => n < (d :: x).length ∨ kind.isContent = true)
    (fun km hkm => ⟨(hbefore km hkm).1, fun k hk hP => (hbefore km hkm).2 k hk ?_⟩)
    (fun _ hk _ => string_sealed hc hk r) ?_ h hkind.1 hn
  · rw [hlt km hkm] at hP
    exact hP.resolve_right Bool.false_ne_true
  · simp only [kindsAfter, List.forall_mem_cons, List.not_mem_nil, false_imp_iff, implies_true,
      and_true]
    exact ⟨carries_of_eq (sealed_openQuote hc _ r), carries_of_eq (sealed_number hc _ r),
      carries_of_eq (sealed_name hc _ r), carries_of_eq (op_sealed hc r), carries_of_eq rfl⟩

/-! ## Texts -/

/-- The only lexeme of a text is all of it. -/
theorem front?_of_singleton {l : Lexeme} (h : lexemes x = [l]) : front? x = some (l.kind, x.length) := by
  obtain ⟨n, hfront, htext, -⟩ := front_of_lexemes h
  have hall := flatten_lexemes x
  rw [h, List.map_singleton, List.flatten_singleton, htext] at hall
  have hlength := congrArg List.length hall
  rw [List.length_take] at hlength
  have hle := front_le hfront
  rw [hfront, show n = x.length by omega]

/-- A text without open quotes and strays keeps its lexemes before a seal, if the last one is kept. -/
theorem lexemes_append_seal (hc : c ∈ seals)
    (hls : ∀ l ∈ lexemes x, l.kind ≠ .openQuote ∧ l.kind ≠ .stray) (r : List Char)
    (hlast : ∀ l ∈ (lexemes x).getLast?, ∀ y, lexemes y = [l] →
      front? (y ++ c :: r) = some (l.kind, y.length)) :
    lexemes (x ++ c :: r) = lexemes x ++ lexemes (c :: r) := by
  generalize hx : lexemes x = ls at hls hlast
  induction ls generalizing x with
  | nil =>
    have hnil := flatten_lexemes x
    rw [hx] at hnil
    rw [← hnil]
    rfl
  | cons l ls ih =>
    obtain ⟨n, hfront, htext, hrest⟩ := front_of_lexemes hx
    rw [List.forall_mem_cons] at hls
    have hle := front_le hfront
    have hfront' : front? (x ++ c :: r) = some (l.kind, n) := by
      rcases Nat.lt_or_ge n x.length with hlt | hge
      · exact front?_sealed hc hfront hls.1 (.inl hlt) r
      · obtain rfl : n = x.length := Nat.le_antisymm hle hge
        rw [List.drop_length] at hrest
        subst hrest
        exact hlast l rfl x hx
    rw [lexemes_of_front hfront', List.take_append_of_le_length hle,
      List.drop_append_of_le_length hle, ← htext, ih hrest.symm hls.2 fun l' hl' =>
        hlast l' (by rw [List.getLast?_cons, hl']; rfl)]
    rfl

/-- It is kept if it is a token. -/
theorem lexemes_sealed (hc : c ∈ seals)
    (hls : ∀ l ∈ lexemes x, l.kind ≠ .openQuote ∧ l.kind ≠ .stray)
    (hlast : ∀ l ∈ (lexemes x).getLast?, l.kind.isContent = true) (r : List Char) :
    lexemes (x ++ c :: r) = lexemes x ++ lexemes (c :: r) :=
  lexemes_append_seal hc hls r fun l hl _ hy =>
    front?_sealed hc (front?_of_singleton hy) (hls l (List.mem_of_getLast? hl)) (.inr (hlast l hl)) r

end Lexeme

end PythonSyntax
