import PythonSyntax.Proofs.Lexeme.Local
import PythonSyntax.Proofs.Literal.Numeral
import PythonSyntax.Proofs.Literal.Shape

/-
Words with blanks between them.

A name, a numeral or an operator that stands before a blank, or at the end of the text, is a lexeme
of its own: no measure looks past the blank.
-/

namespace PythonSyntax.Lexeme

/-- Whether nothing follows, or a space does. -/
def Apart (rest : List Char) : Prop := ∀ c ∈ rest.head?, c = ' '

theorem apart_nil : Apart [] := nofun

theorem apart_space (r : List Char) : Apart (' ' :: r) := by
  rintro _ ⟨⟩
  rfl

/-- A class of characters that a space does not belong to ends before what stands apart. -/
theorem Apart.takeWhile {p : Char → Bool} (hp : p ' ' = false) {word rest : List Char}
    (hword : ∀ c ∈ word, p c = true) (hrest : Apart rest) :
    (word ++ rest).takeWhile p = word := by
  rw [List.takeWhile_append_of_pos hword]
  cases rest with
  | nil => exact List.append_nil word
  | cons c r =>
    rw [hrest c rfl, List.takeWhile_cons_of_neg (by rw [hp]; exact Bool.false_ne_true),
      List.append_nil]

/-! ## What a word is not -/

/-- The characters that begin blanks, breaks and comments. -/
def beginsBlank (c : Char) : Bool := ['\\', '\n', '\r', ' ', '\t', '\x0c', '#'].contains c

theorem before_none {c : Char} (h : beginsBlank c = false) (r : List Char) :
    ∀ km ∈ kindsBefore, km.2 (c :: r) = none := by
  have hne : ∀ d ∈ ['\\', '\n', '\r', ' ', '\t', '\x0c', '#'], c ≠ d := by
    rintro d hd rfl
    rw [beginsBlank, List.contains_iff_mem.mpr hd] at h
    cases h
  have hblank : blank (c :: r) = none := by
    have hc : ¬ (c == ' ' || c == '\t' || c == '\x0c') = true := by
      simp [hne ' ' (by simp), hne '\t' (by simp), hne '\x0c' (by simp)]
    have htake : (c :: r).takeWhile (fun c => c == ' ' || c == '\t' || c == '\x0c') = [] :=
      List.takeWhile_cons_of_neg hc
    rw [blank, run, htake]
    rfl
  have hcomment : comment (c :: r) = none := by
    unfold comment
    split
    · next heq => exact absurd (List.cons.inj heq).1 (hne '#' (by simp))
    · rfl
  simp only [kindsBefore, List.forall_mem_cons, List.not_mem_nil, false_imp_iff, implies_true,
    and_true]
  exact ⟨continuation_other (hne '\\' (by simp)) r,
    lineBreak_other ⟨hne '\n' (by simp), hne '\r' (by simp)⟩ r, hblank, hcomment⟩

/-- A measure of texts that begin with a quote. -/
def BeginsWithQuote (m : Measure) : Prop :=
  ∀ s n, m s = some n → ∃ q r, s = q :: r ∧ Quoted.isQuote q = true

theorem beginsWithQuote_quoted : BeginsWithQuote quoted := by
  intro s n h
  obtain ⟨q, triple, body, heq, hq, -⟩ := quoted_shape h
  cases s with
  | nil => cases triple <;> simp [quotes] at heq
  | cons c r =>
    refine ⟨c, r, rfl, ?_⟩
    cases n with
    | zero => exact absurd (positive_quoted _ _ h) (Nat.lt_irrefl 0)
    | succ n =>
      have hc : c = q := by
        cases triple <;> exact (List.cons.inj heq).1
      rw [hc, hq]

/-- The quotes that open a string. -/
def openQuotes : Measure :=
  orElse (exactly ['"', '"', '"']) <| orElse (exactly ['\'', '\'', '\'']) <|
    one fun c => c == '"' || c == '\''

theorem beginsWithQuote_openQuotes : BeginsWithQuote openQuotes := by
  intro s n h
  cases s with
  | nil => cases h
  | cons c r =>
    refine ⟨c, r, rfl, ?_⟩
    cases hq : Quoted.isQuote c with
    | true => rfl
    | false =>
      rw [Quoted.isQuote, Bool.or_eq_false_iff, beq_eq_false_iff_ne, beq_eq_false_iff_ne] at hq
      have hsingle : ('\'' == c) = false := beq_eq_false_iff_ne.mpr fun h => hq.1 h.symm
      have hdouble : ('"' == c) = false := beq_eq_false_iff_ne.mpr fun h => hq.2 h.symm
      simp [openQuotes, orElse, exactly, one, List.isPrefixOf, hsingle, hdouble, hq.1, hq.2] at h

/-- No string begins with a text without quotes that stands apart. -/
theorem marks_none {m : Measure} (hm : BeginsWithQuote m) {word rest : List Char}
    (hword : ∀ c ∈ word, Quoted.isQuote c = false) (hrest : Apart rest) :
    andThen (optional stringMark) m (word ++ rest) = none := by
  rw [Option.eq_none_iff_forall_ne_some]
  intro n h
  obtain ⟨i, j, hi, hj, -⟩ := andThen_eq_some.mp h
  obtain ⟨q, r, hdrop, hq⟩ := hm _ _ hj
  have hmarks : ∀ c ∈ (word ++ rest).take i, IsMark c := within_stringMark.optional _ _ hi
  have hsplit : word ++ rest = (word ++ rest).take i ++ q :: r := by
    rw [← hdrop, List.take_append_drop]
  have hspace : rest ≠ q :: r := by
    rintro rfl
    rw [hrest q rfl] at hq
    cases hq
  generalize (word ++ rest).take i = marks at hmarks hsplit
  -- the quote stands in the word, right after it, or behind the space
  rcases List.append_eq_append_iff.mp hsplit with ⟨a, rfl, ha⟩ | ⟨a, rfl, ha⟩
  · cases a with
    | nil => exact hspace ha
    | cons c a =>
      have hc : c = ' ' := hrest c (by rw [ha]; rfl)
      have hmark : IsMark ' ' := hmarks ' ' (by simp [hc])
      exact absurd hmark (by unfold IsMark; decide)
  · cases a with
    | nil => exact hspace ha.symm
    | cons c a =>
      obtain ⟨rfl, -⟩ := List.cons.inj ha
      rw [hword q (by simp)] at hq
      cases hq

/-- A text without quotes, whose first character begins no blank, is a number, a name or an
operator. -/
theorem front?_word {c : Char} {word rest : List Char} (hc : beginsBlank c = false)
    (hword : ∀ d ∈ c :: word, Quoted.isQuote d = false) (hrest : Apart rest) :
    front? (c :: word ++ rest) =
      [(LexemeKind.number, number), (.name, name), (.op, op), (.stray, one fun _ => true)].findSome?
        fun (kind, measure) => (measure (c :: word ++ rest)).map fun n => (kind, n) := by
  have hbefore : (kindsBefore.findSome? fun km =>
      (km.2 (c :: word ++ rest)).map fun n => (km.1, n)) = none := by
    rw [List.findSome?_eq_none_iff]
    intro km hkm
    rw [List.cons_append, before_none hc _ km hkm]
    rfl
  have hstring : Lexeme.string (c :: word ++ rest) = none :=
    marks_none beginsWithQuote_quoted hword hrest
  have hopen : openQuote (c :: word ++ rest) = none :=
    marks_none beginsWithQuote_openQuotes hword hrest
  rw [front?_eq, hbefore, hstring, kindsAfter, List.findSome?_cons]
  simp only [hopen]
  rfl

/-! ## Names -/

/-- Whether a text is an ASCII identifier, which may be reserved. -/
def isAsciiName : List Char → Bool
  | [] => false
  | c :: r => (c.isAlpha || c == '_') && r.all fun d => d.isAlphanum || d == '_'

theorem toNat_of_isAlpha {c : Char} (h : c.isAlpha = true) : 65 ≤ c.toNat ∧ c.toNat ≤ 122 := by
  have hcases : (65 ≤ c.toNat ∧ c.toNat ≤ 90) ∨ (97 ≤ c.toNat ∧ c.toNat ≤ 122) := by
    rcases Bool.or_eq_true_iff.mp h with h | h
    · have hupper : 'A'.val ≤ c.val ∧ c.val ≤ 'Z'.val := of_decide_eq_true h
      exact .inl ⟨UInt32.le_iff_toNat_le.mp hupper.1, UInt32.le_iff_toNat_le.mp hupper.2⟩
    · obtain ⟨hl, hu⟩ := Bool.and_eq_true_iff.mp h
      exact .inr ⟨UInt32.le_iff_toNat_le.mp (of_decide_eq_true hl),
        UInt32.le_iff_toNat_le.mp (of_decide_eq_true hu)⟩
  omega

theorem toNat_of_isDigit {c : Char} (h : c.isDigit = true) : 48 ≤ c.toNat ∧ c.toNat ≤ 57 := by
  obtain ⟨hl, hu⟩ := Bool.and_eq_true_iff.mp h
  exact ⟨UInt32.le_iff_toNat_le.mp (of_decide_eq_true hl),
    UInt32.le_iff_toNat_le.mp (of_decide_eq_true hu)⟩

/-- A letter, a digit or an underscore is ASCII. -/
theorem toNat_lt_of_isNameChar {c : Char} (h : (c.isAlphanum || c == '_') = true) :
    c.toNat < 0x80 := by
  rcases Bool.or_eq_true_iff.mp h with h | h
  · rcases Bool.or_eq_true_iff.mp h with h | h
    · have := toNat_of_isAlpha h
      omega
    · have := toNat_of_isDigit h
      omega
  · rw [beq_iff_eq.mp h]
    decide

theorem isNameChar_of_isAsciiName {text : List Char} (h : isAsciiName text = true) :
    ∀ c ∈ text, (c.isAlphanum || c == '_') = true := by
  cases text with
  | nil => cases h
  | cons c r =>
    rw [isAsciiName, Bool.and_eq_true, List.all_eq_true, Bool.or_eq_true] at h
    rw [List.forall_mem_cons]
    refine ⟨?_, h.2⟩
    rcases h.1 with hc | hc
    · simp [Char.isAlphanum, hc]
    · simp [hc]

theorem isDigit_of_isNameStart {c : Char} (h : (c.isAlpha || c == '_') = true) :
    c.isDigit = false := by
  rw [← Bool.not_eq_true]
  intro hdigit
  have hd := toNat_of_isDigit hdigit
  rcases Bool.or_eq_true_iff.mp h with h | h
  · have := toNat_of_isAlpha h
    omega
  · rw [beq_iff_eq.mp h] at hd
    exact absurd hd (by decide)

theorem ne_of_isNameChar {c d : Char} (h : (c.isAlphanum || c == '_') = true)
    (hd : (d.isAlphanum || d == '_') = false) : c ≠ d := by
  rintro rfl
  rw [hd] at h
  cases h

theorem isIdentifierContinue_of_isNameChar {c : Char} (h : (c.isAlphanum || c == '_') = true) :
    Unicode.isIdentifierContinue c = true := by
  rw [Unicode.isIdentifierContinue, if_pos (toNat_lt_of_isNameChar h), h]

theorem beginsBlank_of_isNameChar {c : Char} (h : (c.isAlphanum || c == '_') = true) :
    beginsBlank c = false := by
  rw [beginsBlank, ← Bool.not_eq_true, List.contains_iff_mem]
  intro hmem
  have hnone : ['\\', '\n', '\r', ' ', '\t', '\x0c', '#'].all
      (fun d => !(d.isAlphanum || d == '_')) = true := by decide
  exact ne_of_isNameChar h ((Bool.not_eq_true' _).mp (List.all_eq_true.mp hnone c hmem)) rfl

theorem isQuote_of_isNameChar {c : Char} (h : (c.isAlphanum || c == '_') = true) :
    Quoted.isQuote c = false := by
  simp [Quoted.isQuote, ne_of_isNameChar h (d := '\'') (by decide),
    ne_of_isNameChar h (d := '"') (by decide)]

/-- No number begins with another character than a digit or a point. -/
theorem number_none {c : Char} (hc : c.isDigit = false) (hpoint : c ≠ '.') (r : List Char) :
    number (c :: r) = none := by
  have hzero : c ≠ '0' := by
    rintro rfl
    cases hc
  simp [number, orElse, andThen, float, pointed, digits, based, one, optional, hc, hpoint, hzero]

/-- A name before a space is a lexeme. -/
theorem front?_name {text rest : List Char} (h : isAsciiName text = true) (hrest : Apart rest) :
    front? (text ++ rest) = some (.name, text.length) := by
  have hchars := isNameChar_of_isAsciiName h
  cases text with
  | nil => cases h
  | cons c r =>
    rw [List.forall_mem_cons] at hchars
    rw [isAsciiName, Bool.and_eq_true] at h
    have hstart : (Unicode.isIdentifierStart c || c == '_') = true := by
      rw [Unicode.isIdentifierStart, if_pos (toNat_lt_of_isNameChar hchars.1), h.1]
    have hdigit : c.isDigit = false := isDigit_of_isNameStart h.1
    have hname : name (c :: r ++ rest) = some (c :: r).length := by
      rw [List.cons_append, name, if_pos hstart, hrest.takeWhile (by decide)
        fun d hd => isIdentifierContinue_of_isNameChar (hchars.2 d hd)]
      rfl
    rw [front?_word (beginsBlank_of_isNameChar hchars.1)
      (List.forall_mem_cons.mpr ⟨isQuote_of_isNameChar hchars.1,
        fun d hd => isQuote_of_isNameChar (hchars.2 d hd)⟩) hrest]
    simp only [List.findSome?_cons, hname]
    rw [List.cons_append, number_none hdigit (ne_of_isNameChar hchars.1 (by decide))]
    rfl

/-! ## Numerals -/

/-- Digits before a space are all taken. -/
theorem digitsAfter_apart {p : Char → Bool} (hp : p ' ' = false) {ds rest : List Char}
    (hds : ∀ c ∈ ds, p c = true) (hrest : Apart rest) : digitsAfter p (ds ++ rest) = ds.length := by
  induction ds with
  | nil =>
    cases rest with
    | nil => rfl
    | cons c r =>
      rw [hrest c rfl]
      exact digitsAfter_other (by rw [hp]; exact Bool.false_ne_true) (by decide)
  | cons c ds ih =>
    rw [List.forall_mem_cons] at hds
    rw [List.cons_append, digitsAfter_digit hds.1, ih hds.2, List.length_cons]

theorem one_apart {p : Char → Bool} (hp : p ' ' = false) {rest : List Char} (hrest : Apart rest) :
    one p rest = none := by
  cases rest with
  | nil => rfl
  | cons c r => rw [hrest c rfl, one, hp]; rfl

theorem digits_apart {ds rest : List Char} (hne : ds ≠ []) (hds : ∀ c ∈ ds, c.isDigit = true)
    (hrest : Apart rest) : digits (ds ++ rest) = some ds.length := by
  cases ds with
  | nil => exact absurd rfl hne
  | cons c ds =>
    rw [List.forall_mem_cons] at hds
    refine andThen_eq_some.mpr ⟨1, ds.length, ?_, ?_, Nat.add_comm _ _⟩
    · rw [List.cons_append, one, if_pos hds.1]
    · exact congrArg some (digitsAfter_apart (by decide) hds.2 hrest)

/-- No letter follows digits that stand apart. -/
theorem letter_apart {mark : Char} (hmark : mark.isDigit = false) (hspace : mark ≠ ' ')
    {ds rest : List Char} (hds : ∀ c ∈ ds, c.isDigit = true) (hrest : Apart rest) :
    letter mark (ds ++ rest) = none := by
  cases ds with
  | nil =>
    have hlower : (' '.toLower == mark) = false :=
      beq_eq_false_iff_ne.mpr fun h => hspace (h.symm.trans (by decide))
    exact one_apart hlower hrest
  | cons c ds =>
    have hc := hds c List.mem_cons_self
    refine if_neg ?_
    show ¬ (c.toLower == mark) = true
    rw [Number.toLower_of_isDigit hc, beq_iff_eq]
    exact Number.ne_of_isDigit hc hmark

/-- No base is named after the first of digits that stand apart. -/
theorem based_apart {mark : Char} (hmark : mark.isDigit = false) (hspace : mark ≠ ' ')
    (p : Char → Bool) {ds rest : List Char} (hne : ds ≠ []) (hds : ∀ c ∈ ds, c.isDigit = true)
    (hrest : Apart rest) : based mark p (ds ++ rest) = none := by
  cases ds with
  | nil => exact absurd rfl hne
  | cons c ds =>
    rw [List.forall_mem_cons] at hds
    rw [Option.eq_none_iff_forall_ne_some]
    intro n h
    obtain ⟨i, j, hi, hj, -⟩ := andThen_eq_some.mp h
    obtain ⟨k, l, hk, -, -⟩ := andThen_eq_some.mp hj
    have hone : i = 1 := by
      rw [List.cons_append, one] at hi
      split at hi <;> cases hi
      rfl
    subst hone
    have hdrop : (c :: ds ++ rest).drop 1 = ds ++ rest := rfl
    rw [hdrop, letter_apart hmark hspace hds.2 hrest] at hk
    cases hk

/-- Digits before a space are a number. -/
theorem number_apart {ds rest : List Char} (hne : ds ≠ []) (hds : ∀ c ∈ ds, c.isDigit = true)
    (hrest : Apart rest) : number (ds ++ rest) = some ds.length := by
  have hdigits := digits_apart hne hds hrest
  have hpoint : one (· == '.') rest = none := one_apart (by decide) hrest
  have hletter : ∀ mark : Char, mark.isDigit = false → mark ≠ ' ' → letter mark rest = none :=
    fun mark hmark hspace => letter_apart hmark hspace (List.forall_mem_nil _) hrest
  have he := hletter 'e' (by decide) (by decide)
  have hj := hletter 'j' (by decide) (by decide)
  have hfloat : float (ds ++ rest) = none := by
    simp [float, orElse, andThen, pointed, optional, exponent, hdigits, hpoint, he]
  have hbased : ∀ mark p, mark.isDigit = false → mark ≠ ' ' → based mark p (ds ++ rest) = none :=
    fun mark p hmark hspace => based_apart hmark hspace p hne hds hrest
  simp [number, orElse, andThen, hfloat, hdigits, hj, hbased]

/-- A numeral before a space is a lexeme. -/
theorem front?_number {ds rest : List Char} (hne : ds ≠ []) (hds : ∀ c ∈ ds, c.isDigit = true)
    (hrest : Apart rest) : front? (ds ++ rest) = some (.number, ds.length) := by
  have hname : ∀ c ∈ ds, (c.isAlphanum || c == '_') = true := fun c hc => by
    simp [Char.isAlphanum, hds c hc]
  have hnumber := number_apart hne hds hrest
  cases ds with
  | nil => exact absurd rfl hne
  | cons c ds =>
    rw [front?_word (beginsBlank_of_isNameChar (hname c List.mem_cons_self))
      (fun d hd => isQuote_of_isNameChar (hname d hd)) hrest]
    simp only [List.findSome?_cons, hnumber]
    rfl

/-! ## Operators -/

/-- A word without spaces is at the front of a word that stands apart only if it is in it. -/
theorem isPrefixOf_apart {w word rest : List Char} (hw : ' ' ∉ w) (hrest : Apart rest) :
    w.isPrefixOf (word ++ rest) = w.isPrefixOf word := by
  rw [Bool.eq_iff_iff, List.isPrefixOf_iff_prefix, List.isPrefixOf_iff_prefix]
  constructor
  · intro h
    rcases Nat.le_total w.length word.length with hle | hle
    · exact List.prefix_of_prefix_length_le h (List.prefix_append _ _) hle
    · obtain ⟨x, rfl⟩ := List.prefix_of_prefix_length_le (List.prefix_append word rest) h hle
      have hx : x <+: rest := (List.prefix_append_right_inj word).mp h
      cases x with
      | nil => simp
      | cons c x =>
        obtain ⟨r, rfl⟩ := hx
        have hc : c = ' ' := hrest c rfl
        exact absurd (by simp [hc]) hw
  · exact fun h => h.trans (List.prefix_append _ _)

/-- An operator before a space is the longest one there. -/
theorem op_apart {word rest : List Char} (hword : word ∈ operators) (hrest : Apart rest) :
    op (word ++ rest) = some word.length := by
  have hspace : ∀ w ∈ operators, ' ' ∉ w := by decide
  have hfirst : ∀ w ∈ operators, operators.find? (·.isPrefixOf w) = some w := by decide
  have hfind : operators.find? (·.isPrefixOf (word ++ rest)) =
      operators.find? (·.isPrefixOf word) := by
    rw [← List.head?_filter, ← List.head?_filter,
      List.filter_congr fun w hw => isPrefixOf_apart (hspace w hw) hrest]
  rw [op, hfind, hfirst word hword]
  rfl

/-- A point that no digit follows begins no number. -/
theorem number_point {r : List Char} (h : ∀ c ∈ r.head?, c.isDigit = false) :
    number ('.' :: r) = none := by
  have hdigits : digits r = none := by
    cases r with
    | nil => rfl
    | cons c r => simp [digits, andThen, one, h c rfl]
  have hpoint : digits ('.' :: r) = none := by simp [digits, andThen, one]
  simp [number, orElse, andThen, float, pointed, based, one, optional, hdigits, hpoint]

/-- An operator before a space is a lexeme. -/
theorem front?_op {word rest : List Char} (hword : word ∈ operators) (hrest : Apart rest) :
    front? (word ++ rest) = some (.op, word.length) := by
  have hchars : operators.all (fun w => w.head?.all (fun c => !beginsBlank c && !c.isDigit &&
      !(Unicode.isIdentifierStart c || c == '_')) && w.all (fun c => !Quoted.isQuote c) &&
      w.tail.all fun c => !c.isDigit) = true := by decide
  have hop := op_apart hword hrest
  have hshape := List.all_eq_true.mp hchars word hword
  simp only [Bool.and_eq_true, List.all_eq_true, Option.all_eq_true, Bool.not_eq_true'] at hshape
  obtain ⟨⟨hfirst, hquote⟩, htail⟩ := hshape
  cases word with
  | nil => exact absurd hword (by decide)
  | cons c r =>
    obtain ⟨⟨hblank, hdigit⟩, hstart⟩ := hfirst c rfl
    have hnumber : number (c :: (r ++ rest)) = none := by
      by_cases hpoint : c = '.'
      · rw [hpoint]
        refine number_point fun d hd => ?_
        cases r with
        | nil => rw [hrest d hd]; rfl
        | cons d' r =>
          cases hd
          exact htail d List.mem_cons_self
      · exact number_none hdigit hpoint _
    have hname : name (c :: (r ++ rest)) = none := by
      rw [name, hstart]
      rfl
    rw [front?_word hblank hquote hrest]
    simp only [List.findSome?_cons, hop]
    rw [List.cons_append, hnumber, hname]
    rfl

/-! ## Spaces -/

/-- One space is a blank if no other follows. -/
theorem front?_space {c : Char} (hc : beginsBlank c = false) (r : List Char) :
    front? (' ' :: c :: r) = some (.blank, 1) := by
  have hne : ¬ (c == ' ' || c == '\t' || c == '\x0c') = true := by
    intro h
    simp only [Bool.or_eq_true, beq_iff_eq] at h
    rcases h with (rfl | rfl) | rfl <;> exact absurd hc (by decide)
  have htake : (' ' :: c :: r).takeWhile (fun c => c == ' ' || c == '\t' || c == '\x0c') =
      [' '] := by
    rw [List.takeWhile_cons_of_pos (by decide)]
    exact congrArg (' ' :: ·) (List.takeWhile_cons_of_neg hne)
  have hblank : blank (' ' :: c :: r) = some 1 := by
    rw [blank, run, htake]
    rfl
  have hcontinuation : continuation (' ' :: c :: r) = none := continuation_other (by decide) _
  have hbreak : lineBreak (' ' :: c :: r) = none := lineBreak_other (by unfold InLine; decide) _
  simp only [front?, kinds, List.findSome?_cons, hcontinuation, hbreak, hblank, Option.map_none,
    Option.map_some]

end PythonSyntax.Lexeme
