import PythonSyntax.Proofs.Lexeme.Numeral
import PythonSyntax.Proofs.Literal.Decode

/-
The values of numeric literals.

The lexer tells the kinds of numeric literals by the grammar, and the value of a literal is found by
looking at its first two characters, its last one, and for a point or an `e` anywhere.  The two ways
agree on every literal, however long it is and wherever its underscores are: the digits of a base
hold no `j`, a number with a point or an exponent has no mark of a base, and a decimal numeral has
neither.  What is read as a binary64 number is always a numeral, so such a literal has a value.
-/

namespace PythonSyntax

open Lexeme

variable {base v : Nat} {c d mark : Char} {p : Char → Bool} {cs ds t u w f e : List Char}

/-! ## Digits of a base -/

namespace Escape

/-- All characters of a class are digits of a base; letters of either case count. -/
def AreDigits (base : Nat) (p : Char → Bool) : Prop := ∀ c, p c = true → ∃ d, IsDigit base c d

theorem toNat_lt_of_isHex (h : isHex c = true) : c.toNat < 128 := by
  have hle : c.toNat ≤ 'f'.toNat := by
    simp only [isHex, Char.isDigit, Bool.or_eq_true, Bool.and_eq_true, decide_eq_true_eq] at h
    rcases h with (⟨-, h⟩ | ⟨-, h⟩) | ⟨-, h⟩
    · exact (UInt32.le_iff_toNat_le.mp h).trans (by decide)
    · exact UInt32.le_iff_toNat_le.mp h
    · exact (UInt32.le_iff_toNat_le.mp h).trans (by decide)
  exact Nat.lt_of_le_of_lt hle (by decide)

/-- Whether characters are digits of a base can be told from the first 128. -/
theorem areDigits_of_isHex (hhex : ∀ c, p c = true → isHex c = true)
    (h : ∀ n : Fin 128, p (Char.ofNat n) = true → ∃ d : Fin base, IsDigit base (Char.ofNat n) d) :
    AreDigits base p := by
  intro c hc
  obtain ⟨d, hd⟩ := h ⟨c.toNat, toNat_lt_of_isHex (hhex c hc)⟩ (by rwa [Char.ofNat_toNat])
  rw [Char.ofNat_toNat] at hd
  exact ⟨d, hd⟩

theorem areDigits_isDigit : AreDigits 10 Char.isDigit :=
  areDigits_of_isHex (fun c hc => by simp [isHex, hc]) (by decide)

theorem areDigits_isHex : AreDigits 16 isHex := areDigits_of_isHex (fun _ => id) (by decide)

theorem isDigit_of_isOctal (h : isOctal c = true) : c.isDigit = true := by
  simp only [isOctal, Char.isDigit, Bool.and_eq_true, decide_eq_true_eq] at h ⊢
  exact ⟨h.1, UInt32.le_trans h.2 (by decide)⟩

theorem areDigits_isOctal : AreDigits 8 isOctal :=
  areDigits_of_isHex (fun c hc => by simp [isHex, isDigit_of_isOctal hc]) (by decide)

theorem areDigits_isBinary : AreDigits 2 isBinary := by
  intro c hc
  rcases (by simpa [isBinary] using hc : c = '0' ∨ c = '1') with rfl | rfl
  · exact ⟨0, by decide⟩
  · exact ⟨1, by decide⟩

/-- Digits of a base have a value. -/
theorem AreDigits.exists_isNumeral (hp : AreDigits base p) (h : ∀ c ∈ cs, p c = true) :
    ∃ v, IsNumeral base cs.length v cs := by
  have hdigits : ∃ ds, List.Forall₂ (IsDigit base) cs ds := by
    induction cs with
    | nil => exact ⟨[], .nil⟩
    | cons c cs ih =>
      rw [List.forall_mem_cons] at h
      obtain ⟨d, hd⟩ := hp c h.1
      obtain ⟨ds, hds⟩ := ih h.2
      exact ⟨d :: ds, .cons hd hds⟩
  obtain ⟨ds, hds⟩ := hdigits
  exact ⟨_, ds, rfl, hds, rfl⟩

/-- Digits in lower case are digits of the same value. -/
theorem toLower_of_isDigit_base {d : Nat} (hbase : base ≤ 16) (h : IsDigit base c d) :
    c.toLower = d.digitChar := by
  have hall : ∀ d : Fin 16, (Nat.digitChar d).toLower = Nat.digitChar d ∧
      (Nat.digitChar d).toUpper.toLower = Nat.digitChar d := by decide
  obtain ⟨hlower, hupper⟩ := hall ⟨d, by have := h.1; omega⟩
  rcases h.2 with rfl | rfl
  · exact hlower
  · exact hupper

theorem IsNumeral.map_toLower {count : Nat} (hbase : base ≤ 16) (h : IsNumeral base count v cs) :
    IsNumeral base count v (cs.map Char.toLower) := by
  obtain ⟨ds, hlen, hds, hv⟩ := h
  refine ⟨ds, (List.length_map ..).trans hlen, ?_, hv⟩
  rw [List.forall₂_map_left_iff]
  exact hds.imp fun c d hd => ⟨hd.1, .inl (toLower_of_isDigit_base hbase hd)⟩

/-- A character that is no digit of any base is none of the digits of a number. -/
theorem IsNumeral.notMem {count : Nat} (hbase : base ≤ 16) (h : IsNumeral base count v cs)
    (hc : ∀ d : Fin 16, c ≠ Nat.digitChar d ∧ c ≠ (Nat.digitChar d).toUpper) : c ∉ cs := by
  obtain ⟨ds, -, hds, -⟩ := h
  intro hmem
  induction hds with
  | nil => cases hmem
  | cons hd _ ih =>
    rcases List.mem_cons.mp hmem with rfl | hmem
    · have := hc ⟨_, Nat.lt_of_lt_of_le hd.1 hbase⟩
      exact hd.2.elim this.1 this.2
    · exact ih hmem

end Escape

namespace Number

open Escape

/-! ## Integers in a base -/

/-- The bases of integers besides ten: the letter that marks the base, and its digits. -/
def bases : List (Char × Nat × (Char → Bool)) :=
  [('x', 16, isHex), ('o', 8, isOctal), ('b', 2, isBinary)]

/-- The integer that a literal of some value denotes: a number if it fits in 64 bits, or else the
text of the literal without its underscores. -/
def integer (v : Nat) (text : List Char) : Constant :=
  if v < 2 ^ 64 then .int v.toUInt64 else .bigInt (String.ofList (clean text))

theorem natOfText?_of_isNumeral (hbase : base ≤ 16) (hne : cs ≠ [])
    (h : IsNumeral base cs.length v cs) : natOfText? base cs = some v := by
  have hplus : '+' ∉ cs := h.notMem hbase (by decide)
  have hvalue : natOfDigits? base cs = some v :=
    h.natOfDigits hbase (List.length_pos_iff.mpr hne)
  unfold natOfText?
  split
  · exact absurd List.mem_cons_self hplus
  · exact hvalue

/-- A literal with the mark of a base denotes the integer of its digits. -/
theorem parse_of_splitBase (hbase : base ≤ 16) (hclean : clean t = '0' :: d :: ds)
    (hsplit : ∀ r, splitBase? ('0' :: d.toLower :: r) = some (base, r)) (hj : d.toLower ≠ 'j')
    (hne : ds ≠ []) (hv : IsNumeral base ds.length v ds) : parse t = .ok (integer v t) := by
  have hlower : (clean t).map Char.toLower = '0' :: d.toLower :: ds.map Char.toLower := by
    rw [hclean]
    rfl
  have hv' := hv.map_toLower hbase
  have himaginary : imaginary? ('0' :: d.toLower :: ds.map Char.toLower) = none := by
    refine imaginary?_eq_none ?_
    simp only [List.mem_cons, not_or]
    exact ⟨by decide, hj.symm, hv'.notMem hbase (by decide)⟩
  have hvalue : natOfText? base (ds.map Char.toLower) = some v :=
    natOfText?_of_isNumeral hbase (by simpa using hne) (by simpa using hv')
  unfold parse
  simp only [hlower, himaginary, hsplit, hvalue]
  rfl

/-! ## Decimal integers -/

theorem parse_clean (t : List Char) : parse (clean t) = parse t := by
  unfold parse
  rw [clean_clean]

/-- Decimal digits denote an integer, unless there is a zero in front of one that is not zero. -/
theorem parse_of_isRun (h : IsRun Char.isDigit (clean t))
    (hv : IsNumeral 10 (clean t).length v (clean t)) :
    parse t = if hasLeadingZero (clean t) then .error .leadingZeros else .ok (integer v t) := by
  have hvalue : natOfDigits? 10 (clean t) = some v :=
    hv.natOfDigits (by decide) (List.length_pos_iff.mpr h.1)
  rw [← parse_clean, parse_digits h.2, hvalue]
  rfl

theorem hasLeadingZero_iff : hasLeadingZero cs = true ↔
    1 < cs.length ∧ cs.head? = some '0' ∧ ∃ c ∈ cs, c ≠ '0' := by
  simp [hasLeadingZero, and_assoc]

/-! ## Numbers with a point or an exponent -/

theorem splitDigits_append (hw : ∀ c ∈ w, c.isDigit = true)
    (hu : ∀ c ∈ u.head?, c.isDigit = false) : Binary64.splitDigits (w ++ u) = (w, u) := by
  rw [Binary64.splitDigits, List.span_eq_takeWhile_dropWhile, List.takeWhile_append_of_pos hw,
    List.dropWhile_append_of_pos hw]
  cases u with
  | nil => simp
  | cons c u =>
    have hc : c.isDigit = false := hu c rfl
    simp [hc]

theorem exists_natOfDigits (h : IsRun Char.isDigit cs) : ∃ n, natOfDigits? 10 cs = some n := by
  obtain ⟨n, hn⟩ := areDigits_isDigit.exists_isNumeral h.2
  exact ⟨n, hn.natOfDigits (by decide) (List.length_pos_iff.mpr h.1)⟩

theorem exists_exponent (h : e ∈ 1 + Exponent) : ∃ n, Binary64.exponent? e = some n := by
  rcases h with rfl | h
  · exact ⟨0, rfl⟩
  · obtain ⟨_, rfl, _, ⟨sign, hsign, ds, hds, rfl⟩, rfl⟩ := h
    obtain ⟨n, hn⟩ := exists_natOfDigits hds
    have hunsigned : Binary64.splitSign ds = (false, ds) := by
      have hsign : ∀ c, c.isDigit = false → c ∉ ds :=
        fun c hc hmem => ne_of_isDigit (hds.2 c hmem) hc rfl
      unfold Binary64.splitSign
      split
      · exact absurd List.mem_cons_self (hsign '+' (by decide))
      · exact absurd List.mem_cons_self (hsign '-' (by decide))
      · rfl
    rcases hsign with rfl | rfl | rfl
    · exact ⟨n, by simp [Binary64.exponent?, hunsigned, hn]⟩
    · exact ⟨n, by simp [Binary64.exponent?, Binary64.splitSign, hn]⟩
    · exact ⟨-n, by simp [Binary64.exponent?, Binary64.splitSign, hn]⟩

theorem head?_exponent (h : e ∈ 1 + Exponent) : ∀ c ∈ e.head?, c = 'e' := by
  rcases h with rfl | h
  · exact nofun
  · obtain ⟨_, rfl, u, -, rfl⟩ := h
    rintro c ⟨⟩
    rfl

/-- Digits and an exponent are a numeral. -/
theorem exists_ofNumeral_whole (hw : IsRun Char.isDigit w) (he : e ∈ 1 + Exponent) :
    ∃ x, Binary64.ofNumeral? false (w ++ e) = some x := by
  obtain ⟨n, hn⟩ := exists_natOfDigits hw
  obtain ⟨k, hk⟩ := exists_exponent he
  have hsplit : Binary64.splitDigits (w ++ e) = (w, e) :=
    splitDigits_append hw.2 fun c hc => by rw [head?_exponent he c hc]; rfl
  refine ⟨Binary64.ofDecimal false n k, ?_⟩
  cases e with
  | nil =>
    rw [List.append_nil] at hsplit ⊢
    simp [Binary64.ofNumeral?, hsplit, hn, hk]
  | cons c e =>
    obtain rfl : c = 'e' := head?_exponent he c rfl
    simp [Binary64.ofNumeral?, hsplit, hn, hk]

/-- Digits around a point and an exponent are a numeral. -/
theorem exists_ofNumeral_pointed (hw : ∀ c ∈ w, c.isDigit = true) (hf : ∀ c ∈ f, c.isDigit = true)
    (hne : w ++ f ≠ []) (he : e ∈ 1 + Exponent) :
    ∃ x, Binary64.ofNumeral? false (w ++ '.' :: (f ++ e)) = some x := by
  obtain ⟨n, hn⟩ := exists_natOfDigits ⟨hne, List.forall_mem_append.mpr ⟨hw, hf⟩⟩
  obtain ⟨k, hk⟩ := exists_exponent he
  have hwhole : Binary64.splitDigits (w ++ '.' :: (f ++ e)) = (w, '.' :: (f ++ e)) :=
    splitDigits_append hw (by rintro c ⟨⟩; rfl)
  have hpart : Binary64.splitDigits (f ++ e) = (f, e) :=
    splitDigits_append hf fun c hc => by rw [head?_exponent he c hc]; rfl
  refine ⟨Binary64.ofDecimal false n (k - f.length), ?_⟩
  simp only [Binary64.ofNumeral?, hwhole, hpart, hn, hk]

/-- The texts of numerals in base ten, with or without a point and an exponent, in their parts. -/
theorem parts_of_mem (h : u ∈ Numeral) :
    ∃ w e, (∀ c ∈ w, c.isDigit = true) ∧ e ∈ 1 + Exponent ∧ ((u = w ++ e ∧ w ≠ []) ∨
      ∃ f, u = w ++ '.' :: (f ++ e) ∧ w ++ f ≠ [] ∧ ∀ c ∈ f, c.isDigit = true) := by
  rcases h with (⟨q, hq, e, he, rfl⟩ | ⟨w, hw, e, he, rfl⟩) | hw
  · rcases hq with ⟨w, hw, _, ⟨_, rfl, f, hf, rfl⟩, rfl⟩ | ⟨w, hw, _, rfl, rfl⟩
    · refine ⟨w, e, ?_, he, .inr ⟨f, by simp, by simp [hf.1], hf.2⟩⟩
      rcases hw with rfl | hw
      · exact nofun
      · exact hw.2
    · exact ⟨w, e, hw.2, he, .inr ⟨[], by simp, by simpa using hw.1, nofun⟩⟩
  · exact ⟨w, e, hw.2, .inr he, .inl ⟨rfl, hw.1⟩⟩
  · exact ⟨u, [], hw.2, .inl rfl, .inl ⟨(List.append_nil u).symm, hw.1⟩⟩

/-- The characters of a numeral in base ten. -/
theorem mem_numeral (h : u ∈ Numeral) (hc : c ∈ u) :
    c.isDigit = true ∨ c ∈ ['.', 'e', '+', '-'] := by
  obtain ⟨w, e, hw, he, hu⟩ := parts_of_mem h
  have hexponent : c ∈ e → c.isDigit = true ∨ c ∈ ['.', 'e', '+', '-'] := by
    rcases he with rfl | ⟨_, rfl, _, ⟨sign, hsign, ds, hds, rfl⟩, rfl⟩
    · exact nofun
    · intro hc
      rcases List.mem_append.mp hc with hc | hc
      · exact .inr (by simp_all)
      rcases List.mem_append.mp hc with hc | hc
      · rcases hsign with rfl | rfl | rfl
        · cases hc
        · exact .inr (by simp_all)
        · exact .inr (by simp_all)
      · exact .inl (hds.2 c hc)
  rcases hu with ⟨rfl, -⟩ | ⟨f, rfl, -, hf⟩
  · exact (List.mem_append.mp hc).elim (fun hc => .inl (hw c hc)) hexponent
  · rcases List.mem_append.mp hc with hc | hc
    · exact .inl (hw c hc)
    rcases List.mem_cons.mp hc with rfl | hc
    · exact .inr (by decide)
    · exact (List.mem_append.mp hc).elim (fun hc => .inl (hf c hc)) hexponent

/-- A character that is in no numeral in base ten. -/
theorem notMem_numeral (h : u ∈ Numeral) (hdigit : c.isDigit = false)
    (hc : c ∉ ['.', 'e', '+', '-']) : c ∉ u := by
  intro hmem
  rcases mem_numeral h hmem with hd | hmem
  · rw [hdigit] at hd
    cases hd
  · exact hc hmem

theorem head_numeral (h : u ∈ Numeral) : ∃ c r, u = c :: r ∧ (c.isDigit = true ∨ c = '.') := by
  obtain ⟨w, e, hw, -, hu⟩ := parts_of_mem h
  cases w with
  | cons c w =>
    rcases hu with ⟨rfl, -⟩ | ⟨f, rfl, -⟩ <;> exact ⟨c, _, rfl, .inl (hw c List.mem_cons_self)⟩
  | nil =>
    rcases hu with ⟨-, hne⟩ | ⟨f, rfl, -⟩
    · exact absurd rfl hne
    · exact ⟨'.', _, rfl, .inr rfl⟩

/-- A numeral in base ten denotes a binary64 number. -/
theorem exists_ofText (h : u ∈ Numeral) : ∃ x, Binary64.ofText? u = some x := by
  have hword : Binary64.ofText? u = Binary64.ofNumeral? false u := by
    obtain ⟨c, r, rfl, hc⟩ := head_numeral h
    have hlower : c.toLower = c := by
      rcases hc with hc | rfl
      · exact toLower_of_isDigit hc
      · rfl
    have hne : ∀ d, d.isDigit = false → d ≠ '.' → c ≠ d := by
      rintro d hd hpoint rfl
      rw [hd] at hc
      exact hc.elim nofun hpoint
    have hsign : Binary64.splitSign (c :: r) = (false, c :: r) := by
      unfold Binary64.splitSign
      split
      · next heq => exact absurd (List.cons.inj heq).1 (hne '+' (by decide) (by decide))
      · next heq => exact absurd (List.cons.inj heq).1 (hne '-' (by decide) (by decide))
      · rfl
    have hnot : ∀ (d : Char) (ds : List Char), d.isDigit = false → d ≠ '.' →
        String.ofList ((c :: r).map Char.toLower) ≠ String.ofList (d :: ds) := by
      intro d ds hd hpoint heq
      rw [List.map_cons, hlower] at heq
      exact hne d hd hpoint (List.cons.inj (String.ofList_injective heq)).1
    have hinf := hnot 'i' ['n', 'f'] (by decide) (by decide)
    have hinfinity := hnot 'i' ['n', 'f', 'i', 'n', 'i', 't', 'y'] (by decide) (by decide)
    have hnan := hnot 'n' ['a', 'n'] (by decide) (by decide)
    unfold Binary64.ofText?
    simp only [hsign]
    rw [if_neg (not_or.mpr ⟨hinf, hinfinity⟩), if_neg hnan]
  rw [hword]
  obtain ⟨w, e, hw, he, ⟨rfl, hne⟩ | ⟨f, rfl, hne, hf⟩⟩ := parts_of_mem h
  · exact exists_ofNumeral_whole ⟨hne, hw⟩ he
  · exact exists_ofNumeral_pointed hw hf hne he

/-- A number with a point or an exponent shows one of them. -/
theorem any_floating (h : u ∈ Floating) : (u.any fun c => c == '.' || c == 'e') = true := by
  have hmem : '.' ∈ u ∨ 'e' ∈ u := by
    rcases h with ⟨q, hq, e, -, rfl⟩ | ⟨w, -, _, ⟨_, rfl, r, -, rfl⟩, rfl⟩
    · rcases hq with ⟨w, -, _, ⟨_, rfl, f, -, rfl⟩, rfl⟩ | ⟨w, -, _, rfl, rfl⟩
      · exact .inl (by simp)
      · exact .inl (by simp)
    · exact .inr (by simp)
  rw [List.any_eq_true]
  rcases hmem with hmem | hmem
  · exact ⟨'.', hmem, rfl⟩
  · exact ⟨'e', hmem, rfl⟩

/-- A number with a point or an exponent denotes the binary64 number that its text says. -/
theorem parse_floating (h : plain t ∈ Floating) :
    ∃ x, Binary64.ofText? (plain t) = some x ∧ parse t = .ok (.float x) := by
  have hnumeral : plain t ∈ Numeral := .inl h
  obtain ⟨x, hx⟩ := exists_ofText hnumeral
  have himaginary : imaginary? (plain t) = none :=
    imaginary?_eq_none (notMem_numeral hnumeral (by decide) (by decide))
  have hbase : splitBase? (plain t) = none :=
    splitBase?_eq_none (notMem_numeral hnumeral (by decide) (by decide))
      (notMem_numeral hnumeral (by decide) (by decide))
      (notMem_numeral hnumeral (by decide) (by decide))
  refine ⟨x, hx, ?_⟩
  unfold plain at himaginary hbase hx h
  unfold parse
  simp only [himaginary, hbase, any_floating h, float, hx]
  rfl

/-- A numeral in base ten with a `j` behind it denotes an imaginary number. -/
theorem parse_imaginary (h : u ∈ Numeral) (ht : plain t = u ++ ['j']) :
    ∃ x, Binary64.ofText? u = some x ∧ parse t = .ok (.complex x) := by
  obtain ⟨x, hx⟩ := exists_ofText h
  have himaginary : imaginary? (plain t) = some u := by simp [imaginary?, ht]
  refine ⟨x, hx, ?_⟩
  unfold plain at himaginary
  unfold parse
  simp only [himaginary, float, hx]
  rfl

/-! ## Main result -/

/-- A literal that is an integer in a base besides ten denotes the integer of its digits. -/
theorem parse_based {b : Char × Nat × (Char → Bool)} (hb : b ∈ bases)
    (h : based b.1 b.2.2 t = some t.length) :
    ∃ v, IsNumeral b.2.1 ((clean t).drop 2).length v ((clean t).drop 2) ∧
      parse t = .ok (integer v t) := by
  have hmark : b.1 ≠ '_' ∧ b.2.2 '_' = false ∧ b.1 ≠ 'j' ∧ b.2.1 ≤ 16 ∧ AreDigits b.2.1 b.2.2 ∧
      ∀ r, splitBase? ('0' :: b.1 :: r) = some (b.2.1, r) := by
    simp only [bases, List.mem_cons, List.not_mem_nil, or_false] at hb
    rcases hb with rfl | rfl | rfl
    · exact ⟨by decide, by decide, by decide, by decide, areDigits_isHex, fun _ => rfl⟩
    · exact ⟨by decide, by decide, by decide, by decide, areDigits_isOctal, fun _ => rfl⟩
    · exact ⟨by decide, by decide, by decide, by decide, areDigits_isBinary, fun _ => rfl⟩
  obtain ⟨hne, hu, hj, hbase, hdigits, hsplit⟩ := hmark
  obtain ⟨d, ds, hclean, hd, hrun⟩ := clean_based hne hu h
  rw [List.take_length] at hclean
  obtain ⟨v, hv⟩ := hdigits.exists_isNumeral hrun.2
  have hdrop : (clean t).drop 2 = ds := by rw [hclean]; rfl
  rw [hdrop]
  refine ⟨v, hv, parse_of_splitBase hbase hclean ?_ ?_ hrun.1 hv⟩
  · rw [hd]
    exact hsplit
  · rw [hd]
    exact hj

/-- What the lexer measures as a number is in base ten with a `j` behind it, an integer in one of
the other bases, a number with a point or an exponent, or a decimal integer. -/
theorem number_cases {s : List Char} {n : Nat} (h : number s = some n) :
    (∃ u ∈ Numeral, plain (s.take n) = u ++ ['j']) ∨
      (∃ b ∈ bases, based b.1 b.2.2 s = some n) ∨ plain (s.take n) ∈ Floating ∨
        digits s = some n := by
  have hj : PlainIn (Numeral * {['j']}) (andThen (orElse Lexeme.float digits) (letter 'j')) :=
    (plainIn_float.orElse plainIn_digits).andThen (plainIn_letter (c := 'j') (by decide))
  simp only [number, Lexeme.orElse, Option.or_eq_some_iff] at h
  rcases h with h | ⟨-, h | ⟨-, h | ⟨-, h | ⟨-, h | ⟨-, h⟩⟩⟩⟩⟩
  · obtain ⟨u, hu, _, rfl, heq⟩ := hj s n h
    exact .inl ⟨u, hu, heq.symm⟩
  · exact .inr (.inl ⟨('x', 16, isHex), by simp [bases], h⟩)
  · exact .inr (.inl ⟨('o', 8, isOctal), by simp [bases], h⟩)
  · exact .inr (.inl ⟨('b', 2, isBinary), by simp [bases], h⟩)
  · exact .inr (.inr (.inl (plainIn_float s n h)))
  · exact .inr (.inr (.inr h))

/-- The value of every literal that the lexer measures as a number.  An integer in a base is the
value of its digits, as a number below 2^64 or else as its text, and in base ten the one fault is a
zero in front of an integer that is not zero.  Any other literal denotes the binary64 number that
its text says, an imaginary one if there is a `j` at its end. -/
theorem parse_number {s t : List Char} {n : Nat} (h : number s = some n) (ht : s.take n = t) :
    (∀ b ∈ bases, based b.1 b.2.2 t = some t.length →
      ∃ v, IsNumeral b.2.1 ((clean t).drop 2).length v ((clean t).drop 2) ∧
        parse t = .ok (integer v t)) ∧
    (digits t = some t.length →
      ∃ v, IsNumeral 10 (clean t).length v (clean t) ∧
        (parse t = .ok (integer v t) ∨ parse t = .error .leadingZeros) ∧
        (parse t = .error .leadingZeros ↔
          1 < (clean t).length ∧ (clean t).head? = some '0' ∧ ∃ c ∈ clean t, c ≠ '0')) ∧
    ((∀ b ∈ bases, based b.1 b.2.2 t ≠ some t.length) → digits t ≠ some t.length →
      if (plain t).getLast? = some 'j'
        then ∃ x, Binary64.ofText? (plain t).dropLast = some x ∧ parse t = .ok (.complex x)
        else ∃ x, Binary64.ofText? (plain t) = some x ∧ parse t = .ok (.float x)) := by
  refine ⟨fun b hb => parse_based hb, fun hdigits => ?_, fun hbased hdigits => ?_⟩
  · have hrun : IsRun Char.isDigit (clean t) := by
      have := isRun_of_digits hdigits
      rwa [List.take_length] at this
    obtain ⟨v, hv⟩ := areDigits_isDigit.exists_isNumeral hrun.2
    refine ⟨v, hv, ?_⟩
    rw [parse_of_isRun hrun hv, ← hasLeadingZero_iff]
    split
    · next hzero => exact ⟨.inr rfl, iff_of_true rfl hzero⟩
    · next hzero => exact ⟨.inl rfl, iff_of_false nofun hzero⟩
  · -- the other two kinds would be measured again in the text of the literal itself
    have hlen : t.length = n := by
      rw [← ht, List.length_take]
      exact Nat.min_eq_left (bounded_number s n h)
    rcases number_cases h with ⟨u, hu, heq⟩ | ⟨b, hb, hn⟩ | hfloat | hn
    · rw [ht] at heq
      rw [if_pos (by simp [heq])]
      rw [heq, List.dropLast_concat]
      exact parse_imaginary hu heq
    · refine absurd ?_ (hbased b hb)
      rw [hlen, ← ht]
      exact based_take hn
    · rw [ht] at hfloat
      have hj : 'j' ∉ plain t := notMem_numeral (.inl hfloat) (by decide) (by decide)
      rw [if_neg fun hlast => hj (List.mem_of_getLast? hlast)]
      exact parse_floating hfloat
    · refine absurd ?_ hdigits
      rw [hlen, ← ht]
      exact digits_take hn

/-- Literals of three kinds, each with something behind it. -/
theorem parse_number_kinds :
    (number "0X_fF+".toList = some 5 ∧ ∃ v, IsNumeral 16 2 v ['f', 'F'] ∧
      parse "0X_fF".toList = .ok (integer v "0X_fF".toList)) ∧
    (number "0_7 ".toList = some 3 ∧ parse "0_7".toList = .error .leadingZeros) ∧
    (number "1_0.E-3J,".toList = some 8 ∧ ∃ x, Binary64.ofText? "10.e-3".toList = some x ∧
      parse "1_0.E-3J".toList = .ok (.complex x)) := by
  have hbased := (parse_number (s := "0X_fF+".toList) (n := 5) (by decide +kernel) rfl).1
  have hdecimal := (parse_number (s := "0_7 ".toList) (n := 3) (by decide +kernel) rfl).2.1
  have hfloat := (parse_number (s := "1_0.E-3J,".toList) (n := 8) (by decide +kernel) rfl).2.2
  refine ⟨⟨by decide +kernel, ?_⟩, ⟨by decide +kernel, ?_⟩, by decide +kernel, ?_⟩
  · exact hbased ('x', 16, isHex) (by simp [bases]) (by decide +kernel)
  · obtain ⟨v, -, -, hparse⟩ := hdecimal (by decide +kernel)
    exact hparse.mpr ⟨by decide, rfl, '7', by decide, by decide⟩
  · have hvalue := hfloat (by simp only [bases, List.forall_mem_cons]; decide +kernel)
      (by decide +kernel)
    rwa [if_pos (by decide)] at hvalue

end Number

end PythonSyntax
