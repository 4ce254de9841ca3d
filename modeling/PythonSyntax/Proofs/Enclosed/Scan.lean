import PythonSyntax.Parser.FormattedString
import PythonSyntax.Proofs.Enclosed.Text
import PythonSyntax.Proofs.Lexeme.Local
import PythonSyntax.Proofs.Result

/-
The search for the end of a field, beside the lexemes of its expression.

The search counts brackets character by character and passes over literals, and it stops at a colon
outside all brackets.  At the end of each lexeme it has counted as the lexemes do.  So among the
lexemes of the expression that it finds, none outside all brackets begins with a colon.
-/

namespace PythonSyntax

/-! ## Brackets among lexemes -/

namespace Lexeme

/-- Whether a lexeme opens a bracket. -/
def opens (l : Lexeme) : Bool := l.kind == .op && Layout.isOpening (String.ofList l.text)

/-- Whether a lexeme closes a bracket. -/
def closes (l : Lexeme) : Bool := l.kind == .op && Layout.isClosing (String.ofList l.text)

/-- How many brackets are open after a lexeme. -/
def depthAfter (l : Lexeme) (k : Nat) : Nat :=
  if l.opens then k + 1 else if l.closes then k - 1 else k

/-- Whether lexemes close as many brackets as are open and they open, and none where none is open;
`k` brackets are open before them. -/
def balanced : Nat → List Lexeme → Bool
  | k, [] => k == 0
  | k, l :: ls => (!l.closes || k != 0) && balanced (l.depthAfter k) ls

/-- The lexemes outside all brackets, where `k` brackets are open before the first. -/
def outer : Nat → List Lexeme → List Lexeme
  | _, [] => []
  | k, l :: ls => (if k = 0 ∧ l.depthAfter k = 0 then [l] else []) ++ outer (l.depthAfter k) ls

theorem mem_outer_cons {l m : Lexeme} {k : Nat} {ls : List Lexeme} :
    m ∈ outer k (l :: ls) ↔ (m = l ∧ k = 0 ∧ l.depthAfter k = 0) ∨ m ∈ outer (l.depthAfter k) ls := by
  rw [outer, List.mem_append]
  split
  · next h => rw [List.mem_singleton, and_iff_left h]
  · next h => simp [h]

/-- No lexeme but an operator opens or closes a bracket. -/
theorem depthAfter_of_ne_op {l : Lexeme} (h : l.kind ≠ .op) (k : Nat) : l.depthAfter k = k := by
  have hop : (l.kind == .op) = false := beq_false_of_ne h
  rw [depthAfter, opens, closes, hop]
  rfl

end Lexeme

namespace Parser.FieldScan

variable {s s' : FieldScan} {c stop : Char} {r a b rest : List Char} {d : Nat}

/-! ## Passing over a text -/

/-- The state after a text that `rest` follows, if the expression goes on through all of it. -/
def passAll (rest : List Char) : FieldScan → List Char → Option FieldScan
  | s, [] => some s
  | s, c :: r =>
    match s.pass c (r ++ rest) with
    | .ok (some s) => passAll rest s r
    | _ => none

theorem passAll_step : passAll rest s (c :: r) =
    match s.pass c (r ++ rest) with
    | .ok (some s) => passAll rest s r
    | _ => none :=
  rfl

theorem passAll_cons (h : s.pass c (r ++ rest) = .ok (some s')) :
    passAll rest s (c :: r) = passAll rest s' r := by
  rw [passAll_step, h]

theorem passAll_cons_inv (h : passAll rest s (c :: r) = some s') :
    ∃ s₁, s.pass c (r ++ rest) = .ok (some s₁) ∧ passAll rest s₁ r = some s' := by
  rw [passAll_step] at h
  split at h
  · next s₁ hpass => exact ⟨s₁, hpass, h⟩
  · cases h

theorem passAll_append : passAll rest s (a ++ b) = (passAll (b ++ rest) s a).bind (passAll rest · b) := by
  induction a generalizing s with
  | nil => rfl
  | cons c a ih =>
    rw [List.cons_append, passAll_step, passAll_step, List.append_assoc]
    split
    · exact ih
    · rfl

/-- An expression ends where the search stops after it. -/
theorem splitField_iff {start offset : Nat} : splitField start s offset (a ++ rest) = .ok (a, rest) ↔
    ∃ c r s', rest = c :: r ∧ passAll rest s a = some s' ∧ s'.pass c r = .ok none := by
  induction a generalizing s offset with
  | nil =>
    rw [List.nil_append]
    cases rest with
    | nil =>
      constructor
      · intro h
        unfold splitField at h
        split_ifs at h
      · rintro ⟨c, r, s', h, -⟩
        cases h
    | cons c r =>
      unfold splitField
      constructor
      · intro h
        refine ⟨c, r, s, rfl, rfl, ?_⟩
        split at h
        · cases h
        · assumption
        · obtain ⟨_, -, heq⟩ := map_ok h
          cases heq
      · rintro ⟨_, _, s', ⟨⟩, ⟨⟩, hstop⟩
        rw [hstop]
  | cons d a ih =>
    rw [List.cons_append]
    constructor
    · intro h
      unfold splitField at h
      split at h
      · cases h
      · cases h
      · next s₁ hpass =>
        obtain ⟨_, hr, heq⟩ := map_ok h
        cases heq
        obtain ⟨c, r, s', hrest, hall, hstop⟩ := ih.mp hr
        exact ⟨c, r, s', hrest, (passAll_cons hpass).trans hall, hstop⟩
    · rintro ⟨c, r, s', hrest, hall, hstop⟩
      obtain ⟨s₁, hpass, hr⟩ := passAll_cons_inv hall
      unfold splitField
      rw [hpass]
      dsimp only
      rw [ih.mpr ⟨c, r, s', hrest, hr, hstop⟩]
      rfl

/-- So the search passes over the expression that it finds. -/
theorem passAll_of_splitField {start offset : Nat}
    (h : splitField start s offset (a ++ rest) = .ok (a, rest)) : ∃ s', passAll rest s a = some s' := by
  rw [splitField_iff] at h
  obtain ⟨_, _, s', -, hs, -⟩ := h
  exact ⟨s', hs⟩

/-! ## Outside literals -/

/-- How many brackets are open after a character outside literals. -/
def shift (d : Nat) (c : Char) : Nat :=
  if c = '(' ∨ c = '[' ∨ c = '{' then d + 1
  else if c = ')' ∨ c = ']' ∨ c = '}' then d - 1
  else d

/-- The search is outside literals, with a number of open brackets, and passes over nothing but the
equals sign of an operator that it has seen. -/
structure Rests (s : FieldScan) (d : Nat) (text : List Char) : Prop where
  depth : s.depth = d
  quote : s.quote = none
  skip : s.skip = 0 ∨ s.skip = 1 ∧ text.head? = some '='

/-- Outside literals the search counts brackets, and outside all brackets it stops at a colon. -/
theorem Rests.pass (h : s.Rests d (c :: r)) (hq : Quoted.isQuote c = false)
    (hp : s.pass c r = .ok (some s')) : s'.Rests (shift d c) r ∧ (c = ':' → d ≠ 0) := by
  obtain ⟨d', quote, skip⟩ := s
  obtain ⟨hdepth, hquote, hskip⟩ := h
  dsimp only at hdepth hquote hskip
  subst hdepth hquote
  rcases hskip with rfl | ⟨rfl, heq⟩
  · have hcolon : c = ':' → d' ≠ 0 := by
      rintro rfl rfl
      simp [FieldScan.pass, Quoted.isQuote] at hp
    refine ⟨?_, hcolon⟩
    simp only [FieldScan.pass, hq, Bool.false_eq_true, if_false] at hp
    split_ifs at hp with hslash hhash hopen hclose hequals hstop <;> cases hp
    · rw [shift, if_pos hopen]
      exact ⟨rfl, rfl, .inl rfl⟩
    · rw [shift, if_neg hopen, if_pos (hclose.imp_right (·.imp_right And.left))]
      exact ⟨rfl, rfl, .inl rfl⟩
    · have hshift : shift d' c = d' := by
        rcases hequals.1 with rfl | rfl | rfl | rfl <;> rfl
      rw [hshift]
      exact ⟨rfl, rfl, .inr ⟨rfl, hequals.2⟩⟩
    · -- a closing brace with nothing open would have ended the expression
      have hbrace : ¬ (c = ')' ∨ c = ']' ∨ c = '}') := by
        rintro (hc | hc | hc)
        · exact hclose (.inl hc)
        · exact hclose (.inr (.inl hc))
        · refine hstop ⟨.inl hc, ?_⟩
          by_contra hne
          exact hclose (.inr (.inr ⟨hc, Nat.pos_of_ne_zero hne⟩))
      rw [shift, if_neg hopen, if_neg hbrace]
      exact ⟨rfl, rfl, .inl rfl⟩
  · obtain rfl : c = '=' := Option.some.inj heq
    cases hp
    exact ⟨⟨rfl, rfl, .inl rfl⟩, fun h => absurd h (by decide)⟩

/-- The same for a text without quotes. -/
theorem Rests.passAll {text : List Char} (h : s.Rests d (text ++ rest))
    (hq : ∀ c ∈ text, Quoted.isQuote c = false) (hp : passAll rest s text = some s') :
    s'.Rests (text.foldl shift d) rest ∧ (text.head? = some ':' → d ≠ 0) := by
  induction text generalizing s d with
  | nil =>
    cases hp
    exact ⟨h, nofun⟩
  | cons c r ih =>
    obtain ⟨s₁, hpass, hr⟩ := passAll_cons_inv hp
    obtain ⟨h₁, hcolon⟩ := h.pass (hq c List.mem_cons_self) hpass
    refine ⟨(ih h₁ (fun d hd => hq d (List.mem_cons_of_mem c hd)) hr).1, ?_⟩
    exact fun hc => hcolon (Option.some.inj hc)

/-- The characters that the search counts. -/
def counted : List Char := ['(', ')', '[', ']', '{', '}']

/-- Characters that are no brackets leave the number of open brackets. -/
theorem foldl_shift_uncounted {text : List Char} (h : ∀ c ∈ text, c ∉ counted) :
    text.foldl shift d = d := by
  induction text with
  | nil => rfl
  | cons c r ih =>
    rw [List.forall_mem_cons] at h
    have hc : ∀ b ∈ counted, c ≠ b := fun b hb hcb => h.1 (hcb ▸ hb)
    have hshift : shift d c = d := by
      rw [shift, if_neg, if_neg]
      · rintro (hb | hb | hb) <;> exact hc _ (by decide) hb
      · rintro (hb | hb | hb) <;> exact hc _ (by decide) hb
    rw [List.foldl_cons, hshift, ih h.2]

/-- A character that stops no piece is neither a quote nor a bracket. -/
theorem plain_of_clear (h : Lexeme.Clear c) : Quoted.isQuote c = false ∧ c ∉ counted := by
  have hstops : ∀ c ∈ counted, c ∈ Lexeme.stops := by simp [counted, Lexeme.stops]
  refine ⟨Bool.eq_false_iff.mpr fun hq => h ?_, fun hc => h (hstops c hc)⟩
  rcases (Bool.or_eq_true _ _).mp hq with hq | hq <;> rw [beq_iff_eq.mp hq] <;> decide

theorem foldl_shift_clear {text : List Char} (h : ∀ c ∈ text, Lexeme.Clear c) :
    text.foldl shift d = d :=
  foldl_shift_uncounted fun c hc => (plain_of_clear (h c hc)).2

/-! ## Literals -/

section

variable {q : Char} {n : Nat} {text : List Char}

theorem one_le_quoteRun (q : Char) (r : List Char) : 1 ≤ quoteRun q (q :: r) := by
  simp [quoteRun]

theorem three_le_quoteRun_iff : 3 ≤ quoteRun q text ↔ Lexeme.startsTriple q text = true := by
  have hlength : quoteRun q text ≤ (text.take 3).length :=
    (List.takeWhile_prefix _).length_le
  rw [Lexeme.startsTriple, List.isPrefixOf_iff_prefix, List.prefix_iff_eq_take]
  constructor
  · intro h
    have htake : (text.take 3).length = 3 := by
      rw [List.length_take] at hlength ⊢
      omega
    have hall : (text.take 3).takeWhile (· == q) = text.take 3 :=
      (List.takeWhile_prefix _).eq_of_length (by rw [quoteRun] at h hlength; omega)
    refine (List.eq_replicate_of_mem fun c hc => ?_).trans (congrArg (List.replicate · q) htake) |>.symm
    rw [← hall] at hc
    exact beq_iff_eq.mp (List.mem_takeWhile_imp (p := fun d => d == q) hc)
  · intro h
    rw [quoteRun, ← show [q, q, q] = text.take 3 from h]
    simp

theorem pass_quote (hq : Quoted.isQuote q = true) (r : List Char) :
    FieldScan.pass ⟨d, none, 0⟩ q r = .ok (some (if Lexeme.startsTriple q (q :: r) = true
      then ⟨d, some (q, 3), 2⟩ else ⟨d, some (q, 1), 0⟩)) := by
  have hslash : q ≠ '\\' := by
    rintro rfl
    cases hq
  refine (if_neg hslash).trans ((if_pos hq).trans ?_)
  by_cases h : Lexeme.startsTriple q (q :: r) = true
  · rw [if_pos h, if_pos (three_le_quoteRun_iff.mpr h)]
  · rw [if_neg h, if_neg (mt three_le_quoteRun_iff.mp h)]

/-- Within a literal the search goes on until its quotes come. -/
theorem pass_literal (hc : c ≠ '\\') (r : List Char) :
    FieldScan.pass ⟨d, some (q, n), 0⟩ c r = .ok (some (if c = q ∧ n ≤ quoteRun q (c :: r)
      then ⟨d, none, n - 1⟩ else ⟨d, some (q, n), 0⟩)) := by
  refine (if_neg hc).trans ?_
  split <;> rfl

/-- The rest of an open literal: the search goes on to its last quotes, and there it closes. -/
inductive ClosedBy (d : Nat) (q : Char) (n : Nat) (rest : List Char) : List Char → Prop where
  | quotes : FieldScan.pass ⟨d, some (q, n), 0⟩ q (List.replicate (n - 1) q ++ rest) =
      .ok (some ⟨d, none, n - 1⟩) → ClosedBy d q n rest (q :: List.replicate (n - 1) q)
  | cons {c : Char} {r : List Char} :
      FieldScan.pass ⟨d, some (q, n), 0⟩ c (r ++ rest) = .ok (some ⟨d, some (q, n), 0⟩) →
      ClosedBy d q n rest r → ClosedBy d q n rest (c :: r)

/-- A literal with single quotes is open up to the one that closes it. -/
theorem closedBy_closeSingle (hslash : ∀ c ∈ text, c ≠ '\\') (h : Lexeme.closeSingle q text = some n)
    (rest : List Char) : ClosedBy d q 1 (text.drop n ++ rest) (text.take n) := by
  induction text generalizing n with
  | nil => cases h
  | cons c r ih =>
    obtain ⟨hc, hr⟩ := List.forall_mem_cons.mp hslash
    rw [closeSingle_open hc] at h
    split at h
    · next hcq =>
      cases h
      subst hcq
      refine .quotes ((pass_literal hc _).trans ?_)
      rw [if_pos ⟨rfl, one_le_quoteRun _ _⟩]
    · next hcq =>
      split at h
      · cases h
      · obtain ⟨k, hk, rfl⟩ := Option.map_eq_some_iff.mp h
        refine .cons ((pass_literal hc _).trans ?_) (ih hr hk)
        rw [if_neg fun hq => hcq hq.1]

/-- A literal with triple quotes is open up to those that close it. -/
theorem closedBy_closeTriple (hslash : ∀ c ∈ text, c ≠ '\\') (h : Lexeme.closeTriple q text = some n)
    (rest : List Char) : ClosedBy d q 3 (text.drop n ++ rest) (text.take n) := by
  induction text generalizing n with
  | nil => cases h
  | cons c r ih =>
    obtain ⟨hc, htail⟩ := List.forall_mem_cons.mp hslash
    rw [closeTriple_open hc] at h
    split at h
    · next hstart =>
      cases h
      obtain ⟨r', hr⟩ := List.isPrefixOf_iff_prefix.mp hstart
      obtain ⟨rfl, rfl⟩ := List.cons.inj hr
      have hrun : 3 ≤ quoteRun q (q :: q :: q :: (r' ++ rest)) :=
        three_le_quoteRun_iff.mpr (List.isPrefixOf_iff_prefix.mpr ⟨_, rfl⟩)
      refine ClosedBy.quotes ((pass_literal hc (q :: q :: (r' ++ rest))).trans ?_)
      rw [if_pos ⟨rfl, hrun⟩]
    · next hstart =>
      obtain ⟨k, hk, rfl⟩ := Option.map_eq_some_iff.mp h
      have hlength := (Lexeme.three_le_of_closeTriple hk).2
      have hstay : ¬ (c = q ∧ 3 ≤ quoteRun q (c :: (r.take k ++ (r.drop k ++ rest)))) := by
        rintro ⟨-, hrun⟩
        rw [← List.append_assoc, List.take_append_drop, three_le_quoteRun_iff, ← List.cons_append,
          Lexeme.startsTriple_append (x := c :: r) rest (Nat.le_succ_of_le hlength)] at hrun
        exact hstart hrun
      rw [List.take_succ_cons, List.drop_succ_cons]
      refine .cons ((pass_literal hc _).trans ?_) (ih htail hk)
      rw [if_neg hstay]

/-- The quoted part of a literal opens with one quote or with three, and then is open up to as many of
them, if no quote follows the text. -/
theorem exists_opening (d : Nat) (rest : List Char) (hslash : ∀ c ∈ text, c ≠ '\\')
    (hstop : Quoted.isQuote stop = false) (h : Lexeme.quoted text = some n) :
    ∃ q k tail, Quoted.isQuote q = true ∧ text.take n = q :: (List.replicate k q ++ tail) ∧
      FieldScan.pass ⟨d, none, 0⟩ q ((List.replicate k q ++ tail) ++ (text.drop n ++ stop :: rest)) =
        .ok (some ⟨d, some (q, k + 1), k⟩) ∧
      ClosedBy d q (k + 1) (text.drop n ++ stop :: rest) tail := by
  rcases Lexeme.quoted_cases h with ⟨q, r, k, hq, rfl, hk, rfl⟩ | ⟨q, r, k, hq, rfl, hstart, hk, rfl⟩
  · have hstart : Lexeme.startsTriple q (q :: q :: q :: (r.take k ++ (r.drop k ++ stop :: rest))) = true :=
      List.isPrefixOf_iff_prefix.mpr ⟨_, rfl⟩
    refine ⟨q, 2, r.take k, hq, rfl, (pass_quote hq _).trans ?_, ?_⟩
    · exact congrArg (fun s => Except.ok (some s)) (if_pos hstart)
    · exact closedBy_closeTriple (fun c hc => hslash c (List.mem_append_right [q, q, q] hc)) hk _
  · have hne : q ≠ stop := by
      rintro rfl
      cases hq.symm.trans hstop
    refine ⟨q, 0, r.take k, hq, rfl, ?_, closedBy_closeSingle (List.forall_mem_cons.mp hslash).2 hk _⟩
    show FieldScan.pass _ q (r.take k ++ (r.drop k ++ stop :: rest)) = _
    rw [← List.append_assoc, List.take_append_drop, pass_quote hq, ← List.cons_append,
      Lexeme.startsTriple_sealed hne, hstart, if_neg Bool.false_ne_true]

/-- What the search passes over unseen it leaves behind. -/
theorem passAll_skip (quote : Option (Char × Nat)) (k : Nat) (q : Char) :
    passAll rest ⟨d, quote, k⟩ (List.replicate k q) = some ⟨d, quote, 0⟩ := by
  induction k with
  | zero => rfl
  | succ k ih => exact ih

theorem ClosedBy.passAll (h : ClosedBy d q n rest text) :
    FieldScan.passAll rest ⟨d, some (q, n), 0⟩ text = some ⟨d, none, 0⟩ := by
  induction h with
  | quotes hpass => exact (passAll_cons hpass).trans (passAll_skip none _ q)
  | cons hpass _ ih => exact (passAll_cons hpass).trans ih

/-- The quoted part of a literal is passed over to its end. -/
theorem passAll_quoted (hslash : ∀ c ∈ text, c ≠ '\\') (hstop : Quoted.isQuote stop = false)
    (h : Lexeme.quoted text = some n) :
    passAll (text.drop n ++ stop :: rest) ⟨d, none, 0⟩ (text.take n) = some ⟨d, none, 0⟩ := by
  obtain ⟨q, k, tail, -, htake, hpass, hclosed⟩ := exists_opening d rest hslash hstop h
  rw [htake, passAll_cons hpass, passAll_append, passAll_skip]
  exact hclosed.passAll

/-- After the letters in front of a quote the search rests where it did before, and nothing is left to
pass over. -/
theorem Rests.marks {marks : List Char} (hs : s.Rests d (marks ++ rest))
    (hmarks : ∀ c ∈ marks, Lexeme.IsMark c) (hhead : rest.head? = some q)
    (hq : Quoted.isQuote q = true) (hp : FieldScan.passAll rest s marks = some s') :
    s' = ⟨d, none, 0⟩ := by
  obtain ⟨⟨hdepth, hquote, hskip⟩, -⟩ := hs.passAll (fun c hc => isQuote_of_isMark (hmarks c hc)) hp
  rw [foldl_shift_clear fun c hc => Lexeme.clear_of_isMark (hmarks c hc)] at hdepth
  have hzero : s'.skip = 0 := hskip.resolve_right fun hone => by
    rw [hhead, Option.some.injEq] at hone
    rw [hone.2] at hq
    cases hq
  obtain ⟨_, _, _⟩ := s'
  rw [FieldScan.mk.injEq]
  exact ⟨hdepth, hquote, hzero⟩

/-- The quoted part of a literal begins with a quote and ends with one. -/
theorem quoted_ends (h : Lexeme.quoted text = some n) :
    ∃ q, Quoted.isQuote q = true ∧ (text.take n).head? = some q ∧ (text.take n).getLast? = some q := by
  obtain ⟨q, triple, body, hshape, hq, -⟩ := quoted_shape h
  refine ⟨q, hq, ?_, ?_⟩
  · rw [hshape]
    cases triple <;> rfl
  · rw [hshape, ← List.append_assoc, List.getLast?_append]
    cases triple <;> rfl

/-- After a literal the search rests where it did before. -/
theorem Rests.string (hs : s.Rests d (text ++ stop :: rest)) (hslash : ∀ c ∈ text, c ≠ '\\')
    (hstop : Quoted.isQuote stop = false)
    (h : Lexeme.string text = some n)
    (hp : FieldScan.passAll (text.drop n ++ stop :: rest) s (text.take n) = some s') :
    s' = ⟨d, none, 0⟩ := by
  obtain ⟨i, j, hi, hj, rfl⟩ := Lexeme.andThen_eq_some.mp h
  obtain ⟨q, hq, hhead, -⟩ := quoted_ends hj
  rw [List.take_add, passAll_append, ← List.drop_drop] at hp
  obtain ⟨s₁, hs₁, hp⟩ := Option.bind_eq_some_iff.mp hp
  rw [← List.append_assoc, List.take_append_drop] at hs₁
  rw [← List.take_append_drop i text, List.append_assoc] at hs
  have hquote : (text.drop i ++ stop :: rest).head? = some q := by
    rw [← List.take_append_drop j (text.drop i), List.append_assoc, List.head?_append, hhead]
    rfl
  rw [hs.marks (Lexeme.within_marks text i hi) hquote hq hs₁,
    passAll_quoted (fun c hc => hslash c (List.mem_of_mem_drop hc)) hstop hj] at hp
  exact (Option.some.inj hp).symm

end

/-! ## Lexemes -/

/-- A character outside literals at which the search goes on is a colon only in brackets. -/
theorem Rests.colon (hs : s.Rests d (':' :: r ++ rest))
    (hp : FieldScan.passAll rest s (':' :: r) = some s') : d ≠ 0 := by
  obtain ⟨s₁, hpass, -⟩ := passAll_cons_inv hp
  exact (hs.pass (by decide) hpass).2 rfl

/-- Outside literals no comment is passed over. -/
theorem Rests.comment {text : List Char} {n : Nat} (hs : s.Rests d (text ++ rest))
    (hn : Lexeme.comment text = some n) :
    FieldScan.passAll (text.drop n ++ rest) s (text.take n) = none := by
  unfold Lexeme.comment at hn
  split at hn
  · next r =>
    cases hn
    obtain ⟨d', quote, skip⟩ := s
    obtain ⟨-, hquote, hskip⟩ := hs
    dsimp only at hquote hskip
    obtain rfl : skip = 0 := hskip.resolve_right fun hone => nomatch hone.2
    subst hquote
    rfl
  · cases hn

/-- The brackets of an operator are counted as those of its lexeme, and no quote is in it. -/
theorem foldl_shift_op {w : List Char} (hw : w ∈ Lexeme.operators) :
    w.foldl shift d = Lexeme.depthAfter ⟨.op, w⟩ d ∧ ∀ c ∈ w, Quoted.isQuote c = false := by
  have hquote : ∀ w ∈ Lexeme.operators, (w.all fun c => !Quoted.isQuote c) = true := by decide
  have hcases : ∀ w ∈ Lexeme.operators,
      ((w.all fun c => !counted.contains c) = true ∧ Lexeme.opens ⟨.op, w⟩ = false ∧
        Lexeme.closes ⟨.op, w⟩ = false) ∨
      w ∈ [['('], ['['], ['{'], [')'], [']'], ['}']] := by decide +kernel
  refine ⟨?_, fun c hc => (Bool.not_eq_true' _).mp (List.all_eq_true.mp (hquote w hw) c hc)⟩
  rcases hcases w hw with ⟨hclear, hopens, hcloses⟩ | hbracket
  · have hnone : ∀ c ∈ w, c ∉ counted := fun c hc hmem => by
      have hnot := List.all_eq_true.mp hclear c hc
      rw [List.contains_iff_mem.mpr hmem] at hnot
      cases hnot
    rw [foldl_shift_uncounted hnone, Lexeme.depthAfter, hopens, hcloses]
    rfl
  · simp only [List.mem_cons, List.not_mem_nil, or_false] at hbracket
    rcases hbracket with rfl | rfl | rfl | rfl | rfl | rfl <;> rfl

/-- After a lexeme the search rests, and it has counted brackets as the lexeme does. -/
theorem Rests.lexeme {text : List Char} {kind : LexemeKind} {m : Lexeme.Measure} {n : Nat}
    (hs : s.Rests d (text ++ stop :: rest)) (hslash : ∀ c ∈ text, c ≠ '\\')
    (hstop : Quoted.isQuote stop = false) (hm : (kind, m) ∈ Lexeme.kinds) (hn : m text = some n)
    (hkind : kind ≠ .openQuote ∧ kind ≠ .stray)
    (hp : FieldScan.passAll (text.drop n ++ stop :: rest) s (text.take n) = some s') :
    s'.Rests (Lexeme.depthAfter ⟨kind, text.take n⟩ d) (text.drop n ++ stop :: rest) := by
  have htext : text ++ stop :: rest = text.take n ++ (text.drop n ++ stop :: rest) := by
    rw [← List.append_assoc, List.take_append_drop]
  -- pieces without stops are passed over one character at a time
  have hclear : Lexeme.Within Lexeme.Clear m → kind ≠ .op →
      s'.Rests (Lexeme.depthAfter ⟨kind, text.take n⟩ d) (text.drop n ++ stop :: rest) := by
    intro hwithin hop
    have hpiece := hwithin text n hn
    have hrests := ((htext ▸ hs).passAll (fun c hc => (plain_of_clear (hpiece c hc)).1) hp).1
    rw [foldl_shift_clear hpiece] at hrests
    rwa [Lexeme.depthAfter_of_ne_op hop]
  simp only [Lexeme.kinds, List.mem_cons, Prod.mk.injEq, List.not_mem_nil, or_false] at hm
  rcases hm with ⟨rfl, rfl⟩ | ⟨rfl, rfl⟩ | ⟨rfl, rfl⟩ | ⟨rfl, rfl⟩ | ⟨rfl, rfl⟩ | ⟨rfl, rfl⟩ |
    ⟨rfl, rfl⟩ | ⟨rfl, rfl⟩ | ⟨rfl, rfl⟩ | ⟨rfl, rfl⟩
  · -- no backslash can hide a line break
    cases text with
    | nil => cases hn
    | cons c r =>
      rw [Lexeme.continuation_other (hslash c List.mem_cons_self)] at hn
      cases hn
  · have hrests : ∀ w, text.take n = w → (w.all fun c => !Quoted.isQuote c) = true →
        w.foldl shift d = d → s'.Rests d (text.drop n ++ stop :: rest) := by
      rintro w rfl hquote hshift
      have hrests := ((htext ▸ hs).passAll
        (fun c hc => (Bool.not_eq_true' _).mp (List.all_eq_true.mp hquote c hc)) hp).1
      rwa [hshift] at hrests
    rcases Lexeme.lineBreak_text hn with hw | hw | hw
    · exact hrests _ hw (by decide) rfl
    · exact hrests _ hw (by decide) rfl
    · exact hrests _ hw (by decide) rfl
  · exact hclear Lexeme.within_blank (by decide)
  · rw [hs.comment hn] at hp
    cases hp
  · rw [hs.string hslash hstop hn hp]
    exact ⟨rfl, rfl, .inl rfl⟩
  · exact absurd rfl hkind.1
  · exact hclear Lexeme.within_number (by decide)
  · exact hclear Lexeme.within_name (by decide)
  · obtain ⟨hshift, hquote⟩ := foldl_shift_op (d := d) (Lexeme.op_eq_some hn)
    have hrests := ((htext ▸ hs).passAll hquote hp).1
    rwa [hshift] at hrests
  · exact absurd rfl hkind.2

/-- In a text that the search passes over, no lexeme outside all brackets begins with a colon. -/
theorem head_ne_colon {text : List Char} (hs : s.Rests d (text ++ stop :: rest))
    (hslash : ∀ c ∈ text, c ≠ '\\') (hstop : Quoted.isQuote stop = false)
    (hkinds : ∀ l ∈ lexemes text, l.kind ≠ .openQuote ∧ l.kind ≠ .stray)
    (hp : FieldScan.passAll (stop :: rest) s text = some s') :
    ∀ l ∈ Lexeme.outer d (lexemes text), l.text.head? ≠ some ':' := by
  generalize hls : lexemes text = ls at hkinds
  induction ls generalizing s d text with
  | nil => exact nofun
  | cons l ls ih =>
    obtain ⟨m, n, hm, hn, htext, hrest⟩ := Lexeme.measured hls
    rw [List.forall_mem_cons] at hkinds
    rw [← List.take_append_drop n text, passAll_append] at hp
    obtain ⟨s₁, hs₁, hp⟩ := Option.bind_eq_some_iff.mp hp
    have hrests := hs.lexeme hslash hstop hm hn hkinds.1 hs₁
    rw [← htext] at hrests
    intro l' hl'
    rcases Lexeme.mem_outer_cons.mp hl' with ⟨rfl, rfl, -⟩ | hl'
    · intro hhead
      rw [← htext] at hs₁
      rw [← List.take_append_drop n text, ← htext, List.append_assoc] at hs
      cases hw : l'.text with
      | nil => rw [hw] at hhead; cases hhead
      | cons c r =>
        rw [hw] at hhead hs hs₁
        cases hhead
        exact hs.colon hs₁ rfl
    · exact ih hrests (fun c hc => hslash c (List.mem_of_mem_drop hc)) hp hrest.symm hkinds.2 l' hl'

/-- In a text that the search passes over there is neither a comment nor a line break that is hidden. -/
theorem kind_of_passAll {text : List Char} (hs : s.Rests d (text ++ stop :: rest))
    (hslash : ∀ c ∈ text, c ≠ '\\') (hstop : Quoted.isQuote stop = false)
    (hkinds : ∀ l ∈ lexemes text, l.kind ≠ .openQuote ∧ l.kind ≠ .stray)
    (hp : FieldScan.passAll (stop :: rest) s text = some s') :
    ∀ l ∈ lexemes text, l.kind ≠ .comment ∧ l.kind ≠ .continuation := by
  generalize hls : lexemes text = ls at hkinds
  induction ls generalizing s d text with
  | nil =>
    intro l hl
    cases hl
  | cons l ls ih =>
    obtain ⟨m, n, hm, hn, htext, hrest⟩ := Lexeme.measured hls
    rw [List.forall_mem_cons] at hkinds
    rw [← List.take_append_drop n text, passAll_append] at hp
    obtain ⟨s₁, hs₁, hp⟩ := Option.bind_eq_some_iff.mp hp
    have hrests := hs.lexeme hslash hstop hm hn hkinds.1 hs₁
    rw [List.forall_mem_cons]
    refine ⟨⟨fun hl => ?_, fun hl => ?_⟩, ?_⟩
    · obtain rfl : m = Lexeme.comment := by simpa [Lexeme.kinds, hl] using hm
      cases hs₁.symm.trans (hs.comment hn)
    · obtain rfl : m = Lexeme.continuation := by simpa [Lexeme.kinds, hl] using hm
      obtain ⟨c, r, rfl⟩ : ∃ c r, text = c :: r := List.exists_cons_of_ne_nil fun hnil => by
        rw [hnil] at hn
        cases hn
      rw [Lexeme.continuation_other (hslash c List.mem_cons_self)] at hn
      cases hn
    · exact ih hrests (fun c hc => hslash c (List.mem_of_mem_drop hc)) hp hrest.symm hkinds.2

end Parser.FieldScan

end PythonSyntax
