import PythonSyntax.Proofs.Formatted.Search

/-
What the search for the end of a field takes for literals and for comparisons.

The search keeps one state per character.  `regions` lists where it has an open quote, from the first
quote of a literal to the last; the quoted part of a literal is one of them (`regions_quoted`), and a text
without quotes has none.  Outside literals the search passes over the second character of a comparison
unseen; `completes` says of a text, read from its end, that an equals sign behind it would be one.
`Stands` is where the search stands between two characters outside literals, and `Stands.stops_iff` says
at which characters it stops there.
-/

namespace PythonSyntax

namespace Parser.FieldScan

variable {s s' : FieldScan} {c q stop : Char} {r a b text rest before : List Char}
  {d n opened opened' offset : Nat}

/-! ## Regions -/

/-- The regions of a text at `offset` that the search takes for literals.  `rest` follows the text, and a
literal that is open before it began at `opened`. -/
def regions (rest : List Char) : FieldScan → Nat → Nat → List Char → List Span
  | _, _, _, [] => []
  | s, opened, offset, c :: r =>
    match s.pass c (r ++ rest) with
    | .ok (some s') =>
      let opened := if s.quote.isSome then opened else offset
      let later := regions rest s' opened (offset + c.utf8Size) r
      if s.quote.isSome && s'.quote.isNone
      then ⟨opened, offset + c.utf8Size + s'.skip⟩ :: later
      else later
    | _ => []

/-- The two literals touch, and the quote in the second one is of the other kind. -/
example : regions [] ⟨0, none, 0⟩ 0 0 ['a', '"', '"', '\'', '"', '\'', '+'] = [⟨1, 3⟩, ⟨3, 6⟩] := by
  decide

theorem regions_cons (h : s.pass c (r ++ rest) = .ok (some s')) :
    regions rest s opened offset (c :: r) =
      if s.quote.isSome && s'.quote.isNone
      then ⟨if s.quote.isSome then opened else offset, offset + c.utf8Size + s'.skip⟩ ::
        regions rest s' (if s.quote.isSome then opened else offset) (offset + c.utf8Size) r
      else regions rest s' (if s.quote.isSome then opened else offset) (offset + c.utf8Size) r := by
  rw [regions, h]

/-- Outside literals nothing is open. -/
theorem regions_outside (h : s.quote = none) :
    regions rest s opened offset text = regions rest s opened' offset text := by
  cases text with
  | nil => rfl
  | cons c r =>
    unfold regions
    rw [h]
    rfl

theorem regions_append (hp : passAll (b ++ rest) s a = some s') (hs : s'.quote = none) (opened' : Nat) :
    regions rest s opened offset (a ++ b) =
      regions (b ++ rest) s opened offset a ++ regions rest s' opened' (offset + byteLength a) b := by
  induction a generalizing s opened offset with
  | nil =>
    cases hp
    exact regions_outside hs
  | cons c a ih =>
    obtain ⟨s₁, hpass, hr⟩ := passAll_cons_inv hp
    have hpass' : s.pass c ((a ++ b) ++ rest) = .ok (some s₁) := by rwa [List.append_assoc]
    rw [List.cons_append, regions_cons hpass', regions_cons hpass, ih hr, byteLength_cons,
      ← Nat.add_assoc]
    split <;> rfl

/-- A text without quotes has no regions. -/
theorem Rests.regions (h : s.Rests d (text ++ rest)) (hq : ∀ c ∈ text, Quoted.isQuote c = false)
    (hp : FieldScan.passAll rest s text = some s') :
    FieldScan.regions rest s opened offset text = [] := by
  induction text generalizing s d opened offset with
  | nil => rfl
  | cons c r ih =>
    rw [List.forall_mem_cons] at hq
    obtain ⟨s₁, hpass, hr⟩ := passAll_cons_inv hp
    rw [regions_cons hpass, h.quote]
    exact ih (h.pass hq.1 hpass).1 hq.2 hr

/-! ## Literals -/

theorem utf8Size_of_isQuote (hq : Quoted.isQuote q = true) : q.utf8Size = 1 := by
  rcases isQuote_cases hq with rfl | rfl <;> rfl

/-- Nothing of what is passed over unseen opens or closes a literal. -/
theorem regions_skip_open (p : Char × Nat) (hq : q.utf8Size = 1) (k : Nat) :
    regions rest ⟨d, some p, k⟩ opened offset (List.replicate k q ++ text) =
      regions rest ⟨d, some p, 0⟩ opened (offset + k) text := by
  induction k generalizing offset with
  | zero => rfl
  | succ k ih =>
    have hnext : regions rest ⟨d, some p, k⟩ opened (offset + 1) (List.replicate k q ++ text) =
        regions rest ⟨d, some p, 0⟩ opened (offset + 1 + k) text := ih
    rw [Nat.add_assoc, Nat.add_comm 1] at hnext
    have hskip : FieldScan.pass ⟨d, some p, k + 1⟩ q ((List.replicate k q ++ text) ++ rest) =
        .ok (some ⟨d, some p, k⟩) := rfl
    refine (regions_cons hskip).trans ?_
    rw [hq]
    exact hnext

theorem regions_skip_closed (k : Nat) :
    regions rest ⟨d, none, k⟩ opened offset (List.replicate k q) = [] := by
  induction k generalizing opened offset with
  | zero => rfl
  | succ k ih =>
    have hskip : FieldScan.pass ⟨d, none, k + 1⟩ q (List.replicate k q ++ rest) = .ok (some ⟨d, none, k⟩) := rfl
    exact (regions_cons hskip).trans ih

theorem byteLength_replicate (hq : q.utf8Size = 1) (k : Nat) :
    byteLength (List.replicate k q) = k := by
  induction k with
  | zero => rfl
  | succ k ih => rw [List.replicate_succ, byteLength_cons, hq, ih, Nat.add_comm]

/-- Up to its last quotes a literal is one region. -/
theorem ClosedBy.regions (h : ClosedBy d q n rest text) (hq : q.utf8Size = 1) :
    FieldScan.regions rest ⟨d, some (q, n), 0⟩ opened offset text =
      [⟨opened, offset + byteLength text⟩] := by
  induction h generalizing offset with
  | quotes hpass =>
    refine (regions_cons hpass).trans ?_
    show (⟨opened, offset + q.utf8Size + (n - 1)⟩ : Span) :: FieldScan.regions _ _ _ _ _ = _
    rw [regions_skip_closed, byteLength_cons, byteLength_replicate hq, Nat.add_assoc]
  | cons hpass _ ih =>
    rw [byteLength_cons, ← Nat.add_assoc]
    exact (regions_cons hpass).trans ih

/-- The quoted part of a literal is one region. -/
theorem regions_quoted (hslash : ∀ c ∈ text, c ≠ '\\') (hstop : Quoted.isQuote stop = false)
    (h : Lexeme.quoted text = some n) :
    regions (text.drop n ++ stop :: rest) ⟨d, none, 0⟩ opened offset (text.take n) =
      [⟨offset, offset + byteLength (text.take n)⟩] := by
  obtain ⟨q, k, tail, hq, htake, hpass, hclosed⟩ := exists_opening d rest hslash hstop h
  have hsize := utf8Size_of_isQuote hq
  rw [htake]
  refine (regions_cons hpass).trans ?_
  show FieldScan.regions _ _ offset _ _ = _
  rw [regions_skip_open _ hsize, hclosed.regions hsize, byteLength_cons, byteLength_append,
    byteLength_replicate hsize]
  simp only [Nat.add_assoc]

/-! ## Comparisons -/

/-- Whether an equals sign behind a text, which is given from its end, is the second character of a
comparison.  Comparisons are read from left to right: in a row of three signs the third is not one. -/
def completes : List Char → Bool
  | [] => false
  | c :: past =>
    (c == '=' || c == '!' || c == '<' || c == '>') && !(c == '=' && completes past)

theorem completes_cons : completes (c :: text) = true ↔
    (c = '=' ∨ c = '!' ∨ c = '<' ∨ c = '>') ∧ (c = '=' → completes text = false) := by
  simp [completes, or_assoc, imp_iff_not_or]

/-- The search stands behind a text outside literals, with a number of open brackets, and passes over
the next character unseen just if it is the second one of a comparison. -/
structure Stands (s : FieldScan) (before : List Char) (d : Nat) (text : List Char) : Prop
    extends s.Rests d text where
  compares : s.skip = 1 ↔ completes before.reverse = true ∧ text.head? = some '='

/-- After a character that is no quote. -/
theorem Stands.pass (h : s.Stands before d (c :: r)) (hq : Quoted.isQuote c = false)
    (hp : s.pass c r = .ok (some s')) : s'.Stands (before ++ [c]) (shift d c) r := by
  refine ⟨(h.toRests.pass hq hp).1, ?_⟩
  rw [List.reverse_append, List.reverse_singleton, List.singleton_append, completes_cons]
  have hcompares := h.compares
  obtain ⟨d', quote, skip⟩ := s
  obtain ⟨⟨hdepth, hquote, hskip⟩, -⟩ := h
  dsimp only at hdepth hquote hskip hcompares
  subst hdepth hquote
  rcases hskip with rfl | ⟨rfl, hhead⟩
  · have hfirst : c = '=' → completes before.reverse = false := by
      rintro rfl
      exact Bool.eq_false_iff.mpr fun hcompletes => nomatch hcompares.mpr ⟨hcompletes, rfl⟩
    have hslash : c ≠ '\\' := by
      rintro rfl
      cases hp
    rw [pass_outside hslash hq] at hp
    split_ifs at hp with hhash hopen hclose hequals hstop <;> cases hp
    · exact ⟨nofun, fun ⟨⟨hsign, _⟩, _⟩ => by rcases hsign with rfl | rfl | rfl | rfl <;> simp at hopen⟩
    · exact ⟨nofun, fun ⟨⟨hsign, _⟩, _⟩ => by rcases hsign with rfl | rfl | rfl | rfl <;> simp at hclose⟩
    · exact ⟨fun _ => ⟨⟨hequals.1, hfirst⟩, hequals.2⟩, fun _ => rfl⟩
    · exact ⟨nofun, fun ⟨⟨hsign, _⟩, hnext⟩ => absurd ⟨hsign, hnext⟩ hequals⟩
  · obtain rfl : c = '=' := Option.some.inj hhead
    cases hp
    exact ⟨nofun, fun ⟨⟨_, hfirst⟩, _⟩ => nomatch (hcompares.mp rfl).1.symm.trans (hfirst rfl)⟩

/-- After a text without quotes. -/
theorem Stands.passAll (h : s.Stands before d (text ++ rest)) (hq : ∀ c ∈ text, Quoted.isQuote c = false)
    (hp : FieldScan.passAll rest s text = some s') :
    s'.Stands (before ++ text) (text.foldl shift d) rest := by
  induction text generalizing s before d with
  | nil =>
    cases hp
    rwa [List.append_nil]
  | cons c r ih =>
    rw [List.forall_mem_cons] at hq
    obtain ⟨s₁, hpass, hr⟩ := passAll_cons_inv hp
    have hnext := ih (h.pass hq.1 hpass) hq.2 hr
    rwa [List.append_assoc] at hnext

/-- The same in front of any character of such a text. -/
theorem Stands.split {x y : List Char} (h : s.Stands before d (x ++ (y ++ rest)))
    (hq : ∀ c ∈ x, Quoted.isQuote c = false) (hp : FieldScan.passAll rest s (x ++ y) = some s') :
    ∃ s₁, FieldScan.passAll (y ++ rest) s x = some s₁ ∧
      s₁.Stands (before ++ x) (x.foldl shift d) (y ++ rest) := by
  rw [passAll_append] at hp
  obtain ⟨s₁, hs₁, -⟩ := Option.bind_eq_some_iff.mp hp
  exact ⟨s₁, hs₁, h.passAll hq hs₁⟩

/-- The search stops where it stands outside all brackets, at what may end an expression. -/
theorem Stands.stops_iff (h : s.Stands before 0 (c :: r)) : s.pass c r = .ok none ↔
    c = '}' ∨ c = ':' ∨ c = '!' ∧ r.head? ≠ some '=' ∨
      c = '=' ∧ r.head? ≠ some '=' ∧ completes before.reverse = false := by
  rw [pass_eq_none]
  constructor
  · rintro ⟨rfl, hc | hc | ⟨hc | hc, hnext⟩⟩
    · exact .inl hc
    · exact .inr (.inl hc)
    · exact .inr (.inr (.inl ⟨hc, hnext⟩))
    · refine .inr (.inr (.inr ⟨hc, hnext, Bool.eq_false_iff.mpr fun hcompletes => ?_⟩))
      exact nomatch h.compares.mpr ⟨hcompletes, congrArg some hc⟩
  · intro hc
    have hskip : s.skip = 0 := h.skip.resolve_right fun hone => by
      obtain ⟨hcompletes, hhead⟩ := h.compares.mp hone.1
      obtain rfl : c = '=' := Option.some.inj hhead
      rcases hc with hc | hc | ⟨hc, -⟩ | ⟨-, -, hfirst⟩
      · cases hc
      · cases hc
      · cases hc
      · cases hcompletes.symm.trans hfirst
    refine ⟨?_, ?_⟩
    · obtain ⟨_, _, _⟩ := s
      rw [FieldScan.mk.injEq]
      exact ⟨h.depth, h.quote, hskip⟩
    · rcases hc with hc | hc | ⟨hc, hnext⟩ | ⟨hc, hnext, -⟩
      · exact .inl hc
      · exact .inr (.inl hc)
      · exact .inr (.inr ⟨.inl hc, hnext⟩)
      · exact .inr (.inr ⟨.inr hc, hnext⟩)

end Parser.FieldScan

end PythonSyntax
