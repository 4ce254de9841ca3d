import PythonSyntax.Proofs.Lexeme.Sealed

/-
A text in parentheses.

No lexeme reaches into a closing parenthesis, as long as nothing in the text hides what comes after
it: a backslash would take the parenthesis with it, and a comment would run over it.  So a text in
parentheses has the lexemes of the text between those of the parentheses.
-/

namespace PythonSyntax.Lexeme

/-- A text that hides nothing behind it. -/
def Open (x : List Char) : Prop := ∀ c ∈ x, c ≠ '\\' ∧ c ≠ '#'

variable {a b m : Measure} {x : List Char}

theorem Open.drop (h : Open x) (n : Nat) : Open (x.drop n) :=
  fun c hc => h c (List.mem_of_mem_drop hc)

theorem Open.tail {c : Char} (h : Open (c :: x)) : Open x :=
  fun d hd => h d (List.mem_cons_of_mem c hd)

/-! ## Measures that end there -/

/-- A measure measures the same piece when a closing parenthesis follows the text. -/
def Closed (m : Measure) : Prop := ∀ x, Open x → m (x ++ [')']) = m x

theorem Sealed.closed (h : Sealed ')' m) : Closed m := fun x _ => h x []

theorem Closed.andThen (hle : Bounded a) (ha : Closed a) (hb : Closed b) : Closed (andThen a b) := by
  intro x hx
  unfold Lexeme.andThen
  rw [ha x hx]
  cases hi : a x with
  | none => rfl
  | some i =>
    show (do
      let j ← b ((x ++ [')']).drop i)
      some (i + j)) = _
    rw [List.drop_append_of_le_length (hle x i hi), hb _ (hx.drop i)]
    rfl

theorem startsTriple_sealed {q c : Char} (hq : q ≠ c) (x r : List Char) :
    startsTriple q (x ++ c :: r) = startsTriple q x :=
  isPrefixOf_sealed (by simp [hq.symm]) x r

/-! ## Pieces of all kinds -/

theorem closed_lineBreak : Closed lineBreak := by
  intro x _
  rcases x with _ | ⟨c, r⟩
  · rfl
  by_cases hn : c = '\n'
  · rw [hn]
    rfl
  by_cases hr : c = '\r'
  · subst hr
    cases r with
    | nil => rfl
    | cons d r =>
      by_cases hd : d = '\n'
      · rw [hd]
        rfl
      · simp [lineBreak, hd]
  · simp [lineBreak, hn, hr]

theorem closed_comment : Closed comment := by
  intro x hx
  cases x with
  | nil => rfl
  | cons c r =>
    have hc := (hx c List.mem_cons_self).2
    simp [comment, hc]

/-! ## Strings -/

/-- A quoted text begins with three quotes, or else with one. -/
theorem quoted_cases {n : Nat} (h : quoted x = some n) :
    (∃ q r k, Quoted.isQuote q = true ∧ x = q :: q :: q :: r ∧ closeTriple q r = some k ∧ n = k + 3) ∨
      ∃ q r k, Quoted.isQuote q = true ∧ x = q :: r ∧ startsTriple q x = false ∧
        closeSingle q r = some k ∧ n = k + 1 := by
  have htriple : ∀ {q}, Quoted.isQuote q = true → startsTriple q x = true →
      (closeTriple q (x.drop 3)).map (· + 3) = some n →
      ∃ q r k, Quoted.isQuote q = true ∧ x = q :: q :: q :: r ∧ closeTriple q r = some k ∧
        n = k + 3 := by
    intro q hq hstart hn
    obtain ⟨k, hk, rfl⟩ := Option.map_eq_some_iff.mp hn
    obtain ⟨r, rfl⟩ := List.isPrefixOf_iff_prefix.mp hstart
    exact ⟨q, r, k, hq, rfl, hk, rfl⟩
  unfold quoted at h
  split at h
  · next hstart => exact .inl (htriple rfl hstart h)
  · next hdouble =>
    split at h
    · next hstart => exact .inl (htriple rfl hstart h)
    · next hsingle =>
      split at h
      · next r =>
        obtain ⟨k, hk, rfl⟩ := Option.map_eq_some_iff.mp h
        exact .inr ⟨'"', r, k, rfl, rfl, Bool.eq_false_iff.mpr hdouble, hk, rfl⟩
      · next r =>
        obtain ⟨k, hk, rfl⟩ := Option.map_eq_some_iff.mp h
        exact .inr ⟨'\'', r, k, rfl, rfl, Bool.eq_false_iff.mpr hsingle, hk, rfl⟩
      · cases h

theorem closed_closeSingle {q : Char} (hq : q ≠ ')') : Closed (closeSingle q) := by
  intro x hx
  induction x with
  | nil => exact closeSingle_cons (by decide) hq.symm (by decide)
  | cons c r ih =>
    have hc := (hx c List.mem_cons_self).1
    rw [List.cons_append, closeSingle_open hc, closeSingle_open hc, ih hx.tail]

theorem closed_closeTriple {q : Char} (hq : q ≠ ')') : Closed (closeTriple q) := by
  intro x hx
  induction x with
  | nil =>
    have hstart : ¬ startsTriple q [')'] = true := by
      rw [← List.nil_append [')'], startsTriple_sealed hq]
      exact Bool.false_ne_true
    exact closeTriple_cons (by decide) hstart
  | cons c r ih =>
    have hc := (hx c List.mem_cons_self).1
    rw [List.cons_append, closeTriple_open hc, closeTriple_open hc, ih hx.tail,
      ← List.cons_append, startsTriple_sealed hq]

theorem closed_quoted : Closed quoted := by
  have hdouble : '"' ≠ ')' := by decide
  have hsingle : '\'' ≠ ')' := by decide
  have htriple : ∀ {q : Char} {x : List Char}, startsTriple q x = true → 3 ≤ x.length :=
    fun h => (List.isPrefixOf_iff_prefix.mp h).length_le
  intro x hx
  unfold quoted
  rw [startsTriple_sealed hdouble, startsTriple_sealed hsingle]
  split
  · next h =>
    rw [List.drop_append_of_le_length (htriple h), closed_closeTriple hdouble _ (hx.drop 3)]
  · split
    · next h =>
      rw [List.drop_append_of_le_length (htriple h), closed_closeTriple hsingle _ (hx.drop 3)]
    · cases x with
      | nil => rfl
      | cons c r =>
        by_cases hd : c = '"'
        · subst hd
          exact congrArg (Option.map (· + 1)) (closed_closeSingle hdouble r hx.tail)
        by_cases hs : c = '\''
        · subst hs
          exact congrArg (Option.map (· + 1)) (closed_closeSingle hsingle r hx.tail)
        · simp [hd, hs]

/-! ## The piece at the front -/

/-- All measures but those of operators and of single characters, which take the parenthesis
itself. -/
theorem closed_kinds : ∀ km ∈ kinds, km.1 ≠ .op → km.1 ≠ .stray → Closed km.2 := by
  have hparen : ')' ∈ seals := by decide
  have hmarks : Closed (optional stringMark) := (sealed_marks (not_isMark_of_mem_seals hparen)).closed
  have hbackslash : Closed (one (· == '\\')) := Sealed.closed (sealed_one (by decide))
  simp only [kinds, List.forall_mem_cons, List.not_mem_nil, false_imp_iff, implies_true, and_true]
  exact ⟨fun _ _ => hbackslash.andThen (bounded_one _) closed_lineBreak,
    fun _ _ => closed_lineBreak, fun _ _ => (sealed_run (by decide)).closed, fun _ _ => closed_comment,
    fun _ _ => hmarks.andThen bounded_marks closed_quoted,
    fun _ _ => (sealed_openQuote hparen).closed, fun _ _ => (sealed_number hparen).closed,
    fun _ _ => (sealed_name hparen).closed, fun h => absurd rfl h, fun _ h => absurd rfl h⟩

/-- All measures measure the same piece of a text if a parenthesis closes it. -/
theorem kinds_closed {c : Char} (hx : Open (c :: x)) {km : LexemeKind × Measure}
    (hkm : km ∈ kinds) : km.2 (c :: x ++ [')']) = km.2 (c :: x) := by
  by_cases hop : km.1 = .op
  · obtain rfl : km = (.op, op) := by
      simp only [kinds, List.mem_cons, List.not_mem_nil, or_false] at hkm
      rcases hkm with rfl | rfl | rfl | rfl | rfl | rfl | rfl | rfl | rfl | rfl <;> cases hop
      rfl
    exact op_sealed (by decide) []
  by_cases hstray : km.1 = .stray
  · obtain rfl : km = (.stray, one fun _ => true) := by
      simp only [kinds, List.mem_cons, List.not_mem_nil, or_false] at hkm
      rcases hkm with rfl | rfl | rfl | rfl | rfl | rfl | rfl | rfl | rfl | rfl <;> cases hstray
      rfl
    rfl
  · exact closed_kinds km hkm hop hstray _ hx

/-- The piece at the front of a text is the same if a parenthesis closes the text. -/
theorem front?_closed {c : Char} (hx : Open (c :: x)) :
    front? (c :: x ++ [')']) = front? (c :: x) := by
  have hsome : ∀ ms : List (LexemeKind × Measure), (∀ km ∈ ms, km ∈ kinds) →
      (ms.findSome? fun km => (km.2 (c :: x ++ [')'])).map fun n => (km.1, n)) =
        ms.findSome? fun km => (km.2 (c :: x)).map fun n => (km.1, n) := by
    intro ms hms
    induction ms with
    | nil => rfl
    | cons km ms ih =>
      rw [List.findSome?_cons, List.findSome?_cons,
        kinds_closed hx (hms km List.mem_cons_self),
        ih fun km hkm => hms km (List.mem_cons_of_mem _ hkm)]
  exact hsome kinds fun _ h => h

/-! ## Texts -/

theorem lexemes_closed (hx : Open x) : lexemes (x ++ [')']) = lexemes x ++ [⟨.op, [')']⟩] := by
  induction hlength : x.length using Nat.strong_induction_on generalizing x with
  | _ k ih =>
    cases x with
    | nil => decide +kernel
    | cons c r =>
      cases hfront : front? (c :: r) with
      | none => exact absurd hfront (front_ne_none c r)
      | some kn =>
        obtain ⟨kind, n⟩ := kn
        have hle := front_le hfront
        have hpos := front_pos hfront
        have hfront' := hfront
        rw [← front?_closed hx] at hfront'
        have hrest := ih ((c :: r).drop n).length (by rw [List.length_drop]; omega) (hx.drop n) rfl
        rw [lexemes_of_front hfront', lexemes_of_front hfront,
          List.take_append_of_le_length hle, List.drop_append_of_le_length hle, hrest]
        rfl

/-- A text in parentheses has its lexemes between those of the parentheses. -/
theorem lexemes_enclosed (hx : Open x) :
    lexemes ('(' :: (x ++ [')'])) = ⟨.op, ['(']⟩ :: (lexemes x ++ [⟨.op, [')']⟩]) := by
  have hfront : front? ('(' :: (x ++ [')'])) = some (.op, 1) := rfl
  rw [lexemes_of_front hfront]
  exact congrArg (⟨.op, ['(']⟩ :: ·) (lexemes_closed hx)

end PythonSyntax.Lexeme
