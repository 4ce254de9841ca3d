import PythonSyntax.Proofs.Parser.FormattedString

/-
The rules of expressions yield trees of the grammar.

There is one theorem for each parser of `Rule.body`, in the order of their definitions; each says
that the parser goes forward and yields derived trees as long as the rules it refers to do so.
-/

namespace PythonSyntax.Parser

variable {ts : List Token} {spell : List Char → List Char} {rule : Rule → Parser Expr} {b : Nat}

theorem Yields.unit {r s : Rule} {e : Expr} {us : List Token} (hs : s ∈ r.units)
    (h : Yields s ts e us) : Yields r ts e us := ⟨h.1, .unit hs h.2⟩

/-- A rule may be that of a unit of it. -/
theorem Reads.unit {r s : Rule} {p : Parser Expr} (hs : s ∈ r.units)
    (h : Reads ts p (Yields s ts)) : Reads ts p (Yields r ts) := h.mono fun _ _ _ => .unit hs

/-! ## Lists of expressions -/

theorem reads_listItems (h : Below rule b) {item : Rule} {k : Nat} (hb : 32 * weight ts + k ≤ b)
    (hk : item.rank < k) (hitem : item ≠ .bracketed) :
    Reads ts (listItems rule item) fun r us =>
      weight us < weight ts ∧ r.1 ≠ [] ∧ ∀ e ∈ r.1, Derives (.expr item e) := by
  unfold listItems
  refine .bind (h.front hb hk hitem) fun first us _ hfirst => .atOp_bind ?_
  refine .bind (.many (P := fun e => Derives (.expr item e)) fun vs hle => ?_)
    fun rest ws hle hrest => .pure ?_
  · have := hfirst.1
    refine .ifEatOp (fun ws hlt => ?_) (.pure nofun)
    refine .mono (.optionalLook looks_startsExpression fun _ =>
      h.later (by omega) hitem) ?_
    intro o xs _ ho e he
    have := ho.2 e he
    exact ⟨by have := this.1; omega, this.2⟩
  · have := hfirst.1
    exact ⟨by omega, List.cons_ne_nil _ _, List.forall_mem_cons.mpr ⟨hfirst.2, hrest⟩⟩

/-- A list of one item without a comma is that item, any other one is a tuple. -/
theorem reads_listOrTuple (h : Below rule b) {r item : Rule} (hb : 32 * weight ts + r.rank ≤ b)
    (hk : item.rank < r.rank) (hitem : item ≠ .bracketed) (hunit : item ∈ r.units)
    (helement : r.element? = some item) :
    Reads ts (listOrTuple rule item) (Yields r ts) := by
  unfold listOrTuple
  refine .bind (reads_listItems h hb hk hitem) ?_
  rintro ⟨elts, comma⟩ us - ⟨hlt, -, hd⟩
  split
  · next e heq =>
    cases heq
    exact .pure ⟨hlt, .unit hunit (hd e List.mem_cons_self)⟩
  · next heq =>
    cases heq
    exact .pure ⟨hlt, .tuple helement hd⟩

theorem reads_starOr (h : Below rule b) {r item : Rule} (hb : 32 * weight ts + r.rank ≤ b)
    (hk : item.rank < r.rank) (hitem : item ≠ .bracketed) (hunits : r.units = [.star, item]) :
    Reads ts (starOr rule item) (Yields r ts) := by
  refine .atOp_bind (.ite (fun _ => ?_) fun _ => ?_)
  · refine .unit (by rw [hunits]; simp) (h.front hb ?_ nofun)
    exact Nat.lt_of_le_of_lt (Nat.zero_le _) hk
  · exact .unit (by rw [hunits]; simp) (h.front hb hk hitem)

theorem reads_star (h : Below rule b) (hb : 32 * weight ts ≤ b) :
    Reads ts (star rule) (Yields .star ts) := by
  refine .expectOp_bind fun us hlt => ?_
  refine .bind (h.later (by omega) nofun) fun e vs _ he => .pure ⟨?_, .star he.2⟩
  have := he.1
  omega

theorem reads_itemsUntil {P : Expr → Prop} {closing : String} {item : Parser Expr}
    (h : ∀ us, weight us < weight ts → Reads us item fun e _ => P e) :
    Reads ts (itemsUntil closing item) fun elts _ => ∀ e ∈ elts, P e := by
  refine .many fun us hle => .ifEatOp (fun vs hlt => ?_) (.pure nofun)
  refine .atOp_bind (.ite (fun _ => .pure nofun) fun _ => ?_)
  refine .bind (h vs (by omega)) fun e ws hle' he => .pure ?_
  rintro _ ⟨⟩
  exact ⟨by omega, he⟩

/-! ## Parameters -/

theorem Reads.identifier :
    Reads ts identifier fun s us => weight us < weight ts ∧ IsIdentifier s := by
  refine .bind (.expect fun t ht => ?_) fun t us _ h => .pure ⟨h.2, t, h.1, rfl⟩
  rw [Token.isIdentifier, Bool.and_eq_true, beq_iff_eq] at ht
  rw [ht.1]
  exact nofun

theorem reads_parameterType (h : Below rule b) {annotated : Bool} (hb : 32 * weight ts ≤ b) :
    Reads ts (typeHint rule annotated) fun o _ =>
      (annotated = false → o = none) ∧ ∀ e ∈ o, Derives (.expr .test e) := by
  refine .ite (fun ht => ?_) fun hf => .pure ⟨fun _ => rfl, nofun⟩
  refine .mono (.optionalOp (P := fun e => Derives (.expr .test e)) fun us hlt => ?_)
    fun o _ _ ho => ⟨fun hf => ?_, ho.1⟩
  · exact .mono (h.later (by omega) nofun) fun e _ _ he => he.2
  · rw [ht] at hf
    exact nomatch hf

theorem reads_parameter (h : Below rule b) {annotated : Bool} (hb : 32 * weight ts ≤ b) :
    Reads ts (parameter rule annotated) fun p us =>
      weight us < weight ts ∧ Derives (.param annotated p) := by
  refine .bind .identifier fun name us _ hname => ?_
  refine .bind (reads_parameterType h (by omega)) fun o vs hle ho => .pure ?_
  exact ⟨by have := hname.1; omega, .param hname.2 ho.1 ho.2⟩

/-- What holds of the parameters read so far. -/
structure Parameters.Sound (annotated : Bool) (s : Parameters) : Prop where
  params : ∀ p ∈ s.arguments.posOnly ++ s.arguments.args ++ s.arguments.vararg.toList ++
    s.arguments.kwOnly ++ s.arguments.kwarg.toList, Derives (.param annotated p)
  defaults : ∀ e ∈ s.arguments.defaults, Derives (.expr .test e)
  kwDefaults : ∀ default? ∈ s.arguments.kwDefaults, ∀ e ∈ default?, Derives (.expr .test e)
  defaults_le : s.arguments.defaults.length ≤ s.arguments.posOnly.length + s.arguments.args.length
  kwDefaults_eq : s.arguments.kwDefaults.length = s.arguments.kwOnly.length
  /-- Before a slash no parameter is positional only. -/
  posOnly : s.seenSlash = false → s.arguments.posOnly = []

namespace Parameters.Sound

variable {annotated : Bool} {s : Parameters}

theorem addSlash (h : s.Sound annotated) (hs : s.seenSlash = false) :
    s.addSlash.Sound annotated := by
  have hp := h.params
  have hl := h.defaults_le
  rw [h.posOnly hs] at hp hl
  refine ⟨?_, h.defaults, h.kwDefaults, ?_, h.kwDefaults_eq, nofun⟩
  · simpa [Parameters.addSlash] using hp
  · simpa [Parameters.addSlash] using hl

theorem add (h : s.Sound annotated) {p : Arg} {default? : Option Expr}
    (hp : Derives (.param annotated p)) (hd : ∀ e ∈ default?, Derives (.expr .test e)) :
    (s.add p default?).Sound annotated := by
  have hparams := h.params
  simp only [List.forall_mem_append] at hparams
  obtain ⟨⟨⟨⟨hpos, hargs⟩, hvar⟩, hkw⟩, hkwarg⟩ := hparams
  unfold Parameters.add
  cases s.seenStar with
  | true =>
    refine ⟨?_, h.defaults, ?_, h.defaults_le, ?_, h.posOnly⟩
    · simp only [if_pos, List.forall_mem_append]
      exact ⟨⟨⟨⟨hpos, hargs⟩, hvar⟩, hkw, List.forall_mem_singleton.mpr hp⟩, hkwarg⟩
    · exact List.forall_mem_append.mpr ⟨h.kwDefaults, List.forall_mem_singleton.mpr hd⟩
    · simp [h.kwDefaults_eq]
  | false =>
    refine ⟨?_, ?_, h.kwDefaults, ?_, h.kwDefaults_eq, h.posOnly⟩
    · simp only [Bool.false_eq_true, if_false, List.forall_mem_append]
      exact ⟨⟨⟨⟨hpos, hargs, List.forall_mem_singleton.mpr hp⟩, hvar⟩, hkw⟩, hkwarg⟩
    · exact List.forall_mem_append.mpr ⟨h.defaults, by simpa using hd⟩
    · have := h.defaults_le
      cases default? <;> simp <;> omega

theorem addVararg (h : s.Sound annotated) {vararg : Option Arg}
    (hp : ∀ p ∈ vararg, Derives (.param annotated p)) (seenStar : Bool) :
    Sound annotated ⟨{ s.arguments with vararg := vararg }, s.seenSlash, seenStar⟩ := by
  have hparams := h.params
  simp only [List.forall_mem_append] at hparams
  obtain ⟨⟨⟨hpos, -⟩, hkw⟩, hkwarg⟩ := hparams
  refine ⟨?_, h.defaults, h.kwDefaults, h.defaults_le, h.kwDefaults_eq, h.posOnly⟩
  simp only [List.forall_mem_append]
  exact ⟨⟨⟨hpos, by simpa using hp⟩, hkw⟩, hkwarg⟩

theorem addKwarg (h : s.Sound annotated) {p : Arg} (hp : Derives (.param annotated p)) :
    Sound annotated { s with arguments := { s.arguments with kwarg := some p } } := by
  have hparams := h.params
  simp only [List.forall_mem_append] at hparams
  refine ⟨?_, h.defaults, h.kwDefaults, h.defaults_le, h.kwDefaults_eq, h.posOnly⟩
  simp only [List.forall_mem_append]
  exact ⟨hparams.1, List.forall_mem_singleton.mpr hp⟩

end Parameters.Sound

theorem reads_parameterEntry (h : Below rule b) {closing : String} {annotated : Bool}
    {s : Parameters} (hs : s.Sound annotated) (hb : 32 * weight ts ≤ b) :
    Reads ts (parameterEntry rule closing annotated s) fun r us =>
      r.1.Sound annotated ∧ (r.2 = true → weight us < weight ts) := by
  unfold parameterEntry
  refine .atOp_bind (.ite (fun _ => .pure ⟨hs, nofun⟩) fun _ => .peek_bind ?_)
  refine .ifEatOp (fun us hlt => ?slash) (.ifEatOp (fun us hlt => ?kwarg)
    (.ifEatOp (fun us hlt => ?vararg) ?plain))
  case slash =>
    refine .ite (fun _ => .failAt nofun) fun hc => ?_
    refine .bind .eatOp fun comma vs hle _ => .pure ⟨hs.addSlash ?_, fun _ => by omega⟩
    simp only [Bool.or_eq_true, not_or, Bool.not_eq_true] at hc
    exact hc.1.1
  case kwarg =>
    refine .bind (reads_parameter h (by omega)) fun p vs _ hp => .bind .eatOp fun _ _ _ _ => ?_
    exact .atOp_bind (.ite (fun _ => .pure ⟨hs.addKwarg hp.2, nofun⟩) fun _ => .unexpected)
  case vararg =>
    refine .ite (fun _ => .failAt nofun) fun _ => ?_
    refine .bind (Q := fun o _ => ∀ p ∈ o, Derives (.param annotated p)) ?_ fun o vs hle ho => ?_
    · exact .mono (.optionalLook (looks_atKind .name) fun _ => reads_parameter h (by omega))
        fun o _ _ ho p hp => (ho.2 p hp).2
    · exact .bind .eatOp fun comma ws hle' _ => .pure ⟨hs.addVararg ho _, fun _ => by omega⟩
  case plain =>
    refine .bind (reads_parameter h hb) fun p us _ hp => ?_
    have hlt := hp.1
    refine .bind (.optionalOp (P := fun e => Derives (.expr .test e)) fun vs hlt' => ?_)
      fun default? vs hle hd => .ite (fun _ => .failAt nofun) fun _ => ?_
    · exact .mono (h.later (by omega) nofun) fun e _ _ he => he.2
    · exact .bind .eatOp fun comma ws hle' _ => .pure ⟨hs.add hp.2 hd.1, fun _ => by omega⟩

theorem reads_parameters (h : Below rule b) {closing : String} {annotated : Bool}
    (hb : 32 * weight ts ≤ b) :
    Reads ts (parameters rule closing annotated) fun a _ => Derives (.params annotated a) := by
  unfold parameters
  refine .bind (.iterate (I := Parameters.Sound annotated) ?_ fun s us hle hs => ?_)
    fun s us _ hs => ?_
  · exact ⟨nofun, nofun, nofun, Nat.le_refl _, rfl, fun _ => rfl⟩
  · exact reads_parameterEntry h hs (by omega)
  · refine .ite (fun _ => .fail nofun) fun _ => .pure ?_
    exact .params hs.params hs.defaults hs.kwDefaults hs.defaults_le hs.kwDefaults_eq

/-! ## Conditions, lambdas and boolean operators -/

theorem reads_named (h : Below rule b) (hb : 32 * weight ts + Rule.named.rank ≤ b) :
    Reads ts (named rule) (Yields .named ts) := by
  refine .peek_bind (.bind (h.front hb (by decide) nofun) fun e us _ he => ?_)
  have hlt := he.1
  refine .ifEatOp (fun vs hlt' => ?_) (.pure (he.unit (by decide)))
  split
  · refine .bind (h.later (s := vs) (by have : Rule.named.rank = 16 := rfl; omega) nofun)
      fun value ws _ hvalue => .pure ⟨?_, .named he.2 hvalue.2⟩
    have := hvalue.1
    omega
  · exact .failAt nofun

theorem reads_test (h : Below rule b) (hb : 32 * weight ts + Rule.test.rank ≤ b) :
    Reads ts (test rule) (Yields .test ts) := by
  refine .atWord_bind (.ite (fun _ => .unit (by decide) (h.front hb (by decide) nofun)) fun _ => ?_)
  refine .bind (h.front hb (by decide) nofun) fun body us _ hbody => ?_
  have hlt := hbody.1
  refine .ifEatWord (fun vs hlt' => ?_) (.pure (hbody.unit (by decide)))
  refine .bind (h.later (s := vs) (by omega) nofun) fun condition ws _ hcondition => ?_
  have hlt'' := hcondition.1
  refine .expectWord_bind fun xs hlt₃ => ?_
  refine .bind (.nested nofun (h.later (s := xs) (by omega) nofun))
    fun orelse ys _ horelse => .pure ⟨?_, .condition hcondition.2 hbody.2 horelse.2⟩
  have := horelse.1
  omega

theorem reads_testNoCond (h : Below rule b) (hb : 32 * weight ts + Rule.testNoCond.rank ≤ b) :
    Reads ts (testNoCond rule) (Yields .testNoCond ts) :=
  .atWord_bind <| .ite (fun _ => .unit (by decide) (h.front hb (by decide) nofun)) fun _ =>
    .unit (by decide) (h.front hb (by decide) nofun)

theorem reads_lambda (h : Below rule b) {r body : Rule} (hr : r.lambdaBody? = some body)
    (hb : 32 * weight ts ≤ b) : Reads ts (lambda rule body) (Yields r ts) := by
  have hbody : body ≠ .bracketed := by
    rintro rfl
    cases r <;> exact nomatch hr
  refine .expectWord_bind fun us hlt => ?_
  refine .bind (reads_parameters h (by omega)) fun args vs hle hargs => ?_
  refine .expectOp_bind fun ws hlt' => ?_
  refine .bind (.nested nofun (h.later (by omega) hbody)) fun e xs _ he => .pure ?_
  exact ⟨by have := he.1; omega, .lambda hr hargs he.2⟩

/-- Operands joined by a word are one node if there are two of them. -/
theorem reads_boolChain (h : Below rule b) {r operand : Rule} {word : String} {op : BoolOperator}
    (hb : 32 * weight ts + r.rank ≤ b) (hk : operand.rank < r.rank) (hunit : operand ∈ r.units)
    (hjoiner : r.joiner? = some (word, op, operand)) :
    Reads ts (boolChain rule word op operand) (Yields r ts) := by
  have hoperand : operand ≠ .bracketed := by
    rintro rfl
    cases r <;> exact nomatch hjoiner
  refine .bind (.sepBy (P := fun e => Derives (.expr operand e)) (fun _ => .eatWord)
    fun us hle => h.front (by omega) hk hoperand) ?_
  rintro values us - ⟨hne, hlt, hd⟩
  split
  · next e =>
    exact .pure ⟨hlt, .unit hunit (hd e List.mem_cons_self)⟩
  · next hmany =>
    refine .pure ⟨hlt, .joined hjoiner ?_ hd⟩
    match values, hne, hmany with
    | [e], _, hmany => exact absurd rfl (hmany e)
    | e :: e' :: es, _, _ => simp

theorem reads_notTest (h : Below rule b) (hb : 32 * weight ts + Rule.notTest.rank ≤ b) :
    Reads ts (notTest rule) (Yields .notTest ts) := by
  refine .ifEatWord (fun us hlt => ?_) (.unit (by decide) (h.front hb (by decide) nofun))
  refine .bind (.nested nofun (h.later (by omega) nofun)) fun e vs _ he => .pure ?_
  exact ⟨by have := he.1; omega, .negation he.2⟩

theorem not_endMarker_of_comparison? {t next : Token} {r : Comparison × Bool}
    (h : comparison? t next = some r) : t.kind ≠ .endMarker := by
  intro hk
  rw [comparison?, hk] at h
  exact nomatch h

/-- A comparison that is spelled with two tokens does not end at the end marker. -/
theorem next_of_comparison? {t next : Token} {op : Comparison} {both : Bool}
    (h : comparison? t next = some (op, both)) : both = true → next.kind ≠ .endMarker := by
  rintro rfl
  unfold comparison? at h
  split at h <;> try split at h
  all_goals cases h
  all_goals exact Reads.not_endMarker_of_isWord _ (by assumption)

theorem reads_comparisonTail (h : Below rule b) (hb : 32 * weight ts ≤ b) :
    Reads ts (comparisonTail rule) fun o us =>
      ∀ r ∈ o, weight us < weight ts ∧ Derives (.expr .bitOr r.2) := by
  refine .peek_bind (.peekNext_bind ?_)
  split
  · exact .pure nofun
  · next op both heq =>
    refine .advance_bind (not_endMarker_of_comparison? heq) fun hlt => ?_
    refine .bind (.advanceIf (next_of_comparison? heq)) fun _ us hle _ => ?_
    refine .bind (h.later (by omega) nofun) fun e vs _ he => .pure ?_
    rintro _ ⟨⟩
    exact ⟨by have := he.1; omega, he.2⟩

theorem reads_comparison (h : Below rule b) (hb : 32 * weight ts + Rule.comparison.rank ≤ b) :
    Reads ts (comparison rule) (Yields .comparison ts) := by
  refine .bind (h.front hb (by decide) nofun) fun left us _ hleft => ?_
  have hlt := hleft.1
  refine .bind (.many (P := fun r => Derives (.expr .bitOr r.2)) fun vs hle =>
    reads_comparisonTail h (by omega)) fun rest vs hle hrest => ?_
  split
  · exact .pure ⟨by omega, .unit (by decide) hleft.2⟩
  · next hne =>
    refine .pure ⟨by omega, .comparison hleft.2 (by simpa using hne) (by simp) fun e he => ?_⟩
    obtain ⟨r, hr, rfl⟩ := List.mem_map.mp he
    exact hrest r hr

/-! ## Arithmetic -/

theorem reads_operatorTail (h : Below rule b) {operators : List String} {operand : Rule}
    (hoperand : operand ≠ .bracketed) (hb : 32 * weight ts ≤ b) :
    Reads ts (operatorTail rule operators operand) fun o us => ∀ r ∈ o, weight us < weight ts ∧
      (∃ text ∈ operators, Operator.ofToken? text = some r.1) ∧ Derives (.expr operand r.2) := by
  refine .peek_bind ?_
  split
  · exact .pure nofun
  · next op heq =>
    split at heq
    · next hc =>
      rw [Bool.and_eq_true, beq_iff_eq, List.contains_iff_mem] at hc
      refine .advance_bind (by rw [hc.1]; exact nofun) fun hlt => ?_
      refine .bind (h.later (by omega) hoperand) fun e vs _ he => .pure ?_
      rintro _ ⟨⟩
      exact ⟨by have := he.1; omega, ⟨_, hc.2, heq⟩, he.2⟩
    · exact nomatch heq

theorem derives_foldl {r operand : Rule} {operators : List String}
    (hlevel : r.level? = some (operators, operand)) {first : Expr} (hfirst : Derives (.expr r first))
    {rest : List (Operator × Expr)} (hrest : ∀ o ∈ rest,
      (∃ text ∈ operators, Operator.ofToken? text = some o.1) ∧ Derives (.expr operand o.2)) :
    Derives (.expr r (rest.foldl (fun left (op, right) => .binOp left op right) first)) := by
  induction rest generalizing first with
  | nil => exact hfirst
  | cons o rest ih =>
    rw [List.forall_mem_cons] at hrest
    obtain ⟨⟨⟨text, htext, hop⟩, ho⟩, hrest⟩ := hrest
    exact ih (.chain hlevel htext hop hfirst ho) hrest

theorem reads_operatorChain (h : Below rule b) {r operand : Rule} {operators : List String}
    (hb : 32 * weight ts + r.rank ≤ b) (hk : operand.rank < r.rank) (hunit : operand ∈ r.units)
    (hlevel : r.level? = some (operators, operand)) :
    Reads ts (operatorChain rule operators operand) (Yields r ts) := by
  have hoperand : operand ≠ .bracketed := by
    rintro rfl
    cases r <;> exact nomatch hlevel
  refine .bind (h.front hb hk hoperand) fun first us _ hfirst => ?_
  have hlt := hfirst.1
  refine .bind (.many fun vs hle => reads_operatorTail h hoperand (by omega))
    fun rest vs hle hrest => .pure ⟨by omega, ?_⟩
  exact derives_foldl hlevel (.unit hunit hfirst.2) hrest

theorem not_endMarker_of_sign? {t : Token} {op : UnaryOperator} (h : sign? t = some op) :
    t.kind ≠ .endMarker := by
  intro hk
  rw [sign?, hk] at h
  exact nomatch h

theorem reads_factor (h : Below rule b) (hb : 32 * weight ts + Rule.factor.rank ≤ b) :
    Reads ts (factor rule) (Yields .factor ts) := by
  refine .peek_bind ?_
  split
  · next op heq =>
    refine .advance_bind (not_endMarker_of_sign? heq) fun hlt => ?_
    refine .bind (.nested nofun (h.later (by omega) nofun)) fun e us _ he => .pure ?_
    exact ⟨by have := he.1; omega, .sign heq he.2⟩
  · exact .unit (by decide) (h.front hb (by decide) nofun)

theorem reads_power (h : Below rule b) (hb : 32 * weight ts + Rule.power.rank ≤ b) :
    Reads ts (power rule) (Yields .power ts) := by
  refine .bind (h.front hb (by decide) nofun) fun base us _ hbase => ?_
  have hlt := hbase.1
  refine .ifEatOp (fun vs hlt' => ?_) (.pure (hbase.unit (by decide)))
  refine .bind (.nested nofun (h.later (s := vs) (by omega) nofun)) fun e ws _ he => .pure ?_
  exact ⟨by have := he.1; omega, .power hbase.2 he.2⟩

/-! ## Comprehensions -/

theorem reads_clause (h : Below rule b) (hb : 32 * weight ts ≤ b) :
    Reads ts (clause rule) fun c us => weight us < weight ts ∧ Derives (.clause c) := by
  refine .bind .eatWord fun isAsync us hle _ => .expectWord_bind fun vs hlt => .peek_bind ?_
  refine .bind (h.later (by omega) nofun) fun e ws _ he => ?_
  have hlt' := he.1
  refine .ofExcept_bind (fueled_asTarget _ _ _) fun target htarget => ?_
  refine .expectWord_bind fun xs hlt'' => ?_
  refine .bind (h.later (by omega) nofun) fun iter ys _ hiter => ?_
  have hlt₃ := hiter.1
  refine .bind (.many (P := fun e => Derives (.expr .testNoCond e)) fun zs hle' => ?_)
    fun ifs zs hle' hifs => .pure ⟨by omega, ?_⟩
  · refine .optional .eatWord (fun us' _ hlt₄ => ?_) fun _ _ _ => nofun
    have hlt₄ := hlt₄ rfl
    refine .mono (h.later (by omega) nofun) fun e vs' _ he => ?_
    rintro _ ⟨⟩
    exact ⟨by have := he.1; omega, he.2⟩
  · exact .clause he.2 (retargets_of_asTarget htarget) hiter.2 hifs

/-- Where a clause begins, there is one. -/
theorem reads_clauses (h : Below rule b) (hb : 32 * weight ts ≤ b)
    (hbegins : beginsClause ts = true) :
    Reads ts (clauses rule) fun cs us =>
      cs ≠ [] ∧ weight us < weight ts ∧ ∀ c ∈ cs, Derives (.clause c) := by
  refine .many_ne_nil ?_ fun us hle => ?_
  · exact .mono (.optionalLook looks_startsClause fun _ => reads_clause h hb)
      fun o _ _ ho => ho.1 hbegins
  · exact .mono (.optionalLook looks_startsClause fun _ => reads_clause h (by omega))
      fun o _ _ ho => ho.2

/-! ## Calls and subscripts -/

/-- What holds of the arguments read so far. -/
structure CallArguments.Sound (s : CallArguments) : Prop where
  args : ∀ e ∈ s.args, Derives (.arg e)
  keywords : ∀ k ∈ s.keywords, Derives (.keyword k)

theorem CallArguments.Sound.addArg {s : CallArguments} (h : s.Sound) {e : Expr}
    (he : Derives (.arg e)) : (s.addArg e).Sound :=
  ⟨List.forall_mem_append.mpr ⟨h.args, List.forall_mem_singleton.mpr he⟩, h.keywords⟩

theorem CallArguments.Sound.addKeyword {s : CallArguments} (h : s.Sound) {name : Option String}
    {value : Expr} (hk : Derives (.keyword ⟨name, value⟩)) : (s.addKeyword name value).Sound :=
  ⟨h.args, List.forall_mem_append.mpr ⟨h.keywords, List.forall_mem_singleton.mpr hk⟩⟩

theorem reads_plainArgument (h : Below rule b) {s : CallArguments} (hs : s.Sound)
    (hb : 32 * weight ts + 32 ≤ b) (here : Span) :
    Reads ts (plainArgument rule s here) fun s _ => s.Sound := by
  refine .bind (h.later hb nofun) fun e us _ he => ?_
  have hlt := he.1
  refine .ifEatOp (fun vs hlt' => ?_) (.startsClause_bind ?_)
  · split
    · refine .bind (h.later (s := vs) (by omega) nofun) fun value ws _ hvalue => .pure ?_
      exact hs.addKeyword (.keyword he.2 hvalue.2)
    · exact .failAt nofun
  · refine .ite (fun hbegins => ?_) fun _ => ?_
    · refine .bind (reads_clauses h (by omega) hbegins) fun cs vs _ hcs => ?_
      refine .atOp_bind (.peekNext_bind ?_)
      refine .ite (fun _ => .failAt nofun) fun _ => .pure ?_
      exact hs.addArg (.argGenerator he.2 hcs.1 hcs.2.2)
    · exact .ite (fun _ => .failAt nofun) fun _ => .ite (fun _ => .failAt nofun) fun _ =>
        .pure (hs.addArg (.argNamed he.2))

theorem reads_argument (h : Below rule b) {s : CallArguments} (hs : s.Sound)
    (hb : 32 * weight ts + 32 ≤ b) :
    Reads ts (argument rule s) fun s _ => s.Sound := by
  refine .peek_bind (.ifEatOp (fun us hlt => ?_) (.ifEatOp (fun us hlt => ?_)
    (reads_plainArgument h hs hb _)))
  · refine .ite (fun _ => .failAt nofun) fun _ => ?_
    refine .bind (h.later (by omega) nofun) fun e vs _ he => .pure ?_
    exact hs.addArg (.argStarred he.2)
  · refine .bind (h.later (by omega) nofun) fun e vs _ he => .pure ?_
    exact hs.addKeyword (.doubleStar he.2)

theorem reads_arguments (h : Below rule b) (hb : 32 * weight ts + 32 ≤ b) :
    Reads ts (arguments rule) fun s _ => s.Sound := by
  refine .iterate ⟨nofun, nofun⟩ fun s us hle hs => ?_
  refine .atOp_bind (.ite (fun _ => .pure ⟨hs, nofun⟩) fun _ => ?_)
  refine .bind (reads_argument h hs (by omega)) fun s vs hle' hs => ?_
  refine .bind .eatOp fun comma ws _ hcomma => .pure ⟨hs, fun hc => ?_⟩
  have := hcomma hc
  omega

theorem reads_optionalTest (h : Below rule b) (hb : 32 * weight ts + 32 ≤ b) :
    Reads ts (optionalTest rule) fun o _ => ∀ e ∈ o, Derives (.expr .test e) := by
  refine .atOp_bind (.ite (fun _ => .pure nofun) fun _ => ?_)
  exact .mono (.optionalLook looks_startsExpression fun _ => h.later hb nofun)
    fun o _ _ ho e he => (ho.2 e he).2

theorem reads_lowerBound (h : Below rule b) (hb : 32 * weight ts + Rule.subscript.rank ≤ b) :
    Reads ts (lowerBound rule) fun o us =>
      ∀ e ∈ o, weight us < weight ts ∧ Derives (.expr .test e) := by
  refine .atOp_bind (.ite (fun _ => .pure nofun) fun _ => ?_)
  refine .bind (h.front hb (by decide) nofun) fun e us _ he => .pure ?_
  rintro _ ⟨⟩
  exact he

theorem reads_sliceStep (h : Below rule b) (hb : 32 * weight ts ≤ b) :
    Reads ts (sliceStep rule) fun o _ => ∀ e ∈ o, Derives (.expr .test e) :=
  .ifEatOp (fun us hlt => reads_optionalTest h (by omega)) (.pure nofun)

theorem reads_subscript (h : Below rule b) (hb : 32 * weight ts + Rule.subscript.rank ≤ b) :
    Reads ts (subscript rule) (Yields .subscript ts) := by
  refine .bind (reads_lowerBound h hb) fun lower us hle hlower => .ifEatOp (fun vs hlt => ?_) ?_
  · refine .bind (reads_optionalTest h (by omega)) fun upper ws hle' hupper => ?_
    refine .bind (reads_sliceStep h (by omega)) fun step xs hle'' hstep => .pure ⟨by omega, ?_⟩
    exact .slice (fun e he => (hlower e he).2) hupper hstep
  · split
    · next e =>
      have he := hlower e rfl
      exact .pure ⟨he.1, .unit (by decide) he.2⟩
    · exact .unexpected

theorem reads_subscripts (h : Below rule b) (hb : 32 * weight ts + Rule.subscripts.rank ≤ b) :
    Reads ts (subscripts rule) (Yields .subscripts ts) := by
  refine .bind (h.front hb (by decide) nofun) fun first us _ hfirst => ?_
  have hlt := hfirst.1
  refine .atOp_bind (.ite (fun _ => ?_) fun _ => .pure (hfirst.unit (by decide)))
  refine .bind (reads_itemsUntil (P := fun e => Derives (.expr .subscript e)) fun vs hlt' =>
    .mono (h.later (by omega) nofun) fun e _ _ he => he.2) fun rest vs hle hrest => .pure ?_
  exact ⟨by omega, .tuple rfl (List.forall_mem_cons.mpr ⟨hfirst.2, hrest⟩)⟩

/-! ## Primaries -/

/-- A trailer that makes a derived tree of one. -/
def Trailer.Sound (t : Trailer) : Prop := ∀ e, Derives (.trailed e) → Derives (.trailed (t.apply e))

theorem Trailer.Sound.foldl {e : Expr} (he : Derives (.trailed e)) {trailers : List Trailer}
    (h : ∀ t ∈ trailers, t.Sound) : Derives (.trailed (trailers.foldl Trailer.apply e)) := by
  induction trailers generalizing e with
  | nil => exact he
  | cons t trailers ih =>
    rw [List.forall_mem_cons] at h
    exact ih (h.1 e he) h.2

theorem CallArguments.Sound.trailer {s : CallArguments} (h : s.Sound) :
    (Trailer.call s.args s.keywords).Sound := fun _ he => .call he h.args h.keywords

theorem reads_trailer (h : Below rule b) (hb : 32 * weight ts ≤ b) :
    Reads ts (trailer rule) fun o us => ∀ t ∈ o, weight us < weight ts ∧ t.Sound := by
  refine .atOp_bind (.ite (fun hop => ?_) fun _ => .atOp_bind (.ite (fun hop => ?_) fun _ => ?_))
  · refine .nested nofun (.advance_bind (Reads.not_endMarker_of_isOp _ hop) fun hlt => ?_)
    refine .bind (reads_arguments h (by omega)) fun a us hle ha => ?_
    refine .expectOp_bind fun vs hlt' => .pure ?_
    rintro _ ⟨⟩
    exact ⟨by omega, ha.trailer⟩
  · refine .nested nofun (.advance_bind (Reads.not_endMarker_of_isOp _ hop) fun hlt => ?_)
    refine .bind (h.later (by omega) nofun) fun slice us hle hslice => ?_
    refine .expectOp_bind fun vs hlt' => .pure ?_
    rintro _ ⟨⟩
    exact ⟨by omega, fun _ he => .subscript he hslice.2⟩
  · refine .ifEatOp (fun us hlt => ?_) (.pure nofun)
    refine .bind .identifier fun name vs hle hname => .pure ?_
    rintro _ ⟨⟩
    exact ⟨by omega, fun _ he => .attr he hname.2⟩

theorem reads_primary (h : Below rule b) (hb : 32 * weight ts + Rule.primary.rank ≤ b) :
    Reads ts (primary rule) (Yields .primary ts) := by
  refine .bind .eatWord fun awaited us hle _ => ?_
  refine .bind (h.front (s := us) (k := 2) (by have : Rule.primary.rank = 2 := rfl; omega)
    (by decide) nofun) fun atom vs _ hatom => ?_
  have hlt := hatom.1
  refine .bind (.many (P := Trailer.Sound) fun ws hle' => reads_trailer h (by omega))
    fun trailers ws hle' htrailers => .pure ⟨by omega, ?_⟩
  have he := Trailer.Sound.foldl (.atom hatom.2) htrailers
  split
  · exact .awaited he
  · exact .trailed he

/-- A run of string tokens, none of which is too heavy. -/
theorem reads_stringTokens (hb : 32 * weight ts ≤ b) (hk : (current ts).kind = .string) :
    Reads ts (many (Parser.optional (atKind .string) advance)) fun tokens us =>
      weight us < weight ts ∧ ∀ t ∈ tokens, 32 * t.text.length ≤ b := by
  have hitem : ∀ us, weight us ≤ weight ts →
      Reads us (Parser.optional (atKind .string) advance) fun o vs =>
        ((current us).kind == .string → o ≠ none) ∧
          ∀ t ∈ o, weight vs < weight us ∧ 32 * t.text.length ≤ b := by
    intro us hle
    refine .optionalLook (looks_atKind .string) fun hc => ?_
    rw [beq_iff_eq] at hc
    refine .mono (.advanceText (by rw [hc]; exact nofun)) fun t vs _ ht => ⟨ht.1, ?_⟩
    have := ht.2
    omega
  refine .mono (.many_ne_nil (P := fun t => 32 * t.text.length ≤ b) ?_ fun us hle => ?_)
    fun tokens us _ htokens => htokens.2
  · exact .mono (hitem ts (Nat.le_refl _)) fun o _ _ ho => ho.1 (by rw [hk]; rfl)
  · exact .mono (hitem us hle) fun o _ _ ho => ho.2

theorem reads_atom (h : Below rule b) (hb : 32 * weight ts + Rule.atom.rank ≤ b) :
    Reads ts (atom spell rule) (Yields .atom ts) := by
  refine .peek_bind ?_
  split
  · next hk =>
    refine .ite (fun _ => .nested nofun ?_) fun _ => ?_
    · refine .unit (by decide) (h .bracketed ts ?_ fun _ => by rw [hk]; exact nofun)
      exact Nat.lt_of_lt_of_le (Nat.add_lt_add_left (by decide) _) hb
    · exact .ifEatOp (fun us hlt => .pure ⟨hlt, .ellipsis⟩) .unexpected
  · next hk =>
    refine .advance_bind (by rw [hk]; exact nofun) fun hlt => ?_
    split
    · next c hc => exact .pure ⟨hlt, .number hc⟩
    · exact .failAt nofun
  · next hk =>
    refine .bind (reads_stringTokens (b := b) (by omega) hk) fun tokens us _ htokens => ?_
    exact .mono (reads_strings h htokens.2) fun e vs hle he => ⟨by have := htokens.1; omega, he⟩
  · next hk =>
    split
    · next c hc =>
      exact .advance_bind (by rw [hk]; exact nofun) fun hlt => .pure ⟨hlt, .word hc⟩
    · exact .bind .identifier fun id us _ hid => .pure ⟨hid.1, .name hid.2⟩
  · exact .unexpected

/-! ## Brackets -/

/-- What stands in brackets is derived. -/
def Bracketed.Sound : Bracketed → Prop
  | .comprehension elt generators => Derives (.expr .starOrNamed elt) ∧ generators ≠ [] ∧
      ∀ c ∈ generators, Derives (.clause c)
  | .items elts _ => ∀ e ∈ elts, Derives (.expr .starOrNamed e)

theorem reads_inside (h : Below rule b) {closing : String} (hb : 32 * weight ts + 32 ≤ b) :
    Reads ts (inside rule closing) fun c _ => c.Sound := by
  refine .bind (h.later hb nofun) fun first us _ hfirst => ?_
  have hlt := hfirst.1
  refine .startsClause_bind (.ite (fun hbegins => ?_) fun _ => ?_)
  · refine .bind (reads_clauses h (by omega) hbegins) fun cs vs _ hcs => .pure ?_
    exact ⟨hfirst.2, hcs.1, hcs.2.2⟩
  · refine .atOp_bind (.bind (reads_itemsUntil (P := fun e => Derives (.expr .starOrNamed e))
      fun vs hlt' => .mono (h.later (by omega) nofun) fun e _ _ he => he.2)
      fun rest vs _ hrest => .pure ?_)
    exact List.forall_mem_cons.mpr ⟨hfirst.2, hrest⟩

theorem reads_parenthesized (h : Below rule b) (hb : 32 * weight ts + 32 ≤ b) :
    Reads ts (parenthesized rule) fun e _ => Derives (.expr .bracketed e) := by
  refine .ifEatOp (fun us hlt => .pure (.tuple rfl nofun)) (.atWord_bind (.ite (fun _ => ?_)
    fun _ => ?_))
  · refine .bind (h.later hb nofun) fun e us _ he => .expectOp_bind fun vs _ => .pure ?_
    exact .unit (by decide) he.2
  · refine .bind (reads_inside h hb) fun content us _ hc => .expectOp_bind fun vs _ => ?_
    split
    · exact .pure (.generator hc.1 hc.2.1 hc.2.2)
    · exact .pure (.unit (by decide) (hc _ List.mem_cons_self))
    · exact .pure (.tuple rfl hc)

theorem reads_listDisplay (h : Below rule b) (hb : 32 * weight ts + 32 ≤ b) :
    Reads ts (listDisplay rule) fun e _ => Derives (.expr .bracketed e) := by
  refine .ifEatOp (fun us hlt => .pure (.list nofun)) ?_
  refine .bind (reads_inside h hb) fun content us _ hc => .expectOp_bind fun vs _ => ?_
  split
  · exact .pure (.listComp hc.1 hc.2.1 hc.2.2)
  · exact .pure (.list hc)

theorem reads_bracketed (h : Below rule b) (hb : 32 * weight ts ≤ b)
    (hk : (current ts).kind ≠ .endMarker) :
    Reads ts (bracketed rule) (Yields .bracketed ts) := by
  refine .advance_bind hk fun hlt => .ite (fun _ => ?_) fun _ => .ite (fun _ => ?_) fun _ => ?_
  · exact .mono (reads_parenthesized h (by omega)) fun e us hle he => ⟨by omega, he⟩
  · exact .mono (reads_listDisplay h (by omega)) fun e us hle he => ⟨by omega, he⟩
  · exact .mono (h.later (by omega) nofun) fun e us hle he => ⟨by omega, .unit (by decide) he.2⟩

/-- An entry of a dictionary is derived. -/
def IsEntry (entry : Option Expr × Expr) : Prop :=
  (∀ e ∈ entry.1, Derives (.expr .test e)) ∧ (entry.1 = none → Derives (.expr .bitOr entry.2)) ∧
    (entry.1 ≠ none → Derives (.expr .test entry.2))

theorem isEntry_none {value : Expr} (h : Derives (.expr .bitOr value)) : IsEntry (none, value) :=
  ⟨nofun, fun _ => h, (absurd rfl ·)⟩

theorem isEntry_some {key value : Expr} (hk : Derives (.expr .test key))
    (hv : Derives (.expr .test value)) : IsEntry (some key, value) :=
  ⟨by simpa using hk, nofun, fun _ => hv⟩

theorem reads_dictEntry (h : Below rule b) (hb : 32 * weight ts + 32 ≤ b) :
    Reads ts (dictEntry rule) fun entry _ => IsEntry entry := by
  refine .ifEatOp (fun us hlt => ?_) ?_
  · exact .bind (h.later (by omega) nofun) fun e _ _ he => .pure (isEntry_none he.2)
  · refine .bind (h.later hb nofun) fun key us _ hkey => .expectOp_bind fun vs hlt => ?_
    exact .bind (h.later (by omega) nofun) fun e _ _ he => .pure (isEntry_some hkey.2 he.2)

theorem reads_dictRest (h : Below rule b) {first : Option Expr × Expr} (hfirst : IsEntry first)
    (hb : 32 * weight ts ≤ b) :
    Reads ts (dictRest rule first) fun e us =>
      weight us < weight ts ∧ Derives (.expr .dictOrSet e) := by
  refine .bind (.many (P := IsEntry) fun us hle => ?_) fun rest us hle hrest => ?_
  · refine .ifEatOp (fun vs hlt => ?_) (.pure nofun)
    refine .atOp_bind (.ite (fun _ => .pure nofun) fun _ => ?_)
    refine .bind (reads_dictEntry h (by omega)) fun entry ws _ hentry => .pure ?_
    rintro _ ⟨⟩
    exact ⟨by omega, hentry⟩
  · refine .expectOp_bind fun vs hlt => .pure ⟨by omega, ?_⟩
    have hall := List.forall_mem_cons.mpr ⟨hfirst, hrest⟩
    exact .dict (fun e he => (hall e he).1) (fun e he => (hall e he).2.1)
      fun e he => (hall e he).2.2

theorem reads_setRest (h : Below rule b) {first : Expr} (hfirst : Derives (.expr .starOrTest first))
    (hb : 32 * weight ts ≤ b) :
    Reads ts (setRest rule first) fun e us =>
      weight us < weight ts ∧ Derives (.expr .dictOrSet e) := by
  refine .startsClause_bind (.ite (fun hbegins => ?_) fun _ => ?_)
  · refine .bind (reads_clauses h hb hbegins) fun cs us hle hcs => .expectOp_bind fun vs hlt => ?_
    exact .pure ⟨by omega, .setComp hfirst hcs.1 hcs.2.2⟩
  · refine .bind (reads_itemsUntil (P := fun e => Derives (.expr .starOrTest e)) fun us hlt =>
      .mono (h.later (by omega) nofun) fun e _ _ he => he.2) fun rest us hle hrest => ?_
    refine .expectOp_bind fun vs hlt => .pure ⟨by omega, .set (List.cons_ne_nil _ _) ?_⟩
    exact List.forall_mem_cons.mpr ⟨hfirst, hrest⟩

theorem reads_dictOrSet (h : Below rule b) (hb : 32 * weight ts + Rule.dictOrSet.rank ≤ b) :
    Reads ts (dictOrSet rule) (Yields .dictOrSet ts) := by
  have hlater : ∀ {p : Parser Expr} {us : List Token}, weight us < weight ts →
      Reads us p (fun e vs => weight vs < weight us ∧ Derives (.expr .dictOrSet e)) →
      Reads us p (Yields .dictOrSet ts) :=
    fun hlt hp => hp.mono fun e vs _ he => ⟨by have := he.1; omega, he.2⟩
  refine .ifEatOp (fun us hlt => .pure ⟨hlt, @Derives.dict [] nofun nofun nofun⟩)
    (.ifEatOp (fun us hlt => ?_) ?_)
  · refine .bind (h.later (by omega) nofun) fun e vs hle he => ?_
    exact hlater (by omega) (reads_dictRest h (isEntry_none he.2) (by omega))
  · refine .bind (h.front hb (by decide) nofun) fun first us _ hfirst => ?_
    have hlt := hfirst.1
    refine .ite (fun _ => hlater hlt (reads_setRest h hfirst.2 (by omega))) fun hstar => ?_
    refine .ifEatOp (fun vs hlt' => ?_) (hlater hlt (reads_setRest h hfirst.2 (by omega)))
    have hkey := hfirst.2.test_of_starOrTest (by simpa using hstar)
    refine .bind (h.later (s := vs) (by omega) nofun) fun value ws _ hvalue => ?_
    have hlt'' := hvalue.1
    refine .startsClause_bind (.ite (fun hbegins => ?_) fun _ => ?_)
    · refine .bind (reads_clauses h (by omega) hbegins) fun cs xs hle hcs =>
        .expectOp_bind fun ys hlt₃ => .pure ⟨by omega, ?_⟩
      exact .dictComp hkey hvalue.2 hcs.1 hcs.2.2
    · exact hlater (by omega) (reads_dictRest h (isEntry_some hkey hvalue.2) (by omega))

theorem reads_yielding (h : Below rule b) (hb : 32 * weight ts ≤ b) :
    Reads ts (yielding rule) (Yields .yielding ts) := by
  refine .expectWord_bind fun us hlt => .ifEatWord (fun vs hlt' => ?_) ?_
  · refine .bind (h.later (by omega) nofun) fun e ws _ he => .pure ⟨?_, .yieldFrom he.2⟩
    have := he.1
    omega
  · refine .bind (.optionalLook looks_startsExpression fun _ =>
      h.later (by omega) nofun) fun value vs hle hvalue => .pure ⟨by omega, .yield fun e he => ?_⟩
    exact (hvalue.2 e he).2

/-! ## All rules -/

/-- What a rule says is sound if the rules below it are. -/
theorem reads_body (h : Below rule b) {r : Rule} (hb : 32 * weight ts + r.rank ≤ b)
    (hr : r = .bracketed → (current ts).kind ≠ .endMarker) :
    Reads ts (Rule.body spell rule r) (Yields r ts) := by
  cases r with
  | starTestList => exact reads_listOrTuple h hb (by decide) nofun (by decide) rfl
  | testList => exact reads_listOrTuple h hb (by decide) nofun (by decide) rfl
  | exprList => exact reads_listOrTuple h hb (by decide) nofun (by decide) rfl
  | starOrTest => exact reads_starOr h hb (by decide) nofun rfl
  | starOrExpr => exact reads_starOr h hb (by decide) nofun rfl
  | starOrNamed => exact reads_starOr h hb (by decide) nofun rfl
  | star => exact reads_star h hb
  | named => exact reads_named h hb
  | test => exact reads_test h hb
  | testNoCond => exact reads_testNoCond h hb
  | lambda => exact reads_lambda h rfl hb
  | lambdaNoCond => exact reads_lambda h rfl hb
  | orTest => exact reads_boolChain h hb (by decide) (by decide) rfl
  | andTest => exact reads_boolChain h hb (by decide) (by decide) rfl
  | notTest => exact reads_notTest h hb
  | comparison => exact reads_comparison h hb
  | bitOr => exact reads_operatorChain h hb (by decide) (by decide) rfl
  | bitXor => exact reads_operatorChain h hb (by decide) (by decide) rfl
  | bitAnd => exact reads_operatorChain h hb (by decide) (by decide) rfl
  | shift => exact reads_operatorChain h hb (by decide) (by decide) rfl
  | sum => exact reads_operatorChain h hb (by decide) (by decide) rfl
  | term => exact reads_operatorChain h hb (by decide) (by decide) rfl
  | factor => exact reads_factor h hb
  | power => exact reads_power h hb
  | primary => exact reads_primary h hb
  | atom => exact reads_atom h hb
  | bracketed => exact reads_bracketed h hb (hr rfl)
  | dictOrSet => exact reads_dictOrSet h hb
  | subscripts => exact reads_subscripts h hb
  | subscript => exact reads_subscript h hb
  | yielding => exact reads_yielding h hb

/-- With enough levels of references the rules never run out of them. -/
theorem below_run (fuel : Nat) : Below (Rule.run spell fuel) fuel := by
  induction fuel with
  | zero => exact fun _ _ h => absurd h (Nat.not_lt_zero _)
  | succ fuel ih => exact fun r ts hlt hr => reads_body ih (Nat.le_of_lt_succ hlt) hr

end PythonSyntax.Parser
