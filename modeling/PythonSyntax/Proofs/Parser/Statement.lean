import PythonSyntax.Proofs.Grammar.Statement
import PythonSyntax.Proofs.Parser.Expression

/-
The rules of statements yield trees of the grammar, and programs never run out of fuel.

The theorems follow the parsers of `StmtRule.body` as those of expressions follow `Rule.body`.  A
block has a statement because its indentation is followed by a token with text.
-/

namespace PythonSyntax

/-- The rank of a rule for statements, above those of the rules that it may begin with. -/
def StmtRule.rank : StmtRule → Nat
  | suite => 0
  | conditional => 20
  | statement => 21

namespace Parser

variable {ts : List Token} {expr : Rule → Parser Expr} {rule : StmtRule → Parser (List Stmt)}
  {b : Nat}

/-- A derived statement, for which a token has been taken. -/
def YieldsStmt (ts : List Token) (s : Stmt) (us : List Token) : Prop :=
  weight us < weight ts ∧ DerivesStmt s

/-- Derived statements, at least one, for which a token has been taken. -/
def YieldsStmts (ts : List Token) (ss : List Stmt) (us : List Token) : Prop :=
  weight us < weight ts ∧ ss ≠ [] ∧ ∀ s ∈ ss, DerivesStmt s

/-- The rules yield derived statements wherever weight and rank are below a bound. -/
def BelowStmt (rule : StmtRule → Parser (List Stmt)) (b : Nat) : Prop :=
  ∀ r ts, 32 * weight ts + r.rank < b → (r = .conditional → (current ts).kind ≠ .endMarker) →
    Reads ts (rule r) (YieldsStmts ts)

theorem BelowStmt.suite (h : BelowStmt rule b) (hb : 32 * weight ts + 1 ≤ b) :
    Reads ts (rule .suite) (YieldsStmts ts) := h .suite ts hb nofun

/-! ## Imports and names -/

theorem reads_nameList :
    Reads ts nameList fun names us =>
      names ≠ [] ∧ weight us < weight ts ∧ ∀ name ∈ names, IsIdentifier name :=
  .sepBy (fun _ => .eatOp) fun _ _ => .identifier

theorem reads_dottedName :
    Reads ts dottedName fun name us => weight us < weight ts ∧ IsDottedName name := by
  refine .bind (.sepBy (fun _ => .eatOp) fun _ _ => .identifier) fun parts us _ h => .pure ?_
  exact ⟨h.2.1, parts, h.1, h.2.2, rfl⟩

theorem reads_asName : Reads ts asName fun name? _ => ∀ name ∈ name?, IsIdentifier name :=
  .mono (.optionalWord fun _ _ => .mono .identifier fun _ _ _ h => h.2) fun _ _ _ h => h.1

theorem reads_importing : Reads ts importing (YieldsStmt ts) := by
  refine .expectWord_bind fun us hlt => ?_
  refine .bind (.sepBy (P := fun a : Alias => IsDottedName a.name ∧
    ∀ name ∈ a.asName, IsIdentifier name) (fun _ => .eatOp) fun vs _ => ?_) fun names vs hle h => ?_
  · refine .bind reads_dottedName fun name ws hle hname => ?_
    exact .bind reads_asName fun name? xs hle' hname? =>
      .pure ⟨by have := hname.1; omega, hname.2, hname?⟩
  · exact .pure ⟨by omega, .importing h.1 (fun a ha => (h.2.2 a ha).1) fun a ha => (h.2.2 a ha).2⟩

/-- What an imported name is. -/
def IsImported (a : Alias) : Prop :=
  IsIdentifier a.name ∧ ∀ name ∈ a.asName, IsIdentifier name

theorem reads_importAlias :
    Reads ts importAlias fun a us => weight us < weight ts ∧ IsImported a := by
  refine .bind .identifier fun name us _ hname => ?_
  exact .bind reads_asName fun name? vs hle hname? =>
    .pure ⟨by have := hname.1; omega, hname.2, hname?⟩

theorem reads_importRest (inParens : Bool) :
    Reads ts (importRest inParens) fun o us => ∀ a ∈ o, weight us < weight ts ∧ IsImported a := by
  refine .ifEatOp (fun us hlt => .atOp_bind (.ite (fun _ => .pure nofun) fun _ => ?_))
    (.pure nofun)
  refine .atKind_bind (.ite (fun _ => .fail nofun) fun _ => ?_)
  refine .bind reads_importAlias fun a vs _ ha => .pure ?_
  rintro _ ⟨⟩
  exact ⟨by have := ha.1; omega, ha.2⟩

theorem reads_aliasList (inParens : Bool) :
    Reads ts (aliasList inParens) fun names us =>
      weight us < weight ts ∧ names ≠ [] ∧ ∀ a ∈ names, IsImported a := by
  refine .bind reads_importAlias fun first us _ hfirst => ?_
  refine .bind (.many fun vs _ => reads_importRest inParens) fun rest vs hle hrest => .pure ?_
  exact ⟨by have := hfirst.1; omega, List.cons_ne_nil _ _,
    List.forall_mem_cons.mpr ⟨hfirst.2, hrest⟩⟩

theorem reads_importedNames :
    Reads ts importedNames fun names us => weight us < weight ts ∧ names ≠ [] ∧
      (names = [⟨"*", none⟩] ∨ ∀ a ∈ names, IsIdentifier a.name) ∧
      ∀ a ∈ names, ∀ name ∈ a.asName, IsIdentifier name := by
  have hlist : ∀ {names : List Alias}, (∀ a ∈ names, IsImported a) →
      (names = [⟨"*", none⟩] ∨ ∀ a ∈ names, IsIdentifier a.name) ∧
        ∀ a ∈ names, ∀ name ∈ a.asName, IsIdentifier name :=
    fun h => ⟨.inr fun a ha => (h a ha).1, fun a ha => (h a ha).2⟩
  refine .ifEatOp (fun us hlt => .pure ⟨hlt, nofun, .inl rfl, ?_⟩)
    (.ifEatOp (fun us hlt => ?_) ?_)
  · exact List.forall_mem_singleton.mpr nofun
  · refine .bind (reads_aliasList true) fun names vs _ h => .expectOp_bind fun ws hlt' => ?_
    exact .pure ⟨by have := h.1; omega, h.2.1, hlist h.2.2⟩
  · exact .mono (reads_aliasList false) fun names vs _ h => ⟨h.1, h.2.1, hlist h.2.2⟩

theorem reads_dots : Reads ts dots fun o us => ∀ n ∈ o, weight us < weight ts ∧ True := by
  refine .ifEatOp (fun us hlt => .pure ?_) (.ifEatOp (fun us hlt => .pure ?_) (.pure nofun))
  · exact fun _ _ => ⟨hlt, trivial⟩
  · exact fun _ _ => ⟨hlt, trivial⟩

theorem reads_importedModule (level : Nat) :
    Reads ts (importedModule level) fun module? _ =>
      (∀ m ∈ module?, IsDottedName m) ∧ (module? = none → 1 ≤ level) := by
  refine .atWord_bind (.ite (fun hc => .pure ⟨nofun, fun _ => ?_⟩) fun _ => ?_)
  · rw [Bool.and_eq_true, decide_eq_true_eq] at hc
    exact hc.2
  · refine .bind reads_dottedName fun name us _ hname => .pure ⟨?_, nofun⟩
    rintro _ ⟨⟩
    exact hname.2

theorem reads_importFrom : Reads ts importFrom (YieldsStmt ts) := by
  refine .expectWord_bind fun us hlt => .bind (.many fun _ _ => reads_dots) fun levels vs hle _ => ?_
  refine .bind (reads_importedModule _) fun module? ws hle' hmodule => ?_
  refine .expectWord_bind fun xs hlt' => .bind reads_importedNames fun names ys _ hnames => ?_
  obtain ⟨hlt'', hne, hname, has⟩ := hnames
  exact .pure ⟨by omega, .importFrom hmodule.1 hne hname has hmodule.2⟩

/-! ## Assignments -/

theorem reads_annotated (h : Below expr b) {target : Expr} (htarget : YieldOr .starTestList target)
    (hb : 32 * weight ts ≤ b) (start : Token) :
    Reads ts (annotated expr target start) (YieldsStmt ts) := by
  refine .expectOp_bind fun us hlt => ?_
  split
  · next cause hcause =>
    refine .failAt ?_
    unfold annotationRefusal? at hcause
    split at hcause <;> cases hcause <;> exact nofun
  · next hnone =>
    refine .ofExcept_bind (fueled_asTarget _ _ _) fun t ht => ?_
    refine .bind (h.later (by omega) nofun) fun annotation vs _ hannotation => ?_
    have hlt' := hannotation.1
    refine .bind (.optionalOp (P := YieldOr .starTestList) fun ws hlt'' => ?_)
      fun value ws hle hvalue => .pure ⟨by omega, ?_⟩
    · exact .mono (reads_yieldOr h (k := 32) (by omega) (by decide) nofun) fun _ _ _ he => he.2
    · refine .annAssign htarget hnone (retargets_of_asTarget ht) (fun hs => ?_) hannotation.2
        hvalue.1
      rw [Bool.and_eq_true] at hs
      exact hs.1

theorem not_endMarker_of_augmentedOperator? {t : Token} {op : Operator}
    (h : augmentedOperator? t = some op) : t.kind ≠ .endMarker := by
  intro hk
  rw [augmentedOperator?, hk] at h
  exact nomatch h

theorem reads_augmented (h : Below expr b) {target : Expr} (htarget : YieldOr .starTestList target)
    (hb : 32 * weight ts ≤ b) {op : Operator} (hop : augmentedOperator? (current ts) = some op)
    (start : Token) : Reads ts (augmented expr target op start) (YieldsStmt ts) := by
  refine .advance_bind (not_endMarker_of_augmentedOperator? hop) fun hlt => ?_
  refine .ite (fun hsingle => ?_) fun _ => .failAt nofun
  refine .ofExcept_bind (fueled_asTarget _ _ _) fun t ht => ?_
  refine .bind (reads_yieldOr h (k := 32) (by omega) (by decide) nofun) fun value us _ hvalue => ?_
  exact .pure ⟨by have := hvalue.1; omega,
    .augAssign htarget hsingle (retargets_of_asTarget ht) hvalue.2⟩

theorem reads_assigned (h : Below expr b) (hb : 32 * weight ts ≤ b) :
    Reads ts (assigned expr) fun o us =>
      ∀ r ∈ o, weight us < weight ts ∧ YieldOr .starTestList r.1 := by
  refine .ifEatOp (fun us hlt => .peek_bind ?_) (.pure nofun)
  refine .bind (reads_yieldOr h (k := 32) (by omega) (by decide) nofun) fun e vs _ he => .pure ?_
  rintro _ ⟨⟩
  exact ⟨by have := he.1; omega, he.2⟩

/-- An assignment has the last of its expressions as its value. -/
theorem derives_of_assignment {first : Expr × Span} {rest : List (Expr × Span)} {s : Stmt}
    (hfirst : YieldOr .starTestList first.1) (hrest : ∀ r ∈ rest, YieldOr .starTestList r.1)
    (h : assignment first rest = .ok s) : DerivesStmt s := by
  obtain ⟨targets, htargets, h⟩ := bind_ok h
  cases h
  obtain ⟨hlen, hall⟩ := mapM_ok htargets
  refine @DerivesStmt.assign ((first :: rest.dropLast).map Prod.fst) _ _ (by simp) ?_ ⟨?_, ?_⟩ ?_
  · intro e he
    obtain ⟨r, hr, rfl⟩ := List.mem_map.mp he
    rcases List.mem_cons.mp hr with rfl | hr
    · exact hfirst
    · exact hrest r (List.dropLast_subset rest hr)
  · rw [List.length_map]
    exact hlen
  · intro p hp
    rw [List.zip_map_left] at hp
    obtain ⟨q, hq, rfl⟩ := List.mem_map.mp hp
    exact retargets_of_asTarget (hall q hq)
  · cases hlast : rest.getLast? with
    | none => exact hfirst
    | some r => exact hrest r (List.mem_of_getLast? hlast)

theorem reads_exprStatement (h : Below expr b) (hb : 32 * weight ts + 21 ≤ b) :
    Reads ts (exprStatement expr) (YieldsStmt ts) := by
  refine .peek_bind (.bind (reads_yieldOr h hb (by decide) nofun) fun first us _ hfirst => ?_)
  have hlt := hfirst.1
  have hafter : ∀ {p : Parser Stmt}, Reads us p (YieldsStmt us) → Reads us p (YieldsStmt ts) :=
    fun hp => hp.mono fun s vs _ hs => ⟨by have := hs.1; omega, hs.2⟩
  refine .atOp_bind (.ite (fun _ => hafter (reads_annotated h hfirst.2 (by omega) _)) fun _ => ?_)
  refine .peek_bind ?_
  split
  · next op hop => exact hafter (reads_augmented h hfirst.2 (by omega) hop _)
  · refine .bind (.many (P := fun r => YieldOr .starTestList r.1) fun vs hle =>
      reads_assigned h (by omega)) fun rest vs hle hrest => ?_
    split
    · exact .pure ⟨by omega, .expr hfirst.2⟩
    · refine .ofExcept (.bind (.mapM _ fun _ _ => fueled_asTarget _ _ _) fun _ _ => .ok)
        fun s hs => ⟨by omega, derives_of_assignment hfirst.2 hrest hs⟩

/-! ## Simple statements -/

theorem reads_raising (h : Below expr b) (hb : 32 * weight ts ≤ b) :
    Reads ts (raising expr) (YieldsStmt ts) := by
  refine .expectWord_bind fun us hlt => .startsExpression_bind (.ite (fun _ => ?_) fun _ => ?_)
  · refine .bind (h.later (by omega) nofun) fun exc vs _ hexc => ?_
    have hlt' := hexc.1
    refine .bind (.optionalWord (P := fun e => Derives (.expr .test e)) fun ws hlt'' => ?_)
      fun cause ws hle hcause => .pure ⟨by omega, .raising ?_ hcause.1 nofun⟩
    · exact .mono (h.later (by omega) nofun) fun _ _ _ he => he.2
    · rintro _ ⟨⟩
      exact hexc.2
  · exact .pure ⟨hlt, .raising nofun nofun fun _ => rfl⟩

theorem reads_deleting (h : Below expr b) (hb : 32 * weight ts ≤ b) :
    Reads ts (deleting expr) (YieldsStmt ts) := by
  refine .expectWord_bind fun us hlt => .peek_bind ?_
  refine .bind (reads_listItems h (k := 32) (by omega) (by decide) nofun) ?_
  rintro ⟨items, comma⟩ vs - ⟨hlt', hne, hd⟩
  refine .ofExcept_bind (.mapM _ fun _ _ => fueled_asTarget _ _ _) fun targets ht => ?_
  obtain ⟨hlen, hall⟩ := mapM_ok ht
  exact .pure ⟨by omega, .delete hne hd ⟨hlen, fun p hp => retargets_of_asTarget (hall p hp)⟩⟩

theorem reads_asserting (h : Below expr b) (hb : 32 * weight ts ≤ b) :
    Reads ts (asserting expr) (YieldsStmt ts) := by
  refine .expectWord_bind fun us hlt => .bind (h.later (by omega) nofun) fun e vs _ he => ?_
  have hlt' := he.1
  refine .bind (.optionalOp (P := fun e => Derives (.expr .test e)) fun ws hlt'' => ?_)
    fun msg ws hle hmsg => .pure ⟨by omega, .asserting he.2 hmsg.1⟩
  exact .mono (h.later (by omega) nofun) fun _ _ _ he => he.2

theorem reads_returning (h : Below expr b) (hb : 32 * weight ts ≤ b) :
    Reads ts (returning expr) (YieldsStmt ts) := by
  refine .expectWord_bind fun us hlt => .bind (.optionalLook looks_startsExpression
    fun _ => h.later (by omega) nofun) fun value vs hle hvalue => .pure ⟨by omega, ?_⟩
  exact .returning fun e he => (hvalue.2 e he).2

theorem reads_smallStatement (h : Below expr b) (hb : 32 * weight ts + 21 ≤ b) :
    Reads ts (smallStatement expr) (YieldsStmt ts) := by
  refine .peek_bind (.ite (fun hk => ?_) fun _ => reads_exprStatement h hb)
  have hne : (current ts).kind ≠ .endMarker := by
    rw [hk]
    exact nofun
  have hword : ∀ {s : Stmt}, DerivesStmt s → Reads ts (oneWord s) (YieldsStmt ts) :=
    fun hs => .advance_bind hne fun hlt => .pure ⟨hlt, hs⟩
  split
  · exact hword .pass
  · exact hword .breaking
  · exact hword .continuing
  · exact reads_returning h (by omega)
  · exact reads_raising h (by omega)
  · exact .advance_bind hne fun hlt => .bind reads_nameList fun names us hle hnames =>
      .pure ⟨by omega, .globals hnames.1 hnames.2.2⟩
  · exact .advance_bind hne fun hlt => .bind reads_nameList fun names us hle hnames =>
      .pure ⟨by omega, .nonlocals hnames.1 hnames.2.2⟩
  · exact reads_deleting h (by omega)
  · exact reads_asserting h (by omega)
  · exact reads_importing
  · exact reads_importFrom
  · exact reads_exprStatement h hb

theorem reads_simpleStatements (h : Below expr b) (hb : 32 * weight ts + 21 ≤ b) :
    Reads ts (simpleStatements expr) (YieldsStmts ts) := by
  refine .bind (reads_smallStatement h hb) fun first us _ hfirst => ?_
  have hlt := hfirst.1
  refine .bind (.many (P := DerivesStmt) fun vs hle => ?_) fun rest vs hle hrest => ?_
  · refine .ifEatOp (fun ws hlt' => .atKind_bind (.ite (fun _ => .pure nofun) fun _ => ?_))
      (.pure nofun)
    refine .bind (reads_smallStatement h (by omega)) fun s xs _ hs => .pure ?_
    rintro _ ⟨⟩
    exact ⟨by have := hs.1; omega, hs.2⟩
  · refine .expectNewline_bind fun ws hlt' => .pure ⟨by omega, List.cons_ne_nil _ _, ?_⟩
    exact List.forall_mem_cons.mpr ⟨hfirst.2, hrest⟩

/-! ## Compound statements -/

/-- The block behind a word, if that is there. -/
theorem reads_suiteAfter (word : String) (h : BelowStmt rule b) (hb : 32 * weight ts ≤ b) :
    Reads ts (do if ← eatWord word then rule .suite else return []) fun ss _ =>
      ∀ s ∈ ss, DerivesStmt s := by
  refine .ifEatWord (fun us hlt => ?_) (.pure nofun)
  exact .mono (h.suite (by omega)) fun ss _ _ hss => hss.2.2

theorem reads_elseSuite (h : BelowStmt rule b) (hb : 32 * weight ts ≤ b) :
    Reads ts (elseSuite rule) fun ss _ => ∀ s ∈ ss, DerivesStmt s :=
  reads_suiteAfter "else" h hb

theorem reads_elifOrElse (h : BelowStmt rule b) (hb : 32 * weight ts + 21 ≤ b) :
    Reads ts (elifOrElse rule) fun ss _ => ∀ s ∈ ss, DerivesStmt s := by
  refine .atWord_bind (.ite (fun hw => ?_) fun _ => reads_elseSuite h (by omega))
  refine .mono (h .conditional ts hb fun _ => Reads.not_endMarker_of_isWord _ hw) ?_
  exact fun ss _ _ hss => hss.2.2

theorem reads_conditional (he : Below expr b) (h : BelowStmt rule b)
    (hb : 32 * weight ts + 20 ≤ b) (hk : (current ts).kind ≠ .endMarker) :
    Reads ts (conditional expr rule) (YieldsStmt ts) := by
  refine .advance_bind hk fun hlt => ?_
  refine .bind (he.later (by omega) nofun) fun condition us _ hcondition => ?_
  have hlt' := hcondition.1
  refine .bind (h.suite (by omega)) fun body vs _ hbody => ?_
  have hlt'' := hbody.1
  refine .bind (reads_elifOrElse h (by omega)) fun orelse ws hle horelse => .pure ⟨by omega, ?_⟩
  exact .ifElse hcondition.2 hbody.2.1 hbody.2.2 horelse

theorem reads_whileLoop (he : Below expr b) (h : BelowStmt rule b) (hb : 32 * weight ts ≤ b) :
    Reads ts (whileLoop expr rule) (YieldsStmt ts) := by
  refine .expectWord_bind fun us hlt => ?_
  refine .bind (he.later (by omega) nofun) fun condition vs _ hcondition => ?_
  have hlt' := hcondition.1
  refine .bind (h.suite (by omega)) fun body ws _ hbody => ?_
  have hlt'' := hbody.1
  refine .bind (reads_elseSuite h (by omega)) fun orelse xs hle horelse => .pure ⟨by omega, ?_⟩
  exact .whileLoop hcondition.2 hbody.2.1 hbody.2.2 horelse

theorem reads_forLoop (he : Below expr b) (h : BelowStmt rule b) (hb : 32 * weight ts ≤ b)
    (isAsync : Bool) : Reads ts (forLoop expr rule isAsync) (YieldsStmt ts) := by
  refine .expectWord_bind fun us hlt => .peek_bind ?_
  refine .bind (he.later (by omega) nofun) fun e vs _ htarget => ?_
  have hlt' := htarget.1
  refine .ofExcept_bind (fueled_asTarget _ _ _) fun t ht => .expectWord_bind fun ws hlt'' => ?_
  refine .bind (he.later (by omega) nofun) fun iter xs _ hiter => ?_
  have hlt₃ := hiter.1
  refine .bind (h.suite (by omega)) fun body ys _ hbody => ?_
  have hlt₄ := hbody.1
  refine .bind (reads_elseSuite h (by omega)) fun orelse zs hle horelse => .pure ⟨by omega, ?_⟩
  exact .forLoop htarget.2 (retargets_of_asTarget ht) hiter.2 hbody.2.1 hbody.2.2 horelse

/-- What holds of a handler. -/
structure HandlerSound (h : ExceptHandler) : Prop where
  exception : ∀ e ∈ h.exception, Derives (.expr .test e)
  name : ∀ name ∈ h.name, IsIdentifier name
  body_ne_nil : h.body ≠ []
  body : ∀ s ∈ h.body, DerivesStmt s
  bare : h.exception = none → h.name = none

/-- What holds of the handlers read so far: only a last one may catch everything. -/
structure Handlers.Sound (s : Handlers) : Prop where
  handlers : ∀ h ∈ s.handlers, HandlerSound h
  dropLast : ∀ h ∈ s.handlers.dropLast, h.exception ≠ none
  bare : s.bare = none → ∀ h ∈ s.handlers, h.exception ≠ none

theorem Handlers.Sound.add {s : Handlers} (hs : s.Sound) (hnone : s.bare = none)
    {h : ExceptHandler} (hh : HandlerSound h) {bare : Option Span}
    (hbare : bare = none → h.exception ≠ none) : Handlers.Sound ⟨s.handlers ++ [h], bare⟩ := by
  refine ⟨?_, ?_, fun hb => ?_⟩
  · exact List.forall_mem_append.mpr ⟨hs.handlers, List.forall_mem_singleton.mpr hh⟩
  · rw [List.dropLast_concat]
    exact hs.bare hnone
  · exact List.forall_mem_append.mpr ⟨hs.bare hnone, List.forall_mem_singleton.mpr (hbare hb)⟩

theorem reads_handler (he : Below expr b) (h : BelowStmt rule b) {s : Handlers} (hs : s.Sound)
    (hb : 32 * weight ts ≤ b) :
    Reads ts (handler expr rule s) fun r us =>
      r.1.Sound ∧ (r.2 = true → weight us < weight ts) := by
  refine .peek_bind (.ifEatWord (fun us hlt => ?_) (.pure ⟨hs, nofun⟩))
  split
  · exact .failAt nofun
  · next hnone =>
    refine .atOp_bind (.ite (fun _ => ?_) fun _ => ?_)
    · refine .bind (h.suite (by omega)) fun body vs _ hbody => .pure ⟨?_, fun _ => by omega⟩
      exact hs.add (h := ⟨none, none, body⟩) hnone
        ⟨nofun, nofun, hbody.2.1, hbody.2.2, fun _ => rfl⟩ nofun
    · refine .bind (he.later (by omega) nofun) fun exception vs _ hexception => ?_
      have hlt' := hexception.1
      refine .bind reads_asName fun name ws hle hname => ?_
      refine .bind (h.suite (by omega)) fun body xs _ hbody => .pure ⟨?_, fun _ => by omega⟩
      refine hs.add (h := ⟨some exception, name, body⟩) hnone
        ⟨?_, hname, hbody.2.1, hbody.2.2, nofun⟩ fun _ => nofun
      rintro _ ⟨⟩
      exact hexception.2

theorem reads_elseAfter (h : BelowStmt rule b) (hb : 32 * weight ts ≤ b)
    (handlers : List ExceptHandler) :
    Reads ts (elseAfter rule handlers) fun ss _ =>
      (handlers = [] → ss = []) ∧ ∀ s ∈ ss, DerivesStmt s := by
  refine .ite (fun _ => .pure ⟨fun _ => rfl, nofun⟩) fun hne => ?_
  refine .mono (reads_elseSuite h hb) fun ss _ _ hss => ⟨fun hnil => ?_, hss⟩
  rw [hnil] at hne
  exact absurd rfl hne

theorem reads_finalSuite (h : BelowStmt rule b) (hb : 32 * weight ts ≤ b) :
    Reads ts (finalSuite rule) fun ss _ => ∀ s ∈ ss, DerivesStmt s :=
  reads_suiteAfter "finally" h hb

theorem reads_tryBlock (he : Below expr b) (h : BelowStmt rule b) (hb : 32 * weight ts ≤ b) :
    Reads ts (tryBlock expr rule) (YieldsStmt ts) := by
  refine .expectWord_bind fun us hlt => .bind (h.suite (by omega)) fun body vs _ hbody => ?_
  have hlt' := hbody.1
  refine .bind (.iterate (I := Handlers.Sound) ⟨nofun, nofun, fun _ => nofun⟩ fun s ws hle hs =>
    reads_handler he h hs (by omega)) fun s ws hle hs => ?_
  refine .bind (reads_elseAfter h (by omega) _) fun orelse xs hle' horelse => ?_
  refine .bind (reads_finalSuite h (by omega)) fun finalbody ys hle'' hfinal => ?_
  refine .ite (fun _ => .unexpected) fun hsome => .pure ⟨by omega, ?_⟩
  refine .tryBlock hbody.2.1 hbody.2.2 (fun h hh => (hs.handlers h hh).exception)
    (fun h hh => (hs.handlers h hh).name) (fun h hh => (hs.handlers h hh).body_ne_nil)
    (fun h hh => (hs.handlers h hh).body) ⟨hs.dropLast, fun h hh => (hs.handlers h hh).bare⟩
    horelse.1 horelse.2 hfinal fun hnil hfinalNil => hsome ?_
  rw [hnil, hfinalNil]
  rfl

/-- What holds of an item of a `with`. -/
def IsWithItem (i : WithItem) : Prop :=
  Derives (.expr .test i.context) ∧
    ∀ t ∈ i.vars, ∃ e, Derives (.expr .bitOr e) ∧ Retargets .store e t

theorem reads_withItem (h : Below expr b) (hb : 32 * weight ts + 32 ≤ b) :
    Reads ts (withItem expr) fun i us => weight us < weight ts ∧ IsWithItem i := by
  refine .bind (h.later hb nofun) fun context us _ hcontext => ?_
  have hlt := hcontext.1
  refine .ifEatWord (fun vs hlt' => .peek_bind ?_) (.pure ⟨hlt, hcontext.2, nofun⟩)
  refine .bind (h.later (s := vs) (by omega) nofun) fun e ws _ he => ?_
  have hlt'' := he.1
  refine .ofExcept_bind (fueled_asTarget _ _ _) fun t ht => .pure ⟨by omega, hcontext.2, ?_⟩
  rintro _ ⟨⟩
  exact ⟨e, he.2, retargets_of_asTarget ht⟩

theorem reads_withBlock (he : Below expr b) (h : BelowStmt rule b) (hb : 32 * weight ts ≤ b)
    (isAsync : Bool) : Reads ts (withBlock expr rule isAsync) (YieldsStmt ts) := by
  refine .expectWord_bind fun us hlt => ?_
  refine .bind (.sepBy (P := IsWithItem) (fun _ => .eatOp) fun vs hle =>
    reads_withItem he (by omega)) fun items vs _ hitems => ?_
  have hlt' := hitems.2.1
  refine .bind (h.suite (by omega)) fun body ws _ hbody => .pure ⟨by have := hbody.1; omega, ?_⟩
  exact .withBlock hitems.1 (fun i hi => (hitems.2.2 i hi).1) (fun i hi => (hitems.2.2 i hi).2)
    hbody.2.1 hbody.2.2

theorem reads_functionDef (he : Below expr b) (h : BelowStmt rule b) (hb : 32 * weight ts ≤ b)
    {decorators : List Expr} (hd : ∀ e ∈ decorators, Derives (.trailed e)) (isAsync : Bool) :
    Reads ts (functionDef expr rule decorators isAsync) (YieldsStmt ts) := by
  refine .expectWord_bind fun us hlt => .bind .identifier fun name vs hle hname => ?_
  refine .expectOp_bind fun ws hlt' => ?_
  refine .bind (reads_parameters he (by omega)) fun args xs hle' hargs => ?_
  refine .expectOp_bind fun ys hlt'' => ?_
  refine .bind (.optionalOp (P := fun e => Derives (.expr .test e)) fun zs hlt₃ => ?_)
    fun returns zs hle'' hreturns => ?_
  · exact .mono (he.later (by omega) nofun) fun _ _ _ he => he.2
  · refine .bind (h.suite (by omega)) fun body us' _ hbody => .pure ⟨by have := hbody.1; omega, ?_⟩
    exact .functionDef hname.2 hargs hbody.2.1 hbody.2.2 hd hreturns.1

theorem reads_optionalArguments (h : Below expr b) (hb : 32 * weight ts ≤ b) :
    Reads ts (optionalArguments expr) fun o _ => ∀ a ∈ o, a.Sound := by
  refine .ifEatOp (fun us hlt => ?_) (.pure nofun)
  refine .bind (reads_arguments h (by omega)) fun a vs _ ha => .expectOp_bind fun _ _ => .pure ?_
  rintro _ ⟨⟩
  exact ha

theorem reads_classDef (he : Below expr b) (h : BelowStmt rule b) (hb : 32 * weight ts ≤ b)
    {decorators : List Expr} (hd : ∀ e ∈ decorators, Derives (.trailed e)) :
    Reads ts (classDef expr rule decorators) (YieldsStmt ts) := by
  refine .expectWord_bind fun us hlt => .bind .identifier fun name vs hle hname => ?_
  refine .bind (reads_optionalArguments he (by omega)) fun o ws hle' ho => ?_
  have ha : (o.getD ⟨[], []⟩).Sound := by
    cases o with
    | none => exact ⟨nofun, nofun⟩
    | some a => exact ho a rfl
  refine .bind (h.suite (by omega)) fun body xs _ hbody => .pure ⟨by have := hbody.1; omega, ?_⟩
  exact .classDef hname.2 ha.args ha.keywords hbody.2.1 hbody.2.2 hd

/-- Names with dots between them are an atom and its attributes. -/
theorem derives_attrs {e : Expr} (he : Derives (.trailed e)) {names : List String}
    (h : ∀ name ∈ names, IsIdentifier name) :
    Derives (.trailed (names.foldl (fun e name => .attr e name .load) e)) := by
  induction names generalizing e with
  | nil => exact he
  | cons name names ih =>
    rw [List.forall_mem_cons] at h
    exact ih (.attr he h.1) h.2

theorem reads_decorator (h : Below expr b) (hb : 32 * weight ts ≤ b) :
    Reads ts (decorator expr) fun e us => weight us < weight ts ∧ Derives (.trailed e) := by
  refine .bind .identifier fun first us _ hfirst => ?_
  have hlt := hfirst.1
  refine .bind (.many (P := IsIdentifier) fun vs hle => ?_) fun attrs vs hle hattrs => ?_
  · refine .optional .eatOp (fun ws _ hlt' => ?_) fun _ _ _ => nofun
    have hlt' := hlt' rfl
    refine .mono .identifier fun name xs _ hname => ?_
    rintro _ ⟨⟩
    exact ⟨by have := hname.1; omega, hname.2⟩
  · have he := derives_attrs (.atom (.name hfirst.2)) hattrs
    refine .bind (reads_optionalArguments h (by omega)) fun o ws hle' ho => ?_
    split
    · next a => exact .pure ⟨by omega, .call he (ho a rfl).args (ho a rfl).keywords⟩
    · exact .pure ⟨by omega, he⟩

theorem reads_decoratorLine (h : Below expr b) (hb : 32 * weight ts ≤ b) :
    Reads ts (decoratorLine expr) fun o us =>
      ∀ e ∈ o, weight us < weight ts ∧ Derives (.trailed e) := by
  refine .ifEatOp (fun us hlt => ?_) (.pure nofun)
  refine .bind (reads_decorator h (by omega)) fun e vs hle he => .expectNewline_bind fun ws hlt' => ?_
  refine .pure ?_
  rintro _ ⟨⟩
  exact ⟨by omega, he.2⟩

theorem reads_decorated (he : Below expr b) (h : BelowStmt rule b) (hb : 32 * weight ts ≤ b) :
    Reads ts (decorated expr rule) (YieldsStmt ts) := by
  refine .bind (.many (P := fun e => Derives (.trailed e)) fun us hle =>
    reads_decoratorLine he (by omega)) fun decorators us hle hd => .peek_bind ?_
  have hafter : ∀ {p : Parser Stmt} {vs : List Token}, weight vs ≤ weight ts →
      Reads vs p (YieldsStmt vs) → Reads vs p (YieldsStmt ts) :=
    fun hle hp => hp.mono fun s ws _ hs => ⟨by have := hs.1; omega, hs.2⟩
  refine .ite (fun _ => hafter hle (reads_functionDef he h (by omega) hd false)) fun _ => ?_
  refine .ite (fun _ => hafter hle (reads_classDef he h (by omega) hd)) fun _ => ?_
  refine .peekNext_bind ?_
  refine .ite (fun hw => ?_) fun _ => .unexpected
  rw [Bool.and_eq_true] at hw
  refine .advance_bind (Reads.not_endMarker_of_isWord _ hw.1) fun hlt => ?_
  exact hafter (by omega) (reads_functionDef he h (by omega) hd true)

theorem no_decorator : ∀ e ∈ ([] : List Expr), Derives (.trailed e) := nofun

theorem reads_asyncStatement (he : Below expr b) (h : BelowStmt rule b)
    (hb : 32 * weight ts ≤ b) : Reads ts (asyncStatement expr rule) (YieldsStmt ts) := by
  refine .expectWord_bind fun us hlt => .peek_bind ?_
  have hafter : ∀ {p : Parser Stmt}, Reads us p (YieldsStmt us) → Reads us p (YieldsStmt ts) :=
    fun hp => hp.mono fun s ws _ hs => ⟨by have := hs.1; omega, hs.2⟩
  refine .ite (fun _ => hafter (reads_functionDef he h (by omega) no_decorator true)) fun _ => ?_
  refine .ite (fun _ => hafter (reads_forLoop he h (by omega) true)) fun _ => ?_
  exact .ite (fun _ => hafter (reads_withBlock he h (by omega) true)) fun _ => .unexpected

theorem YieldsStmts.singleton {s : Stmt} {us : List Token} (h : YieldsStmt ts s us) :
    YieldsStmts ts [s] us := ⟨h.1, List.cons_ne_nil _ _, List.forall_mem_singleton.mpr h.2⟩

theorem reads_statement (he : Below expr b) (h : BelowStmt rule b)
    (hb : 32 * weight ts + StmtRule.statement.rank ≤ b) :
    Reads ts (statement expr rule) (YieldsStmts ts) := by
  have hone : ∀ {p : Parser Stmt}, Reads ts p (YieldsStmt ts) →
      Reads ts (do return [← p]) (YieldsStmts ts) :=
    fun hp => .bind hp fun s us _ hs => .pure (YieldsStmts.singleton hs)
  have hb' : 32 * weight ts ≤ b := by omega
  refine .peek_bind (.ite (fun _ => hone (reads_decorated he h hb')) fun _ => ?_)
  refine .ite (fun hk => ?_) fun _ => reads_simpleStatements he hb
  split
  · exact h .conditional ts hb fun _ => by rw [hk]; exact nofun
  · exact hone (reads_whileLoop he h hb')
  · exact hone (reads_forLoop he h hb' false)
  · exact hone (reads_tryBlock he h hb')
  · exact hone (reads_withBlock he h hb' false)
  · exact hone (reads_functionDef he h hb' no_decorator false)
  · exact hone (reads_classDef he h hb' no_decorator)
  · exact hone (reads_asyncStatement he h hb')
  · exact reads_simpleStatements he hb

theorem flatten_ne_nil {α : Type} {ass : List (List α)} (h : ass ≠ []) (hne : ∀ as ∈ ass, as ≠ []) :
    ass.flatten ≠ [] := by
  obtain ⟨as, rest, rfl⟩ := List.exists_cons_of_ne_nil h
  have := hne as List.mem_cons_self
  simp [this]

theorem reads_blockItem (h : BelowStmt rule b) (hb : 32 * weight ts + 22 ≤ b) :
    Reads ts (blockItem rule) fun o us =>
      ((current ts).kind.isContent = true → o ≠ none) ∧ ∀ ss ∈ o, YieldsStmts ts ss us := by
  refine .peek_bind ?_
  split
  · next hk =>
    refine .advance_bind (by rw [hk]; exact nofun) fun _ => .pure ⟨fun hc => ?_, nofun⟩
    rw [hk] at hc
    exact nomatch hc
  · next hk =>
    refine .pure ⟨fun hc => ?_, nofun⟩
    rw [hk] at hc
    exact nomatch hc
  · refine .bind (h .statement ts hb nofun) fun ss us _ hss => .pure ⟨fun _ => nofun, ?_⟩
    rintro _ ⟨⟩
    exact hss

/-- A block that begins with a token with text has a statement. -/
theorem reads_block (h : BelowStmt rule b) (hb : 32 * weight ts + 22 ≤ b)
    (hc : (current ts).kind.isContent = true) :
    Reads ts (do return (← many (blockItem rule)).flatten) (YieldsStmts ts) := by
  refine .bind (.many_ne_nil (P := fun ss => ss ≠ [] ∧ ∀ s ∈ ss, DerivesStmt s) ?_ fun us hle => ?_)
    fun sss us _ hsss => .pure ⟨hsss.2.1, flatten_ne_nil hsss.1 fun ss hss => (hsss.2.2 ss hss).1, ?_⟩
  · exact .mono (reads_blockItem h hb) fun o _ _ ho => ho.1 hc
  · exact .mono (reads_blockItem h (by omega)) fun o vs _ ho => ho.2
  · intro s hs
    obtain ⟨ss, hss, hs⟩ := List.mem_flatten.mp hs
    exact (hsss.2.2 ss hss).2 s hs

theorem reads_suite (he : Below expr b) (h : BelowStmt rule b) (hb : 32 * weight ts ≤ b) :
    Reads ts (suite expr rule) (YieldsStmts ts) := by
  have hafter : ∀ {p : Parser (List Stmt)} {us : List Token}, weight us < weight ts →
      Reads us p (YieldsStmts us) → Reads us p (YieldsStmts ts) :=
    fun hlt hp => hp.mono fun s ws _ hs => ⟨by have := hs.1; omega, hs.2⟩
  have hkind : ∀ (k : TokenKind), k ≠ .endMarker → ∀ t : Token, (t.kind == k) = true →
      t.kind ≠ .endMarker := by
    intro k hk t ht
    rwa [beq_iff_eq.mp ht]
  refine .expectOp_bind fun us hlt => .ifEatIf (hkind _ nofun) (fun _ hlt' => ?_) fun _ => ?_
  · refine .of_readable fun hr => .ifEatIf (hkind _ nofun) (fun hindent hlt'' => ?_)
      fun _ => .fail nofun
    have hc := hr.isContent_of_indent (beq_iff_eq.mp hindent)
    exact hafter (by omega) (.nested nofun (reads_block h (by omega) hc))
  · exact hafter hlt (reads_simpleStatements he (by omega))

/-! ## All rules -/

theorem reads_bodyStmt (he : Below expr b) (h : BelowStmt rule b) {r : StmtRule}
    (hb : 32 * weight ts + r.rank ≤ b) (hr : r = .conditional → (current ts).kind ≠ .endMarker) :
    Reads ts (StmtRule.body expr rule r) (YieldsStmts ts) := by
  cases r with
  | statement => exact reads_statement he h hb
  | suite => exact reads_suite he h hb
  | conditional =>
    exact .bind (reads_conditional he h hb (hr rfl)) fun s us _ hs => .pure (YieldsStmts.singleton hs)

theorem belowStmt_run (spell : List Char → List Char) (fuel : Nat) :
    BelowStmt (StmtRule.run spell fuel) fuel := by
  induction fuel with
  | zero => exact fun _ _ h => absurd h (Nat.not_lt_zero _)
  | succ fuel ih =>
    exact fun r ts hlt hr => reads_bodyStmt (below_run fuel) ih (Nat.le_of_lt_succ hlt) hr

/-! ## Programs -/

theorem reads_fileItem (h : BelowStmt rule b) (hb : 32 * weight ts + 22 ≤ b) :
    Reads ts (fileItem rule) fun o us =>
      ∀ ss ∈ o, weight us < weight ts ∧ ∀ s ∈ ss, DerivesStmt s := by
  refine .peek_bind ?_
  split
  · exact .pure nofun
  · next hk =>
    refine .advance_bind (by rw [hk]; exact nofun) fun hlt => .pure ?_
    rintro _ ⟨⟩
    exact ⟨hlt, nofun⟩
  · refine .bind (h .statement ts hb nofun) fun ss us _ hss => .pure ?_
    rintro _ ⟨⟩
    exact ⟨hss.1, hss.2.2⟩

theorem reads_file (h : BelowStmt rule b) (hb : 32 * weight ts + 22 ≤ b) :
    Reads ts (file rule) fun m _ => ∀ s ∈ m.body, DerivesStmt s := by
  refine .bind (.many fun us hle => reads_fileItem h (by omega)) fun sss us _ hsss => .pure ?_
  intro s hs
  obtain ⟨ss, hss, hs⟩ := List.mem_flatten.mp hs
  exact hsss ss hss s hs

theorem parseFuel_eq (ts : List Token) : parseFuel ts = 32 * (weight ts + 1) := by
  have hfold : ∀ n, ts.foldl (fun n t => n + max 1 t.text.length) n = n + weight ts := by
    induction ts with
    | nil => exact fun n => rfl
    | cons t ts ih =>
      intro n
      rw [List.foldl_cons, ih, weight_cons, Token.weight, Nat.add_assoc]
  rw [parseFuel, hfold]
  omega

end Parser

open PythonSyntax.Parser

/-- A program is what its tokens are read as. -/
theorem parseSpelled_eq (spell : List Char → List Char) (source : List Char) (maxNesting : Nat) :
    parseSpelled spell source maxNesting = tokenize source maxNesting >>= fun ts =>
      (outcome (file (StmtRule.run spell (parseFuel ts))) ⟨maxNesting, 0⟩ ts).map Prod.fst :=
  bind_congr fun ts => exec_start (file (StmtRule.run spell (parseFuel ts))) maxNesting ts

/-- Every statement of a program is derived, and no program is refused for want of fuel. -/
theorem parseSpelled_spec (spell : List Char → List Char) (source : List Char) (maxNesting : Nat) :
    Fueled (parseSpelled spell source maxNesting) ∧
      ∀ m, parseSpelled spell source maxNesting = .ok m → ∀ s ∈ m.body, DerivesStmt s := by
  rw [parseSpelled_eq]
  cases ht : tokenize source maxNesting with
  | error e =>
    refine ⟨fun e' h => ?_, fun _ h => nomatch h⟩
    cases h
    exact fueled_run ⟨.file, maxNesting, 0⟩ .start (lexemes source) e ht
  | ok ts =>
    have hfuel : 32 * weight ts + 22 ≤ parseFuel ts := by
      rw [parseFuel_eq]
      omega
    have hfile := (reads_file (belowStmt_run spell (parseFuel ts)) hfuel).outcome
      (readable_of_tokenize ht) ⟨maxNesting, 0⟩
    show Fueled ((outcome _ _ ts).map Prod.fst) ∧ ∀ m, (outcome _ _ ts).map Prod.fst = .ok m → _
    cases ho : outcome (file (StmtRule.run spell (parseFuel ts))) ⟨maxNesting, 0⟩ ts with
    | error e =>
      rw [ho] at hfile
      refine ⟨fun e' h => ?_, fun _ h => nomatch h⟩
      cases h
      exact hfile
    | ok r =>
      rw [ho] at hfile
      refine ⟨.ok, fun m h => ?_⟩
      cases h
      exact hfile.2.2

end PythonSyntax
