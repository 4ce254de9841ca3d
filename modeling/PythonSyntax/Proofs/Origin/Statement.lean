import PythonSyntax.Proofs.Origin.Primary

/-
Statements whose names come from tokens.

What a statement binds is read by `identifier` as what an expression reads is, so the trees of statements
are shown by the streams of the program too; `ensures_file` says so of whole programs.
-/

namespace PythonSyntax

open PythonSyntax.Parser PythonSyntax.Parser.Likeness Node

variable {root ts us : List Token} {spell : List Char → List Char} {expr : Rule → Parser Expr}
  {rule : StmtRule → Parser (List Stmt)}

/-- A statement is shown. -/
abbrev StmtShown (root : List Token) (s : Stmt) : Prop := Shown root (.stmt s)

/-- All statements of a block are shown. -/
abbrev BlockShown (root : List Token) (ss : List Stmt) : Prop := ∀ s ∈ ss, Shown root (.stmt s)

/-- Two blocks of a statement. -/
theorem forall_blocks {P : Role × Node → Prop} {ss ss' : List Stmt}
    (h : ∀ s ∈ ss, P (.value, stmt s)) (h' : ∀ s ∈ ss', P (.value, stmt s)) :
    ∀ p ∈ block ss ++ block ss', P p :=
  List.forall_mem_append.mpr ⟨forall_block.mpr h, forall_block.mpr h'⟩

/-- The rules yield blocks that are shown. -/
def BlocksShow (root : List Token) (rule : StmtRule → Parser (List Stmt)) : Prop :=
  ∀ r ts, Ensures root ts (rule r) fun ss _ => BlockShown root ss

/-! ## Imports and names -/

theorem ensures_nameList : Ensures root ts nameList fun names _ => ∀ n ∈ names, IsSpelled root n :=
  (Ensures.sepBy (P := IsSpelled root) Ensures.identifier (fun _ _ h => h) fun _ =>
    Ensures.identifier).mono fun _ _ h => h.1

theorem ensures_dottedName : Ensures root ts dottedName fun name _ => IsDotted root name :=
  (Ensures.sepBy (P := IsSpelled root) Ensures.identifier (fun _ _ h => h) fun _ =>
    Ensures.identifier).bind fun parts _ h => .pure ⟨parts, h.2.1, h.1, rfl⟩

theorem ensures_asName : Ensures root ts asName fun name? _ => ∀ n ∈ name?, IsSpelled root n :=
  (Ensures.optional fun _ => Ensures.identifier).mono fun _ _ h => h.1

/-- A module that is imported, under a name of its own or another one. -/
def ImportShown (root : List Token) (a : Alias) : Prop :=
  IsDotted root a.name ∧ ∀ n ∈ a.asName, IsSpelled root n

theorem shown_importing {names : List Alias} (h : ∀ a ∈ names, ImportShown root a) :
    StmtShown root (.importing names) := by
  refine shown_intro ⟨fun s hs => ?_, List.forall_mem_map.mpr fun a ha => (h a ha).1, nofun⟩ nofun
  obtain ⟨a, ha, hs⟩ := List.mem_flatMap.mp hs
  exact (h a ha).2 s (Option.mem_toList.mp hs)

theorem ensures_importing : Ensures root ts importing fun s _ => StmtShown root s := by
  have himport : ∀ us, Ensures root us (do return (⟨← dottedName, ← asName⟩ : Alias)) fun a _ =>
      ImportShown root a := fun us =>
    ensures_dottedName.bind fun name vs hname => ensures_asName.bind fun name? ws has => .pure ⟨hname, has⟩
  refine .expectWord_bind ((Ensures.sepBy (P := ImportShown root) (himport _) (fun _ _ h => h)
    himport).bind fun names us hnames => .pure ?_)
  exact shown_importing hnames.1

/-- A name that is imported from a module. -/
def AliasShown (root : List Token) (a : Alias) : Prop :=
  IsSpelled root a.name ∧ ∀ n ∈ a.asName, IsSpelled root n

theorem ensures_importAlias : Ensures root ts importAlias fun a _ => AliasShown root a :=
  Ensures.identifier.bind fun _ _ hname => ensures_asName.bind fun _ _ has => .pure ⟨hname, has⟩

theorem ensures_importRest (inParens : Bool) :
    Ensures root ts (importRest inParens) fun o _ => ∀ a ∈ o, AliasShown root a := by
  refine .ifEatIf (fun _ => .atOp_bind (.ite (fun _ => .pure nofun) fun _ => ?_)) fun _ => .pure nofun
  refine .atKind_bind (.ite (fun _ => .fail) fun _ => ensures_importAlias.bind fun a us ha => .pure ?_)
  rintro _ ⟨⟩
  exact ha

theorem ensures_aliasList (inParens : Bool) :
    Ensures root ts (aliasList inParens) fun names _ => ∀ a ∈ names, AliasShown root a :=
  ensures_importAlias.bind fun _ _ hfirst =>
    (Ensures.many (P := AliasShown root) fun _ => ensures_importRest inParens).bind fun _ _ hrest =>
      .pure (List.forall_mem_cons.mpr ⟨hfirst, hrest⟩)

/-- A star stands for names that the program does not spell. -/
theorem ensures_importedNames : Ensures root ts importedNames fun names _ =>
    ∀ a ∈ names, a = ⟨"*", none⟩ ∨ AliasShown root a := by
  refine .ifEatIf (fun _ => .pure (List.forall_mem_singleton.mpr (.inl rfl))) fun _ =>
    .ifEatIf (fun _ => (ensures_aliasList true).bind fun names us hnames => .expectOp_bind fun _ => ?_)
      fun _ => (ensures_aliasList false).mono fun names us hnames a ha => .inr (hnames a ha)
  exact .pure fun a ha => .inr (hnames a ha)

theorem shown_importFrom {module? : Option String} {names : List Alias} {level : Nat}
    (hmodule : ∀ m ∈ module?, IsDotted root m) (h : ∀ a ∈ names, a = ⟨"*", none⟩ ∨ AliasShown root a) :
    StmtShown root (.importFrom module? names level) := by
  refine shown_intro ⟨fun s hs => ?_, fun m hm => hmodule m (Option.mem_toList.mp hm), nofun⟩ nofun
  obtain ⟨a, ha, hs⟩ := List.mem_flatMap.mp hs
  obtain ⟨ha, hstar⟩ := List.mem_filter.mp ha
  have ha := (h a ha).resolve_left fun heq => by simp [heq] at hstar
  rcases List.mem_cons.mp hs with rfl | hs
  · exact ha.1
  · exact ha.2 s (Option.mem_toList.mp hs)

theorem ensures_importFrom : Ensures root ts importFrom fun s _ => StmtShown root s := by
  have hdots : ∀ us, Ensures root us dots fun o _ => ∀ n ∈ o, True := fun _ =>
    .ifEatIf (fun _ => .pure fun _ _ => trivial) fun _ => .ifEatIf (fun _ => .pure fun _ _ => trivial)
      fun _ => .pure nofun
  have hmodule : ∀ level us, Ensures root us (importedModule level) fun module? _ =>
      ∀ m ∈ module?, IsDotted root m := by
    intro level us
    refine .atWord_bind (.ite (fun _ => .pure nofun) fun _ => ensures_dottedName.bind fun m vs hm => .pure ?_)
    rintro _ ⟨⟩
    exact hm
  refine .expectWord_bind ((Ensures.many hdots).bind fun levels us _ =>
    (hmodule _ us).bind fun module? vs hm => .expectWord_bind ?_)
  exact ensures_importedNames.bind fun names ws hnames => .pure (shown_importFrom hm hnames)

namespace RulesShow

variable (h : RulesShow root expr)
include h

/-! ## Assignments -/

theorem annotated {target : Expr} (htarget : Shown root (.expr target)) (start : Token) :
    Ensures root ts (annotated expr target start) fun s _ => StmtShown root s := by
  refine .expectOp_bind fun _ => ?_
  split
  · exact .failAt
  refine .ofExcept_bind fun t ht => (h.tree rfl _).bind fun note us hnote => ?_
  refine (Ensures.optional fun _ => h.yieldOr rfl).bind fun value vs hvalue => .pure (shown_of_parts rfl ?_)
  refine List.forall_mem_cons.mpr ⟨shown_of_asTarget ht htarget, List.forall_mem_cons.mpr ⟨hnote, ?_⟩⟩
  exact forall_exprs.mpr fun e he => hvalue.1 e (Option.mem_toList.mp he)

theorem augmented {target : Expr} (htarget : Shown root (.expr target)) (op : Operator) (start : Token) :
    Ensures root ts (augmented expr target op start) fun s _ => StmtShown root s := by
  refine .advance_bind (.ite (fun _ => .ofExcept_bind fun t ht => ?_) fun _ => .failAt)
  refine (h.yieldOr rfl).bind fun value us hvalue => .pure (shown_of_parts rfl ?_)
  exact List.forall_mem_cons.mpr ⟨shown_of_asTarget ht htarget, List.forall_mem_singleton.mpr hvalue⟩

omit h in
theorem shown_assignment {first : Expr × Span} {rest : List (Expr × Span)} {s : Stmt}
    (hfirst : Shown root (.expr first.1)) (hrest : ∀ r ∈ rest, Shown root (.expr r.1))
    (hs : assignment first rest = .ok s) : StmtShown root s := by
  obtain ⟨targets, htargets, hs⟩ := bind_ok hs
  cases hs
  refine shown_of_parts rfl (List.forall_mem_cons.mpr ⟨?_, forall_exprs.mpr ?_⟩)
  · cases hlast : rest.getLast? with
    | none => exact hfirst
    | some r => exact hrest r (List.mem_of_getLast? hlast)
  · refine shown_targets htargets fun r hr t ht => shown_of_asTarget ht ?_
    rcases List.mem_cons.mp hr with rfl | hr
    · exact hfirst
    · exact hrest r ((List.dropLast_sublist rest).subset hr)

theorem exprStatement : Ensures root ts (exprStatement expr) fun s _ => StmtShown root s := by
  have hassigned : ∀ us, Ensures root us (assigned expr) fun o _ =>
      ∀ r ∈ o, Shown root (.expr r.1) := by
    refine fun us => .ifEatIf (fun _ => .peek_bind ((h.yieldOr rfl).bind fun e vs he => .pure ?_))
      fun _ => .pure nofun
    rintro _ ⟨⟩
    exact he
  refine .peek_bind ((h.yieldOr rfl).bind fun first us hfirst => .atOp_bind (.ite (fun _ => ?_) fun _ => ?_))
  · exact h.annotated hfirst _
  refine .peek_bind ?_
  split
  · exact h.augmented hfirst _ _
  refine (Ensures.many hassigned).bind fun rest vs hrest => ?_
  split
  · exact .pure (shown_of_parts rfl (List.forall_mem_singleton.mpr hfirst))
  · exact .ofExcept fun s hs => shown_assignment hfirst hrest hs

/-! ## Simple statements -/

/-- An expression that may be missing. -/
theorem testIf {f : Token → Bool} {item : Rule} (hitem : isWhole item = true) :
    Ensures root ts (optional (do return f (← peek)) (expr item)) fun o _ => ∀ e ∈ o, Shown root (.expr e) :=
  (Ensures.optionalLook fun _ => h.tree hitem _).mono fun _ _ ho => ho.1

theorem raising : Ensures root ts (raising expr) fun s _ => StmtShown root s := by
  refine .expectWord_bind (.startsExpression_bind (.ite (fun _ => ?_) fun _ => .pure ?_))
  case refine_2 => exact shown_of_parts rfl nofun
  refine (h.tree rfl _).bind fun exc us hexc => h.testAfter.bind fun cause vs hcause => .pure ?_
  refine shown_of_parts rfl (List.forall_mem_append.mpr ⟨forall_exprs.mpr ?_, forall_exprs.mpr ?_⟩)
  · exact List.forall_mem_singleton.mpr hexc
  · exact fun e he => hcause e (Option.mem_toList.mp he)

theorem deleting : Ensures root ts (deleting expr) fun s _ => StmtShown root s := by
  refine .expectWord_bind (.peek_bind ((h.listItems rfl).bind fun items us hitems => ?_))
  refine .ofExcept_bind fun targets htargets => .pure (shown_of_parts rfl (forall_exprs.mpr ?_))
  exact shown_targets htargets fun e he t ht => shown_of_asTarget ht (hitems.1 e he)

theorem asserting : Ensures root ts (asserting expr) fun s _ => StmtShown root s := by
  refine .expectWord_bind ((h.tree rfl _).bind fun condition us hcondition =>
    h.testAfter.bind fun msg vs hmsg => .pure (shown_of_parts rfl ?_))
  refine List.forall_mem_cons.mpr ⟨hcondition, forall_exprs.mpr fun e he => ?_⟩
  exact hmsg e (Option.mem_toList.mp he)

theorem returning : Ensures root ts (returning expr) fun s _ => StmtShown root s :=
  .expectWord_bind ((h.testIf rfl).bind fun _ _ hvalue => .pure (shown_of_parts rfl
    (forall_exprs.mpr fun e he => hvalue e (Option.mem_toList.mp he))))

theorem smallStatement : Ensures root ts (smallStatement expr) fun s _ => StmtShown root s := by
  have hword : ∀ s : Stmt, (stmt s).parts = [] → (stmt s).isClear = true →
      Ensures root ts (oneWord s) fun s _ => StmtShown root s := fun s hparts hclear =>
    .advance_bind (.pure (shown_of_parts hclear (by rw [hparts]; nofun)))
  refine .peek_bind (.ite (fun _ => ?_) fun _ => h.exprStatement)
  split
  · exact hword _ rfl rfl
  · exact hword _ rfl rfl
  · exact hword _ rfl rfl
  · exact h.returning
  · exact h.raising
  · exact .advance_bind (ensures_nameList.bind fun names us hnames =>
      .pure (shown_of_names rfl rfl hnames nofun))
  · exact .advance_bind (ensures_nameList.bind fun names us hnames =>
      .pure (shown_of_names rfl rfl hnames nofun))
  · exact h.deleting
  · exact h.asserting
  · exact ensures_importing
  · exact ensures_importFrom
  · exact h.exprStatement

theorem simpleStatements :
    Ensures root ts (simpleStatements expr) fun ss _ => BlockShown root ss := by
  have hrest : ∀ us, Ensures root us (do
      if ← eatOp ";" then
        if ← atKind .newline then return none else return some (← Parser.smallStatement expr)
      else return none) fun o _ => ∀ s ∈ o, StmtShown root s := by
    refine fun us => .ifEatIf (fun _ => .atKind_bind (.ite (fun _ => .pure nofun) fun _ =>
      h.smallStatement.bind fun s vs hs => .pure ?_)) fun _ => .pure nofun
    rintro _ ⟨⟩
    exact hs
  refine h.smallStatement.bind fun first us hfirst => (Ensures.many hrest).bind fun rest vs hrest => ?_
  exact .expectNewline_bind (.pure (List.forall_mem_cons.mpr ⟨hfirst, hrest⟩))

/-! ## Compound statements -/

variable (hrule : BlocksShow root rule)
include hrule

omit h in
theorem elseSuite : Ensures root ts (elseSuite rule) fun ss _ => BlockShown root ss :=
  .ifEatIf (fun _ => hrule _ _) fun _ => .pure nofun

theorem conditional : Ensures root ts (conditional expr rule) fun s _ => StmtShown root s := by
  have helse : ∀ us, Ensures root us (elifOrElse rule) fun ss _ => BlockShown root ss := fun us =>
    .atWord_bind (.ite (fun _ => hrule _ _) fun _ => elseSuite hrule)
  refine .advance_bind ((h.tree rfl _).bind fun condition us hcondition =>
    (hrule _ _).bind fun body vs hbody => (helse vs).bind fun orelse ws horelse => .pure ?_)
  exact shown_of_parts rfl (List.forall_mem_cons.mpr ⟨hcondition, forall_blocks hbody horelse⟩)

theorem whileLoop : Ensures root ts (whileLoop expr rule) fun s _ => StmtShown root s := by
  refine .expectWord_bind ((h.tree rfl _).bind fun condition us hcondition =>
    (hrule _ _).bind fun body vs hbody => (elseSuite hrule).bind fun orelse ws horelse => .pure ?_)
  exact shown_of_parts rfl (List.forall_mem_cons.mpr ⟨hcondition, forall_blocks hbody horelse⟩)

theorem forLoop (isAsync : Bool) :
    Ensures root ts (forLoop expr rule isAsync) fun s _ => StmtShown root s := by
  refine .expectWord_bind (.peek_bind ((h.tree rfl _).bind fun e us he =>
    .ofExcept_bind fun target htarget => .expectWord_bind ?_))
  refine (h.tree rfl _).bind fun iter vs hiter => (hrule _ _).bind fun body ws hbody =>
    (elseSuite hrule).bind fun orelse xs horelse => .pure (shown_of_parts rfl ?_)
  exact List.forall_mem_cons.mpr ⟨shown_of_asTarget htarget he,
    List.forall_mem_cons.mpr ⟨hiter, forall_blocks hbody horelse⟩⟩

theorem handler (s : Handlers) (hs : ∀ x ∈ s.handlers, Shown root (.handler x)) :
    Ensures root ts (handler expr rule s) fun r _ => ∀ x ∈ r.1.handlers, Shown root (.handler x) := by
  have hadd : ∀ {exception : Option Expr} {name : Option String} {body : List Stmt},
      (∀ e ∈ exception, Shown root (.expr e)) → (∀ n ∈ name, IsSpelled root n) → BlockShown root body →
        ∀ x ∈ s.handlers ++ [⟨exception, name, body⟩], Shown root (.handler x) := by
    intro exception name body hexception hname hbody
    refine List.forall_mem_append.mpr ⟨hs, List.forall_mem_singleton.mpr (shown_of_names rfl rfl ?_ ?_)⟩
    · exact fun n hn => hname n (Option.mem_toList.mp hn)
    · exact List.forall_mem_append.mpr ⟨forall_exprs.mpr fun e he =>
        hexception e (Option.mem_toList.mp he), forall_block.mpr hbody⟩
  refine .peek_bind (.ifEatIf (fun _ => ?_) fun _ => .pure hs)
  split
  · exact .failAt
  refine .atOp_bind (.ite (fun _ => (hrule _ _).bind fun body us hbody => .pure ?_) fun _ => ?_)
  · exact hadd nofun nofun hbody
  refine (h.tree rfl _).bind fun exception us hexception => ensures_asName.bind fun name vs hname =>
    (hrule _ _).bind fun body ws hbody => .pure (hadd ?_ hname hbody)
  rintro _ ⟨⟩
  exact hexception

theorem tryBlock : Ensures root ts (tryBlock expr rule) fun s _ => StmtShown root s := by
  have hafter : ∀ handlers us, Ensures root us (elseAfter rule handlers) fun ss _ => BlockShown root ss :=
    fun handlers us => .ite (fun _ => .pure nofun) fun _ => elseSuite hrule
  have hfinal : ∀ us, Ensures root us (finalSuite rule) fun ss _ => BlockShown root ss := fun us =>
    .ifEatIf (fun _ => hrule _ _) fun _ => .pure nofun
  refine .expectWord_bind ((hrule _ _).bind fun body us hbody => (Ensures.iterate
    (I := fun s _ => ∀ x ∈ s.handlers, Shown root (.handler x)) (List.forall_mem_nil _) fun s vs hs =>
      h.handler hrule s hs).bind fun s vs hs => ?_)
  refine (hafter _ vs).bind fun orelse ws horelse => (hfinal ws).bind fun final xs hfinal =>
    .ite (fun _ => .unexpected) fun _ => .pure (shown_of_parts rfl ?_)
  refine List.forall_mem_append.mpr ⟨List.forall_mem_append.mpr ⟨List.forall_mem_append.mpr ⟨?_, ?_⟩, ?_⟩, ?_⟩
  · exact forall_block.mpr hbody
  · exact List.forall_mem_map.mpr hs
  · exact forall_block.mpr horelse
  · exact forall_block.mpr hfinal

omit hrule in
theorem withItem : Ensures root ts (withItem expr) fun i _ => Shown root (.withItem i) := by
  refine (h.tree rfl _).bind fun context us hcontext => .ifEatIf (fun _ => .peek_bind ?_) fun _ => ?_
  · refine (h.tree rfl _).bind fun e vs he => .ofExcept_bind fun target htarget => .pure (shown_of_parts rfl ?_)
    exact List.forall_mem_cons.mpr ⟨hcontext, forall_exprs.mpr
      (List.forall_mem_singleton.mpr (shown_of_asTarget htarget he))⟩
  · exact .pure (shown_of_parts rfl (List.forall_mem_cons.mpr ⟨hcontext, nofun⟩))

theorem withBlock (isAsync : Bool) :
    Ensures root ts (withBlock expr rule isAsync) fun s _ => StmtShown root s := by
  refine .expectWord_bind ((Ensures.sepBy (P := fun i => Shown root (.withItem i)) h.withItem
    (fun _ _ hi => hi) fun _ => h.withItem).bind fun items us hitems =>
      (hrule _ _).bind fun body vs hbody => .pure (shown_of_parts rfl ?_))
  exact List.forall_mem_append.mpr ⟨List.forall_mem_map.mpr hitems.1, forall_block.mpr hbody⟩

/-! ## Definitions -/

variable {decorators : List Expr} (hdecorators : ∀ e ∈ decorators, Shown root (.expr e))

include hdecorators in
theorem functionDef (isAsync : Bool) :
    Ensures root ts (functionDef expr rule decorators isAsync) fun s _ => StmtShown root s := by
  refine .expectWord_bind (Ensures.identifier.bind fun name us hname => .expectOp_bind fun _ =>
    (h.parameters ")" true).bind fun args vs hargs => .expectOp_bind fun _ => ?_)
  refine h.testAfter.bind fun returns ws hreturns => (hrule _ _).bind fun body xs hbody => .pure ?_
  refine shown_of_names rfl rfl (List.forall_mem_singleton.mpr hname) (List.forall_mem_cons.mpr ⟨hargs, ?_⟩)
  refine List.forall_mem_append.mpr ⟨List.forall_mem_append.mpr ⟨?_, ?_⟩, forall_block.mpr hbody⟩
  · exact forall_exprs.mpr hdecorators
  · exact forall_exprs.mpr fun e he => hreturns e (Option.mem_toList.mp he)

omit hrule in
theorem optionalArguments :
    Ensures root ts (optionalArguments expr) fun o _ => ∀ a ∈ o, CallShown root a := by
  refine .of_ahead fun hts => .ifEatIf (fun hop => ?_) fun _ => .pure nofun
  refine (h.arguments (hts.behind (Token.opens_of_isOp hop rfl))).bind fun a us ha =>
    .expectOp_bind fun _ => .pure ?_
  rintro _ ⟨⟩
  exact ha

include hdecorators in
theorem classDef :
    Ensures root ts (classDef expr rule decorators) fun s _ => StmtShown root s := by
  refine .expectWord_bind (Ensures.identifier.bind fun name us hname => h.optionalArguments.bind
    fun a? vs ha => (hrule _ _).bind fun body ws hbody => .pure ?_)
  have ha : CallShown root (a?.getD ⟨[], []⟩) := by
    cases a? with
    | none => exact .nil
    | some a => exact ha a rfl
  refine shown_of_names rfl rfl (List.forall_mem_singleton.mpr hname) (List.forall_mem_append.mpr
    ⟨List.forall_mem_append.mpr ⟨List.forall_mem_append.mpr ⟨?_, ?_⟩, ?_⟩, forall_block.mpr hbody⟩)
  · exact forall_exprs.mpr ha.args
  · exact List.forall_mem_map.mpr ha.keywords
  · exact forall_exprs.mpr hdecorators

omit hrule in
theorem decorator : Ensures root ts (decorator expr) fun e _ => Shown root (.expr e) := by
  refine Ensures.identifier.bind fun first us hfirst => (Ensures.many (P := IsSpelled root) fun vs =>
    (Ensures.optional fun _ => Ensures.identifier).mono fun _ _ ho => ho.1).bind fun attrs vs hattrs => ?_
  have he : Shown root (.expr (attrs.foldl (fun e name => .attr e name .load) (Expr.load first))) :=
    shown_foldl (fun name hname e he => shown_attr he (hattrs name hname)) (shown_name hfirst)
  refine h.optionalArguments.bind fun a? ws ha => ?_
  split
  · exact .pure ((ha _ rfl).call he)
  · exact .pure he

theorem decorated : Ensures root ts (decorated expr rule) fun s _ => StmtShown root s := by
  have hline : ∀ us, Ensures root us (decoratorLine expr) fun o _ => ∀ e ∈ o, Shown root (.expr e) := by
    refine fun us => .ifEatIf (fun _ => h.decorator.bind fun e vs he => .expectNewline_bind (.pure ?_))
      fun _ => .pure nofun
    rintro _ ⟨⟩
    exact he
  refine (Ensures.many hline).bind fun decorators us hdecorators => .peek_bind ?_
  refine .ite (fun _ => h.functionDef hrule hdecorators false) fun _ =>
    .ite (fun _ => h.classDef hrule hdecorators) fun _ => .peekNext_bind fun next => ?_
  exact .ite (fun _ => .advance_bind (h.functionDef hrule hdecorators true)) fun _ => .unexpected

theorem asyncStatement : Ensures root ts (asyncStatement expr rule) fun s _ => StmtShown root s :=
  .expectWord_bind (.peek_bind (.ite (fun _ => h.functionDef hrule (List.forall_mem_nil _) true) fun _ =>
    .ite (fun _ => h.forLoop hrule true) fun _ => .ite (fun _ => h.withBlock hrule true) fun _ => .unexpected))

/-! ## Blocks -/

theorem statement : Ensures root ts (statement expr rule) fun ss _ => BlockShown root ss := by
  have hone : ∀ {p : Parser Stmt}, Ensures root ts p (fun s _ => StmtShown root s) →
      Ensures root ts (do return [← p]) fun ss _ => BlockShown root ss :=
    fun hp => hp.bind fun s us hs => .pure (List.forall_mem_singleton.mpr hs)
  refine .peek_bind (.ite (fun _ => hone (h.decorated hrule)) fun _ => .ite (fun _ => ?_) fun _ =>
    h.simpleStatements)
  split
  · exact hrule _ _
  · exact hone (h.whileLoop hrule)
  · exact hone (h.forLoop hrule false)
  · exact hone (h.tryBlock hrule)
  · exact hone (h.withBlock hrule false)
  · exact hone (h.functionDef hrule (List.forall_mem_nil _) false)
  · exact hone (h.classDef hrule (List.forall_mem_nil _))
  · exact hone (h.asyncStatement hrule)
  · exact h.simpleStatements

omit h hrule in
theorem blockShown_flatten {sss : List (List Stmt)} (h : ∀ ss ∈ sss, BlockShown root ss) :
    BlockShown root sss.flatten := by
  intro s hs
  obtain ⟨ss, hss, hs⟩ := List.mem_flatten.mp hs
  exact h ss hss s hs

theorem suite : Ensures root ts (suite expr rule) fun ss _ => BlockShown root ss := by
  have hitem : ∀ us, Ensures root us (blockItem rule) fun o _ => ∀ ss ∈ o, BlockShown root ss := by
    intro us
    refine .peek_bind ?_
    split
    · exact .advance_bind (.pure nofun)
    · exact .pure nofun
    · refine (hrule _ _).bind fun ss vs hss => .pure ?_
      rintro _ ⟨⟩
      exact hss
  refine .expectOp_bind fun _ => .ifEatIf (fun _ => .ifEatIf (fun _ => .nested ?_) fun _ => .fail) fun _ =>
    h.simpleStatements
  exact (Ensures.many hitem).bind fun sss us hsss => .pure (blockShown_flatten hsss)

end RulesShow

/-- All rules for statements yield blocks of the streams of a program. -/
theorem blocksShow_run (fuel : Nat) : BlocksShow root (StmtRule.run spell fuel) := by
  induction fuel with
  | zero => exact fun _ _ => .fail
  | succ fuel ih =>
    have hexpr : RulesShow root (Rule.run spell fuel) := rulesShow_run fuel
    intro r ts
    cases r with
    | statement => exact hexpr.statement ih
    | suite => exact hexpr.suite ih
    | conditional =>
      exact (hexpr.conditional ih).bind fun s us hs => .pure (List.forall_mem_singleton.mpr hs)

theorem ensures_file (fuel : Nat) :
    Ensures root ts (file (StmtRule.run spell fuel)) fun m _ => Shown root (.module m) := by
  have hitem : ∀ us, Ensures root us (fileItem (StmtRule.run spell fuel)) fun o _ =>
      ∀ ss ∈ o, BlockShown root ss := by
    intro us
    refine .peek_bind ?_
    split
    · exact .pure nofun
    · refine .advance_bind (.pure ?_)
      rintro _ ⟨⟩
      exact nofun
    · refine (blocksShow_run fuel _ _).bind fun ss vs hss => .pure ?_
      rintro _ ⟨⟩
      exact hss
  refine (Ensures.many hitem).bind fun sss us hsss => .pure (shown_of_parts rfl ?_)
  exact forall_block.mpr (RulesShow.blockShown_flatten hsss)

end PythonSyntax
