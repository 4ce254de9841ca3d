import PythonSyntax.Proofs.Parser.Start
import PythonSyntax.Proofs.Suite.Grammar

/-
Lists of statements.

Statements with semicolons between them are read by the loop for a line, and statements on lines of
their own by the loops for blocks and programs.  These stop at different tokens, but all of them read
the same list.
-/

namespace PythonSyntax

open PythonSyntax.Parser Filter

variable {spell : List Char → List Char} {fuel limit : Nat} {n : Nesting} {P : Token → Prop}
  {expr : Rule → Parser Expr} {rule : StmtRule → Parser (List Stmt)} {z ts us rest tail : List Token}
  {t stop newline : Token} {s : Stmt} {ss : List Stmt}

/-! ## What begins a block -/

/-- The words that begin a statement with blocks. -/
def blockWords : List String := ["if", "while", "for", "try", "with", "def", "class", "async"]

/-- A token that begins a statement with blocks. -/
inductive OpensBlock (t : Token) : Prop where
  | decorator : t.isOp "@" = true → OpensBlock t
  | word : t.kind = .name → t.text ∈ blockWords → OpensBlock t

/-- No simple statement begins like one with blocks. -/
theorem OpensBlock.stuck (h : OpensBlock t) (fuel : Nat) :
    Stuck (At t) (smallStatement (Rule.run spell fuel)) := by
  have ht : ∀ n ts, At t n ts → current ts = t := fun _ _ h => h
  have hwords : ∀ word ∈ blockWords, word ≠ "yield" ∧
      (!isKeyword word || startingWords.contains word) = false := by decide
  have hbegins : beginsExpression t = false ∧ t.isWord "yield" = false := by
    rw [beginsExpression, Token.isWord]
    cases h with
    | decorator hop =>
      obtain ⟨hkind, htext⟩ := Likeness.kind_text_of_isOp hop
      rw [hkind, htext]
      decide
    | word hkind hmem =>
      obtain ⟨hyield, hstart⟩ := hwords _ hmem
      rw [hkind]
      exact ⟨hstart, beq_false_of_ne hyield⟩
  have hexpr : Stuck (At t) (exprStatement (Rule.run spell fuel)) :=
    (Sees.peek ht).bind <| Stuck.bind
      ((Sees.atWord ht hbegins.2).bind (stuck_run hbegins.1 fuel rfl)) _
  refine (Sees.peek ht).bind ?_
  split
  · next hname =>
    cases h with
    | decorator hop => cases hname.symm.trans (Likeness.kind_text_of_isOp hop).1
    | word _ hmem =>
      split
      case h_12 => exact hexpr
      all_goals
        next heq => rw [heq] at hmem; exact absurd hmem (by decide)
  · exact hexpr

/-- Where no block is opened a statement is a line of simple ones. -/
theorem statement_of_not_opensBlock (h : ¬ OpensBlock (current ts)) :
    outcome (statement expr rule) n ts = outcome (simpleStatements expr) n ts := by
  rw [statement, outcome_peek_bind, if_neg fun hop => h (.decorator hop)]
  split
  · next hname =>
    split
    case h_9 => rfl
    all_goals
      next heq => exact absurd (.word hname (by rw [heq]; decide)) h
  · rfl

/-! ## Statements in a stream -/

/-- Tokens that are read as a simple statement wherever the nesting leaves `limit` levels. -/
structure TakenAs (limit : Nat) (ts : List Token) (s : Stmt) : Prop where
  begins : (current ts).kind.isContent = true
  takes : ∀ n stop tail, limit + n.depth ≤ n.limit → EndsSimple stop → tail ≠ [] →
    ∀ᶠ fuel in atTop, outcome (smallStatement (Rule.run id fuel)) n (ts ++ stop :: tail) =
      .ok (s, stop :: tail)

theorem TakenAs.current_append (h : TakenAs limit ts s) (us : List Token) :
    current (ts ++ us) = current ts := by
  cases ts with
  | nil => cases h.begins
  | cons t ts => rfl

theorem TakenAs.not_opensBlock (h : TakenAs limit ts s) : ¬ OpensBlock (current ts) := by
  intro hopens
  let last : Token := ⟨.newline, "", ⟨0, 0⟩⟩
  obtain ⟨fuel, hfuel⟩ := (h.takes ⟨limit, 0⟩ last [last] (Nat.le_refl _)
    (.line ⟨rfl, by decide⟩) (List.cons_ne_nil _ _)).exists
  obtain ⟨e, he⟩ := hopens.stuck fuel ⟨limit, 0⟩ _ (h.current_append (last :: [last]))
  rw [hfuel] at he
  cases he

/-- The tokens of some statements, with one token between each two, of which `P` holds. -/
inductive Statements (limit : Nat) (P : Token → Prop) : List Token → List Stmt → Prop where
  | one {as x} : TakenAs limit as x → Statements limit P as [x]
  | cons {as sep bs x xs} : TakenAs limit as x → P sep → Statements limit P bs xs →
      Statements limit P (as ++ sep :: bs) (x :: xs)

theorem Statements.first (h : Statements limit P ts ss) :
    ∃ us s, TakenAs limit us s ∧ ∀ z, current (ts ++ z) = current us := by
  cases h with
  | one h => exact ⟨_, _, h, h.current_append⟩
  | cons h => exact ⟨_, _, h, fun z => by rw [List.append_assoc]; exact h.current_append _⟩

theorem Statements.isContent (h : Statements limit P ts ss) (z : List Token) :
    (current (ts ++ z)).kind.isContent = true := by
  obtain ⟨us, s, hfirst, hcurrent⟩ := h.first
  rw [hcurrent]
  exact hfirst.begins

/-! ## Lines -/

/-- A further statement of a line, after a semicolon. -/
def furtherItem (expr : Rule → Parser Expr) : Parser (Option Stmt) := do
  if ← eatOp ";" then
    if ← atKind .newline then return none else return some (← smallStatement expr)
  else return none

theorem furtherItem_end (h : newline.kind = .newline) :
    outcome (furtherItem expr) n (newline :: tail) = .ok (none, newline :: tail) := by
  refine (ifEatOp_neg ?_).trans (outcome_pure _)
  show (newline.kind == .op && _) = false
  rw [h]
  rfl

theorem furtherItem_last (hsemi : t.isOp ";" = true) (h : newline.kind = .newline) :
    outcome (furtherItem expr) n (t :: newline :: tail) = .ok (none, newline :: tail) := by
  refine (ifEatOp_pos (show (current (t :: newline :: tail)).isOp ";" = true from hsemi)).trans ?_
  show outcome (if (newline.kind == .newline) = true then _ else _) n (newline :: tail) = _
  rw [if_pos (by rw [h]; rfl)]
  rfl

theorem furtherItem_next (hsemi : t.isOp ";" = true) (hts : (current ts).kind.isContent = true)
    (h : outcome (smallStatement expr) n ts = .ok (s, us)) :
    outcome (furtherItem expr) n (t :: ts) = .ok (some s, us) := by
  have hne : ts ≠ [] := by
    rintro rfl
    cases hts
  refine (ifEatOp_pos (show (current (t :: ts)).isOp ";" = true from hsemi)).trans ?_
  rw [dropCurrent_cons hne]
  show outcome (if ((current ts).kind == .newline) = true then _ else _) n ts = _
  rw [if_neg, outcome_bind_of h]
  · rfl
  · intro hk
    rw [beq_iff_eq.mp hk] at hts
    cases hts

/-- Statements with semicolons between them are taken one after another, up to where nothing further
comes. -/
theorem Statements.items (h : Statements limit (fun t => t.isOp ";" = true) ts ss)
    (hn : limit + n.depth ≤ n.limit) (hstop : EndsSimple stop) (htail : tail ≠ [])
    (hend : ∀ expr, outcome (furtherItem expr) n (stop :: tail) = .ok (none, rest)) :
    ∃ s ss', ss = s :: ss' ∧ ∀ᶠ fuel in atTop, ∃ us,
      outcome (smallStatement (Rule.run id fuel)) n (ts ++ stop :: tail) = .ok (s, us) ∧
        us.length ≤ (ts ++ stop :: tail).length ∧
        Items (furtherItem (Rule.run id fuel)) n us ss' rest := by
  induction h with
  | @one ts s h =>
    refine ⟨s, [], rfl, (h.takes n stop tail hn hstop htail).mono fun fuel hfuel => ?_⟩
    exact ⟨stop :: tail, hfuel, by simp, .done (hend _)⟩
  | @cons ts t us s ss h ht hss ih =>
    obtain ⟨s', ss', rfl, hitems⟩ := ih
    have hsemi : EndsSimple t := .semicolon ht
    have hfirst := h.takes n t (us ++ stop :: tail) hn hsemi (by simp)
    refine ⟨s, s' :: ss', rfl, (hfirst.and hitems).mono ?_⟩
    rintro fuel ⟨hfuel, vs, hvs, hlength, hrest⟩
    refine ⟨t :: (us ++ stop :: tail), by rw [List.append_assoc]; exact hfuel, by simp, ?_⟩
    exact .more (furtherItem_next ht (hss.isContent _) hvs) (Nat.lt_succ_of_le hlength) hrest

/-- How the line of some statements ends: perhaps with a further semicolon. -/
inductive LineEnd (newline : Token) (tail : List Token) : List Token → Prop where
  | plain : LineEnd newline tail (newline :: tail)
  | semicolon {sep : Token} : sep.isOp ";" = true → LineEnd newline tail (sep :: newline :: tail)

theorem LineEnd.length_lt (h : LineEnd newline tail z) (ts : List Token) :
    tail.length < (ts ++ z).length := by
  rw [List.length_append]
  cases h with
  | plain =>
    rw [List.length_cons]
    omega
  | semicolon =>
    rw [List.length_cons, List.length_cons]
    omega

/-- A line of statements is read to their list. -/
theorem Statements.line (h : Statements limit (fun t => t.isOp ";" = true) ts ss)
    (hn : limit + n.depth ≤ n.limit) (hnewline : EndsLine newline) (htail : tail ≠ [])
    (hz : LineEnd newline tail z) :
    ∀ᶠ fuel in atTop, outcome (simpleStatements (Rule.run id fuel)) n (ts ++ z) = .ok (ss, tail) := by
  obtain ⟨stop, later, rfl, hstop, hlater, hend⟩ : ∃ stop later, z = stop :: later ∧
      EndsSimple stop ∧ later ≠ [] ∧ ∀ expr, outcome (furtherItem expr) n (stop :: later) =
        .ok (none, newline :: tail) := by
    cases hz with
    | plain => exact ⟨_, _, rfl, .line hnewline, htail, fun _ => furtherItem_end hnewline.kind⟩
    | semicolon ht =>
      exact ⟨_, _, rfl, .semicolon ht, List.cons_ne_nil _ _,
        fun _ => furtherItem_last ht hnewline.kind⟩
  obtain ⟨s, ss', rfl, hitems⟩ := h.items hn hstop hlater hend
  refine hitems.mono ?_
  rintro fuel ⟨us, hfirst, -, hrest⟩
  have hexpect : outcome expectNewline n (newline :: tail) = .ok ((), tail) := by
    have hk : ((current (newline :: tail)).kind == .newline) = true := beq_iff_eq.mpr hnewline.kind
    rw [expectNewline, outcome_bind, outcome_expect, if_pos hk, dropCurrent_cons htail]
    rfl
  rw [simpleStatements, outcome_bind_of hfirst]
  show outcome (many (furtherItem (Rule.run id fuel)) >>= _) n us = _
  rw [outcome_bind_of hrest.many, outcome_bind_of hexpect]
  rfl

/-- A line of statements is a statement of a block or a program. -/
theorem Statements.statement (h : Statements limit (fun t => t.isOp ";" = true) ts ss)
    (hn : limit + n.depth ≤ n.limit) (hnewline : EndsLine newline) (htail : tail ≠ [])
    (hz : LineEnd newline tail z) :
    ∀ᶠ fuel in atTop, outcome (StmtRule.run id fuel .statement) n (ts ++ z) = .ok (ss, tail) := by
  obtain ⟨us, s, hfirst, hcurrent⟩ := h.first
  have hopens : ¬ OpensBlock (current (ts ++ z)) := by
    rw [hcurrent]
    exact hfirst.not_opensBlock
  refine StmtRule.eventually_of_body ((h.line hn hnewline htail hz).mono fun fuel hfuel => ?_)
  exact (statement_of_not_opensBlock hopens).trans hfuel

/-! ## Blocks and programs -/

/-- The statement items of a block or a program. -/
def ReadsStatements (item : (StmtRule → Parser (List Stmt)) → Parser (Option (List Stmt))) : Prop :=
  ∀ rule n ts, (current ts).kind.isContent = true →
    outcome (item rule) n ts = outcome (do return some (← rule .statement)) n ts

theorem readsStatements_fileItem : ReadsStatements fileItem := fun _ _ _ => fileItem_statement

theorem readsStatements_blockItem : ReadsStatements blockItem := by
  intro rule n ts h
  rw [blockItem, outcome_peek_bind]
  split
  · next heq => rw [heq] at h; cases h
  · next heq => rw [heq] at h; cases h
  · rfl

/-- Statements on lines of their own are taken one after another. -/
theorem Statements.lines {item : (StmtRule → Parser (List Stmt)) → Parser (Option (List Stmt))}
    (h : Statements limit EndsLine ts ss) (hitem : ReadsStatements item)
    (hn : limit + n.depth ≤ n.limit) (hnewline : EndsLine newline) (htail : tail ≠ [])
    (hdone : ∀ rule, outcome (item rule) n tail = .ok (none, rest)) :
    ∀ᶠ fuel in atTop, Items (item (StmtRule.run id fuel)) n (ts ++ newline :: tail)
      (ss.map fun s => [s]) rest := by
  have htaken : ∀ {us s sep later}, TakenAs limit us s → EndsLine sep → later ≠ [] →
      ∀ᶠ fuel in atTop, outcome (item (StmtRule.run id fuel)) n (us ++ sep :: later) =
        .ok (some [s], later) := by
    intro us s sep later htaken hsep hlater
    have hone : Statements limit (fun t => t.isOp ";" = true) us [s] := .one htaken
    refine (hone.statement hn hsep hlater .plain).mono fun fuel hfuel => ?_
    rw [hitem _ n _ (hone.isContent _), outcome_bind_of hfuel]
    rfl
  have hlength : ∀ us (sep : Token) later, later.length < (us ++ sep :: later).length := by
    intro us sep later
    rw [List.length_append, List.length_cons]
    omega
  induction h with
  | one h =>
    refine (htaken h hnewline htail).mono fun fuel hfuel => ?_
    exact .more hfuel (hlength _ _ _) (.done (hdone _))
  | @cons as sep bs x xs h hsep _ ih =>
    have hne : bs ++ newline :: tail ≠ [] := by simp
    refine ((htaken h hsep hne).and ih).mono ?_
    rintro fuel ⟨hfuel, hrest⟩
    rw [List.append_assoc]
    exact .more hfuel (hlength _ _ _) hrest

theorem flatten_singletons (ss : List Stmt) : (ss.map fun s => [s]).flatten = ss := by
  induction ss with
  | nil => rfl
  | cons s ss ih => simpa using ih

/-- The end of a program is no statement. -/
theorem fileItem_end {eof : Token} (h : eof.kind = .endMarker) :
    outcome (fileItem rule) n [eof] = .ok (none, [eof]) := by
  rw [fileItem, outcome_peek_bind, show (current [eof]).kind = .endMarker from h]
  rfl

/-- A program of statements on lines of their own. -/
theorem Statements.file_lines {eof : Token} (h : Statements limit EndsLine ts ss)
    (hn : limit + n.depth ≤ n.limit) (hnewline : EndsLine newline) (heof : eof.kind = .endMarker) :
    ∀ᶠ fuel in atTop, outcome (file (StmtRule.run id fuel)) n (ts ++ [newline, eof]) =
      .ok (⟨ss⟩, [eof]) := by
  refine (h.lines readsStatements_fileItem hn hnewline (List.cons_ne_nil _ _)
    fun _ => fileItem_end heof).mono fun fuel hfuel => ?_
  rw [file, outcome_bind_of hfuel.many, flatten_singletons]
  rfl

/-- A program that is one statement, or one line of them. -/
theorem file_statement {eof : Token} (hts : (current ts).kind.isContent = true)
    (heof : eof.kind = .endMarker) (hlength : 1 < ts.length)
    (h : ∀ᶠ fuel in atTop, outcome (StmtRule.run spell fuel .statement) n ts = .ok (ss, [eof])) :
    ∀ᶠ fuel in atTop, outcome (file (StmtRule.run spell fuel)) n ts = .ok (⟨ss⟩, [eof]) := by
  refine h.mono fun fuel hfuel => ?_
  have hitem : outcome (fileItem (StmtRule.run spell fuel)) n ts = .ok (some ss, [eof]) := by
    rw [fileItem_statement hts, outcome_bind_of hfuel]
    rfl
  have hitems : Items (fileItem (StmtRule.run spell fuel)) n ts [ss] [eof] :=
    .more hitem hlength (.done (fileItem_end heof))
  rw [file, outcome_bind_of hitems.many]
  simp

/-! ## Suites -/

/-- A suite on the line of its colon. -/
theorem Statements.suite_line {colon : Token} (h : Statements limit (fun t => t.isOp ";" = true) ts ss)
    (hn : limit + n.depth ≤ n.limit) (hcolon : colon.isOp ":" = true)
    (hnewline : EndsLine newline) (htail : tail ≠ []) (hz : LineEnd newline tail z) :
    ∀ᶠ fuel in atTop, outcome (StmtRule.run id fuel .suite) n (colon :: (ts ++ z)) =
      .ok (ss, tail) := by
  refine StmtRule.eventually_of_body ((h.line hn hnewline htail hz).mono fun fuel hfuel => ?_)
  have hcontent := h.isContent z
  have hne : ts ++ z ≠ [] := by
    intro hnil
    rw [hnil] at hcontent
    cases hcontent
  have hexpect : outcome (expectOp ":") n (colon :: (ts ++ z)) = .ok ((), ts ++ z) := by
    rw [outcome_expectOp (show (current (colon :: (ts ++ z))).isOp ":" = true from hcolon),
      dropCurrent_cons hne]
  have hline : outcome (eatIf (·.kind == .newline)) n (ts ++ z) = .ok (false, ts ++ z) := by
    rw [outcome_eatIf, if_neg]
    intro hk
    rw [beq_iff_eq.mp hk] at hcontent
    cases hcontent
  show outcome (suite (Rule.run id fuel) _) n _ = _
  rw [suite, outcome_bind_of hexpect, outcome_bind_of hline, if_neg Bool.false_ne_true, hfuel]

/-- The end of a block is no statement. -/
theorem blockItem_end {dedent : Token} (h : dedent.kind = .dedent) (htail : tail ≠ []) :
    outcome (blockItem rule) n (dedent :: tail) = .ok (none, tail) := by
  rw [blockItem, outcome_peek_bind, show (current (dedent :: tail)).kind = .dedent from h]
  show outcome (advance >>= _) n _ = _
  rw [outcome_bind_of outcome_advance, dropCurrent_cons htail]
  rfl

/-- A suite of indented lines, which stands one level deeper. -/
theorem Statements.suite_block {colon first indent dedent : Token} (h : Statements limit EndsLine ts ss)
    (hn : limit + n.depth < n.limit) (hcolon : colon.isOp ":" = true) (hfirst : first.kind = .newline)
    (hindent : indent.kind = .indent) (hnewline : EndsLine newline) (hdedent : dedent.kind = .dedent)
    (htail : tail ≠ []) :
    ∀ᶠ fuel in atTop, outcome (StmtRule.run id fuel .suite) n
      (colon :: first :: indent :: (ts ++ newline :: dedent :: tail)) = .ok (ss, tail) := by
  have hdeeper : limit + (⟨n.limit, n.depth + 1⟩ : Nesting).depth ≤ n.limit := hn
  refine StmtRule.eventually_of_body ((h.lines readsStatements_blockItem hdeeper hnewline
    (List.cons_ne_nil _ _) fun _ => blockItem_end hdedent htail).mono fun fuel hfuel => ?_)
  have hexpect : ∀ us, outcome (expectOp ":") n (colon :: first :: us) = .ok ((), first :: us) :=
    fun us => outcome_expectOp (show (current (colon :: first :: us)).isOp ":" = true from hcolon)
  have hline : ∀ us, outcome (eatIf (·.kind == .newline)) n (first :: indent :: us) =
      .ok (true, indent :: us) := by
    intro us
    rw [outcome_eatIf, if_pos (show (current (first :: indent :: us)).kind == .newline from
      beq_iff_eq.mpr hfirst)]
    rfl
  have hblock : ∀ us, us ≠ [] → outcome (eatIf (·.kind == .indent)) n (indent :: us) =
      .ok (true, us) := by
    intro us hus
    rw [outcome_eatIf, if_pos (show (current (indent :: us)).kind == .indent from
      beq_iff_eq.mpr hindent), dropCurrent_cons hus]
  show outcome (suite _ (StmtRule.run id fuel)) n _ = _
  rw [suite, outcome_bind_of (hexpect _), outcome_bind_of (hline _), if_pos rfl,
    outcome_bind_of (hblock _ (by simp)), if_pos rfl, outcome_deeper _ (by omega),
    outcome_bind_of hfuel.many, flatten_singletons]
  rfl

/-- A name is a condition. -/
theorem Rule.takes_condition {name colon : Token} {text : String} (hname : name.word = ⟨.name, text⟩)
    (hkeyword : isKeyword text = false) (hcolon : colon.isOp ":" = true) :
    Rule.Takes spell .named n (name :: colon :: tail) (.name (normalizeIdentifier text) .load)
      (colon :: tail) := by
  have hatom : Rule.Takes spell .atom n (name :: colon :: tail) (.name (normalizeIdentifier text) .load)
      (colon :: tail) := .name hname hkeyword (List.cons_ne_nil _ _)
  have hword : colon.word = .op ":" := Token.isOp_iff.mp hcolon
  refine Rule.Takes.named (hatom.loosen (by decide) (Nat.zero_le _) ?_ ?_) ?_
  · show Rule.Begins .atom name.word
    rw [hname]
    exact .name hkeyword
  · show Rule.Ends .test colon.word
    rw [hword]
    decide
  · exact Token.isOp_of_word hword (by decide)

/-- A condition on a name with one suite, at the end of a program. -/
theorem statement_condition {word name eof : Token} {text : String} (hif : word.isWord "if" = true)
    (hname : name.word = ⟨.name, text⟩) (hkeyword : isKeyword text = false)
    (hcolon : t.isOp ":" = true) (heof : eof.kind = .endMarker)
    (h : ∀ᶠ fuel in atTop, outcome (StmtRule.run spell fuel .suite) n (t :: tail) = .ok (ss, [eof])) :
    ∀ᶠ fuel in atTop, outcome (StmtRule.run spell fuel .statement) n (word :: name :: t :: tail) =
      .ok ([.ifElse (.name (normalizeIdentifier text) .load) ss []], [eof]) := by
  have hnoWord : ∀ word, (current [eof]).isWord word = false := fun word => by
    show (eof.kind == .name && _) = false
    rw [heof]
    rfl
  have hconditional : ∀ᶠ fuel in atTop, outcome (StmtRule.run spell fuel .conditional) n
      (word :: name :: t :: tail) =
        .ok ([.ifElse (.name (normalizeIdentifier text) .load) ss []], [eof]) := by
    have htest : Rule.Takes spell .named n (name :: t :: tail) (.name (normalizeIdentifier text) .load)
        (t :: tail) := Rule.takes_condition hname hkeyword hcolon
    refine StmtRule.eventually_of_body ((htest.and h).mono ?_)
    rintro fuel ⟨hcondition, hsuite⟩
    have hnone : outcome (elifOrElse (StmtRule.run spell fuel)) n [eof] = .ok ([], [eof]) := by
      rw [elifOrElse, ifAtWord_neg (hnoWord _), elseSuite, ifEatWord_neg (hnoWord _)]
      rfl
    show outcome (do return [← conditional (Rule.run spell fuel) (StmtRule.run spell fuel)]) n _ = _
    have hvalue : outcome (conditional (Rule.run spell fuel) (StmtRule.run spell fuel)) n
        (word :: name :: t :: tail) =
          .ok (.ifElse (.name (normalizeIdentifier text) .load) ss [], [eof]) := by
      have hadvance : outcome advance n (word :: name :: t :: tail) = .ok (word, name :: t :: tail) := rfl
      rw [conditional, outcome_bind_of hadvance, outcome_bind_of hcondition, outcome_bind_of hsuite,
        outcome_bind_of hnone]
      rfl
    rw [outcome_bind_of hvalue]
    rfl
  refine StmtRule.eventually_of_body (hconditional.mono fun fuel hfuel => ?_)
  rw [Token.isWord, Bool.and_eq_true, beq_iff_eq, beq_iff_eq] at hif
  have hkind : (current (word :: name :: t :: tail)).kind = .name := hif.1
  have htext : (current (word :: name :: t :: tail)).text = "if" := hif.2
  have hop : (current (word :: name :: t :: tail)).isOp "@" = false := by
    rw [Token.isOp, hkind]
    rfl
  show outcome (statement _ _) n _ = _
  rw [statement, outcome_peek_bind, hop, if_neg Bool.false_ne_true, if_pos hkind]
  simp only [htext]
  exact hfuel

end PythonSyntax
