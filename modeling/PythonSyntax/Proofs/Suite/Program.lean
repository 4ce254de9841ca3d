import PythonSyntax.Proofs.Suite.Layout

/-
All ways to write a suite agree.

Simple statements may stand on lines of their own or on one line with semicolons between them, and
behind a colon on its line or in a block of any width.  All of these programs hold the same list of
statements, if the limit leaves one level more than the statements need.
-/

namespace PythonSyntax

open PythonSyntax.Lexeme PythonSyntax.Layout PythonSyntax.Parser Filter

variable {limit n w : Nat} {texts : List (List Char)} {stmts : List Stmt} {ending sep z : List Char}
  {gap : List Lexeme} {b s : Layout} {indents : List Nat} {marks : List TokenKind} {P : Token → Prop}

/-- Texts on lines of their own. -/
def onLines (texts : List (List Char)) : List Char := ['\n'].intercalate texts

/-- Texts on one line with semicolons between them, and perhaps one behind the last. -/
def onOneLine (texts : List (List Char)) (final : Bool) : List Char :=
  [';', ' '].intercalate texts ++ if final then [';'] else []

/-- Texts with spaces before each of them. -/
def indented (w : Nat) (texts : List (List Char)) : List (List Char) :=
  texts.map (List.replicate w ' ' ++ ·)

/-- The head of a condition. -/
def conditionHead : List Char := ['i', 'f', ' ', 'c', ':']

/-- The condition with a suite. -/
def conditionOn (stmts : List Stmt) : Module := ⟨[.ifElse (.name "c" .load) stmts []]⟩

/-! ## Texts -/

theorem separator_semicolon : Separator [';', ' '] (⟨.op, [';']⟩ :: marginPieces [' ']) :=
  separator_of_front (by decide) (fun _ => rfl) (by simp [isBlank])

theorem separator_lineBreak (w : Nat) :
    Separator ('\n' :: List.replicate w ' ') (⟨.lineBreak, ['\n']⟩ :: marginPieces (List.replicate w ' ')) :=
  separator_of_front (by decide) (fun _ => front?_of_lineBreak rfl) fun d hd => by
    rw [List.eq_of_mem_replicate hd]
    decide

/-- Lines that are indented alike have their margin behind each line break. -/
theorem onLines_indented (hne : texts ≠ []) : onLines (indented w texts) =
    List.replicate w ' ' ++ ('\n' :: List.replicate w ' ').intercalate texts := by
  unfold onLines indented
  induction texts with
  | nil => exact absurd rfl hne
  | cons text texts ih =>
    cases texts with
    | nil => simp
    | cons next texts =>
      rw [List.map_cons] at ih
      rw [List.map_cons, List.map_cons, List.intercalate_cons_cons, ih (by simp),
        List.intercalate_cons_cons]
      simp

theorem spaced_conditionHead : Spaced conditionHead := by
  have hlexemes : lexemes conditionHead =
      [⟨.name, ['i', 'f']⟩, ⟨.blank, [' ']⟩, ⟨.name, ['c']⟩, ⟨.op, [':']⟩] := by decide +kernel
  refine ⟨?_, ⟨_, _, hlexemes, rfl⟩, ?_⟩ <;> rw [hlexemes]
  · decide
  · decide

theorem lexemes_conditionHead {c : Char} (hc : c ∈ seals) (r : List Char) :
    lexemes (conditionHead ++ c :: r) = lexemes conditionHead ++ lexemes (c :: r) := by
  refine spaced_conditionHead.lexemes_append fun d hd => ?_
  cases hd
  exact hc

/-! ## Tokens -/

theorem head_of_ending (h : ending = [] ∨ ending = ['\n']) : ∀ c ∈ ending.head?, c ∈ seals := by
  rcases h with rfl | rfl <;> simp [seals]

theorem spaced_of_alone (h : List.Forall₂ (Alone limit) texts stmts) : ∀ text ∈ texts, Spaced text := by
  induction h with
  | nil => nofun
  | cons htext _ ih => exact List.forall_mem_cons.mpr ⟨htext.spaced, ih⟩

/-- A program that ends in statements with separators between them. -/
theorem run_statements (hsep : Separator sep gap) (hgap : Parts n indents P gap) (hle : limit ≤ n)
    (h : List.Forall₂ (Alone limit) texts stmts) (hne : texts ≠ []) (hb : Before n marks indents b)
    (hz : ∀ c ∈ z.head?, c ∈ seals) :
    ∃ ms us b', ms.map Token.kind = marks ∧ Statements limit P us stmts ∧ Behind indents b' ∧
      ∀ rest, run ⟨.file, n, 0⟩ b' (lexemes z) = .ok rest →
        run ⟨.file, n, 0⟩ b (lexemes (sep.intercalate texts ++ z)) = .ok (ms ++ (us ++ rest)) := by
  obtain ⟨ms, us, b', hsteps, hms, hbehind, hstatements⟩ := steps_intercalate hgap hle h hne hb
  refine ⟨ms, us, b', hms, hstatements, hbehind, fun rest hrest => ?_⟩
  rw [hsep.lexemes_intercalate (spaced_of_alone h) hz, run_of_steps hsteps hrest, List.append_assoc]

/-- The end of a line of statements. -/
theorem run_lineEnd (hs : Behind [0] s) (hending : ending = [] ∨ ending = ['\n']) (final : Bool) :
    ∃ ts newline eof, run ⟨.file, n, 0⟩ s (lexemes ((if final then [';'] else []) ++ ending)) = .ok ts ∧
      LineEnd newline [eof] ts ∧ EndsLine newline ∧ eof.kind = .endMarker := by
  cases final with
  | false =>
    obtain ⟨newline, eof, _, hrun, hnewline, heof⟩ := run_ending hs hending
    exact ⟨_, newline, eof, hrun, .plain, hnewline, heof⟩
  | true =>
    obtain ⟨x, indents, brackets, atLineStart, width⟩ := s
    obtain ⟨rfl, rfl, rfl⟩ := hs
    let semicolon : Token := ⟨.op, ";", ⟨0 + x, 0 + (x + byteLength [';'])⟩⟩
    let s' : Layout := ⟨x + byteLength [';'], [0], [], false, width⟩
    have hstep : steps ⟨.file, n, 0⟩ ⟨x, [0], [], false, width⟩ [⟨.op, [';']⟩] = .ok ([semicolon], s') := rfl
    have hbehind : Behind [0] s' := ⟨rfl, rfl, rfl⟩
    obtain ⟨newline, eof, _, hrun, hnewline, heof⟩ := run_ending hbehind hending
    have hsplit : lexemes ([';'] ++ ending) = [⟨.op, [';']⟩] ++ lexemes ending :=
      lexemes_of_front (show front? (';' :: ending) = some (.op, 1) from rfl)
    have hsemi : semicolon.isOp ";" = true := rfl
    refine ⟨_, newline, eof, ?_, .semicolon hsemi, hnewline, heof⟩
    rw [if_pos rfl, hsplit]
    exact run_of_steps hstep hrun

/-- The tokens of a line of statements in a program. -/
theorem run_onOneLine (hle : limit ≤ n) (h : List.Forall₂ (Alone limit) texts stmts) (hne : texts ≠ [])
    (hb : Before n [] [0] b) (hending : ending = [] ∨ ending = ['\n']) (final : Bool) :
    ∃ us ts newline eof, run ⟨.file, n, 0⟩ b (lexemes (onOneLine texts final ++ ending)) = .ok (us ++ ts) ∧
      Statements limit (fun t => t.isOp ";" = true) us stmts ∧ LineEnd newline [eof] ts ∧
      EndsLine newline ∧ eof.kind = .endMarker := by
  have hz : ∀ c ∈ ((if final then [';'] else []) ++ ending).head?, c ∈ seals := by
    cases final with
    | false => exact head_of_ending hending
    | true =>
      intro c hc
      cases hc
      decide
  obtain ⟨ms, us, b', hms, hus, hbehind, hrun⟩ := run_statements separator_semicolon
    (parts_semicolon n [0]) hle h hne hb hz
  obtain rfl := List.map_eq_nil_iff.mp hms
  obtain ⟨ts, newline, eof, hend, hts, hnewline, heof⟩ := run_lineEnd hbehind hending final
  refine ⟨us, ts, newline, eof, ?_, hus, hts, hnewline, heof⟩
  rw [onOneLine, List.append_assoc]
  exact hrun _ hend

/-- The tokens of lines of statements that are as wide as each other. -/
theorem run_indented (hle : limit ≤ n) (h : List.Forall₂ (Alone limit) texts stmts) (hne : texts ≠ [])
    {ws : List Nat} (hb : Before n marks (w :: ws) b) (hending : ending = [] ∨ ending = ['\n']) :
    ∃ ms us newline eof here, ms.map Token.kind = marks ∧
      run ⟨.file, n, 0⟩ b (lexemes (('\n' :: List.replicate w ' ').intercalate texts ++ ending)) =
        .ok (ms ++ (us ++ newline :: (List.replicate ws.length ⟨.dedent, "", here⟩ ++ [eof]))) ∧
      Statements limit EndsLine us stmts ∧ EndsLine newline ∧ eof.kind = .endMarker := by
  obtain ⟨ms, us, b', hms, hus, hbehind, hrun⟩ := run_statements (separator_lineBreak w)
    (parts_lineBreak n w ws) hle h hne hb (head_of_ending hending)
  obtain ⟨newline, eof, here, hend, hnewline, heof⟩ := run_ending hbehind hending
  exact ⟨ms, us, newline, eof, here, hms, hrun _ hend, hus, hnewline, heof⟩

/-- The tokens of the head of a condition. -/
theorem steps_conditionHead (n : Nat) : ∃ word name colon s,
    steps ⟨.file, n, 0⟩ start (lexemes conditionHead) = .ok ([word, name, colon], s) ∧
      word.isWord "if" = true ∧ name.word = ⟨.name, "c"⟩ ∧ colon.isOp ":" = true ∧ Behind [0] s := by
  have hlexemes : lexemes conditionHead =
      [⟨.name, ['i', 'f']⟩, ⟨.blank, [' ']⟩, ⟨.name, ['c']⟩, ⟨.op, [':']⟩] := by decide +kernel
  rw [hlexemes]
  exact ⟨_, _, _, _, rfl, rfl, rfl, rfl, rfl, rfl, rfl⟩

/-! ## Programs -/

/-- A program that is the condition. -/
theorem file_condition {word name colon eof : Token} {tail : List Token} {nesting : Nesting}
    (hif : word.isWord "if" = true) (hname : name.word = ⟨.name, "c"⟩) (hcolon : colon.isOp ":" = true)
    (heof : eof.kind = .endMarker) (hsuite : ∀ᶠ fuel in atTop,
      outcome (StmtRule.run id fuel .suite) nesting (colon :: tail) = .ok (stmts, [eof])) :
    ∀ᶠ fuel in atTop, outcome (file (StmtRule.run id fuel)) nesting (word :: name :: colon :: tail) =
      .ok (conditionOn stmts, [eof]) := by
  have hcontent : word.kind.isContent = true := by
    rw [Token.isWord, Bool.and_eq_true, beq_iff_eq] at hif
    rw [hif.1]
    rfl
  have hlength : 1 < (word :: name :: colon :: tail).length := by
    rw [List.length_cons, List.length_cons]
    omega
  have hcondition := statement_condition hif hname (by decide) hcolon heof hsuite
  rw [show normalizeIdentifier "c" = "c" by decide +kernel] at hcondition
  exact file_statement hcontent heof hlength hcondition

section

variable (h : List.Forall₂ (Alone limit) texts stmts) (hne : texts ≠ [])
  (hending : ending = [] ∨ ending = ['\n'])
include h hne hending

/-- Statements on lines of their own. -/
theorem parseModule_onLines (hle : limit ≤ n) :
    parseModule (onLines texts ++ ending) n = .ok ⟨stmts⟩ := by
  obtain ⟨ms, us, newline, eof, _, hms, hrun, hus, hnewline, heof⟩ :=
    run_indented hle h hne (before_start n) hending
  obtain rfl := List.map_eq_nil_iff.mp hms
  have htokens : tokenize (onLines texts ++ ending) n = .ok (us ++ [newline, eof]) := hrun
  have hnesting : limit + (⟨n, 0⟩ : Nesting).depth ≤ n := hle
  exact parseSpelled_of_eventually htokens (hus.file_lines hnesting hnewline heof)

/-- Statements on one line. -/
theorem parseModule_onOneLine (hle : limit ≤ n) (final : Bool) :
    parseModule (onOneLine texts final ++ ending) n = .ok ⟨stmts⟩ := by
  obtain ⟨us, ts, newline, eof, hrun, hus, hts, hnewline, heof⟩ :=
    run_onOneLine hle h hne (before_start n) hending final
  have htokens : tokenize (onOneLine texts final ++ ending) n = .ok (us ++ ts) := hrun
  have hnesting : limit + (⟨n, 0⟩ : Nesting).depth ≤ n := hle
  exact parseSpelled_of_eventually htokens (file_statement (hus.isContent ts) heof (hts.length_lt us)
    (hus.statement hnesting hnewline (List.cons_ne_nil _ _) hts))

/-- A condition with statements on its line. -/
theorem parseModule_condition_onOneLine (hle : limit ≤ n) (final : Bool) :
    parseModule (conditionHead ++ ' ' :: (onOneLine texts final ++ ending)) n =
      .ok (conditionOn stmts) := by
  obtain ⟨word, name, colon, s, hhead, hif, hname, hcolon, hbehind⟩ := steps_conditionHead n
  obtain ⟨s', hblank, hbefore⟩ := steps_blank hbehind
  obtain ⟨us, ts, newline, eof, hrun, hus, hts, hnewline, heof⟩ :=
    run_onOneLine hle h hne hbefore hending final
  have hsplit : lexemes (conditionHead ++ ' ' :: (onOneLine texts final ++ ending)) =
      lexemes conditionHead ++ (marginPieces [' '] ++ lexemes (onOneLine texts final ++ ending)) := by
    have hbegins : ∀ c ∈ (onOneLine texts final ++ ending).head?, isBlank c = false := by
      rw [onOneLine, List.append_assoc]
      exact head_intercalate (spaced_of_alone h) hne
    rw [lexemes_conditionHead (by decide), ← lexemes_margin (by simp [isBlank]) hbegins]
    rfl
  have htokens : tokenize (conditionHead ++ ' ' :: (onOneLine texts final ++ ending)) n =
      .ok (word :: name :: colon :: (us ++ ts)) := by
    rw [tokenize, hsplit]
    have hbody := run_of_steps hblank hrun
    rw [List.nil_append] at hbody
    exact run_of_steps hhead hbody
  have hnesting : limit + (⟨n, 0⟩ : Nesting).depth ≤ n := hle
  exact parseSpelled_of_eventually htokens (file_condition hif hname hcolon heof
    (hus.suite_line hnesting hcolon hnewline (List.cons_ne_nil _ _) hts))

/-- A condition with a block of statements. -/
theorem parseModule_condition_onLines (hlt : limit < n) (hw : 0 < w) :
    parseModule (conditionHead ++ '\n' :: (onLines (indented w texts) ++ ending)) n =
      .ok (conditionOn stmts) := by
  obtain ⟨word, name, colon, s, hhead, hif, hname, hcolon, hbehind⟩ := steps_conditionHead n
  obtain ⟨first, x, hbreak, hfirst⟩ := steps_lineBreak (n := n) hbehind w
  obtain ⟨ms, us, newline, eof, here, hms, hrun, hus, hnewline, heof⟩ :=
    run_indented (Nat.le_of_lt hlt) h hne (before_wider hw x []) hending
  obtain ⟨indent, rfl, hindent⟩ : ∃ indent, ms = [indent] ∧ indent.kind = .indent :=
    List.map_eq_singleton_iff.mp hms
  let dedent : Token := ⟨.dedent, "", here⟩
  have hsplit : lexemes (conditionHead ++ '\n' :: (onLines (indented w texts) ++ ending)) =
      lexemes conditionHead ++ ((⟨.lineBreak, ['\n']⟩ :: marginPieces (List.replicate w ' ')) ++
        lexemes (('\n' :: List.replicate w ' ').intercalate texts ++ ending)) := by
    rw [lexemes_conditionHead (by decide), onLines_indented hne,
      ← (separator_lineBreak w).pieces _ (head_intercalate (spaced_of_alone h) hne)]
    simp
  have htokens : tokenize (conditionHead ++ '\n' :: (onLines (indented w texts) ++ ending)) n =
      .ok (word :: name :: colon :: first :: indent :: (us ++ newline :: dedent :: [eof])) := by
    rw [tokenize, hsplit]
    exact run_of_steps hhead (run_of_steps hbreak hrun)
  have hnesting : limit + (⟨n, 0⟩ : Nesting).depth < n := hlt
  have hdedent : dedent.kind = .dedent := rfl
  exact parseSpelled_of_eventually htokens (file_condition hif hname hcolon heof
    (hus.suite_block hnesting hcolon hfirst.kind hindent hnewline hdedent (List.cons_ne_nil _ _)))

/-- All ways to write a suite agree: statements on lines of their own and on one line with semicolons
are the same program, and behind a colon they are the same suite, on its line and in a block of any
width. -/
theorem parseModule_suite (hlt : limit < n) (hw : 0 < w) :
    parseModule (onLines texts ++ ending) n = .ok ⟨stmts⟩ ∧
    (∀ final, parseModule (onOneLine texts final ++ ending) n = .ok ⟨stmts⟩) ∧
    (∀ final, parseModule (conditionHead ++ ' ' :: (onOneLine texts final ++ ending)) n =
      .ok (conditionOn stmts)) ∧
    parseModule (conditionHead ++ '\n' :: (onLines (indented w texts) ++ ending)) n =
      .ok (conditionOn stmts) :=
  ⟨parseModule_onLines h hne hending (Nat.le_of_lt hlt),
    parseModule_onOneLine h hne hending (Nat.le_of_lt hlt),
    parseModule_condition_onOneLine h hne hending (Nat.le_of_lt hlt),
    parseModule_condition_onLines h hne hending hlt hw⟩

end

/-- Two statements. -/
def passAndName : List (List Char) := [['p', 'a', 's', 's'], ['z']]

/-- The statements on lines and in a block of width four, under the least limit. -/
theorem parseModule_suite_passAndName :
    List.Forall₂ (Alone 0) passAndName [.pass, .expr (.name "z" .load)] ∧
    parseModule (onLines passAndName ++ ['\n']) 1 = .ok ⟨[.pass, .expr (.name "z" .load)]⟩ ∧
    parseModule (conditionHead ++ '\n' :: (onLines (indented 4 passAndName) ++ ['\n'])) 1 =
      .ok (conditionOn [.pass, .expr (.name "z" .load)]) := by
  have hpass : Alone 0 ['p', 'a', 's', 's'] .pass :=
    ⟨rfl, rfl, by simp [InLine], by simp [isBlank], by simp [isBlank], by decide +kernel⟩
  have hname : Alone 0 ['z'] (.expr (.name "z" .load)) :=
    ⟨rfl, rfl, by simp [InLine], by simp [isBlank], by simp [isBlank], by decide +kernel⟩
  have hstatements : List.Forall₂ (Alone 0) passAndName [.pass, .expr (.name "z" .load)] :=
    .cons hpass (.cons hname .nil)
  obtain ⟨hlines, -, -, hblock⟩ := parseModule_suite (w := 4) hstatements (by decide) (.inr rfl)
    (show 0 < 1 by decide) (by decide)
  exact ⟨hstatements, hlines, hblock⟩

end PythonSyntax
