import PythonSyntax.Proofs.Indexed.Built
import PythonSyntax.Proofs.Indexed.FormattedString
import PythonSyntax.Proofs.Indexed.Report
import PythonSyntax.Proofs.Parser.Returns
import PythonSyntax.Proofs.Span.Program
import PythonSyntax.Tree.Json

/-
Nothing is ever out of range.

The reader whose steps may be out of range is put together here: the tokens of a program from
slices of it, and the rules of expressions with runs of literals read by indices and with items taken
out of lists.  It runs on cursors, so a level that is left is taken off a counter, also after an
error, and the run gives up if the counter stands at zero.  It reads every program as the reader that
has no such steps does, so none of them ever fails; and none comes to a number above eight times the
length of the program, a tab being as wide as eight bytes at most.
-/

namespace PythonSyntax.Indexed

open PythonSyntax.Parser PythonSyntax.Parser.TokenLikeness PythonSyntax.Parser.Likeness

variable {α : Type} {source : List Char} {top : Nat} {rule rule' : Rule → Parser Expr}

/-! ## Rules -/

/-- An atom, of which a run of literals is read by indices. -/
def atom (top : Nat) (rule : Rule → Parser Expr) : Parser Expr := do
  if ← atKind .string then
    let tokens ← many (optional (atKind .string) advance)
    strings top rule tokens
  else Parser.atom id rule

/-- The inside of brackets that are not empty: its items, the clauses if it is a comprehension, and
whether there is a comma. -/
def inside (rule : Rule → Parser Expr) (closing : String) :
    Parser (List Expr × Option (List Comprehension) × Bool) := do
  let first ← rule .starOrNamed
  if ← startsClause then return ([first], some (← clauses rule), false)
  else
    let comma ← atOp ","
    return (first :: (← itemsUntil closing (rule .starOrNamed)), none, comma)

/-- What stands in parentheses, after the opening one. -/
def parenthesized (rule : Rule → Parser Expr) : Parser Expr := do
  if ← eatOp ")" then return .tuple [] .load
  else if ← atWord "yield" then
    let e ← rule .yielding
    expectOp ")"
    return e
  else
    let (elts, generators?, comma) ← inside rule ")"
    expectOp ")"
    match generators? with
    | some generators => return .generatorExp (← inRange elts[0]?) generators
    | none => if !comma && elts.length == 1 then inRange elts[0]? else return .tuple elts .load

/-- What stands in square brackets, after the opening one. -/
def listDisplay (rule : Rule → Parser Expr) : Parser Expr := do
  if ← eatOp "]" then return .list [] .load
  else
    let (elts, generators?, _) ← inside rule "]"
    expectOp "]"
    match generators? with
    | some generators => return .listComp (← inRange elts[0]?) generators
    | none => return .list elts .load

/-- What begins with an opening bracket. -/
def bracketed (rule : Rule → Parser Expr) : Parser Expr := do
  let t ← advance
  if t.text = "(" then parenthesized rule
  else if t.text = "[" then listDisplay rule
  else rule .dictOrSet

/-- What a rule says, its steps by indices. -/
def body (top : Nat) (rule : Rule → Parser Expr) : Rule → Parser Expr
  | .atom => atom top rule
  | .bracketed => bracketed rule
  | r => Rule.body id rule r

/-- The items, clauses and comma of what stands in brackets. -/
def parts : Bracketed → List Expr × Option (List Comprehension) × Bool
  | .comprehension elt generators => ([elt], some generators, false)
  | .items elts comma => (elts, none, comma)

theorem inside_eq (rule : Rule → Parser Expr) (closing : String) :
    inside rule closing = parts <$> Parser.inside rule closing := by
  unfold inside Parser.inside
  simp only [map_eq_pure_bind, bind_assoc]
  refine bind_congr fun first => bind_congr fun begins => ?_
  split <;> simp [parts]

theorem parenthesized_eq (rule : Rule → Parser Expr) :
    parenthesized rule = Parser.parenthesized rule := by
  unfold parenthesized Parser.parenthesized
  rw [inside_eq]
  simp only [map_eq_pure_bind, bind_assoc, pure_bind]
  refine bind_congr fun closes => ?_
  split
  · rfl
  refine bind_congr fun yields => ?_
  split
  · rfl
  refine bind_congr fun content => bind_congr fun _ => ?_
  cases content with
  | comprehension elt generators => rfl
  | items elts comma =>
    match elts, comma with
    | [], true => rfl
    | [], false => rfl
    | [e], true => rfl
    | [e], false => rfl
    | e :: e' :: elts, _ => simp [parts]

theorem listDisplay_eq (rule : Rule → Parser Expr) : listDisplay rule = Parser.listDisplay rule := by
  unfold listDisplay Parser.listDisplay
  rw [inside_eq]
  simp only [map_eq_pure_bind, bind_assoc, pure_bind]
  refine bind_congr fun closes => ?_
  split
  · rfl
  refine bind_congr fun content => bind_congr fun _ => ?_
  cases content <;> rfl

theorem bracketed_eq (rule : Rule → Parser Expr) : bracketed rule = Parser.bracketed rule := by
  unfold bracketed Parser.bracketed
  rw [parenthesized_eq, listDisplay_eq]

/-! ## Runs -/

/-- A rule, its steps by indices, with references to rules followed at most `fuel` levels deep. -/
def run (top : Nat) : Nat → Rule → Parser Expr
  | 0, _ => fail .outOfFuel
  | fuel + 1, r => body top (run top fuel) r

/-- A rule for statements, the expressions in it read by indices. -/
def runStmt (top : Nat) : Nat → StmtRule → Parser (List Stmt)
  | 0, r => StmtRule.run id 0 r
  | fuel + 1, r => StmtRule.body (run top fuel) (runStmt top fuel) r

/-- What a run comes to, unless it gave up. -/
def finished? (r : Except SyntaxError α) : Option (Except SyntaxError α) :=
  match r with
  | .ok a => some (.ok a)
  | .error e => if e.cause = .outOfFuel then none else some (.error e)

/-- The tree of a program, read by indices; there is no answer if a parser gave up. -/
def parseModule? (top : Nat) (source : List Char) (maxNesting : Nat) :
    Option (Except SyntaxError Module) := do
  let tokens? ← tokenize? top source maxNesting
  finished? do
    let tokens ← tokens?
    let program := Parser.file (runStmt top (parseFuel tokens))
    (program.exec maxNesting (.start tokens 0)).1

/-- What a parser does, another does that does the same. -/
theorem Same.exchange {S : Streams} {T : α → α → Streams} {p q q' : Parser α}
    (h : (placedIn source).Relates S p q T) (hq : Same q q') : (placedIn source).Relates S p q' T := by
  intro ts us n m hs hn
  have hp := h ts us n m hs hn
  have hsame := hq us us m m rfl rfl
  generalize outcome p n ts = r at hp ⊢
  generalize outcome q m us = r' at hp hsame
  generalize outcome q' m us = r'' at hsame ⊢
  cases hsame with
  | ok hr =>
    obtain rfl := Prod.ext hr.1 hr.2
    exact hp
  | error he =>
    obtain rfl := he
    exact hp
  | excused hexc =>
    cases hp with
    | error he => exact .excused (he.1 ▸ hexc)
    | excused hexc' => exact .excused hexc'

/-- Two more offsets than those of a source fit. -/
theorem shaped_of_placed (htop : byteLength source + 2 ≤ top) {t : Token} (h : Placed source t)
    (hk : t.kind = .string) : Shaped top t := by
  refine ⟨h.literal hk, ?_⟩
  have hstop := h.placed.whole.within.stop_le
  rw [h.placed.2] at hstop
  omega

theorem agrees_atom (htop : byteLength source + 2 ≤ top)
    (h : ((placedIn source).throughout placed_eof).Rules rule rule') :
    ((placedIn source).throughout placed_eof).Agrees (Parser.atom id rule) (atom top rule') Eq := by
  have hstrings : Rules.Strings ((placedIn source).throughout placed_eof) (Parser.strings id rule)
      (strings top rule') := by
    intro ts us hts k
    have hshaped : ∀ u ∈ us, Shaped top u := by
      induction hts with
      | nil => exact List.forall_mem_nil _
      | cons ht _ ih =>
        obtain ⟨⟨rfl, hplaced⟩, hk⟩ := ht
        exact List.forall_mem_cons.mpr ⟨shaped_of_placed htop hplaced hk, ih⟩
    exact Same.exchange (strings_placed h ts us hts k) (same_strings rule' hshaped)
  intro k ts us n m hs hn
  obtain rfl : ts = us := List.forall₂_eq_eq_eq ▸ hs.imp fun t u ht => ht.1
  obtain rfl : n = m := hn
  by_cases hk : (current ts).kind = .string
  · have hrun : outcome (Parser.atom id rule) n ts =
        outcome (many (optional (atKind .string) advance) >>= Parser.strings id rule) n ts := by
      rw [Parser.atom, outcome_peek_bind, hk]
    have hrun' : outcome (atom top rule') n ts =
        outcome (many (optional (atKind .string) advance) >>= strings top rule') n ts := by
      show outcome (if ((current ts).kind == .string) = true then _ else _) n ts = _
      rw [hk]
      rfl
    rw [hrun, hrun']
    exact Agrees.bind (.many (.optionalKind rfl (by decide))) hstrings k ts ts n n hs rfl
  · have hrun' : outcome (atom top rule') n ts = outcome (Parser.atom id rule') n ts := by
      show outcome (if ((current ts).kind == .string) = true then _ else _) n ts = _
      rw [if_neg (mt beq_iff_eq.mp hk)]
    have hself : Rules.Strings ((placedIn source).throughout placed_eof) (Parser.strings id rule)
        (Parser.strings id rule') := strings_placed h
    rw [hrun']
    exact h.atom hself k ts ts n n hs rfl

theorem rules_body (htop : byteLength source + 2 ≤ top)
    (h : ((placedIn source).throughout placed_eof).Rules rule rule') :
    ((placedIn source).throughout placed_eof).Rules (Rule.body id rule) (body top rule') := by
  have hstrings : Rules.Strings ((placedIn source).throughout placed_eof) (Parser.strings id rule)
      (Parser.strings id rule') := strings_placed h
  have hbody := h.body hstrings
  have hother : ∀ {r : Rule}, r ≠ .atom → isWhole r = true →
      body top rule' r = Rule.body id rule' r := by
    intro r hatom hr
    cases r <;> first | rfl | exact absurd rfl hatom | exact nomatch hr
  refine ⟨fun {r} hr => ?_, ?_, hbody.dictOrSet⟩
  · by_cases hatom : r = .atom
    · subst hatom
      exact agrees_atom htop h
    · rw [hother hatom hr]
      exact hbody.below hr
  · show AgreesWhen _ _ (Parser.bracketed rule) (bracketed rule') Eq
    rw [bracketed_eq]
    exact hbody.bracketed

theorem rules_run (htop : byteLength source + 2 ≤ top) (fuel : Nat) :
    ((placedIn source).throughout placed_eof).Rules (Rule.run id fuel) (run top fuel) := by
  induction fuel with
  | zero => exact ⟨fun _ _ _ _ _ _ _ _ => .excused rfl, fun _ _ _ _ _ _ _ => .excused rfl,
      fun _ _ _ _ _ _ _ => .excused rfl⟩
  | succ fuel ih => exact rules_body htop ih

theorem stmtRules_run (htop : byteLength source + 2 ≤ top) (fuel : Nat) :
    ((placedIn source).throughoutBlocks placed_eof).StmtRules (StmtRule.run id fuel)
      (runStmt top fuel) := by
  induction fuel with
  | zero => exact ⟨fun _ _ _ _ _ _ _ _ => .excused rfl, fun _ _ _ _ _ _ _ => .excused rfl⟩
  | succ fuel ih =>
    exact BlockLikeness.StmtRules.body (b := (placedIn source).throughoutBlocks placed_eof)
      (fun _ => rules_run htop fuel) ih

/-! ## Programs -/

theorem parseModule?_eq (htop : 8 * (byteLength source + 1) ≤ top) (maxNesting : Nat) :
    parseModule? top source maxNesting = some (parseModule source maxNesting) := by
  have hfuel : Fueled (parseModule source maxNesting) := (parseSpelled_spec id source maxNesting).1
  have hresults : (placedIn source).Results Eq (parseModule source maxNesting)
      (tokenize source maxNesting >>= fun tokens =>
        ((Parser.file (runStmt top (parseFuel tokens))).exec maxNesting (.start tokens 0)).1) := by
    rw [parseModule, parseSpelled_eq]
    refine (placed_of_run (Lies.self source)).bind fun ts us hts => ?_
    obtain rfl : ts = us := List.forall₂_eq_eq_eq ▸ hts.imp fun t u ht => ht.1
    have hfile := file_of_rules (stmtRules_run (show byteLength source + 2 ≤ top by omega)
      (parseFuel ts)) 0 ts ts ⟨maxNesting, 0⟩ _ hts rfl
    have hmodule := hfile.map (R := Eq) fun _ _ hr => hr.1
    rw [exec_start]
    exact hmodule
  rw [parseModule?, tokenize?_eq (by omega), Option.bind_eq_bind, Option.bind_some]
  dsimp only
  rw [eq_of_results hresults]
  unfold finished?
  split
  · next m hm => rw [hm]
  · next e he => rw [if_neg (hfuel e he), he]

/-! ## Levels of imports -/

/-- The number of characters of the tokens with text. -/
def letters (ts : List Token) : Nat :=
  ((ts.filter (·.kind.isContent)).map fun t => t.text.toList.length).sum

theorem letters_suffix {ts us : List Token} (h : us <:+ ts) : letters us ≤ letters ts := by
  obtain ⟨pre, rfl⟩ := h
  rw [letters, letters, List.filter_append, List.map_append, List.sum_append]
  exact Nat.le_add_left _ _

theorem letters_of_laid {offset : Nat} {text : List Char} {ts : List Token} (h : Laid offset text ts) :
    (ts.map fun t => t.text.toList.length).sum ≤ text.length := by
  induction h with
  | nil => exact Nat.zero_le _
  | cons _ _ _ ih =>
    simp only [List.map_cons, List.sum_cons, List.length_append]
    omega

/-- The tokens of a program have no more characters than it. -/
theorem letters_of_tokenize {maxNesting : Nat} {ts : List Token}
    (h : tokenize source maxNesting = .ok ts) : letters ts ≤ byteLength source :=
  Nat.le_trans (letters_of_laid (laid_of_run h)) (length_le_byteLength source)

/-- An operator that is taken has the characters that are then missing. -/
theorem letters_dropCurrent {ts : List Token} {op : String} (hts : Readable ts)
    (hop : (current ts).isOp op = true) :
    op.toList.length + letters (dropCurrent ts) ≤ letters ts := by
  obtain ⟨t, us, rfl, hd, -⟩ := hts.tail (Reads.not_endMarker_of_isOp _ hop)
  obtain ⟨hk, htext⟩ : t.kind = .op ∧ t.text = op := by
    simpa [current, Token.isOp] using hop
  have hcontent : t.kind.isContent = true := by
    rw [hk]
    rfl
  rw [hd, letters, letters, List.filter_cons, if_pos hcontent, List.map_cons, List.sum_cons, htext]

/-- A token of dots has as many characters as dots. -/
theorem reads_dots_letters {ts : List Token} :
    Reads ts dots fun o us => o.getD 0 + letters us ≤ letters ts := by
  refine .of_readable fun hts => ?_
  refine .ifEatIf Reads.not_endMarker_of_isOp (fun hop _ => .pure ?_) fun _ => ?_
  · exact letters_dropCurrent hts hop
  · refine .ifEatIf Reads.not_endMarker_of_isOp (fun hop _ => .pure ?_) fun _ => .pure ?_
    · exact letters_dropCurrent hts hop
    · exact Nat.le_of_eq (Nat.zero_add _)

/-- All the dots that are read are characters of the stream. -/
theorem letters_of_dots {n : Nesting} {ts us bound : List Token} {levels : List Nat}
    (hts : Readable ts) (h : outcome (manyUpTo dots bound) n ts = .ok (levels, us)) :
    levels.sum + letters us ≤ letters ts := by
  induction levels generalizing ts bound with
  | nil =>
    obtain ⟨-, hitem⟩ | ⟨_, _, _, _, hnil, -⟩ := manyUpTo_ok h
    · have hdots := reads_dots_letters.outcome hts n
      rw [hitem] at hdots
      exact hdots.2.2
    · exact nomatch hnil
  | cons k levels ih =>
    obtain ⟨hnil, -⟩ | ⟨_, _, vs, bound', hcons, hitem, hrest⟩ := manyUpTo_ok h
    · exact nomatch hnil
    · cases hcons
      have hdots := reads_dots_letters.outcome hts n
      rw [hitem] at hdots
      obtain ⟨-, hvs, hle⟩ := hdots
      have hrest := ih hvs hrest
      rw [Option.getD_some] at hle
      rw [List.sum_cons]
      omega

/-! ## Everything together -/

/-- The greatest number that a step comes to while a program is read: a tab is as wide as eight bytes
at most.  It fits a word of 64 bits as long as the program has fewer than 2⁶¹ - 1 bytes. -/
def room (source : List Char) : Nat := 8 * (byteLength source + 1)

/-- A cursor at the level of another one, and among the tokens of that. -/
structure Stays (c d : Cursor) : Prop where
  depth : d.depth = c.depth
  position : d.position ≤ c.tokens.length

theorem stays_exec (p : Parser α) (limit : Nat) (c : Cursor) : Stays c (p.exec limit c).2 := by
  have hfollows := p.follows limit c
  refine ⟨hfollows.depth, ?_⟩
  rw [← hfollows.tokens, Cursor.length_tokens]
  exact Nat.le_add_right _ _

/-- What is in range while a program is read, its error is placed, and its tree is printed. -/
structure InRange (source : List Char) (maxNesting : Nat) : Prop where
  /-- There is a slice in front of the first token of each logical line, and the widths of the lines
  and the ends of the tokens fit. -/
  tokens : tokenize? (room source) source maxNesting = some (tokenize source maxNesting)
  /-- A program is read by indices as it is without them: the slices, items and numbers of which
  its tree is made exist, the offsets in its fields fit, and every level that is left was entered. -/
  tree : parseModule? (room source) source maxNesting = some (parseModule source maxNesting)
  /-- A rule comes back to the level where it began and stays among the tokens, also after an
  error. -/
  expressions : ∀ fuel r c, Stays c ((run (room source) fuel r).exec maxNesting c).2
  statements : ∀ fuel r c, Stays c ((runStmt (room source) fuel r).exec maxNesting c).2
  /-- The dots in front of a module, wherever they stand, are no more than the bytes. -/
  dots : ∀ c, tokenize source maxNesting = .ok c.tokens → c.ahead ≠ [] →
    ∀ levels, ((many dots).exec maxNesting c).1 = .ok levels →
      levels.foldl (· + ·) 0 ≤ byteLength source
  /-- An error lies in the source, so no offset of it is greater than the length of that. -/
  error : ∀ e, parseModule source maxNesting = .error e → e.span.Within source
  /-- Its position can be read off slices, and its numbers fit. -/
  position : ∀ e, parseModule source maxNesting = .error e →
    position? (room source) source e.span.start = some (Position.ofOffset source e.span.start)
  /-- Its label has a length. -/
  label : ∀ e, parseModule source maxNesting = .error e →
    label? e.span (byteLength source) =
      some ((e.span.clamp (byteLength source)).start, (e.span.clamp (byteLength source)).length)
  /-- Texts are stored with their surrogates however they are put together. -/
  stored : ∀ t u : Text, Stored.ofText (t ++ u) = (Stored.ofText t).append (Stored.ofText u)
  /-- No offset of a surrogate is greater than the length of the characters that are stored. -/
  surrogates : ∀ t : Text, ∀ x ∈ (Stored.ofText t).surrogates,
    x.1 ≤ byteLength (Stored.ofText t).chars
  /-- The tree has a value of characters, and a text. -/
  value : ∀ m, parseModule source maxNesting = .ok m → lossy? m.document = some m.document.lossy
  text : ∀ m, parseModule source maxNesting = .ok m →
    write? m.document [] = some (m.document.write [])

/-- Nothing is ever out of range, whatever the program is and however deep it may nest. -/
theorem always_inRange (source : List Char) (maxNesting : Nat) : InRange source maxNesting where
  tokens := tokenize?_eq (by unfold room; omega) maxNesting
  tree := parseModule?_eq (Nat.le_refl _) maxNesting
  expressions _ _ _ := stays_exec _ _ _
  statements _ _ _ := stays_exec _ _ _
  dots c htokens hc levels h := by
    have hsuffix : c.ahead <:+ c.tokens := List.suffix_append _ _
    rw [exec_fst, view_eq hc, outcome_many] at h
    obtain ⟨⟨levels, us⟩, hdots, rfl⟩ := map_ok h
    have hread := letters_of_dots ((readable_of_tokenize htokens).suffix hsuffix hc) hdots
    have hahead := letters_suffix hsuffix
    have htext := letters_of_tokenize htokens
    show levels.foldl (· + ·) 0 ≤ byteLength source
    rw [← List.sum_eq_foldl]
    omega
  error _ h := within_of_parseModule h
  position e _ := position?_eq (by unfold room; omega) e.span.start
  label e _ := label?_eq e.span (byteLength source)
  stored := Stored.ofText_append
  surrogates t x hx := by
    obtain ⟨pre, post, hchars, hpre⟩ := Stored.split_ofText t x hx
    rw [hchars, byteLength_append]
    omega
  value m _ := lossy?_eq m.document
  text m _ := write?_eq m.document []

end PythonSyntax.Indexed
