import PythonSyntax.Proofs.Agreement.Statement
import PythonSyntax.Proofs.Parser.Statement
import PythonSyntax.Proofs.Span.Field

/-
Spans are those of the source, at every depth.

Lexing cuts a source up and loses nothing of it, and the tokens with text stand in it in turn with
only gaps around them.  The tokens of a field are made while the program is read, from offsets that
are added up on the way.  A watched run looks at all the tokens that it is given, wherever a rule
begins, and gives up at one that is not placed in the source.  It does what the run itself does,
which never gives up: so all tokens are placed, however deep their field is.
-/

namespace PythonSyntax

open PythonSyntax.Parser PythonSyntax.Parser.Likeness PythonSyntax.Parser.TokenLikeness

variable {source : List Char}

/-! ## Watched runs -/

namespace Parser

variable {α : Type} {p q : Parser α} {S : Streams} {T : α → α → Streams} {check : Token → Bool}

/-- A parser that gives up if not all tokens that it is given pass the check. -/
def watched (check : Token → Bool) (p : Parser α) : Parser α := do
  if (← remaining).all check then p else fail .outOfFuel

theorem outcome_watched {ts : List Token} (h : ts.all check = true) (n : Nesting) :
    outcome (watched check p) n ts = outcome p n ts := by
  show outcome (if ts.all check = true then p else fail .outOfFuel) n ts = _
  rw [if_pos h]

end Parser

/-- A rule of which all references to rules are watched, followed at most `fuel` levels deep. -/
def Rule.watched (check : Token → Bool) (spell : List Char → List Char) :
    Nat → Rule → Parser Expr
  | 0, r => run spell 0 r
  | fuel + 1, r => Parser.watched check (body spell (watched check spell fuel) r)

/-- A rule for statements of which all references to rules are watched. -/
def StmtRule.watched (check : Token → Bool) (spell : List Char → List Char) :
    Nat → StmtRule → Parser (List Stmt)
  | 0, r => run spell 0 r
  | fuel + 1, r => Parser.watched check
      (body (Rule.watched check spell fuel) (watched check spell fuel) r)

/-- The tree of a program, if all tokens of which a rule is read pass the check. -/
def parseWatched (check : Token → Bool) (source : List Char) (maxNesting : Nat) :
    Except SyntaxError Module := do
  let tokens ← tokenize source maxNesting
  let program := Parser.file (StmtRule.watched check id (parseFuel tokens))
  (program.exec maxNesting (.start tokens 0)).1

/-- The run watches the token of a field, which begins behind the opening brace. -/
example : (parseWatched (·.span.start != 3) ['f', '"', '{', 'x', '}', '"'] 1).isOk = false ∧
    (parseWatched (·.span.start != 2) ['f', '"', '{', 'x', '}', '"'] 1).isOk = true := by
  decide +kernel

theorem parseWatched_eq (check : Token → Bool) (source : List Char) (maxNesting : Nat) :
    parseWatched check source maxNesting = tokenize source maxNesting >>= fun ts =>
      (outcome (file (StmtRule.watched check id (parseFuel ts))) ⟨maxNesting, 0⟩ ts).map Prod.fst :=
  bind_congr fun ts => exec_start (file (StmtRule.watched check id (parseFuel ts))) maxNesting ts

namespace Parser

/-! ## Watching for tokens that are not placed -/

/-- Whether a token is placed in the source. -/
abbrev isPlaced (source : List Char) (t : Token) : Bool := decide (t.Placed source)

theorem all_isPlaced {ts us : List Token} (h : List.Forall₂ (placedIn source).token ts us) :
    us.all (isPlaced source) = true := by
  induction h with
  | nil => rfl
  | cons ht _ ih =>
    obtain ⟨rfl, hplaced⟩ := ht
    rw [List.all_cons, ih, Bool.and_true]
    exact decide_eq_true hplaced.placed

/-- Watching changes nothing where all tokens are placed. -/
theorem relates_watched (h : (placedIn source).Relates S p q T)
    (hS : ∀ ts us, S ts us → List.Forall₂ (placedIn source).token ts us) :
    (placedIn source).Relates S p (watched (isPlaced source) q) T := by
  intro ts us n m hs hn
  rw [outcome_watched (all_isPlaced (hS ts us hs))]
  exact h ts us n m hs hn

theorem rules_watched (spell : List Char → List Char) (fuel : Nat) :
    ((placedIn source).throughout placed_eof).Rules (Rule.run spell fuel)
      (Rule.watched (isPlaced source) spell fuel) := by
  induction fuel with
  | zero => exact ⟨fun _ _ _ _ _ _ _ _ => .excused rfl, fun _ _ _ _ _ _ _ => .excused rfl,
      fun _ _ _ _ _ _ _ => .excused rfl⟩
  | succ fuel ih =>
    have hstrings : Rules.Strings _ (strings spell _) (strings spell _) := strings_placed ih
    have hbody := ih.body hstrings
    exact ⟨fun hr k => relates_watched (hbody.below hr k) fun _ _ hs => hs,
      fun k => relates_watched (hbody.bracketed k) fun _ _ hs => hs.2,
      fun k => relates_watched (hbody.dictOrSet k) fun _ _ hs => hs⟩

theorem stmtRules_watched (spell : List Char → List Char) (fuel : Nat) :
    ((placedIn source).throughoutBlocks placed_eof).StmtRules (StmtRule.run spell fuel)
      (StmtRule.watched (isPlaced source) spell fuel) := by
  induction fuel with
  | zero => exact ⟨fun _ _ _ _ _ _ _ _ => .excused rfl, fun _ _ _ _ _ _ _ => .excused rfl⟩
  | succ fuel ih =>
    have hbody := BlockLikeness.StmtRules.body (b := (placedIn source).throughoutBlocks placed_eof)
      (fun _ => rules_watched spell fuel) ih
    exact ⟨fun d hr => relates_watched (hbody.below d hr) fun _ _ hs => hs,
      fun d => relates_watched (hbody.conditional d) fun _ _ hs => hs.2⟩

end Parser

/-! ## Programs -/

/-- A run is like the watched one: the same tree, or the same error, which is placed. -/
theorem parseModule_watched (source : List Char) (maxNesting : Nat) :
    (placedIn source).Results Eq (parseModule source maxNesting)
      (parseWatched (isPlaced source) source maxNesting) := by
  rw [parseModule, parseSpelled_eq, parseWatched_eq]
  refine (placed_of_run (Lies.self source)).bind fun ts us hts => ?_
  obtain rfl : ts = us := List.forall₂_eq_eq_eq ▸ hts.imp fun t u ht => ht.1
  exact (TokenLikeness.file_of_rules (stmtRules_watched id (parseFuel ts)) 0 ts ts _ _ hts rfl).map
    fun _ _ hr => hr.1

/-- What is like a run comes to the same, since a run never gives up. -/
theorem eq_of_results {maxNesting : Nat} {r : Except SyntaxError Module}
    (h : (placedIn source).Results Eq (parseModule source maxNesting) r) :
    r = parseModule source maxNesting := by
  have hfuel := (parseSpelled_spec id source maxNesting).1
  rw [← parseModule] at hfuel
  generalize parseModule source maxNesting = r' at h hfuel ⊢
  cases h with
  | ok h => exact congrArg Except.ok h.symm
  | error h => exact congrArg Except.error h.1.symm
  | excused h => exact absurd h (hfuel _ rfl)

theorem parseWatched_eq_parseModule (source : List Char) (maxNesting : Nat) :
    parseWatched (isPlaced source) source maxNesting = parseModule source maxNesting :=
  eq_of_results (parseModule_watched source maxNesting)

theorem marks_of_parseModule {maxNesting : Nat} {e : SyntaxError}
    (h : parseModule source maxNesting = .error e) : e.Marks source := by
  have hresults := parseModule_watched source maxNesting
  rw [parseWatched_eq_parseModule, h] at hresults
  cases hresults with
  | error h => exact h.2
  | excused hexc => exact absurd hexc ((parseSpelled_spec id source maxNesting).1 e h)

theorem within_of_parseModule {maxNesting : Nat} {e : SyntaxError}
    (h : parseModule source maxNesting = .error e) : e.span.Within source :=
  (marks_of_parseModule h).within

/-- What lexing keeps of a source, and where a run of the parser on it places tokens and errors. -/
structure Lossless (source : List Char) (maxNesting : Nat) : Prop where
  /-- The lexemes are the source, cut up: each is what the grammar of tokens takes at the front of
  what is left, and that is at least one character. -/
  cut : ((lexemes source).map Lexeme.text).flatten = source ∧
    ∀ pre l post, lexemes source = pre ++ l :: post → l.text ≠ [] ∧
      ∃ n, Lexeme.front? ((l :: post).map Lexeme.text).flatten = some (l.kind, n) ∧
        l.text = ((l :: post).map Lexeme.text).flatten.take n
  /-- The tokens with text stand in the source in turn, with only gaps around them. -/
  laid : ∀ ts, tokenize source maxNesting = .ok ts →
    Laid 0 source (ts.filter (·.kind.isContent))
  /-- The text of each token is the slice of the source in its span. -/
  tokens : ∀ ts, tokenize source maxNesting = .ok ts → ∀ t ∈ ts, t.Placed source
  /-- So it is for the tokens of a text that lies anywhere in the source. -/
  embedded : ∀ text base limit ts, Lies source text base →
    tokenizeEmbedded text base limit = .ok ts → ∀ t ∈ ts, t.Placed source
  /-- And so it is for the tokens of which any rule is read while the parser runs. -/
  watched : parseWatched (fun t => decide (t.Placed source)) source maxNesting =
    parseModule source maxNesting
  /-- A token without text has an empty span. -/
  empty : ∀ t : Token, t.Placed source → t.text = "" → t.span.start = t.span.stop
  /-- An error lies within the source and begins between two characters. -/
  error : ∀ e, parseModule source maxNesting = .error e → e.span.Within source

/-- Lexing loses nothing of any source, and spans are those of the source at every depth. -/
theorem lossless (source : List Char) (maxNesting : Nat) : Lossless source maxNesting where
  cut := by
    refine ⟨Lexeme.flatten_lexemes source, fun pre l post h => ⟨?_, ?_⟩⟩
    · exact Lexeme.text_ne_nil (s := source) (h ▸ List.mem_append_right _ List.mem_cons_self)
    · obtain ⟨n, hfront, htext, -⟩ := Lexeme.front_of_lexemes (Lexeme.lexemes_of_append h)
      exact ⟨n, hfront, htext⟩
  laid _ h := laid_of_run h
  tokens ts h t ht := by
    have hsettles := Layout.settles_run ⟨.file, maxNesting, 0⟩ .start (lexemes source)
      (by rw [Lexeme.flatten_lexemes]; exact Lies.self source)
    rw [← tokenize, h] at hsettles
    exact hsettles.of_ok t ht
  embedded text base limit ts hlies h t ht := by
    have hsettles := Layout.settles_run ⟨.embedded, limit, base⟩ .start (lexemes text)
      (by rw [Lexeme.flatten_lexemes]; exact hlies)
    rw [← tokenizeEmbedded, h] at hsettles
    exact hsettles.of_ok t ht
  watched := parseWatched_eq_parseModule source maxNesting
  empty t h htext := by
    rw [h.2, htext]
    rfl
  error _ h := within_of_parseModule h

end PythonSyntax
