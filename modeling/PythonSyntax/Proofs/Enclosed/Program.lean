import PythonSyntax.Proofs.Enclosed.Group
import PythonSyntax.Proofs.Formatted.RoundTrip
import PythonSyntax.Proofs.Nesting
import PythonSyntax.Proofs.Parser.Progress

/-
A field and parentheses.

The expression of a field is read from tokens of its own, which end where it ends; in a program in
parentheses the same tokens stand before a closing one.  `field_alike` compares the two on the text
of an expression, and the rest says what programs make of either: the one that is a literal with a
single field, and the one that is the expression in parentheses.
-/

namespace PythonSyntax

open PythonSyntax.Parser PythonSyntax.Parser.TokenLikeness PythonSyntax.Parser.Likeness
open PythonSyntax.Lexeme Filter

variable {spell : List Char → List Char} {rule : Rule → Parser Expr} {n : Nesting}
  {e text : List Char} {ts us tokens : List Token} {q : Char} {base fuel fuel' limit : Nat}

/-! ## The texts -/

/-- A text in parentheses. -/
def inParentheses (e : List Char) : List Char := '(' :: (e ++ [')'])

/-- The formatted literal with the quote `q` whose body is a field with the expression `e`. -/
def fieldLiteral (q : Char) (e : List Char) : List Char := 'f' :: q :: '{' :: (e ++ ['}', q])

/-- The program that is a literal with this value in its only field. -/
def fieldProgram (v : Expr) : Module := ⟨[.expr (.joinedStr [.formattedValue v none none])]⟩

/-- A text that may be the expression of a field in a literal with the quote `q`: it has no quote of
this kind, no line break, comment or backslash and is not blank, its brackets are balanced, and the
search for the end of the field finds all of it if a brace follows. -/
structure FieldText (q : Char) (e : List Char) : Prop where
  quote : Quoted.isQuote q = true
  unquoted : q ∉ e
  line : ∀ c ∈ e, c ≠ '\n' ∧ c ≠ '\r'
  opened : Open e
  visible : e.all Unicode.isWhiteSpace = false
  balanced : balanced 0 (lexemes e) = true
  found : splitField 0 ⟨0, none, 0⟩ 0 (e ++ ['}']) = .ok (e, ['}'])

/-- A text without the word of a comprehension outside its brackets. -/
def Whole (e : List Char) : Prop := ∀ l ∈ outer 0 (lexemes e), l.text ≠ ['f', 'o', 'r']

/-! ## The expression of a field -/

namespace Parser

theorem outcome_embedded : outcome (embedded rule text base) n ts =
    tokenizeEmbedded text base (n.limit - n.depth) >>= fun tokens =>
      if (current tokens).kind = .endMarker then .error ⟨.fieldEmpty, (current tokens).span⟩
      else (outcome (yieldOr rule .starTestList >>= endOfText .endMarker) n tokens).map
        fun r => (r.1, ts) := by
  unfold embedded
  rw [outcome_bind_of outcome_read, outcome_bind, outcome_ofExcept]
  cases tokenizeEmbedded text base (n.limit - n.depth) with
  | error err => rfl
  | ok tokens =>
    show outcome (withTokens tokens _) n ts = _
    rw [outcome_withTokens]
    show (outcome (if ((current tokens).kind == .endMarker) = true then _ else _) n tokens).map _ = _
    by_cases heof : (current tokens).kind = .endMarker
    · rw [if_pos (beq_iff_eq.mpr heof)]
      exact (if_pos heof).symm
    · rw [if_neg (by rwa [beq_iff_eq])]
      exact (if_neg heof).symm

end Parser

/-- Lexemes without a token are blank, if no backslash and no comment is in their text. -/
theorem isWhiteSpace_of_gap {l : Lexeme} (hl : l ∈ lexemes e) (hopen : Open l.text)
    (hknown : l.kind ≠ .openQuote ∧ l.kind ≠ .stray) (hgap : Layout.contentKind? l.kind = none) :
    ∀ c ∈ l.text, Unicode.isWhiteSpace c = true := by
  obtain ⟨pre, post, hls⟩ := List.append_of_mem hl
  obtain ⟨m, n, hm, hn, htext, -⟩ := measured (lexemes_of_append hls)
  have hne := text_ne_nil hl
  generalize ((l :: post).map Lexeme.text).flatten = rest at hn htext
  obtain ⟨kind, text⟩ := l
  dsimp only at hm htext hopen hknown hgap hne ⊢
  obtain ⟨c, r, rfl⟩ : ∃ c r, rest = c :: r := List.exists_cons_of_ne_nil fun hnil => by
    rw [htext, hnil, List.take_nil] at hne
    exact hne rfl
  have hmem : c ∈ text := by
    cases n with
    | zero => exact absurd htext hne
    | succ n =>
      rw [htext, List.take_succ_cons]
      exact List.mem_cons_self
  simp only [kinds, List.mem_cons, Prod.mk.injEq, List.not_mem_nil, or_false] at hm
  rcases hm with ⟨rfl, rfl⟩ | ⟨rfl, rfl⟩ | ⟨rfl, rfl⟩ | ⟨rfl, rfl⟩ | ⟨rfl, rfl⟩ | ⟨rfl, rfl⟩ |
    ⟨rfl, rfl⟩ | ⟨rfl, rfl⟩ | ⟨rfl, rfl⟩ | ⟨rfl, rfl⟩
  · rw [continuation_other (hopen c hmem).1] at hn
    cases hn
  · rcases lineBreak_text hn with hw | hw | hw <;> rw [htext, hw] <;>
      exact List.all_eq_true.mp (by decide)
  · have hblank : Within (Unicode.isWhiteSpace · = true) blank := by
      refine within_run fun c hc => ?_
      rw [Bool.or_eq_true, Bool.or_eq_true, beq_iff_eq, beq_iff_eq, beq_iff_eq] at hc
      rcases hc with (rfl | rfl) | rfl <;> rfl
    rw [htext]
    exact hblank _ n hn
  · simp [comment, (hopen c hmem).2] at hn
  · cases hgap
  · exact absurd rfl hknown.1
  · cases hgap
  · cases hgap
  · cases hgap
  · exact absurd rfl hknown.2

/-- The tokens of a text in parentheses: a bracket is open where those of the text begin. -/
theorem tokenize_inParentheses (h : Open e) (limit : Nat) :
    ∃ t s, t.isOp "(" = true ∧ Layout.Surrounds .start s ∧
      tokenize (inParentheses e) (limit + 1) =
        (Layout.run ⟨.file, limit + 1, 0⟩ s (lexemes e ++ [⟨.op, [')']⟩])).map (t :: ·) := by
  obtain ⟨t, s, hstep, ht, hs⟩ := Layout.step_open limit
  refine ⟨t, s, ht, hs, ?_⟩
  rw [tokenize, inParentheses, lexemes_enclosed h, Layout.run, hstep]
  show (Layout.run _ s _ >>= fun rest => Except.ok ([t] ++ rest)) = _
  cases Layout.run ⟨.file, limit + 1, 0⟩ s (lexemes e ++ [⟨.op, [')']⟩]) <;> rfl

/-- What stands outside the brackets of the expression of a field. -/
theorem outside_of_field (h : FieldText q e)
    (hknown : ∀ l ∈ lexemes e, l.kind ≠ .openQuote ∧ l.kind ≠ .stray) :
    ∀ l ∈ outer 0 (lexemes e), ∀ t : Token, Layout.contentKind? l.kind = some t.kind →
      t.text = String.ofList l.text → Outside (Whole e) t := by
  obtain ⟨s, hs⟩ := FieldScan.passAll_of_splitField h.found
  have hcolon := FieldScan.head_ne_colon ⟨rfl, rfl, .inl rfl⟩ (fun c hc => (h.opened c hc).1) rfl hknown hs
  intro l hl t _ htext
  constructor
  · intro _ heq
    have hw : l.text = [':', '='] := String.ofList_injective (htext.symm.trans heq)
    exact hcolon l hl (by rw [hw]; rfl)
  · intro hwhole heq
    exact hwhole l hl (String.ofList_injective (htext.symm.trans heq))

/-- The tokens of the expression of a field and those of the text in parentheses match. -/
theorem tokens_alike (h : FieldText q e) {s : Layout} (hs : Layout.Surrounds .start s)
    (base limit : Nat) :
    (enclosed (Whole e)).Results
      (fun tokens us => (current tokens).kind ≠ .endMarker ∧
        ∃ newline eof, newline.kind = .newline ∧ eof.kind = .endMarker ∧
          Enclosed (Outside (Whole e)) .endMarker [newline, eof] 0 tokens us)
      (tokenizeEmbedded e base limit)
      (Layout.run ⟨.file, limit + 1, 0⟩ s (lexemes e ++ [⟨.op, [')']⟩])) := by
  refine (Layout.run_surrounded hs h.balanced (fun hknown => outside_of_field h hknown)
    fun l hl => (by cases hl)).mono fun tokens us hr => ?_
  obtain ⟨⟨newline, eof, hnewline, heof, hstreams⟩, hknown, hempty⟩ := hr
  refine ⟨fun hend => ?_, newline, eof, hnewline, heof, hstreams⟩
  -- a text all of whose lexemes leave no token is blank
  have hvisible := h.visible
  rw [Bool.eq_false_iff] at hvisible
  refine hvisible (List.all_eq_true.mpr fun c hc => ?_)
  rw [← flatten_lexemes e, List.mem_flatten] at hc
  obtain ⟨text, htext, hc⟩ := hc
  obtain ⟨l, hl, rfl⟩ := List.mem_map.mp htext
  have hopen : Open l.text := fun d hd => h.opened d <| by
    rw [← flatten_lexemes e]
    exact List.mem_flatten.mpr ⟨l.text, htext, hd⟩
  exact isWhiteSpace_of_gap hl hopen (hknown l hl) (hempty hend l hl) c hc

/-! ## An expression in parentheses -/

theorem plain_of_string {t : Token} (h : t.kind = .string) : Plain t := by
  have hop : ∀ op, t.isOp op = false := fun op => by
    rw [Token.isOp, h]
    rfl
  have hword : ∀ word, t.isWord word = false := fun word => by
    rw [Token.isWord, h]
    rfl
  refine ⟨⟨fun op _ => hop op, fun word _ => hword word⟩, ?_, hop _, fun word _ => hword word⟩
  rw [h]
  decide

theorem steady_parenthesized (spell : List Char → List Char) :
    Steady fun fuel => parenthesized (Rule.run spell fuel) :=
  Steady.of_rules (fun h k => h.parenthesized k) spell

theorem steady_embedded (spell : List Char → List Char) (text : List Char) (base : Nat) :
    Steady fun fuel => embedded (Rule.run spell fuel) text base :=
  Steady.of_agrees fun _ _ hle k =>
    embedded_same (rules_identical hle) text (fun _ => rfl) (identical.streams k)

/-- The tokens of the expression of a field are read alike in parentheses. -/
theorem reads_alike (spell : List Char → List Char) (limit : Nat) (hle : fuel ≤ fuel')
    {newline eof : Token} (hs : Enclosed (Outside (Whole e)) .endMarker [newline, eof] 0 ts us)
    (hts : (current ts).kind ≠ .endMarker) :
    (enclosed (Whole e)).Results (fun r r' => Ended [newline, eof] r.1 r'.1 r.2 r'.2)
      (outcome (yieldOr (Rule.run spell fuel) .starTestList >>= endOfText .endMarker) ⟨limit, 0⟩ ts)
      (outcome (parenthesized (Rule.run spell fuel')) ⟨limit + 1, 1⟩ us) :=
  relates_text hle (List.cons_ne_nil _ _) hs hts ⟨Nat.le_refl _, .inr rfl⟩

/-- A text that is read in a field is read in parentheses, with the same value. -/
theorem parseSpelled_inParentheses {v : Expr} (h : FieldText q e) (limit base : Nat)
    (hv : outcome (embedded (Rule.run spell fuel) e base) ⟨limit, 0⟩ ts = .ok (v, us)) :
    parseSpelled spell (inParentheses e) (limit + 1) = .ok ⟨[.expr v]⟩ := by
  obtain ⟨t, s, ht, hs, hsource⟩ := tokenize_inParentheses h.opened limit
  rw [outcome_embedded] at hv
  obtain ⟨tokens, htokens, hv⟩ := bind_ok hv
  have htokens : tokenizeEmbedded e base limit = .ok tokens := htokens
  have halike := tokens_alike h hs base limit
  rw [htokens] at halike
  obtain ⟨vs, hvs, hne, newline, eof, hnewline, heof, hstreams⟩ := halike.of_ok
  rw [if_neg hne] at hv
  obtain ⟨r, hr, heq⟩ := map_ok hv
  obtain rfl : r.1 = v := congrArg Prod.fst heq
  rw [hvs] at hsource
  exact parseSpelled_grouped hsource ht hnewline heof hstreams hne hr

/-- A result that is not excused, where the other one is a value. -/
theorem Parser.TokenLikeness.Results.exists_ok {c : TokenLikeness} {α β : Type} {Q : α → β → Prop}
    {r : Except SyntaxError α} {b : β} (h : c.Results Q r (.ok b))
    (hr : ∀ err, r = .error err → ¬ c.excused err.cause) : ∃ a, r = .ok a ∧ Q a b := by
  cases h with
  | ok hq => exact ⟨_, rfl, hq⟩
  | excused hexc => exact absurd hexc (hr _ rfl)

/-- A text that is read in parentheses and has no clause of a comprehension outside its brackets is
read in a field. -/
theorem exists_embedded {m : Module} (h : FieldText q e) (hwhole : Whole e) (limit base : Nat)
    (hts : Readable ts) (hm : parseSpelled spell (inParentheses e) (limit + 1) = .ok m) :
    ∃ v fuel, outcome (embedded (Rule.run spell fuel) e base) ⟨limit, 0⟩ ts = .ok (v, ts) := by
  obtain ⟨t, s, ht, hs, hsource⟩ := tokenize_inParentheses h.opened limit
  have hgiven : ∀ {err : SyntaxError}, err.cause ≠ .outOfFuel →
      ¬ (enclosed (Whole e)).excused err.cause :=
    fun hfuel hexc => hexc.elim hfuel fun hnot => hnot.1 hwhole
  have halike := tokens_alike h hs base limit
  generalize Layout.run ⟨.file, limit + 1, 0⟩ s (lexemes e ++ [⟨.op, [')']⟩]) = r
    at hsource halike
  cases r with
  | error err =>
    rw [parseSpelled_eq, hsource] at hm
    cases hm
  | ok vs =>
    obtain ⟨tokens, htokens, hne, newline, eof, -, -, hstreams⟩ :=
      halike.exists_ok fun err herr => hgiven (fueled_run _ _ _ err herr)
    -- the parentheses are read with some number of levels, and so with any greater one
    obtain ⟨fuel, r, hr⟩ := exists_atom hsource (plain_of_open ht) hm
    have hcurrent : (current (t :: vs)).isOp "(" = true := ht
    have hvs : vs ≠ [] := by
      obtain ⟨-, -, -, -, -, -⟩ := hstreams
      exact List.append_ne_nil_of_right_ne_nil _ (List.cons_ne_nil _ _)
    rw [outcome_atom_open hcurrent] at hr
    obtain _ | k := fuel
    · cases hr
    replace hr := (outcome_bracketed_open hcurrent).symm.trans hr
    rw [dropCurrent_cons hvs] at hr
    let bound := 32 * (e.length + 2)
    have hgroup : outcome (parenthesized (Rule.run spell (max k bound))) ⟨limit + 1, 1⟩ vs = .ok r := by
      refine (steady_parenthesized spell k _ (Nat.le_max_left _ _) _ vs fun err herr => ?_).trans hr
      exact nomatch hr.symm.trans herr
    have htext := reads_alike spell limit (Nat.le_max_right k bound) hstreams hne
    rw [hgroup] at htext
    have hbelow : Below (Rule.run spell bound) bound := below_run bound
    have hbound := (reads_embedded hbelow (Nat.le_refl bound) base).outcome hts ⟨limit, 0⟩
    have heq : outcome (embedded (Rule.run spell bound) e base) ⟨limit, 0⟩ ts =
        (outcome (yieldOr (Rule.run spell bound) .starTestList >>= endOfText .endMarker) ⟨limit, 0⟩ tokens).map
          fun r => (r.1, ts) := by
      rw [outcome_embedded]
      show (tokenizeEmbedded e base limit >>= _) = _
      rw [htokens]
      exact if_neg hne
    rw [heq] at hbound
    obtain ⟨r', hr', -⟩ := htext.exists_ok fun err herr => hgiven <| by
      rw [herr] at hbound
      exact hbound
    exact ⟨r'.1, bound, by rw [heq, hr']; rfl⟩

/-! ## A literal with one field -/

theorem closeSingle_run {r : List Char} (hq : q ≠ '\\')
    (h : ∀ c ∈ text, c ≠ '\\' ∧ c ≠ q ∧ ¬ (c = '\n' ∨ c = '\r')) :
    closeSingle q (text ++ q :: r) = some (text.length + 1) := by
  induction text with
  | nil => exact closeSingle_quote hq r
  | cons c text ih =>
    obtain ⟨⟨hc, hcq, hbreak⟩, hrest⟩ := List.forall_mem_cons.mp h
    rw [List.cons_append, closeSingle_cons hc hcq hbreak, ih hrest]
    rfl

theorem fieldLiteral_eq (q : Char) (e : List Char) : fieldLiteral q e =
    ['f'] ++ (quotes q false ++ ('{' :: (e ++ ['}']) ++ quotes q false)) := by
  simp [fieldLiteral, quotes]

/-- A body that begins with a field begins with no quote. -/
theorem head?_brace (hq : Quoted.isQuote q = true) (r : List Char) : ('{' :: r).head? ≠ some q := by
  intro h
  rw [← Option.some.inj h] at hq
  cases hq

/-- The parts of a literal with one field. -/
theorem isLiteral_fieldLiteral (h : FieldText q e) :
    IsLiteral (fieldLiteral q e) ['f'] q false ('{' :: (e ++ ['}'])) := by
  rw [fieldLiteral_eq]
  exact isLiteral_quotes (by decide) h.quote (.inr (head?_brace h.quote _))

theorem split_fieldLiteral (h : FieldText q e) :
    Quoted.split (fieldLiteral q e) = ⟨false, false, true, '{' :: (e ++ ['}']), 2⟩ :=
  (isLiteral_fieldLiteral h).split_eq

/-- The literal is one lexeme. -/
theorem lexemes_fieldLiteral (h : FieldText q e) :
    lexemes (fieldLiteral q e) = [⟨.string, fieldLiteral q e⟩] := by
  have hbody : ∀ c ∈ '{' :: (e ++ ['}']), c ≠ '\\' ∧ c ≠ q ∧ ¬ (c = '\n' ∨ c = '\r') := by
    have hbrace : ∀ c ∈ ['{', '}'], c ≠ '\\' ∧ c ≠ q ∧ ¬ (c = '\n' ∨ c = '\r') := by
      refine fun c hc => ⟨?_, ?_, ?_⟩
      · rintro rfl
        exact absurd hc (by decide)
      · rcases isQuote_cases h.quote with rfl | rfl <;> rintro rfl <;> exact absurd hc (by decide)
      · rintro (rfl | rfl) <;> exact absurd hc (by decide)
    intro c hc
    rw [List.mem_cons, List.mem_append, List.mem_singleton] at hc
    rcases hc with rfl | hc | rfl
    · exact hbrace _ (by decide)
    · have hline := h.line c hc
      refine ⟨(h.opened c hc).1, ?_, fun hbreak => hbreak.elim hline.1 hline.2⟩
      rintro rfl
      exact h.unquoted hc
    · exact hbrace _ (by decide)
  have hslash : q ≠ '\\' := by rcases isQuote_cases h.quote with rfl | rfl <;> decide
  have hclose := closeSingle_run (r := []) hslash hbody
  refine lexemes_of_string ?_
  rw [fieldLiteral_eq, string_append (by decide) h.quote rfl, quoted_quotes h.quote
    (.inr (head?_brace h.quote _)), if_neg Bool.false_ne_true, show quotes q false = [q] from rfl, hclose]
  simp only [Option.map_some, List.length_append, List.length_cons, List.length_nil]
  exact congrArg some (by omega)

/-- A field with nothing but an expression has its value. -/
theorem field_fieldText (h : FieldText q e) (spec : List Char → Nat → Parser (List Piece))
    (start : Nat) :
    outcome (Parser.field spell rule spec (e ++ ['}']) start) n ts =
      (outcome (embedded rule e start) n ts).map fun r =>
        (([.value (.formattedValue r.1 none none)], [], start + byteLength e + 1), r.2) := by
  unfold Parser.field
  rw [splitField_moved h.found start start, outcome_bind_of (outcome_ofExcept _)]
  dsimp only
  rw [h.visible, if_neg Bool.false_ne_true, outcome_bind]
  cases outcome (embedded rule e start) n ts <;> rfl

/-- A literal with one field is its expression. -/
theorem strings_fieldLiteral {t : Token} (h : FieldText q e) (hbrace : e.head? ≠ some '{')
    (ht : t.text = String.ofList (fieldLiteral q e)) :
    outcome (strings spell rule [t]) n ts =
      (outcome (embedded rule e (t.span.start + 3)) n ts).map fun r =>
        (.joinedStr [.formattedValue r.1 none none], r.2) := by
  have hsplit : Quoted.split t.text.toList = ⟨false, false, true, '{' :: (e ++ ['}']), 2⟩ := by
    rw [ht, String.toList_ofList, split_fieldLiteral h]
  have hhead : (e ++ ['}']).head? ≠ some '{' := by
    cases e with
    | nil => exact nofun
    | cons c r => exact hbrace
  have hpieces : outcome (literalPieces spell rule t) n ts =
      (outcome (embedded rule e (t.span.start + 3)) n ts).map fun r =>
        ([.text [], .value (.formattedValue r.1 none none), .text []], r.2) := by
    have hcut : splitLiteral false false ('{' :: (e ++ ['}'])) = ([], '{' :: (e ++ ['}'])) := rfl
    have hempty : outcome (textPiece ⟨false, t.span⟩ []) n ts = .ok ([.text []], ts) := rfl
    unfold literalPieces
    rw [hsplit]
    show outcome (pieces spell rule ⟨false, t.span⟩ 2 ('{' :: (e ++ ['}'])) (t.span.start + 2)) n ts =
      _
    rw [pieces, piecesUpTo_field hcut hhead, outcome_bind_of hempty, outcome_bind]
    show (outcome (Parser.field spell rule _ (e ++ ['}']) (t.span.start + 3)) n ts >>= _) = _
    rw [field_fieldText h]
    cases outcome (embedded rule e (t.span.start + 3)) n ts <;> rfl
  unfold strings
  simp only [List.map_cons, List.map_nil, hsplit, List.any_cons, List.any_nil]
  show outcome (List.mapM _ _ >>= _) n ts = _
  rw [List.mapM_cons, bind_assoc, outcome_bind, hpieces]
  cases outcome (embedded rule e (t.span.start + 3)) n ts <;> rfl

/-- An atom that is one string. -/
theorem outcome_atom_string {t newline eof : Token} (ht : t.kind = .string)
    (hnewline : newline.kind = .newline) :
    outcome (atom spell rule) n [t, newline, eof] =
      outcome (strings spell rule [t]) n [newline, eof] := by
  have hother : newline.kind ≠ .string := by
    rw [hnewline]
    decide
  rw [atom, outcome_peek_bind]
  simp only [current, ht]
  rw [outcome_bind_of (Part.items_string ht hother).many]

/-- A program that is a literal with one field is accepted if and only if the field is, and with the
value of the field. -/
theorem parseSpelled_fieldLiteral (spell : List Char → List Char) (h : FieldText q e)
    (hbrace : e.head? ≠ some '{') (limit : Nat) :
    ∃ base ts, Readable ts ∧ ∀ program, parseSpelled spell (fieldLiteral q e) limit = .ok program ↔
      ∃ v fuel, program = fieldProgram v ∧
        outcome (embedded (Rule.run spell fuel) e base) ⟨limit, 0⟩ ts = .ok (v, ts) := by
  obtain ⟨t, newline, eof, htokens, ht, hnewline, heof⟩ :=
    tokenize_of_string (lexemes_fieldLiteral h) limit
  have hkind : t.kind = .string := congrArg Word.kind ht
  have htext : t.text = String.ofList (fieldLiteral q e) := congrArg Word.text ht
  have hatom : ∀ fuel, outcome (atom spell (Rule.run spell fuel)) ⟨limit, 0⟩ [t, newline, eof] =
      (outcome (embedded (Rule.run spell fuel) e (t.span.start + 3)) ⟨limit, 0⟩ [newline, eof]).map
        fun r => (.joinedStr [.formattedValue r.1 none none], r.2) := fun fuel => by
    rw [outcome_atom_string hkind hnewline, strings_fieldLiteral h hbrace htext]
  have hbegins : ∀ r, Rule.Begins r (current ([t] ++ [newline, eof])).word := fun r => by
    show Rule.Begins r t.word
    rw [ht]
    exact .string
  have hprogram : ∀ {v fuel us},
      outcome (embedded (Rule.run spell fuel) e (t.span.start + 3)) ⟨limit, 0⟩ [newline, eof] =
        .ok (v, us) → us = [newline, eof] ∧
      parseSpelled spell (fieldLiteral q e) limit = .ok (fieldProgram v) := by
    intro v fuel us hv
    obtain rfl : us = [newline, eof] := by
      rw [outcome_embedded] at hv
      obtain ⟨tokens, -, hv⟩ := bind_ok hv
      split at hv
      · cases hv
      · obtain ⟨r, -, heq⟩ := map_ok hv
        exact (congrArg Prod.snd heq).symm
    have htokens : tokenize (fieldLiteral q e) limit = .ok ([t] ++ [newline, eof]) := htokens
    refine ⟨rfl, parseSpelled_of_atom htokens hnewline heof hbegins ?_⟩
    refine eventually_atTop.mpr ⟨fuel, fun fuel' hle => ?_⟩
    have hsteady := steady_embedded spell e (t.span.start + 3) fuel fuel' hle ⟨limit, 0⟩
      [newline, eof] fun err herr => nomatch hv.symm.trans herr
    exact (hatom fuel').trans (by rw [hsteady, hv]; rfl)
  refine ⟨t.span.start + 3, [newline, eof], ?_, fun program => ⟨fun hp => ?_, ?_⟩⟩
  · exact (readable_of_tokenize htokens).suffix ⟨[t], rfl⟩ (List.cons_ne_nil _ _)
  · obtain ⟨fuel, r, hr⟩ := exists_atom htokens (plain_of_string hkind) hp
    rw [hatom] at hr
    obtain ⟨⟨v, us⟩, hv, -⟩ := map_ok hr
    obtain ⟨rfl, hf⟩ := hprogram hv
    exact ⟨v, fuel, Except.ok.inj (hp.symm.trans hf), hv⟩
  · rintro ⟨v, fuel, rfl, hv⟩
    exact (hprogram hv).2

/-! ## A field and parentheses -/

/-- A limit that a source does not reach may be exceeded by one. -/
theorem parseModule_succ {source : List Char}
    (hn : ∀ err, parseModule source limit = .error err → err.cause.isNesting = false) :
    (parseModule source limit).toOption = (parseModule source (limit + 1)).toOption := by
  have hresults := parseModule_verbatim source (Nat.le_succ limit)
  have hfuel := (parseSpelled_spec id source limit).1
  rw [← parseModule] at hfuel
  generalize parseModule source limit = r at hresults hfuel hn ⊢
  generalize parseModule source (limit + 1) = r' at hresults ⊢
  cases hresults with
  | ok hm => rw [hm]
  | error => rfl
  | @excused a _ hexc =>
    rcases hexc with ⟨-, hnesting⟩ | hout | hfalse
    · cases hnesting.symm.trans (hn a rfl)
    · exact absurd hout (hfuel a rfl)
    · exact absurd trivial hfalse

theorem toOption_eq_some {α : Type} {r : Except SyntaxError α} {a : α} :
    r.toOption = some a ↔ r = .ok a := by
  cases r <;> simp [Except.toOption]

/-- A limit on nesting at which a text is read in parentheses as deep as `limit` allows without
them: one more, or the same if the parentheses do not reach it. -/
def Admits (e : List Char) (limit limit' : Nat) : Prop :=
  limit' = limit + 1 ∨ limit' = limit ∧
    ∀ err, parseModule (inParentheses e) limit = .error err → err.cause.isNesting = false

theorem Admits.parseModule_iff {limit' : Nat} (h : Admits e limit limit') {program : Module} :
    parseModule (inParentheses e) limit' = .ok program ↔
      parseModule (inParentheses e) (limit + 1) = .ok program := by
  rcases h with rfl | ⟨rfl, hn⟩
  · rfl
  · rw [← toOption_eq_some, ← toOption_eq_some, parseModule_succ hn]

/-- A literal with one field is accepted only if its expression is accepted in parentheses, and then
with the same value; and a text without the word of a comprehension outside its brackets that is
accepted in parentheses is accepted in a field. -/
theorem parseModule_fieldLiteral (h : FieldText q e) (hbrace : e.head? ≠ some '{') {limit' : Nat}
    (hlimit : Admits e limit limit') :
    (∀ program, parseModule (fieldLiteral q e) limit = .ok program →
      ∃ v, program = fieldProgram v ∧ parseModule (inParentheses e) limit' = .ok ⟨[.expr v]⟩) ∧
    (Whole e → ∀ v, parseModule (inParentheses e) limit' = .ok ⟨[.expr v]⟩ →
      parseModule (fieldLiteral q e) limit = .ok (fieldProgram v)) := by
  obtain ⟨base, ts, hts, hliteral⟩ := parseSpelled_fieldLiteral id h hbrace limit
  refine ⟨fun program hp => ?_, fun hwhole v hv => ?_⟩
  · obtain ⟨v, fuel, rfl, hv⟩ := (hliteral program).mp hp
    exact ⟨v, rfl, hlimit.parseModule_iff.mpr (parseSpelled_inParentheses h limit base hv)⟩
  · have hv := hlimit.parseModule_iff.mp hv
    obtain ⟨v', fuel, hv'⟩ := exists_embedded h hwhole limit base hts hv
    have hsame : parseModule (inParentheses e) (limit + 1) = .ok ⟨[.expr v']⟩ :=
      parseSpelled_inParentheses h limit base hv'
    obtain rfl : v = v' := by
      cases hv.symm.trans hsame
      rfl
    exact (hliteral _).mpr ⟨v, fuel, rfl, hv'⟩

/-- A tuple without parentheses. -/
def pairText : List Char := ['a', ',', '*', 'b']

/-- Whether a program is a pair whose second item is starred. -/
def isStarredPair (m : Module) : Bool :=
  match m.body with
  | [.expr (.tuple [_, .starred _ _] _)] => true
  | _ => false

/-- In a field the text is a tuple. -/
theorem parseModule_fieldLiteral_pair :
    FieldText '"' pairText ∧ pairText.head? ≠ some '{' ∧ Admits pairText 0 1 ∧ Whole pairText ∧
      ∃ v, isStarredPair ⟨[.expr v]⟩ = true ∧
        parseModule (fieldLiteral '"' pairText) 0 = .ok (fieldProgram v) := by
  have htext : FieldText '"' pairText :=
    ⟨rfl, by decide, by simp [pairText], by simp [Open, pairText], rfl, by decide +kernel, rfl⟩
  have hwhole : Whole pairText := by
    unfold Whole
    decide +kernel
  obtain ⟨⟨stmts⟩, hm, hpair⟩ := exists_of_any (x := parseModule (inParentheses pairText) 1)
    (p := isStarredPair) (by decide +kernel)
  have hv : ∃ v, stmts = [.expr v] := by
    unfold isStarredPair at hpair
    dsimp only at hpair
    split at hpair
    · exact ⟨_, rfl⟩
    · cases hpair
  obtain ⟨v, rfl⟩ := hv
  exact ⟨htext, by decide, .inl rfl, hwhole, v, hpair,
    (parseModule_fieldLiteral htext (by decide) (.inl rfl)).2 hwhole v hm⟩

/-- A set with one element. -/
def setText : List Char := ['{', '1', '}']

/-- Whether a program is a formatted literal without a field. -/
def isPlainLiteral (m : Module) : Bool :=
  match m.body with
  | [.expr (.joinedStr [.constant _])] => true
  | _ => false

/-- An expression that begins with a brace doubles the brace of its field, and then the literal is a
text. -/
theorem parseModule_fieldLiteral_unlike :
    FieldText '"' setText ∧ (parseModule (inParentheses setText) 50).isOk = true ∧
      ∃ m, parseModule (fieldLiteral '"' setText) 50 = .ok m ∧ ∀ v, m ≠ fieldProgram v := by
  have hset : FieldText '"' setText :=
    ⟨rfl, by decide, by simp [setText], by simp [Open, setText], rfl, by decide +kernel, rfl⟩
  obtain ⟨m, hm, hplain⟩ := exists_of_any (x := parseModule (fieldLiteral '"' setText) 50)
    (p := isPlainLiteral) (by decide +kernel)
  refine ⟨hset, by decide +kernel, m, hm, ?_⟩
  rintro v rfl
  cases hplain

end PythonSyntax
