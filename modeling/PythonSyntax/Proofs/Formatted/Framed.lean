import PythonSyntax.Proofs.Enclosed.Program
import PythonSyntax.Proofs.Formatted.Body

/-
Programs that are one formatted literal.

A formatted literal is a body between its marks and quotes.  A program that is one such literal, as the
lexer sees it, is accepted if and only if its body has a reading, and then it is the literal of the pieces.
-/

namespace PythonSyntax

open PythonSyntax.Lexeme PythonSyntax.Parser Filter

/-- The marks and the quotes of a formatted literal. -/
structure Frame where
  marks : List Char
  quote : Char
  triple : Bool
  isMarks : marks.map Char.toLower ∈ [['f'], ['f', 'r'], ['r', 'f']]
  isQuote : Quoted.isQuote quote = true

namespace Frame

variable (w : Frame) {body : List Char}

/-- Whether a literal in this frame is raw. -/
def isRaw : Bool := (w.marks.map Char.toLower).contains 'r'

/-- The body in its quotes. -/
def quotedBody (body : List Char) : List Char :=
  quotes w.quote w.triple ++ (body ++ quotes w.quote w.triple)

/-- The literal with a body. -/
def literal (body : List Char) : List Char := w.marks ++ w.quotedBody body

/-! ## Marks -/

theorem not_isBytes : (w.marks.map Char.toLower).contains 'b' = false := by
  have hall : ∀ m ∈ [['f'], ['f', 'r'], ['r', 'f']], m.contains 'b' = false := by decide
  exact hall _ w.isMarks

theorem isFormatted : (w.marks.map Char.toLower).contains 'f' = true := by
  have hall : ∀ m ∈ [['f'], ['f', 'r'], ['r', 'f']], m.contains 'f' = true := by decide
  exact hall _ w.isMarks

theorem quote_ne {c : Char} (hc : Quoted.isQuote c = false) : c ≠ w.quote := by
  rintro rfl
  exact nomatch w.isQuote.symm.trans hc

theorem exists_quotedBody (body : List Char) : ∃ r, w.quotedBody body = w.quote :: r := by
  unfold quotedBody quotes
  split <;> exact ⟨_, rfl⟩

theorem mem_markWords : w.marks.map Char.toLower ∈ markWords := by
  have hall : ∀ m ∈ [['f'], ['f', 'r'], ['r', 'f']], m ∈ markWords := by decide
  exact hall _ w.isMarks

/-! ## One lexeme -/

/-- A literal is a string as far as its quotes close. -/
theorem string_literal (body : List Char) :
    Lexeme.string (w.literal body) = (quoted (w.quotedBody body)).map (w.marks.length + ·) := by
  obtain ⟨r, hr⟩ := w.exists_quotedBody body
  exact string_append w.mem_markWords w.isQuote (by rw [hr]; rfl)

/-- A literal is one lexeme if and only if its quotes close at its end. -/
theorem lexemes_literal_iff (body : List Char) :
    lexemes (w.literal body) = [⟨.string, w.literal body⟩] ↔
      quoted (w.quotedBody body) = some (w.quotedBody body).length := by
  have hlength : (w.literal body).length = w.marks.length + (w.quotedBody body).length :=
    List.length_append
  constructor
  · intro h
    obtain ⟨m, n, hkinds, hn, htext, -⟩ := measured h
    obtain rfl : m = Lexeme.string := by simpa [kinds] using hkinds
    have hle : (w.literal body).length ≤ n := by
      have htake := congrArg List.length htext
      rw [List.length_take] at htake
      dsimp only at htake
      omega
    rw [string_literal] at hn
    obtain ⟨k, hk, rfl⟩ := Option.map_eq_some_iff.mp hn
    have hbound : k ≤ (w.quotedBody body).length := bounded_quoted _ _ hk
    rw [hk, show k = (w.quotedBody body).length by omega]
  · intro h
    refine lexemes_of_string ?_
    rw [string_literal, h, Option.map_some, hlength]

/-- A body in triple quotes, or one that begins with a field, begins with no quote that could count as one
of the opening ones. -/
theorem triple_or_head (h : w.triple = true ∨ ∃ r, body = '{' :: r) :
    w.triple = true ∨ body.head? ≠ some w.quote := by
  refine h.imp_right ?_
  rintro ⟨r, rfl⟩ hhead
  exact w.quote_ne (c := '{') rfl (Option.some.inj hhead)

/-- Where the quotes of a literal close. -/
theorem quoted_quotedBody (h : w.triple = true ∨ ∃ r, body = '{' :: r) :
    quoted (w.quotedBody body) =
      ((if w.triple then closeTriple w.quote else closeSingle w.quote)
        (body ++ quotes w.quote w.triple)).map (· + (quotes w.quote w.triple).length) :=
  quoted_quotes w.isQuote (w.triple_or_head h)

theorem closeTriple_run {q : Char} {text r : List Char} (h : ∀ c ∈ text, c ≠ '\\' ∧ c ≠ q) :
    closeTriple q (text ++ r) = (closeTriple q r).map (· + text.length) := by
  induction text with
  | nil => exact Option.map_id'.symm
  | cons c text ih =>
    obtain ⟨⟨hc, hcq⟩, hrest⟩ := List.forall_mem_cons.mp h
    have hstart : ¬ startsTriple q (c :: (text ++ r)) = true := by
      intro hs
      obtain ⟨r', hr⟩ := List.isPrefixOf_iff_prefix.mp hs
      exact hcq (List.cons.inj hr).1.symm
    rw [List.cons_append, closeTriple_cons hc hstart, ih hrest, Option.map_map]
    rfl

/-- No character of a text ends or hides the end of a literal in this frame. -/
structure Inside (text : List Char) : Prop where
  unquoted : ∀ c ∈ text, c ≠ '\\' ∧ c ≠ w.quote
  line : w.triple = false → ∀ c ∈ text, c ≠ '\n' ∧ c ≠ '\r'

section

variable {w}

theorem inside_nil : w.Inside [] := ⟨nofun, fun _ => nofun⟩

theorem Inside.append {a b : List Char} (ha : w.Inside a) (hb : w.Inside b) : w.Inside (a ++ b) :=
  ⟨List.forall_mem_append.mpr ⟨ha.unquoted, hb.unquoted⟩,
    fun h => List.forall_mem_append.mpr ⟨ha.line h, hb.line h⟩⟩

/-- The marks of a field are such characters. -/
theorem Inside.cons {c : Char} {text : List Char} (hc : c ∈ ['{', '}', ':']) (h : w.Inside text) :
    w.Inside (c :: text) := by
  obtain ⟨hslash, hquote, hline⟩ :
      c ≠ '\\' ∧ Quoted.isQuote c = false ∧ c ≠ '\n' ∧ c ≠ '\r' := by
    simp only [List.mem_cons, List.not_mem_nil, or_false] at hc
    rcases hc with rfl | rfl | rfl <;> decide
  exact ⟨List.forall_mem_cons.mpr ⟨⟨hslash, w.quote_ne hquote⟩, h.unquoted⟩,
    fun hsingle => List.forall_mem_cons.mpr ⟨hline, h.line hsingle⟩⟩

end

/-- A body of such characters is all of the literal. -/
theorem lexemes_plain (h : w.triple = true ∨ ∃ r, body = '{' :: r) (hbody : w.Inside body) :
    lexemes (w.literal body) = [⟨.string, w.literal body⟩] := by
  have hquote : w.quote ≠ '\\' := fun h => w.quote_ne (c := '\\') (by decide) h.symm
  refine (w.lexemes_literal_iff body).mpr ?_
  rw [w.quoted_quotedBody h, quotedBody, List.length_append, List.length_append]
  cases htriple : w.triple with
  | true =>
    have hclose : closeTriple w.quote (quotes w.quote true) = some 3 :=
      closeTriple_start hquote (List.isPrefixOf_iff_prefix.mpr ⟨[], rfl⟩)
    rw [if_pos rfl, closeTriple_run hbody.unquoted, hclose]
    show some (3 + body.length + 3) = some (3 + (body.length + 3))
    exact congrArg some (by omega)
  | false =>
    have hclose := closeSingle_run (r := []) hquote fun c hc =>
      ⟨(hbody.unquoted c hc).1, (hbody.unquoted c hc).2, not_or.mpr (hbody.line htriple c hc)⟩
    rw [if_neg Bool.false_ne_true]
    show (closeSingle w.quote (body ++ [w.quote])).map _ = _
    rw [hclose]
    show some (body.length + 1 + 1) = some (1 + (body.length + 1))
    exact congrArg some (by omega)

/-! ## Its parts -/

theorem isLiteral_literal (h : w.triple = true ∨ ∃ r, body = '{' :: r) :
    IsLiteral (w.literal body) w.marks w.quote w.triple body :=
  isLiteral_quotes w.mem_markWords w.isQuote (w.triple_or_head h)

theorem split_literal (h : w.triple = true ∨ ∃ r, body = '{' :: r) :
    Quoted.split (w.literal body) =
      ⟨w.isRaw, false, true, body, byteLength w.marks + (quotes w.quote w.triple).length⟩ := by
  rw [(w.isLiteral_literal h).split_eq, w.not_isBytes, w.isFormatted]
  rfl

/-! ## Programs -/

variable {spell : List Char → List Char} {n : Nesting} {fuel limit : Nat} {ts us : List Token} {t : Token}
  {e : Expr} {ps : List Piece}

theorem outcome_strings_literal (h : w.triple = true ∨ ∃ r, body = '{' :: r)
    (ht : t.text = String.ofList (w.literal body)) (rule : Rule → Parser Expr) :
    outcome (strings spell rule [t]) n ts =
      (outcome (pieces spell rule ⟨w.isRaw, t.span⟩ fieldLevels body
        (t.span.start + (byteLength w.marks + (quotes w.quote w.triple).length))) n ts).map fun r =>
          (.joinedStr (merge r.1), r.2) := by
  have hsplit := w.split_literal h
  rw [← String.toList_ofList (l := w.literal body), ← ht] at hsplit
  unfold strings literalPieces
  simp only [List.map_cons, List.map_nil, hsplit, List.any_cons, List.any_nil]
  show outcome (List.mapM _ _ >>= _) n ts = _
  rw [List.mapM_cons, bind_assoc, outcome_bind]
  simp only [hsplit, if_true]
  cases outcome (pieces spell rule ⟨w.isRaw, t.span⟩ fieldLevels body _) n ts with
  | error err => rfl
  | ok r => exact congrArg (fun ps => Except.ok (Expr.joinedStr (merge ps), r.2)) (List.append_nil r.1)

/-- A program that is one literal is accepted if and only if its body has a reading, and is then the
literal of the pieces. -/
theorem parseSpelled_literal (spell : List Char → List Char)
    (h : w.triple = true ∨ ∃ r, body = '{' :: r)
    (hlexemes : lexemes (w.literal body) = [⟨.string, w.literal body⟩]) (limit : Nat) {program : Module} :
    parseSpelled spell (w.literal body) limit = .ok program ↔
      ∃ ps, program = ⟨[.expr (.joinedStr (merge ps))]⟩ ∧
        ReadsPieces spell ⟨limit, 0⟩ w.isRaw fieldLevels body ps := by
  obtain ⟨t, newline, eof, htokens, ht, hnewline, heof⟩ := tokenize_of_string hlexemes limit
  have hkind : t.kind = .string := congrArg Word.kind ht
  have htext : t.text = String.ofList (w.literal body) := congrArg Word.text ht
  let start := t.span.start + (byteLength w.marks + (quotes w.quote w.triple).length)
  have hatom : ∀ fuel, outcome (atom spell (Rule.run spell fuel)) ⟨limit, 0⟩ [t, newline, eof] =
      (outcome (pieces spell (Rule.run spell fuel) ⟨w.isRaw, t.span⟩ fieldLevels body start) ⟨limit, 0⟩
        [newline, eof]).map fun r => (.joinedStr (merge r.1), r.2) := fun fuel => by
    rw [outcome_atom_string hkind hnewline, w.outcome_strings_literal h htext]
  have hbegins : ∀ r, Rule.Begins r (current ([t] ++ [newline, eof])).word := fun r => by
    show Rule.Begins r t.word
    rw [ht]
    exact .string
  have hprogram : ∀ {ps}, ReadsPieces spell ⟨limit, 0⟩ w.isRaw fieldLevels body ps →
      parseSpelled spell (w.literal body) limit = .ok ⟨[.expr (.joinedStr (merge ps))]⟩ := by
    rintro ps ⟨fuel, hps⟩
    have htokens : tokenize (w.literal body) limit = .ok ([t] ++ [newline, eof]) := htokens
    refine parseSpelled_of_atom htokens hnewline heof hbegins (eventually_atTop.mpr ⟨fuel, fun k hk => ?_⟩)
    exact (hatom k).trans (by rw [hps ⟨w.isRaw, t.span⟩ rfl start k hk]; rfl)
  constructor
  · intro hp
    obtain ⟨fuel, r, hr⟩ := exists_atom htokens (plain_of_string hkind) hp
    rw [hatom] at hr
    obtain ⟨⟨ps, us⟩, hps, -⟩ := map_ok hr
    have hreads := (readsPieces_of_ok hps).2
    exact ⟨ps, Except.ok.inj (hp.symm.trans (hprogram hreads)), hreads⟩
  · rintro ⟨ps, rfl, hps⟩
    exact hprogram hps

/-- Such a program is the literal of these values if and only if they are those of a reading. -/
theorem parseSpelled_values (spell : List Char → List Char)
    (h : w.triple = true ∨ ∃ r, body = '{' :: r)
    (hlexemes : lexemes (w.literal body) = [⟨.string, w.literal body⟩]) (limit : Nat) {es : List Expr} :
    parseSpelled spell (w.literal body) limit = .ok ⟨[.expr (.joinedStr es)]⟩ ↔
      ∃ ps, merge ps = es ∧ Reading w.isRaw (ReadsField spell ⟨limit, 0⟩ w.isRaw 1) body ps := by
  rw [w.parseSpelled_literal spell h hlexemes limit]
  refine exists_congr fun ps => and_congr ⟨fun hprogram => ?_, fun hes => hes ▸ rfl⟩ readsPieces_succ
  injection hprogram with hprogram
  injection hprogram with hprogram
  injection hprogram with hprogram
  injection hprogram with hprogram
  exact hprogram.symm

end Frame

end PythonSyntax
