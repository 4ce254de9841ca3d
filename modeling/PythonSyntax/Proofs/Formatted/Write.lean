import PythonSyntax.Proofs.Layout.Step
import PythonSyntax.Proofs.Spelling.Render

/-
The writing of formatted literals.

A formatted literal is written from parts, each a text or a field that holds a name.  Characters
that mean something in the literal are escaped or doubled, so no quote of the body closes the
literal, and it is one token.
-/

namespace PythonSyntax

/-- A conversion, told by its letter. -/
structure Conversion where
  letter : Char
  isConversion : Parser.isConversion letter = true

/-- There are three conversions. -/
theorem Conversion.letter_eq (k : Conversion) : k.letter = 's' ∨ k.letter = 'r' ∨ k.letter = 'a' := by
  have h := k.isConversion
  simpa only [Parser.isConversion, Bool.or_eq_true, beq_iff_eq, or_assoc] using h

/-- A name of ASCII that is not reserved. -/
structure PlainName where
  text : String
  isPlain : isPlainName text = true

/-- A name begins with a character of names. -/
theorem PlainName.exists_cons (name : PlainName) :
    ∃ c r, name.text.toList = c :: r ∧ (c.isAlphanum || c == '_') = true := by
  have hascii := isAsciiName_of_isPlainName name.isPlain
  have hchars := Lexeme.isNameChar_of_isAsciiName hascii
  cases htext : name.text.toList with
  | nil =>
    rw [htext] at hascii
    cases hascii
  | cons c r =>
    rw [htext] at hchars
    exact ⟨c, r, rfl, hchars c List.mem_cons_self⟩

/-- A part of a formatted literal: a text, or a field with a name in it. -/
inductive Part where
  | text (chars : List Char)
  | field (name : PlainName) (conversion : Option Conversion)

namespace Part

/-! ## Writing -/

/-- How a character of a text is written between double quotes. -/
def writeChar (c : Char) : List Char :=
  if c = '\\' then ['\\', '\\']
  else if c = '"' then ['\\', '"']
  else if c = '\n' then ['\\', 'n']
  else if c = '\r' then ['\\', 'r']
  else if c = '{' then ['{', '{']
  else if c = '}' then ['}', '}']
  else [c]

/-- What stands for a character: an escape, a doubled brace, or the character itself. -/
inductive Stands (c : Char) : List Char → Prop where
  | escaped {d} : d ∈ ['\\', '"', 'n', 'r'] → Escape.simple? d = some c → Stands c ['\\', d]
  | doubled : c = '{' ∨ c = '}' → Stands c [c, c]
  | itself : c ∉ ['\\', '"', '\n', '\r', '{', '}'] → Stands c [c]

theorem stands_writeChar (c : Char) : Stands c (writeChar c) := by
  unfold writeChar
  split
  · next h => subst h; exact .escaped (by decide) rfl
  split
  · next h => subst h; exact .escaped (by decide) rfl
  split
  · next h => subst h; exact .escaped (by decide) rfl
  split
  · next h => subst h; exact .escaped (by decide) rfl
  split
  · next h => subst h; exact .doubled (.inl rfl)
  split
  · next h => subst h; exact .doubled (.inr rfl)
  · exact .itself (by simp [*])

/-- How a text is written. -/
def writeText (cs : List Char) : List Char := cs.flatMap writeChar

/-- How a conversion is written after the expression of a field. -/
def writeConversion : Option Conversion → List Char
  | none => []
  | some k => ['!', k.letter]

/-- How a part is written. -/
def write : Part → List Char
  | text cs => writeText cs
  | field name k => '{' :: (name.text.toList ++ (writeConversion k ++ ['}']))

/-- The body of a literal. -/
def body (ps : List Part) : List Char := ps.flatMap write

/-- A formatted literal. -/
def literal (ps : List Part) : List Char := 'f' :: '"' :: (body ps ++ ['"'])

/-! ## What is written -/

/-- Values with a text before them: it leaves no trace if it is empty, and is one constant with a
text that follows. -/
def prepend (t : Text) (values : List Expr) : List Expr :=
  if t = [] then values
  else match values with
    | .constant (.str u) :: vs => .constant (.str (t ++ u)) :: vs
    | vs => .constant (.str t) :: vs

/-- The values of a literal. -/
def values : List Part → List Expr
  | [] => []
  | text cs :: ps => prepend (Text.ofChars cs) (values ps)
  | field name k :: ps =>
    .formattedValue (.load name.text) (k.map Conversion.letter) none :: values ps

/-- The characters of the texts, with an opening brace for each field. -/
def outline : List Part → List Char
  | [] => []
  | text cs :: ps => cs ++ outline ps
  | field _ _ :: ps => '{' :: outline ps

/-! ## The closing quote -/

open Lexeme

/-- The search for a closing quote goes on after this text. -/
def Passes (s : List Char) : Prop :=
  ∀ rest, closeSingle '"' (s ++ rest) = (closeSingle '"' rest).map (· + s.length)

namespace Passes

variable {s t : List Char} {c : Char}

theorem nil : Passes [] := fun rest => by
  show closeSingle '"' rest = (closeSingle '"' rest).map id
  rw [Option.map_id, id]

theorem append (hs : Passes s) (ht : Passes t) : Passes (s ++ t) := by
  intro rest
  rw [List.append_assoc, hs, ht, Option.map_map, List.length_append]
  congr 1
  funext n
  show n + t.length + s.length = n + (s.length + t.length)
  omega

theorem flatMap {α : Type} {f : α → List Char} {as : List α} (h : ∀ a ∈ as, Passes (f a)) :
    Passes (as.flatMap f) := by
  induction as with
  | nil => exact nil
  | cons a as ih =>
    rw [List.forall_mem_cons] at h
    rw [List.flatMap_cons]
    exact h.1.append (ih h.2)

theorem one (hc : c ∉ ['\\', '"', '\n', '\r']) : Passes [c] := by
  simp only [List.mem_cons, List.not_mem_nil, or_false, not_or] at hc
  exact fun rest => closeSingle_cons hc.1 hc.2.1 fun h => h.elim hc.2.2.1 hc.2.2.2

theorem cons (hc : c ∉ ['\\', '"', '\n', '\r']) (hs : Passes s) : Passes (c :: s) :=
  (one hc).append hs

theorem escape (c : Char) : Passes ['\\', c] := closeSingle_escape '"' c

/-- Such a text begins with no quote. -/
theorem head? (h : Passes s) : ∀ c ∈ s.head?, c ≠ '"' := by
  rintro c hc rfl
  obtain ⟨r, rfl⟩ := List.head?_eq_some_iff.mp hc
  have hquote := h []
  rw [List.cons_append, closeSingle_quote (by decide)] at hquote
  cases hquote

end Passes

theorem passes_writeChar (c : Char) : Passes (writeChar c) := by
  have hwritten := stands_writeChar c
  generalize writeChar c = s at hwritten
  cases hwritten with
  | escaped => exact .escape _
  | doubled h =>
    have hc : c ∉ ['\\', '"', '\n', '\r'] := by rcases h with rfl | rfl <;> decide
    exact .cons hc (.one hc)
  | itself h => exact .one fun hmem => h (List.mem_append_left ['{', '}'] hmem)

theorem passes_write (p : Part) : Passes p.write := by
  cases p with
  | text cs => exact .flatMap fun c _ => passes_writeChar c
  | field name k =>
    have hname : Passes name.text.toList := by
      have hchars := isNameChar_of_isAsciiName (isAsciiName_of_isPlainName name.isPlain)
      rw [← List.flatMap_singleton' name.text.toList]
      refine .flatMap fun c hc => .one fun hmem => ?_
      have hnone : ['\\', '"', '\n', '\r'].all fun d => !(d.isAlphanum || d == '_') := by decide
      exact ne_of_isNameChar (hchars c hc)
        ((Bool.not_eq_true' _).mp (List.all_eq_true.mp hnone c hmem)) rfl
    have hconversion : Passes (writeConversion k) := by
      cases k with
      | none => exact .nil
      | some k =>
        refine .cons (by decide) (.one ?_)
        rcases k.letter_eq with h | h | h <;> rw [h] <;> decide
    exact .cons (by decide) (hname.append (hconversion.append (.one (by decide))))

theorem passes_body (ps : List Part) : Passes (body ps) := .flatMap fun p _ => passes_write p

end Part

/-! ## One token -/

section

open Lexeme

/-- No blank and no comment begins like a string. -/
theorem beginsBlank_of_string {c : Char} {r : List Char} {n : Nat}
    (h : Lexeme.string (c :: r) = some n) : beginsBlank c = false := by
  have hmarks : (['\\', '\n', '\r', ' ', '\t', '\x0c', '#'].all fun c =>
      !(['r', 'u', 'b', 'f'].contains c.toLower || Quoted.isQuote c)) = true := by decide
  obtain ⟨i, j, hi, hj, -⟩ := andThen_eq_some.mp h
  have hc : (['r', 'u', 'b', 'f'].contains c.toLower || Quoted.isQuote c) = true := by
    cases i with
    | zero =>
      obtain ⟨q, s, hs, hq⟩ := beginsWithQuote_quoted _ _ hj
      rw [(List.cons.inj hs).1, hq, Bool.or_true]
    | succ i =>
      have hmark : IsMark c := within_marks _ _ hi c (by rw [List.take_succ_cons]; exact List.mem_cons_self)
      rw [List.contains_iff_mem.mpr hmark, Bool.true_or]
  rw [beginsBlank, ← Bool.not_eq_true, List.contains_iff_mem]
  intro hmem
  have hnot := List.all_eq_true.mp hmarks c hmem
  rw [hc] at hnot
  cases hnot

/-- A text that is measured as a string to its end is one lexeme. -/
theorem lexemes_of_string {s : List Char} (h : Lexeme.string s = some s.length) :
    lexemes s = [⟨.string, s⟩] := by
  cases s with
  | nil => cases h
  | cons c r =>
    have hbefore : (kindsBefore.findSome? fun km =>
        (km.2 (c :: r)).map fun n => (km.1, n)) = none := by
      rw [List.findSome?_eq_none_iff]
      intro km hkm
      rw [before_none (beginsBlank_of_string h) _ km hkm]
      rfl
    have hfront : front? (c :: r) = some (.string, (c :: r).length) := by
      rw [front?_eq, hbefore, h]
      rfl
    rw [lexemes_of_front hfront, List.take_length, List.drop_length, lexemes_nil]

/-- The tokens of a program that is one string. -/
theorem tokenize_of_string {text : List Char} (h : lexemes text = [⟨.string, text⟩]) (limit : Nat) :
    ∃ t newline eof, tokenize text limit = .ok [t, newline, eof] ∧
      t.word = ⟨.string, String.ofList text⟩ ∧ newline.kind = .newline ∧
        eof.kind = .endMarker := by
  have hstep : ∃ t s, Layout.step ⟨.file, limit, 0⟩ .start ⟨.string, text⟩ = .ok ([t], s) ∧
      t.word = ⟨.string, String.ofList text⟩ ∧ s.brackets = [] ∧ s.indents = [0] ∧
        s.atLineStart = false := by
    have hkind : Layout.contentKind? .string = some .string := rfl
    have hmarks : ∀ here, Layout.lineMarks ⟨.file, limit, 0⟩ .start here = .ok ([], [0]) :=
      fun _ => rfl
    exact ⟨_, _, Layout.step_content hkind rfl (hmarks _) rfl, rfl, rfl, rfl, rfl⟩
  obtain ⟨t, s, hstep, ht, hbrackets, hindents, hstart⟩ := hstep
  refine ⟨t, ⟨.newline, "", ⟨0 + s.offset, 0 + s.offset⟩⟩,
    ⟨.endMarker, "", ⟨0 + s.offset, 0 + s.offset⟩⟩, ?_, ht, rfl, rfl⟩
  rw [tokenize, h]
  exact Layout.run_cons hstep (Layout.finish_onLine rfl hbrackets hindents hstart)

end

namespace Part

open Lexeme

variable (ps : List Part)

theorem head?_body : (body ps).head? ≠ some '"' :=
  fun h => (passes_body ps).head? _ h rfl

theorem literal_eq : literal ps = ['f'] ++ (quotes '"' false ++ (body ps ++ quotes '"' false)) := rfl

/-- The parts of a literal in the text. -/
theorem isLiteral_literal : IsLiteral (literal ps) ['f'] '"' false (body ps) := by
  rw [literal_eq]
  exact isLiteral_quotes (by decide) rfl (.inr (head?_body ps))

theorem split_literal : Quoted.split (literal ps) = ⟨false, false, true, body ps, 2⟩ :=
  (isLiteral_literal ps).split_eq

theorem string_literal : Lexeme.string (literal ps) = some (literal ps).length := by
  have hclose : closeSingle '"' (body ps ++ quotes '"' false) = some ((body ps).length + 1) := by
    rw [passes_body ps, show quotes '"' false = ['"'] from rfl, closeSingle_quote (by decide),
      Option.map_some, Nat.add_comm]
  rw [literal_eq, string_append (by decide) rfl rfl, quoted_quotes rfl (.inr (head?_body ps)),
    if_neg Bool.false_ne_true, hclose]
  simp only [Option.map_some, List.length_append, show (quotes '"' false).length = 1 from rfl]
  exact congrArg some (by omega)

/-- A literal is a lexeme of its own. -/
theorem lexemes_literal : lexemes (literal ps) = [⟨.string, literal ps⟩] :=
  lexemes_of_string (string_literal ps)

/-- The tokens of a program that is a literal. -/
theorem tokenize_literal (limit : Nat) :
    ∃ t newline eof, tokenize (literal ps) limit = .ok [t, newline, eof] ∧
      t.word = ⟨.string, String.ofList (literal ps)⟩ ∧ newline.kind = .newline ∧
        eof.kind = .endMarker :=
  tokenize_of_string (lexemes_literal ps) limit

end Part

end PythonSyntax
