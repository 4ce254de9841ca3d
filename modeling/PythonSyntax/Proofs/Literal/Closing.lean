import Mathlib.Data.List.DropRight
import Mathlib.Tactic.MkIffOfInductiveProp
import PythonSyntax.Proofs.Enclosed.Text
import PythonSyntax.Proofs.Formatted.Write
import PythonSyntax.Proofs.Lexeme.Trim
import PythonSyntax.Proofs.Span.Layout

/-
Where literals are closed.

A character is escaped if an odd number of backslashes stands in front of it.  The lexer counts no
backslashes: it goes over a body from left to right and takes each backslash together with the next
character.  Both ways find the same end, by induction on the body as the lexer reads it (`closeTriple_iff`,
`closeSingle_iff`).  So a text is one string token if and only if it is marks, quotes, a body that the same
quotes close at its end and not before, and these quotes; there is only one way to see it so, and
`Quoted.split` gives the parts (`isStringText_iff_split`).
-/

namespace PythonSyntax

open PythonSyntax.Lexeme

variable {q c : Char} {quote s x : List Char}

/-! ## Backslashes -/

/-- A text takes the character behind it along: an odd number of backslashes stands at its end. -/
def Escaping (x : List Char) : Prop := (x.rtakeWhile (· == '\\')).length % 2 = 1

instance (x : List Char) : Decidable (Escaping x) := inferInstanceAs (Decidable (_ = _))

theorem length_rtakeWhile_append (p : Char → Bool) (x y : List Char) :
    ((x ++ y).rtakeWhile p).length =
      if (y.rtakeWhile p).length = y.length then (x.rtakeWhile p).length + y.length
      else (y.rtakeWhile p).length := by
  simp only [List.rtakeWhile, List.reverse_append, List.takeWhile_append, List.length_reverse]
  split <;> simp [Nat.add_comm]

/-- Behind a text that takes nothing along, backslashes count anew. -/
theorem escaping_append (hx : ¬ Escaping x) (y : List Char) : Escaping (x ++ y) ↔ Escaping y := by
  unfold Escaping at hx ⊢
  rw [length_rtakeWhile_append]
  split <;> omega

theorem escaping_cons (hc : c ≠ '\\') (x : List Char) : Escaping (c :: x) ↔ Escaping x :=
  escaping_append (x := [c]) (by simp [Escaping, List.rtakeWhile, hc]) x

theorem escaping_escape (c : Char) (x : List Char) : Escaping ('\\' :: c :: x) ↔ Escaping x := by
  refine escaping_append (x := ['\\', c]) ?_ x
  by_cases hc : c = '\\' <;> simp [Escaping, List.rtakeWhile, List.takeWhile, hc]

/-- A text is read from its start, a backslash together with the next character. -/
@[elab_as_elim]
theorem escapeInduction {P : List Char → Prop} (nil : P []) (lone : P ['\\'])
    (escape : ∀ c x, P x → P ('\\' :: c :: x)) (char : ∀ c x, c ≠ '\\' → P x → P (c :: x)) :
    ∀ x, P x
  | [] => nil
  | [c] => if hc : c = '\\' then hc ▸ lone else char c [] hc nil
  | c :: d :: x =>
    if hc : c = '\\' then hc ▸ escape d x (escapeInduction nil lone escape char x)
    else char c (d :: x) hc (escapeInduction nil lone escape char (d :: x))

/-- Something holds at every place of a text that is not escaped: of what stands in front of the place,
and of what stands from there on. -/
def AtUnescaped (P : List Char → List Char → Prop) (s : List Char) : Prop :=
  ∀ x y, s = x ++ y → ¬ Escaping x → P x y

theorem not_escaping_nil : ¬ Escaping [] := by decide

theorem escaping_lone : Escaping ['\\'] := by decide

section

variable {P : List Char → List Char → Prop}

theorem atUnescaped_cons (hc : c ≠ '\\') (s : List Char) :
    AtUnescaped P (c :: s) ↔ P [] (c :: s) ∧ AtUnescaped (fun x y => P (c :: x) y) s := by
  constructor
  · intro h
    refine ⟨h [] _ rfl not_escaping_nil, fun x y hs hx => ?_⟩
    exact h (c :: x) y (congrArg (c :: ·) hs) fun he => hx ((escaping_cons hc x).mp he)
  · rintro ⟨hhere, hlater⟩ x y hs hx
    cases x with
    | nil => exact (show c :: s = y from hs) ▸ hhere
    | cons d x =>
      obtain ⟨rfl, htail⟩ := List.cons.inj hs
      exact hlater x y htail fun he => hx ((escaping_cons hc x).mpr he)

/-- The character behind a backslash is at no such place. -/
theorem atUnescaped_escape (c : Char) (s : List Char) :
    AtUnescaped P ('\\' :: c :: s) ↔
      P [] ('\\' :: c :: s) ∧ AtUnescaped (fun x y => P ('\\' :: c :: x) y) s := by
  constructor
  · intro h
    refine ⟨h [] _ rfl not_escaping_nil, fun x y hs hx => ?_⟩
    exact h ('\\' :: c :: x) y (congrArg (fun s => '\\' :: c :: s) hs)
      fun he => hx ((escaping_escape c x).mp he)
  · rintro ⟨hhere, hlater⟩ x y hs hx
    rcases x with _ | ⟨d, _ | ⟨e, x⟩⟩
    · exact (show '\\' :: c :: s = y from hs) ▸ hhere
    · -- between the backslash and its character everything is escaped
      rw [← (List.cons.inj hs).1] at hx
      exact absurd escaping_lone hx
    · obtain ⟨hd, htail⟩ := List.cons.inj hs
      obtain ⟨he, htail⟩ := List.cons.inj htail
      rw [← hd, ← he] at hx ⊢
      exact hlater x y htail fun he => hx ((escaping_escape c x).mpr he)

end

/-! ## Bodies -/

/-- Quotes close a body at its end: they are not escaped there, and wherever else they stand from a place
of the body on, they are. -/
@[mk_iff]
structure Encloses (quote body : List Char) : Prop where
  closes : ¬ Escaping body
  first : AtUnescaped (fun x y => quote <+: y → body.length ≤ x.length) (body ++ quote)

/-- Every line break in a body is escaped. -/
def StaysInLine (body : List Char) : Prop := AtUnescaped (fun _ y => ∀ c ∈ y.head?, InLine c) body

theorem encloses_nil (quote : List Char) : Encloses quote [] :=
  ⟨not_escaping_nil, fun _ _ _ _ _ => Nat.zero_le _⟩

theorem not_encloses_lone (quote : List Char) : ¬ Encloses quote ['\\'] :=
  fun h => h.closes escaping_lone

theorem encloses_escape (hq : q ≠ '\\') (c : Char) (body : List Char) :
    Encloses (q :: quote) ('\\' :: c :: body) ↔ Encloses (q :: quote) body := by
  have hstart : ∀ s, ¬ q :: quote <+: '\\' :: s := fun s h => hq (List.cons_prefix_cons.mp h).1
  rw [encloses_iff, encloses_iff, escaping_escape, List.cons_append, List.cons_append, atUnescaped_escape]
  simp [hstart]

theorem encloses_cons (hc : c ≠ '\\') (quote body : List Char) :
    Encloses quote (c :: body) ↔ ¬ quote <+: c :: (body ++ quote) ∧ Encloses quote body := by
  rw [encloses_iff, encloses_iff, escaping_cons hc, List.cons_append, atUnescaped_cons hc]
  simp [and_left_comm]

theorem staysInLine_nil : StaysInLine [] := by
  intro x y h _ c hc
  rw [(List.append_eq_nil_iff.mp h.symm).2] at hc
  cases hc

theorem staysInLine_escape (c : Char) (body : List Char) :
    StaysInLine ('\\' :: c :: body) ↔ StaysInLine body := by
  rw [StaysInLine, atUnescaped_escape]
  have hslash : InLine '\\' := by decide
  simp [StaysInLine, hslash]

theorem staysInLine_cons (hc : c ≠ '\\') (body : List Char) :
    StaysInLine (c :: body) ↔ InLine c ∧ StaysInLine body := by
  rw [StaysInLine, atUnescaped_cons hc]
  simp [StaysInLine]

/-! ## Closing quotes -/

theorem map_add_eq_some {o : Option Nat} {k m : Nat} : o.map (· + k) = some (m + k) ↔ o = some m := by
  cases o <;> simp

theorem closeTriple_iff (hq : q ≠ '\\') (body : List Char) :
    closeTriple q (body ++ quotes q true) = some (body.length + 3) ↔
      Encloses (quotes q true) body := by
  induction body using escapeInduction with
  | nil => exact iff_of_true (closeTriple_start hq (by simp [startsTriple])) (encloses_nil _)
  | lone =>
    refine iff_of_false ?_ (not_encloses_lone _)
    -- the backslash takes one of the three quotes, and two do not close
    show closeTriple q ('\\' :: q :: [q, q]) ≠ some 4
    have htwo : ¬ startsTriple q [q, q] = true := by simp [startsTriple]
    have hone : ¬ startsTriple q [q] = true := by simp [startsTriple]
    rw [closeTriple_escape, closeTriple_cons hq htwo, closeTriple_cons hq hone]
    exact (Option.some_ne_none _).symm
  | escape c x ih =>
    rw [List.cons_append, List.cons_append, closeTriple_escape]
    exact (map_add_eq_some (k := 2)).trans (ih.trans (encloses_escape hq c x).symm)
  | char c x hc ih =>
    rw [List.cons_append, encloses_cons hc]
    -- three quotes here may also be the last of the body and the first of those that close it
    by_cases hstart : startsTriple q (c :: (x ++ quotes q true)) = true
    · rw [closeTriple_start hc hstart]
      refine iff_of_false (fun h => ?_) fun h => h.1 (List.isPrefixOf_iff_prefix.mp hstart)
      have := Option.some.inj h
      simp at this
    · rw [closeTriple_cons hc hstart]
      refine (map_add_eq_some (k := 1)).trans (ih.trans ?_)
      exact (and_iff_right fun h => hstart (List.isPrefixOf_iff_prefix.mpr h)).symm

theorem closeSingle_iff (hq : Quoted.isQuote q = true) (body : List Char) :
    closeSingle q (body ++ quotes q false) = some (body.length + 1) ↔
      Encloses (quotes q false) body ∧ StaysInLine body := by
  have hslash := ne_backslash_of_isQuote hq
  induction body using escapeInduction with
  | nil => exact iff_of_true (closeSingle_quote hslash []) ⟨encloses_nil _, staysInLine_nil⟩
  | lone =>
    refine iff_of_false ?_ fun h => not_encloses_lone _ h.1
    show closeSingle q ('\\' :: q :: []) ≠ some 2
    rw [closeSingle_escape]
    exact (Option.some_ne_none _).symm
  | escape c x ih =>
    rw [List.cons_append, List.cons_append, closeSingle_escape, staysInLine_escape]
    exact (map_add_eq_some (k := 2)).trans
      (ih.trans (and_congr_left' (encloses_escape hslash c x).symm))
  | char c x hc ih =>
    rw [List.cons_append, encloses_cons hc, staysInLine_cons hc]
    by_cases hcq : c = q
    · subst hcq
      rw [closeSingle_quote hc]
      refine iff_of_false (fun h => ?_) fun h => h.1.1 ⟨_, rfl⟩
      have := Option.some.inj h
      simp at this
    by_cases hbreak : c = '\n' ∨ c = '\r'
    · refine iff_of_false ?_ fun h => ?_
      · rw [closeSingle_break hc hcq hbreak]
        exact nofun
      · rcases hbreak with hbreak | hbreak
        · exact h.2.1.1 hbreak
        · exact h.2.1.2 hbreak
    · rw [closeSingle_cons hc hcq hbreak]
      refine (map_add_eq_some (k := 1)).trans (ih.trans ?_)
      have hstart : ¬ quotes q false <+: c :: (x ++ quotes q false) := by
        rintro ⟨y, hy⟩
        exact hcq (List.cons.inj hy).1.symm
      rw [and_iff_right hstart, and_iff_right (show InLine c from not_or.mp hbreak)]

/-! ## String literals -/

/-- A string literal: marks, the quotes at either end, and a body that they close at its end and not
before.  In a body between single quotes every line break is escaped. -/
@[ext]
structure StringLiteral where
  marks : List Char
  quote : Char
  triple : Bool
  body : List Char
  isMarks : marks.map Char.toLower ∈ markWords
  isQuote : Quoted.isQuote quote = true
  encloses : Encloses (quotes quote triple) body
  inLine : triple = false → StaysInLine body

namespace StringLiteral

variable (l : StringLiteral)

/-- The quotes at either end. -/
def delimiter : List Char := quotes l.quote l.triple

/-- The literal as it is written. -/
def text : List Char := l.marks ++ (l.delimiter ++ (l.body ++ l.delimiter))

/-- One quote that opens the literal is not followed by another one, unless that closes it. -/
theorem triple_or_head : l.triple = true ∨ l.body.head? ≠ some l.quote := by
  cases htriple : l.triple with
  | true => exact .inl rfl
  | false =>
    refine .inr fun hhead => ?_
    obtain ⟨r, hbody⟩ := List.head?_eq_some_iff.mp hhead
    have h := l.encloses
    rw [htriple, hbody, encloses_cons (ne_backslash_of_isQuote l.isQuote)] at h
    exact h.1 ⟨r ++ quotes l.quote false, rfl⟩

theorem isLiteral : IsLiteral l.text l.marks l.quote l.triple l.body :=
  isLiteral_quotes l.isMarks l.isQuote l.triple_or_head

/-- The quotes close the body where the lexer closes it. -/
theorem closes : (if l.triple then closeTriple l.quote else closeSingle l.quote)
    (l.body ++ l.delimiter) = some (l.body.length + l.delimiter.length) := by
  unfold delimiter
  have hencloses := l.encloses
  have hline := l.inLine
  generalize l.triple = triple at hencloses hline
  cases triple with
  | true => exact (closeTriple_iff (ne_backslash_of_isQuote l.isQuote) l.body).mpr hencloses
  | false => exact (closeSingle_iff l.isQuote l.body).mpr ⟨hencloses, hline rfl⟩

/-- A literal is a string to its end. -/
theorem string_text : Lexeme.string l.text = some l.text.length := by
  have hhead : (l.delimiter ++ (l.body ++ l.delimiter)).head? = some l.quote := by
    unfold delimiter quotes
    split <;> rfl
  rw [text, string_append l.isMarks l.isQuote hhead]
  show (quoted (quotes l.quote l.triple ++ (l.body ++ quotes l.quote l.triple))).map _ = _
  have hcloses := l.closes
  unfold delimiter at hcloses ⊢
  rw [quoted_quotes l.isQuote l.triple_or_head, hcloses]
  simp only [Option.map_some, List.length_append]
  exact congrArg some (by omega)

/-- A text is in one way a literal. -/
theorem text_injective : Function.Injective text := by
  intro l l' h
  have hl := l.isLiteral
  have hl' := l'.isLiteral
  rw [← h] at hl'
  have hmarks : l.marks = l'.marks := hl.takeWhile_eq.symm.trans hl'.takeWhile_eq
  have hsplit := hl.split_eq.symm.trans hl'.split_eq
  have hbody : l.body = l'.body := congrArg Quoted.body hsplit
  have hlength : (quotes l.quote l.triple).length = (quotes l'.quote l'.triple).length := by
    have hstart := congrArg Quoted.bodyStart hsplit
    rw [hmarks] at hstart
    exact Nat.add_left_cancel hstart
  have hquotes : quotes l.quote l.triple = quotes l'.quote l'.triple := by
    rw [text, text, hmarks] at h
    exact List.append_inj_left (List.append_cancel_left h) hlength
  have hsame : l.quote = l'.quote ∧ l.triple = l'.triple := by
    generalize l.triple = triple, l'.triple = triple' at hquotes
    cases triple <;> cases triple' <;> simp_all [quotes]
  exact StringLiteral.ext hmarks hsame.1 hsame.2 hbody

end StringLiteral

/-- What is measured as a quoted text to its end is quotes around a body that they close. -/
theorem exists_quotes (h : quoted s = some s.length) :
    ∃ q triple body, Quoted.isQuote q = true ∧ s = quotes q triple ++ (body ++ quotes q triple) ∧
      Encloses (quotes q triple) body ∧ (triple = false → StaysInLine body) := by
  rcases quoted_cases h with ⟨q, r, k, hq, rfl, hk, hlength⟩ | ⟨q, r, k, hq, rfl, -, hk, hlength⟩
  · obtain rfl : r.length = k := Nat.add_right_cancel (m := 3) hlength
    obtain ⟨body, hbody⟩ := closeTriple_shape hk
    rw [List.take_length] at hbody
    subst hbody
    rw [List.length_append] at hk
    exact ⟨q, true, body, hq, rfl, (closeTriple_iff (ne_backslash_of_isQuote hq) body).mp hk,
      fun h => absurd h.symm Bool.false_ne_true⟩
  · obtain rfl : r.length = k := Nat.succ.inj hlength
    obtain ⟨body, hbody, -⟩ := closeSingle_shape hk
    rw [List.take_length] at hbody
    subst hbody
    rw [List.length_append] at hk
    obtain ⟨hencloses, hline⟩ := (closeSingle_iff hq body).mp hk
    exact ⟨q, false, body, hq, rfl, hencloses, fun _ => hline⟩

/-- What is a string to its end is a literal. -/
theorem StringLiteral.exists_of_string (h : Lexeme.string s = some s.length) :
    ∃ l : StringLiteral, l.text = s := by
  obtain ⟨i, j, hi, hj, hlength⟩ := andThen_eq_some.mp h
  have hdrop : j = (s.drop i).length := by
    rw [List.length_drop]
    omega
  obtain ⟨q, triple, body, hq, heq, hencloses, hline⟩ := exists_quotes (hdrop ▸ hj)
  refine ⟨⟨s.take i, q, triple, body, lower_of_marks hi, hq, hencloses, hline⟩, ?_⟩
  show s.take i ++ (quotes q triple ++ (body ++ quotes q triple)) = s
  rw [← heq, List.take_append_drop]

/-! ## String tokens -/

/-- The text of a string token, of a program or of an expression inside one. -/
def IsStringText (text : List Char) : Prop :=
  ∃ source tokens, ((∃ limit, tokenize source limit = .ok tokens) ∨
    ∃ base limit, tokenizeEmbedded source base limit = .ok tokens) ∧
      ∃ t ∈ tokens, t.kind = .string ∧ t.text.toList = text

/-- A string token is a string to its end, whatever stood behind it. -/
theorem string_of_isStringText (h : IsStringText s) : Lexeme.string s = some s.length := by
  obtain ⟨source, tokens, hrun, t, ht, hkind, rfl⟩ := h
  have hlexeme : ∃ l ∈ lexemes source, l.kind = .string ∧ t.text.toList = l.text := by
    rcases hrun with ⟨limit, hrun⟩ | ⟨base, limit, hrun⟩
    · exact Layout.string_of_run hrun ht hkind
    · exact Layout.string_of_run hrun ht hkind
  obtain ⟨l, hl, hstring, htext⟩ := hlexeme
  obtain ⟨r, n, hr, hcut⟩ := string_of_mem hl hstring
  have hn : n = (r.take n).length := by
    rw [List.length_take, Nat.min_eq_left ((bounded_marks.andThen bounded_quoted) r n hr)]
  rw [htext, hcut, ← hn]
  rw [← List.take_append_drop n r] at hr
  exact string_trimmed hr (Nat.le_of_eq hn)

/-- Each literal is a program of one string token. -/
theorem StringLiteral.isStringText (l : StringLiteral) : IsStringText l.text := by
  obtain ⟨t, newline, eof, htokens, ht, -⟩ := tokenize_of_string (lexemes_of_string l.string_text) 0
  refine ⟨l.text, _, .inl ⟨0, htokens⟩, t, List.mem_cons_self, congrArg Word.kind ht, ?_⟩
  rw [show t.text = String.ofList l.text from congrArg Word.text ht, String.toList_ofList]

/-! ## Their parts -/

/-- A letter in lower case is that letter in either case. -/
theorem toLower_eq_iff {d : Char} (hd : d ∈ ['r', 'u', 'b', 'f']) :
    c.toLower = d ↔ c = d ∨ c = d.toUpper := by
  have hletter : d.toLower = d ∧ d.toUpper.toLower = d ∧
      d.toUpper.val + ('a'.val - 'A'.val) = d.val := by
    simp only [List.mem_cons, List.not_mem_nil, or_false] at hd
    rcases hd with rfl | rfl | rfl | rfl <;> decide
  obtain ⟨hlower, hupper, hval⟩ := hletter
  constructor
  · intro h
    unfold Char.toLower at h
    split at h
    · refine .inr (Char.ext (UInt32.add_left_inj ('a'.val - 'A'.val) |>.mp ?_))
      rw [hval, ← h]
    · exact .inl h
  · rintro (rfl | rfl)
    · exact hlower
    · exact hupper

theorem contains_map_toLower {d : Char} (hd : d ∈ ['r', 'u', 'b', 'f']) (marks : List Char) :
    (marks.map Char.toLower).contains d = true ↔ d ∈ marks ∨ d.toUpper ∈ marks := by
  rw [List.contains_iff_mem, List.mem_map]
  constructor
  · rintro ⟨c, hc, hlower⟩
    rcases (toLower_eq_iff hd).mp hlower with rfl | rfl
    · exact .inl hc
    · exact .inr hc
  · rintro (h | h)
    · exact ⟨_, h, (toLower_eq_iff hd).mpr (.inl rfl)⟩
    · exact ⟨_, h, (toLower_eq_iff hd).mpr (.inr rfl)⟩

/-- The parts are those of a literal. -/
structure Quoted.PartsOf (s : Quoted) (l : StringLiteral) : Prop where
  body : s.body = l.body
  bodyStart : s.bodyStart = byteLength (l.marks ++ l.delimiter)
  isRaw : s.isRaw = true ↔ 'r' ∈ l.marks ∨ 'R' ∈ l.marks
  isBytes : s.isBytes = true ↔ 'b' ∈ l.marks ∨ 'B' ∈ l.marks
  isFormatted : s.isFormatted = true ↔ 'f' ∈ l.marks ∨ 'F' ∈ l.marks
  not_both : ¬ (s.isBytes = true ∧ s.isFormatted = true)

/-- A literal is cut into its parts. -/
theorem StringLiteral.partsOf_split (l : StringLiteral) : (Quoted.split l.text).PartsOf l := by
  have hnot := not_both_of_mem_markWords l.isMarks
  rw [← List.contains_iff_mem, ← List.contains_iff_mem] at hnot
  rw [l.isLiteral.split_eq]
  refine ⟨rfl, ?_, contains_map_toLower (by decide) l.marks, contains_map_toLower (by decide) l.marks,
    contains_map_toLower (by decide) l.marks, hnot⟩
  rw [byteLength_append, delimiter, byteLength_quotes l.isQuote]

example : Quoted.split ['B', 'r', '"', '\\', '"', '"'] = ⟨true, true, false, ['\\', '"'], 3⟩ := rfl

/-- A text is that of a string token if and only if it is a literal, and it is one in a single way: marks
and quotes, a body, and the quotes again, which stand unescaped at its end and not before.  The parts into
which it is cut are those of the literal, and the body begins behind its marks and quotes. -/
theorem isStringText_iff_split (text : List Char) :
    IsStringText text ↔ ∃! l : StringLiteral, l.text = text ∧ (Quoted.split text).PartsOf l := by
  constructor
  · intro h
    obtain ⟨l, rfl⟩ := StringLiteral.exists_of_string (string_of_isStringText h)
    exact ⟨l, ⟨rfl, l.partsOf_split⟩, fun l' h' => StringLiteral.text_injective h'.1⟩
  · rintro ⟨l, ⟨rfl, -⟩, -⟩
    exact l.isStringText

end PythonSyntax
