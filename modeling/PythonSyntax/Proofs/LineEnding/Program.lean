import PythonSyntax.Proofs.Agreement.Statement
import PythonSyntax.Proofs.LineEnding.Literal
import PythonSyntax.Proofs.Parser.Statement

/-
Programs under another line ending.

A text and its spelling with CRLF are both programs with the same tree, or are both refused with the
same message at the same line and column, but for two things.  A string in single quotes hides a
line break from the end of its line only if the break is one character; and a field with an equals
sign shows the line breaks of its own text as they stand.  `sameOutcome_iff` says that nothing else
tells the two apart.
-/

namespace PythonSyntax

open PythonSyntax.Lexeme PythonSyntax.Parser

variable {e : LineEnding} {s : List Char} {R : Nat → Prop} {n : Nat}

/-! ## Runs that match -/

theorem weight_le {ts us : List Token} (h : List.Forall₂ (Alike e s R) ts us) :
    weight ts ≤ weight us := by
  induction h with
  | nil => exact Nat.le_refl _
  | @cons t u _ _ ht _ ih =>
    have hle : Parser.Token.weight t ≤ Parser.Token.weight u := by
      unfold Parser.Token.weight
      by_cases hstring : t.kind = .string
      · obtain ⟨text, marks, q, triple, body, hl⟩ := ht.literal hstring
        have := e.length_le_spell text
        rw [hl.left, hl.right, String.length_ofList, String.length_ofList]
        omega
      · by_cases hline : t.kind = .newline
        · have := (ht.lineEnd hline).1
          omega
        · rw [ht.text hstring hline]
    rw [weight_cons, weight_cons]
    omega

/-- Whether the tokens of a program and of its spelling match decides whether they are read alike,
if the shown texts of fields are spelled. -/
theorem parse_alike (hs : '\r' ∉ s)
    (h : (alike e s R).Results (List.Forall₂ (Alike e s R)) (tokenize s n)
      (tokenize (e.spell s) n)) :
    (alike e s R).Results Eq (parseSpelled e.spell s n) (parseModule (e.spell s) n) := by
  rw [parseModule, parseSpelled_eq, parseSpelled_eq]
  refine h.bind fun ts us hts => ?_
  have hle : parseFuel ts ≤ parseFuel us := by
    have := weight_le hts
    rw [parseFuel_eq, parseFuel_eq]
    omega
  have hfile : (alike e s R).Agrees (file (StmtRule.run e.spell (parseFuel ts)))
      (file (StmtRule.run id (parseFuel us))) Eq :=
    TokenLikeness.file_throughout alike_eof (fun hle => Likeness.rules_run
      (c := fun _ : Unit => alike e s R)
      (fun rule rule' hrule _ => strings_alike hs (hrule ())) hle ()) hle
  exact (hfile 0 ts us ⟨n, 0⟩ ⟨n, 0⟩ hts rfl).map fun r r' hr => hr.1

/-- Neither run gives up. -/
theorem parse_cases (hs : '\r' ∉ s)
    (h : (alike e s R).Results (List.Forall₂ (Alike e s R)) (tokenize s n)
      (tokenize (e.spell s) n)) :
    (∃ m, parseSpelled e.spell s n = .ok m ∧ parseModule (e.spell s) n = .ok m) ∨
      ∃ a b, parseSpelled e.spell s n = .error a ∧ parseModule (e.spell s) n = .error b ∧
        AlikeErrors e s R a b := by
  have hresults := parse_alike hs h
  have hfuel := (parseSpelled_spec e.spell s n).1
  generalize parseSpelled e.spell s n = r at hresults hfuel ⊢
  generalize parseModule (e.spell s) n = r' at hresults ⊢
  cases hresults with
  | ok hm => exact .inl ⟨_, rfl, hm ▸ rfl⟩
  | error hab => exact .inr ⟨_, _, rfl, rfl, hab⟩
  | excused hexc => exact absurd hexc (hfuel _ rfl)

/-! ## Outcomes -/

/-- The same tree of two texts, or the same message at the same line and column of them. -/
inductive SameOutcome (s s' : List Char) :
    Except SyntaxError Module → Except SyntaxError Module → Prop where
  | accepted (m : Module) : SameOutcome s s' (.ok m) (.ok m)
  | rejected {a b : SyntaxError} : a.cause.message = b.cause.message →
      Position.ofOffset s a.span.start = Position.ofOffset s' b.span.start →
      SameOutcome s s' (.error a) (.error b)

namespace SameOutcome

variable {s s' s'' : List Char} {a b c : Except SyntaxError Module}

theorem symm (h : SameOutcome s s' a b) : SameOutcome s' s b a := by
  cases h with
  | accepted m => exact .accepted m
  | rejected hmessage hplace => exact .rejected hmessage.symm hplace.symm

theorem trans (h : SameOutcome s s' a b) (h' : SameOutcome s' s'' b c) : SameOutcome s s'' a c := by
  cases h with
  | accepted m =>
    cases h' with
    | accepted => exact .accepted m
  | rejected hmessage hplace =>
    cases h' with
    | rejected hmessage' hplace' => exact .rejected (hmessage.trans hmessage') (hplace.trans hplace')

theorem isOk_eq (h : SameOutcome s s' a b) : a.isOk = b.isOk := by
  cases h <;> rfl

end SameOutcome

theorem head_append {a b : String} {c : Char} (h : a.toList.head? = some c) :
    (a ++ b).toList.head? = some c := by
  rw [String.toList_append, List.head?_append, h]
  rfl

/-- No other cause is worded as an open quote: only one other message begins with its letter. -/
theorem eq_openQuote_of_message {cause : Cause} (h : cause.message = Cause.openQuote.message) :
    cause = .openQuote := by
  have hhead : cause.message.toList.head? = some 'E' := by
    rw [h]
    decide +kernel
  have hother : ∀ {a : String} {c : Char}, a.toList.head? = some c → c ≠ 'E' →
      a.toList.head? ≠ some 'E' := by
    intro a c ha hc hhead
    exact hc (Option.some.inj (ha.symm.trans hhead))
  have hfaults : ∀ f : StringFault, f.message.toList.head? ≠ some 'E' := by
    intro f
    cases f <;> decide +kernel
  cases cause with
  | openQuote => rfl
  | openTripleQuote => exact absurd h (by decide +kernel)
  | number fault =>
    cases fault with
    | leadingZeros => exact absurd hhead (by decide +kernel)
    | malformed =>
      refine absurd hhead (hother (c := 'i') ?_ (by decide))
      exact head_append (head_append (by decide +kernel))
  | string fault => exact absurd hhead (hfaults fault)
  | strayCharacter =>
    refine absurd hhead (hother (c := 'i') ?_ (by decide))
    exact head_append (head_append (head_append (head_append (by decide +kernel))))
  | unmatchedClosing =>
    refine absurd hhead (hother (c := 'u') ?_ (by decide))
    exact head_append (head_append (by decide +kernel))
  | mismatchedClosing =>
    refine absurd hhead (hother (c := 'c') ?_ (by decide))
    exact head_append (head_append (head_append (head_append (by decide +kernel))))
  | cannotAssign =>
    exact absurd hhead (hother (c := 'c') (head_append (by decide +kernel)) (by decide))
  | cannotDelete =>
    exact absurd hhead (hother (c := 'c') (head_append (by decide +kernel)) (by decide))
  | cannotName =>
    exact absurd hhead (hother (c := 'c') (head_append (by decide +kernel)) (by decide))
  | cannotAnnotate =>
    exact absurd hhead (hother (c := 'i') (head_append (by decide +kernel)) (by decide))
  | _ => exact absurd hhead (by decide +kernel)

/-! ## Hidden line breaks -/

/-- The layout of a program gets as far as the first string that hides a line break. -/
def ReachesHidden (source : List Char) (maxBrackets : Nat) : Prop :=
  ∃ pre l post, lexemes source = pre ++ l :: post ∧ (∀ k ∈ pre, ¬ Hides k) ∧ Hides l ∧
    (Layout.steps ⟨.file, maxBrackets, 0⟩ .start pre).isOk = true

/-- The layout of a program and of its spelling before some of its lexemes. -/
theorem steps_before (hs : '\r' ∉ s) {pre post : List Lexeme} (h : lexemes s = pre ++ post)
    (hR : Layout.Covers R 0 pre) :
    (alike e s R).Results
      (fun r r' => List.Forall₂ (Alike e s R) r.1 r'.1 ∧
        r.2.offset = byteLength (pre.map Lexeme.text).flatten ∧
        e.Twin s r.2.offset r'.2.offset)
      (Layout.steps ⟨.file, n, 0⟩ .start pre)
      (Layout.steps ⟨.file, n, 0⟩ .start (pre.map (spelled e))) := by
  have hat : e.Located s ((pre.map Lexeme.text).flatten ++ (post.map Lexeme.text).flatten) 0 0 := by
    rw [← List.flatten_append, ← List.map_append, ← h, flatten_lexemes]
    exact e.located_self
  have hfed : Layout.AllFed (alikeTokens e s R) 0 0 pre (pre.map (spelled e)) :=
    Layout.allFed_spelled hat (fun l hl => shaped_of_mem hs l (h ▸ List.mem_append_left post hl)) hR
  refine (Layout.steps_alike (Layout.limits_self n) (Layout.alike_at _ _) hfed).mono fun r r' hr => ?_
  obtain ⟨⟨htokens, -⟩, hoffset, hoffset'⟩ := hr
  replace hoffset := hoffset.trans (Nat.zero_add _)
  replace hoffset' := hoffset'.trans (Nat.zero_add _)
  have htwin := hat.right.twin
  rw [Nat.zero_add, Nat.zero_add, ← Layout.flatten_spelled, ← hoffset, ← hoffset'] at htwin
  exact ⟨htokens, hoffset, htwin⟩

theorem covers_true (x : Nat) (ls : List Lexeme) : Layout.Covers (fun _ => True) x ls := by
  induction ls generalizing x with
  | nil => trivial
  | cons l ls ih => exact ⟨fun _ => trivial, fun _ _ _ _ => trivial, ih _⟩

/-- The tokens of a program match those of its spelling as far as its layout gets, if it does not
get to a string that hides a line break. -/
theorem tokenize_alike (hs : '\r' ∉ s) (h : ¬ ReachesHidden s n) :
    (alike .crlf s fun _ => True).Results (List.Forall₂ (Alike .crlf s fun _ => True))
      (tokenize s n) (tokenize (LineEnding.crlf.spell s) n) := by
  cases hfind : (lexemes s).find? fun l => decide (Hides l) with
  | none =>
    have hkeep : ∀ l ∈ lexemes s, Keeps .crlf l := fun l hl _ hhides =>
      absurd (decide_eq_true hhides) (List.find?_eq_none.mp hfind l hl)
    exact Layout.run_spell hs LineEnding.located_self hkeep (covers_true 0 _)
  | some l =>
    -- the layout fails before the string, in both
    obtain ⟨hl, pre, post, hsplit, hpre⟩ := List.find?_eq_some_iff_append.mp hfind
    have hkeep : ∀ k ∈ pre, ¬ Hides k := fun k hk => by simpa using hpre k hk
    have hsteps := steps_before (n := n) (e := .crlf) hs hsplit (covers_true 0 pre)
    have hfails : (Layout.steps ⟨.file, n, 0⟩ .start pre).isOk ≠ true := fun hok =>
      h ⟨pre, l, post, hsplit, hkeep, of_decide_eq_true hl, hok⟩
    unfold tokenize
    rw [lexemes_spell hs hsplit fun k hk _ => hkeep k hk, hsplit, Layout.run_append_eq,
      Layout.run_append_eq]
    generalize Layout.steps ⟨.file, n, 0⟩ .start pre = r at hsteps hfails ⊢
    generalize Layout.steps ⟨.file, n, 0⟩ .start (pre.map (spelled .crlf)) = r' at hsteps ⊢
    cases hsteps with
    | ok => exact absurd rfl hfails
    | error hab => exact .error hab
    | excused hexc => exact .excused hexc

/-- One quote after its marks is no triple quote. -/
theorem not_triple {marks : List Char} {q d : Char} (hmarks : ∀ c ∈ marks, IsMark c)
    (hd : Quoted.isQuote d = true) : [d, d, d].isSuffixOf (marks ++ [q]) = false := by
  by_contra h
  rw [Bool.not_eq_false, List.isSuffixOf_iff_suffix] at h
  obtain ⟨t, ht⟩ := h
  have hinit : t ++ [d, d] = marks := by
    have := congrArg List.dropLast ht
    rwa [List.dropLast_concat, show t ++ [d, d, d] = (t ++ [d, d]) ++ [d] by simp,
      List.dropLast_concat] at this
  have hmark := isQuote_of_isMark (hmarks d (hinit ▸ by simp))
  rw [hd] at hmark
  exact nomatch hmark

theorem run_openQuote (cfg : LayoutConfig) (a : Layout) {marks : List Char} {q : Char}
    (hmarks : ∀ c ∈ marks, IsMark c) (rest : List Lexeme) :
    Layout.run cfg a (⟨.openQuote, marks ++ [q]⟩ :: rest) = .error ⟨.openQuote,
      ⟨cfg.base + a.offset, cfg.base + (a.offset + byteLength (marks ++ [q]))⟩⟩ := by
  rw [Layout.run, Layout.step, Layout.feed]
  dsimp only
  rw [not_triple hmarks rfl, not_triple hmarks rfl]
  rfl

/-- A string that hides a line break is an open quote under the ending CRLF. -/
theorem parseModule_of_reachesHidden (hs : '\r' ∉ s) (h : ReachesHidden s n) :
    ∃ pre l post b, lexemes s = pre ++ l :: post ∧ l.kind = .string ∧
      parseModule (LineEnding.crlf.spell s) n = .error b ∧ b.cause = .openQuote ∧
      LineEnding.crlf.Twin s (byteLength (pre.map Lexeme.text).flatten) b.span.start := by
  obtain ⟨pre, l, post, hsplit, hkeep, hl, hok⟩ := h
  have hsteps := steps_before (n := n) (e := .crlf) hs hsplit (covers_true 0 pre)
  have hrest : '\r' ∉ ((l :: post).map Lexeme.text).flatten := by
    intro hmem
    refine hs ?_
    rw [← flatten_lexemes s, hsplit, List.map_append, List.flatten_append]
    exact List.mem_append_right _ hmem
  obtain ⟨marks, q, rest, hmarks, -, hlexemes⟩ :=
    lexemes_crlf_of_hides hrest (lexemes_of_append hsplit) hl
  have htokenize : tokenize (LineEnding.crlf.spell s) n =
      Layout.steps ⟨.file, n, 0⟩ .start (pre.map (spelled .crlf)) >>= fun r =>
        (Layout.run ⟨.file, n, 0⟩ r.2 (⟨.openQuote, marks ++ [q]⟩ :: rest)).map (r.1 ++ ·) := by
    unfold tokenize
    rw [lexemes_spell hs hsplit fun k hk _ => hkeep k hk, Layout.run_append_eq, hlexemes]
  generalize Layout.steps ⟨.file, n, 0⟩ .start pre = r at hsteps hok
  generalize Layout.steps ⟨.file, n, 0⟩ .start (pre.map (spelled .crlf)) = r' at hsteps htokenize
  cases hsteps with
  | error => exact nomatch hok
  | excused => exact nomatch hok
  | @ok r r' hr =>
    obtain ⟨-, hoffset, htwin⟩ := hr
    rw [hoffset] at htwin
    have herror := run_openQuote (q := q) ⟨.file, n, 0⟩ r'.2 hmarks rest
    simp only [Nat.zero_add] at herror
    refine ⟨pre, l, post, ⟨.openQuote, ⟨r'.2.offset, r'.2.offset + byteLength (marks ++ [q])⟩⟩,
      hsplit, hl.1, ?_, rfl, htwin⟩
    rw [parseModule, parseSpelled_eq, htokenize]
    simp only [bind, Except.bind, herror]
    rfl

/-! ## Open quotes -/

theorem covers_of_lt {x z : Nat} (h : z < x) (ls : List Lexeme) : Layout.Covers (· ≠ z) x ls := by
  induction ls generalizing x with
  | nil => trivial
  | cons l ls ih => exact ⟨fun _ => by omega, fun _ y hy _ => by omega, ih (by omega)⟩

/-- Neither the start of an open quote nor the inside of a string is where a string begins. -/
theorem covers_of_string {pre post : List Lexeme} {l : Lexeme} {x : Nat}
    (hne : ∀ k ∈ pre ++ l :: post, k.text ≠ []) (hl : l.kind = .string) :
    Layout.Covers (· ≠ x + byteLength (pre.map Lexeme.text).flatten) x (pre ++ l :: post) := by
  have hpos : ∀ {text : List Char}, text ≠ [] → 0 < byteLength text := by
    rintro text htext
    obtain ⟨c, r, rfl⟩ := List.exists_cons_of_ne_nil htext
    rw [byteLength_cons]
    exact Nat.add_pos_left (Char.utf8Size_pos c) _
  induction pre generalizing x with
  | nil =>
    have := hpos (hne l List.mem_cons_self)
    refine ⟨fun hopen => ?_, fun _ z hz _ => Nat.ne_of_gt hz, covers_of_lt ?_ post⟩
    · exact nomatch hl.symm.trans hopen
    · exact Nat.lt_add_of_pos_right this
  | cons k pre ih =>
    rw [List.cons_append, List.forall_mem_cons] at hne
    have := hpos hne.1
    have hrest := ih (x := x + byteLength k.text) hne.2
    rw [List.map_cons, List.flatten_cons, byteLength_append, ← Nat.add_assoc]
    exact ⟨fun _ => by omega, fun _ z _ hz => by omega, hrest⟩

/-- An error of a program begins between two of its characters; that of an open quote does not begin
where the program has a string. -/
theorem error_start (hs : '\r' ∉ s) {pre post : List Lexeme} {l : Lexeme}
    (hsplit : lexemes s = pre ++ l :: post) (hl : l.kind = .string) {a : SyntaxError}
    (ha : parseModule s n = .error a) :
    (∃ before, before <+: s ∧ a.span.start = byteLength before) ∧
      (a.cause = .openQuote → a.span.start ≠ byteLength (pre.map Lexeme.text).flatten) := by
  have hcovers := covers_of_string (x := 0) (fun k hk => text_ne_nil (hsplit ▸ hk)) hl
  rw [← hsplit, Nat.zero_add] at hcovers
  have hsame := parse_cases (n := n) hs
    (Layout.run_spell hs (LineEnding.located_self (e := .lf)) (fun _ _ h => nomatch h) hcovers)
  have hid : LineEnding.lf.spell = id := funext LineEnding.spell_lf
  rw [hid, id, ← parseModule, ha] at hsame
  rcases hsame with ⟨m, hm, -⟩ | ⟨a', b, ha', hb, hab⟩
  · exact nomatch hm
  · cases ha'
    obtain ⟨before, hlead, hstart, -⟩ := hab.start
    rw [List.append_nil] at hlead
    exact ⟨⟨before, hlead, hstart⟩, hab.openQuote⟩

/-- A string that hides a line break tells the two outcomes apart. -/
theorem not_sameOutcome_of_reachesHidden (hs : '\r' ∉ s) (h : ReachesHidden s n) :
    ¬ SameOutcome s (LineEnding.crlf.spell s) (parseModule s n)
      (parseModule (LineEnding.crlf.spell s) n) := by
  intro hsame
  obtain ⟨pre, l, post, b, hsplit, hl, hb, hcause, htwin⟩ := parseModule_of_reachesHidden hs h
  rw [hb] at hsame
  generalize ha : parseModule s n = r at hsame
  cases hsame with
  | @rejected a _ hmessage hplace =>
    rw [hcause] at hmessage
    obtain ⟨⟨before, hlead, hstart⟩, hne⟩ := error_start hs hsplit hl ha
    refine hne (eq_openQuote_of_message hmessage) ?_
    obtain ⟨start, hlead', hx, -⟩ := id htwin
    rw [List.append_nil] at hlead'
    rw [← htwin.ofOffset_eq, hstart, hx, ofOffset_byteLength hlead,
      ofOffset_byteLength hlead'] at hplace
    rw [hstart, hx, after_injective hlead hlead' hplace]

/-- A text and its spelling with CRLF have the same outcome if and only if the layout of the text
does not get to a string in single quotes that hides a line break, and its fields show no line break
of their own text. -/
theorem sameOutcome_iff (s : List Char) (n : Nat) (hs : '\r' ∉ s) :
    SameOutcome s (LineEnding.crlf.spell s) (parseModule s n)
        (parseModule (LineEnding.crlf.spell s) n) ↔
      ¬ ReachesHidden s n ∧
        SameOutcome s s (parseSpelled LineEnding.crlf.spell s n) (parseModule s n) := by
  have hspelled : ¬ ReachesHidden s n → SameOutcome s (LineEnding.crlf.spell s)
      (parseSpelled LineEnding.crlf.spell s n) (parseModule (LineEnding.crlf.spell s) n) := by
    intro h
    rcases parse_cases hs (tokenize_alike hs h) with ⟨m, hm, hm'⟩ | ⟨a, b, ha, hb, hab⟩
    · rw [hm, hm']
      exact .accepted m
    · rw [ha, hb]
      exact .rejected (congrArg Cause.message hab.cause) hab.start.ofOffset_eq
  constructor
  · intro hsame
    have hhidden : ¬ ReachesHidden s n := fun h => not_sameOutcome_of_reachesHidden hs h hsame
    exact ⟨hhidden, (hspelled hhidden).trans hsame.symm⟩
  · rintro ⟨hhidden, hshown⟩
    exact hshown.symm.trans (hspelled hhidden)

/-- A field that shows its own text over two lines. -/
def shownSource : List Char :=
  ['f', '\'', '\'', '\'', '{', 'x', '\n', '=', '}', '\'', '\'', '\'', '\n']

/-- The text that the only literal of a program begins with. -/
def leadingText? (m : Module) : Option Text :=
  match m.body with
  | [.expr (.joinedStr (.constant (.str t) :: _))] => some t
  | _ => none

theorem SameOutcome.leadingText_eq {s s' : List Char} {a b : Except SyntaxError Module}
    (h : SameOutcome s s' a b) :
    a.toOption.bind leadingText? = b.toOption.bind leadingText? := by
  cases h <;> rfl

/-- Under CRLF the field shows another text, though nothing else differs. -/
theorem sameOutcome_iff_shown :
    '\r' ∉ shownSource ∧ ¬ ReachesHidden shownSource 0 ∧
      ¬ SameOutcome shownSource (LineEnding.crlf.spell shownSource) (parseModule shownSource 0)
        (parseModule (LineEnding.crlf.spell shownSource) 0) := by
  have hline : '\r' ∉ shownSource := by decide
  refine ⟨hline, ?_, fun h => ?_⟩
  · rintro ⟨pre, l, post, hsplit, -, hl, -⟩
    have hkeep : ∀ k ∈ lexemes shownSource, ¬ Hides k := by decide +kernel
    exact hkeep l (hsplit ▸ List.mem_append_right pre List.mem_cons_self) hl
  · have hshown := ((sameOutcome_iff shownSource 0 hline).mp h).2
    exact absurd hshown.leadingText_eq (by decide +kernel)

/-- An assignment of a literal in single quotes over two lines: a backslash hides the line break. -/
def hiddenSource : List Char := ['x', '=', '\'', 'a', '\\', '\n', 'b', '\'', '\n']

/-- Under CRLF the literal is left open. -/
theorem not_sameOutcome_hidden :
    ¬ SameOutcome hiddenSource (LineEnding.crlf.spell hiddenSource) (parseModule hiddenSource 0)
      (parseModule (LineEnding.crlf.spell hiddenSource) 0) := by
  intro h
  exact absurd h.isOk_eq (by decide +kernel)

end PythonSyntax
