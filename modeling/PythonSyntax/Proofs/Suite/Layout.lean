import PythonSyntax.Proofs.Suite.Statements
import PythonSyntax.Proofs.Suite.Text

/-
The tokens of statements among others.

The pieces of a statement leave the tokens that they leave on a line of their own, wherever no bracket
is open and as many may be opened.  Only the marks before the first of them depend on the place.  So
texts of statements with separators between them leave the tokens of the statements, with one token
for each separator.
-/

namespace PythonSyntax.Layout

open PythonSyntax.Lexeme PythonSyntax.Parser PythonSyntax.Parser.TokenLikeness Filter

variable {limit m n : Nat} {a a' b s s' : Layout} {l : Lexeme} {ls ls' gap : List Lexeme}
  {ts us as : List Token} {indents : List Nat} {marks : List TokenKind} {kind : TokenKind}
  {text : List Char} {texts : List (List Char)} {stmt : Stmt} {stmts : List Stmt} {P : Token → Prop}
  {cfg : LayoutConfig}

/-! ## Steps one after another -/

theorem steps_append (h : steps cfg a ls = .ok (ts, b)) (h' : steps cfg b ls' = .ok (us, s)) :
    steps cfg a (ls ++ ls') = .ok (ts ++ us, s) := by
  induction ls generalizing a ts with
  | nil =>
    cases h
    exact h'
  | cons l ls ih =>
    obtain ⟨tokens, s₁, rest, hstep, hrest, rfl⟩ := steps_cons_inv h
    rw [List.append_assoc]
    exact steps_cons hstep (ih hrest)

/-- A token with text is the text of a piece. -/
theorem exists_piece (h : steps cfg s ls = .ok (ts, s')) :
    ∀ t ∈ ts, t.kind.isContent = true →
      ∃ l ∈ ls, contentKind? l.kind = some t.kind ∧ t.text = String.ofList l.text := by
  refine steps_induction (P := fun ls ts _ => ∀ t ∈ ts, t.kind.isContent = true →
    ∃ l ∈ ls, contentKind? l.kind = some t.kind ∧ t.text = String.ofList l.text) nofun ?_ h
  intro ls ts s l tokens s' hls hstep
  refine List.forall_mem_append.mpr ⟨fun t ht hcontent => ?_, fun t ht hcontent => ?_⟩
  · obtain ⟨l', hl', hpiece⟩ := hls t ht hcontent
    exact ⟨l', List.mem_append_left _ hl', hpiece⟩
  · cases hstep with
    | blank | joined | emptyLine => cases ht
    | lineEnd =>
      obtain rfl := List.mem_singleton.mp ht
      cases hcontent
    | content hl hmarks =>
      rcases List.mem_append.mp ht with ht | ht
      · rw [(mark_of_lineMarks hmarks t ht).1] at hcontent
        cases hcontent
      · obtain rfl := List.mem_singleton.mp ht
        exact ⟨l, by simp, hl, rfl⟩

/-! ## Where a statement stands -/

/-- Two states on lines that have a token, with the same open brackets. -/
structure Abreast (a b : Layout) : Prop where
  brackets : a.brackets = b.brackets
  left : a.atLineStart = false
  right : b.atLineStart = false

/-- A state in front of a statement: the kinds of the marks before its first token, and the blocks
that are open behind them. -/
structure Before (n : Nat) (marks : List TokenKind) (indents : List Nat) (s : Layout) : Prop where
  brackets : s.brackets = []
  marks : ∀ here, ∃ ms, lineMarks ⟨.file, n, 0⟩ s here = .ok (ms, indents) ∧ ms.map Token.kind = marks

/-- A state behind a statement, in whose line nothing is open but blocks. -/
structure Behind (indents : List Nat) (s : Layout) : Prop where
  brackets : s.brackets = []
  atLineStart : s.atLineStart = false
  indents : s.indents = indents

/-- A token with text is the same in two places where the same brackets are open. -/
theorem content_placed (hle : m ≤ n) (hl : contentKind? l.kind = some kind)
    (hbrackets : a.brackets = b.brackets) (ha : ∀ here, ∃ is, lineMarks ⟨.file, m, 0⟩ a here = .ok ([], is))
    (hb : ∀ here, ∃ ms, lineMarks ⟨.file, n, 0⟩ b here = .ok (ms, indents) ∧ ms.map Token.kind = marks)
    (h : step ⟨.file, m, 0⟩ a l = .ok (ts, a')) :
    ∃ ms t u b', ts = [t] ∧ step ⟨.file, n, 0⟩ b l = .ok (ms ++ [u], b') ∧ ms.map Token.kind = marks ∧
      Same False t u ∧ Abreast a' b' ∧ b'.indents = indents := by
  obtain ⟨marks₁, indents₁, brackets, span, -, hmarks, hafter, rfl, rfl⟩ := content_of_step hl h
  obtain ⟨_, hnone⟩ := ha ⟨span.start, span.start⟩
  rw [hnone] at hmarks
  cases hmarks
  let there : Span := ⟨0 + b.offset, 0 + (b.offset + byteLength l.text)⟩
  obtain ⟨ms, hms, hkinds⟩ := hb ⟨there.start, there.start⟩
  have hopen : bracketsAfter ⟨.file, n, 0⟩ b kind (String.ofList l.text) there = .ok brackets :=
    bracketsAfter_same hle hbrackets hafter there
  have hstep := step_content hl rfl hms hopen
  exact ⟨ms, _, _, _, rfl, hstep, hkinds, same_self _ _ False.elim, ⟨rfl, rfl, rfl⟩, rfl⟩

theorem lineMarks_onLine (h : s.atLineStart = false) (here : Span) :
    lineMarks cfg s here = .ok ([], s.indents) := if_neg (by simp [h])

/-- A piece of a line leaves the same in two places of a line. -/
theorem step_abreast (hle : m ≤ n) (hl : l.kind = .blank ∨ l.kind.isContent = true) (hab : Abreast a b)
    (h : step ⟨.file, m, 0⟩ a l = .ok (ts, a')) :
    ∃ us b', step ⟨.file, n, 0⟩ b l = .ok (us, b') ∧ List.Forall₂ (Same False) ts us ∧
      Abreast a' b' ∧ b'.indents = b.indents := by
  rcases hl with hl | hl
  · rw [step_blank a (.inl hl)] at h
    cases h
    exact ⟨_, _, step_blank b (.inl hl), .nil, ⟨hab.brackets, hab.left, hab.right⟩, rfl⟩
  · obtain ⟨kind, hkind⟩ := isContent_iff.mp hl
    obtain ⟨ms, t, u, b', rfl, hstep, hms, htu, hab', hindents⟩ := content_placed hle hkind hab.brackets
      (fun here => ⟨_, lineMarks_onLine hab.left here⟩)
      (fun here => ⟨[], lineMarks_onLine hab.right here, rfl⟩) h
    obtain rfl := List.map_eq_nil_iff.mp hms
    exact ⟨[u], b', hstep, .cons htu .nil, hab', hindents⟩

theorem steps_abreast (hle : m ≤ n) (hls : ∀ l ∈ ls, l.kind = .blank ∨ l.kind.isContent = true)
    (hab : Abreast a b) (h : steps ⟨.file, m, 0⟩ a ls = .ok (ts, a')) :
    ∃ us b', steps ⟨.file, n, 0⟩ b ls = .ok (us, b') ∧ List.Forall₂ (Same False) ts us ∧
      Abreast a' b' ∧ b'.indents = b.indents := by
  induction ls generalizing a b ts with
  | nil =>
    cases h
    exact ⟨[], b, rfl, .nil, hab, rfl⟩
  | cons l ls ih =>
    rw [List.forall_mem_cons] at hls
    obtain ⟨tokens, a₁, rest, hstep, hrest, rfl⟩ := steps_cons_inv h
    obtain ⟨us, b₁, hstep', hus, hab₁, hindents⟩ := step_abreast hle hls.1 hab hstep
    obtain ⟨vs, b₂, hrest', hvs, hab₂, hindents₂⟩ := ih hls.2 hab₁ hrest
    exact ⟨us ++ vs, b₂, steps_cons hstep' hrest', List.rel_append hus hvs, hab₂, hindents₂.trans hindents⟩

/-- The pieces of a statement leave the tokens of its own line, behind the marks of the place. -/
theorem steps_placed (hle : m ≤ n) (hspaced : Spaced text) (hb : Before n marks indents b)
    (h : steps ⟨.file, m, 0⟩ start (lexemes text) = .ok (ts, a')) (hclosed : a'.brackets = []) :
    ∃ ms us b', steps ⟨.file, n, 0⟩ b (lexemes text) = .ok (ms ++ us, b') ∧ ms.map Token.kind = marks ∧
      List.Forall₂ (Same False) ts us ∧ Behind indents b' := by
  obtain ⟨l, ls, hls, hl⟩ := hspaced.first
  have hpieces := hspaced.pieces
  rw [hls] at h hpieces ⊢
  obtain ⟨tokens, a₁, rest, hstep, hrest, rfl⟩ := steps_cons_inv h
  obtain ⟨kind, hkind⟩ := isContent_iff.mp hl
  obtain ⟨ms, t, u, b₁, rfl, hstep', hms, htu, hab, hindents⟩ := content_placed hle hkind
    (show start.brackets = b.brackets from hb.brackets.symm) (fun _ => ⟨[0], rfl⟩) hb.marks hstep
  obtain ⟨vs, b₂, hrest', hvs, hab₂, hindents₂⟩ := steps_abreast hle
    (fun l hl => hpieces l (List.mem_cons_of_mem _ hl)) hab hrest
  refine ⟨ms, u :: vs, b₂, ?_, hms, .cons htu hvs, ?_⟩
  · rw [steps_cons hstep' hrest', List.append_assoc]
    rfl
  · exact ⟨hab₂.brackets.symm.trans hclosed, hab₂.right, hindents₂.trans hindents⟩

/-! ## Statements on a line of their own -/

/-- The tokens with text at the front of a stream end at the first one without. -/
theorem takeWhile_content {t : Token} (h : ∀ t ∈ ts, t.kind.isContent = true) (ht : t.kind = .newline) :
    (ts ++ t :: us).takeWhile (·.kind.isContent) = ts := by
  rw [List.takeWhile_append_of_pos h, List.takeWhile_cons_of_neg (by rw [ht]; decide), List.append_nil]

/-- The brackets of a program of one line are balanced. -/
theorem grouped_of_tokenize {newline eof : Token} (h : tokenize text limit = .ok (as ++ [newline, eof]))
    (has : ∀ t ∈ as, t.kind.isContent = true) (hne : as ≠ []) (hnewline : newline.kind = .newline)
    (heof : eof.kind = .endMarker) : Grouped (Outside False) 0 as := by
  obtain ⟨_, _, _, _, -, -, -, -, henclosed⟩ := tokenize_inGroup h has hne hnewline heof
  generalize hts : as ++ [newline, eof] = ts at henclosed
  obtain @⟨as', _, stop, rest, _, -, hgrouped, hstop, -, -, -⟩ := henclosed
  have hfront : (as ++ [newline, eof]).takeWhile (·.kind.isContent) = as := takeWhile_content has hnewline
  rw [hts, takeWhile_content hgrouped.isContent hstop] at hfront
  rwa [← hfront]

/-- The end of the last line closes all blocks. -/
theorem run_ending (hs : Behind indents s) {ending : List Char} (hending : ending = [] ∨ ending = ['\n']) :
    ∃ newline eof here, run ⟨.file, n, 0⟩ s (lexemes ending) =
        .ok (newline :: (List.replicate (indents.length - 1) ⟨.dedent, "", here⟩ ++ [eof])) ∧
      EndsLine newline ∧ eof.kind = .endMarker := by
  obtain ⟨x, indents, brackets, atLineStart, width⟩ := s
  obtain ⟨rfl, rfl, rfl⟩ := hs
  rcases hending with rfl | rfl
  · exact ⟨_, _, _, rfl, ⟨rfl, show isOpening "" = false by decide⟩, rfl⟩
  · exact ⟨_, _, _, rfl, ⟨rfl, show isOpening "\n" = false by decide⟩, rfl⟩

/-- A statement on a line of its own leaves no semicolon. -/
theorem no_semicolon (h : Alone limit text stmt) (hts : tokenize (text ++ ['\n']) limit = .ok ts) :
    ∀ t ∈ ts, t.isOp ";" = false := by
  rw [tokenize, ← List.append_nil (lexemes _)] at hts
  obtain ⟨done, s', rest, hsteps, hrest, rfl⟩ := run_append hts
  rw [h.lexemes_line] at hsteps
  intro t ht
  rw [Bool.eq_false_iff]
  intro hop
  obtain ⟨hkind, htext⟩ := Likeness.kind_text_of_isOp hop
  rcases List.mem_append.mp ht with ht | ht
  · obtain ⟨l, hl, hpiece, hl'⟩ := exists_piece hsteps t ht (isContent_of_op hkind)
    obtain ⟨kind, chars⟩ := l
    have hchars : chars = [';'] := by
      have hsame : String.ofList chars = String.ofList [';'] := hl'.symm.trans htext
      simpa using congrArg String.toList hsame
    have hop : kind = .op := by
      rw [hkind] at hpiece
      cases kind <;> first | rfl | cases hpiece
    subst hchars hop
    rcases List.mem_append.mp hl with hl | hl
    · exact (h.bare _ hl).2 rfl
    · cases List.mem_singleton.mp hl
  · have hmark := ((mark_of_finish hrest).2 t ht).1
    rw [hkind] at hmark
    cases hmark

theorem before_start (n : Nat) : Before n [] [0] start := ⟨rfl, fun _ => ⟨[], rfl, rfl⟩⟩

/-- The pieces of a statement are read as the statement behind the marks of any place. -/
theorem exists_placed (h : Alone limit text stmt) (hle : limit ≤ n) (hb : Before n marks indents b) :
    ∃ ms us b', steps ⟨.file, n, 0⟩ b (lexemes text) = .ok (ms ++ us, b') ∧ ms.map Token.kind = marks ∧
      Behind indents b' ∧ TakenAs limit us stmt := by
  obtain ⟨ts, rest, hts, hfile⟩ := tokens_of_parseModule h.parses
  have hrun := hts
  rw [tokenize, h.lexemes_line] at hrun
  obtain ⟨done, s', last, hsteps, hlast, rfl⟩ := run_append hrun
  -- behind the statement no bracket is open, for there the program ends
  have hclosed : s'.brackets = [] := by
    obtain ⟨tokens, s₁, _, hstep, hfinish, -⟩ := run_cons_inv hlast
    have hclosed := brackets_of_finish hfinish
    cases step_cases hstep with
    | blank hl => rcases hl with hl | hl | hl <;> cases hl
    | joined _ _ hs => subst hs; exact hclosed
    | emptyLine _ _ hopen => exact hopen
    | lineEnd _ _ hopen => exact hopen
    | content hl => cases hl
  obtain ⟨ms, vs, b₁, hsame, hms, -, hbehind⟩ :=
    steps_placed (Nat.le_refl limit) h.spaced (before_start limit) hsteps hclosed
  rw [hsteps] at hsame
  cases hsame
  obtain ⟨newline', eof', here, hend, hnewline', -⟩ := run_ending hbehind (.inr rfl)
  rw [show run _ s' [⟨.lineBreak, ['\n']⟩] = _ from hend] at hlast
  cases hlast
  obtain ⟨as, newline, eof, fuel, hline, hne, hcontent, hnewline, heof, hsmall⟩ :=
    line_of_file h.isSimple (stream_of_rest (rest_run rfl sound_start hts)) (no_semicolon h hts) hfile
  have hgrouped := grouped_of_tokenize (hline ▸ hts) hcontent hne hnewline heof
  obtain ⟨rfl, heq⟩ := List.append_inj' hline rfl
  cases heq
  obtain ⟨ms', us, b', hsteps', hms', hus, hbehind'⟩ := steps_placed hle h.spaced hb hsteps hclosed
  refine ⟨ms', us, b', hsteps', hms', hbehind', ?_, ?_⟩
  · obtain ⟨t, as, has⟩ := List.exists_cons_of_ne_nil hne
    rw [has] at hus hcontent
    cases hus with
    | @cons _ u _ us htu =>
      show u.kind.isContent = true
      rw [← htu.kind]
      exact hcontent t List.mem_cons_self
  · exact fun n stop tail hn hstop htail =>
      smallStatement_placed hgrouped hnewline' hsmall hus hn hstop htail

/-! ## Separators -/

/-- The pieces of a separator leave one token, behind which a statement may stand. -/
def Parts (n : Nat) (indents : List Nat) (P : Token → Prop) (gap : List Lexeme) : Prop :=
  ∀ s, Behind indents s → ∃ t s', steps ⟨.file, n, 0⟩ s gap = .ok ([t], s') ∧ P t ∧
    Before n [] indents s'

/-- Statements with separators between them leave their tokens, with those of the separators between
them. -/
theorem steps_intercalate (hgap : Parts n indents P gap) (hle : limit ≤ n)
    (h : List.Forall₂ (Alone limit) texts stmts) (hne : texts ≠ []) (hb : Before n marks indents b) :
    ∃ ms us b', steps ⟨.file, n, 0⟩ b (gap.intercalate (texts.map lexemes)) = .ok (ms ++ us, b') ∧
      ms.map Token.kind = marks ∧ Behind indents b' ∧ Statements limit P us stmts := by
  induction h generalizing b marks with
  | nil => exact absurd rfl hne
  | @cons text stmt texts stmts htext hrest ih =>
    obtain ⟨ms, us, b₁, hsteps, hms, hbehind, htaken⟩ := exists_placed htext hle hb
    cases hrest with
    | nil => exact ⟨ms, us, b₁, by simpa using hsteps, hms, hbehind, .one htaken⟩
    | cons =>
      obtain ⟨t, b₂, hgap', ht, hbefore⟩ := hgap b₁ hbehind
      obtain ⟨ms', vs, b₃, hsteps', hms', hbehind', hstatements⟩ := ih (by simp) hbefore
      obtain rfl := List.map_eq_nil_iff.mp hms'
      refine ⟨ms, us ++ t :: vs, b₃, ?_, hms, hbehind', .cons htaken ht hstatements⟩
      rw [List.map_cons, List.map_cons, List.intercalate_cons_cons]
      rw [List.map_cons] at hsteps'
      rw [steps_append (steps_append hsteps hgap') hsteps']
      simp

/-- Behind a statement another one may stand on its line. -/
theorem Behind.before (hs : Behind indents s) : Before n [] indents s := by
  refine ⟨hs.brackets, fun here => ⟨[], ?_, rfl⟩⟩
  rw [lineMarks_onLine hs.atLineStart, hs.indents]

/-- A blank before a statement on the same line. -/
theorem steps_blank (hs : Behind indents s) :
    ∃ s', steps ⟨.file, n, 0⟩ s (marginPieces [' ']) = .ok ([], s') ∧ Before n [] indents s' := by
  obtain ⟨x, indents, brackets, atLineStart, width⟩ := s
  obtain ⟨rfl, rfl, rfl⟩ := hs
  exact ⟨⟨x + byteLength [' '], indents, [], false, [' '].foldl widen width⟩, rfl,
    Behind.before ⟨rfl, rfl, rfl⟩⟩

theorem parts_semicolon (n : Nat) (indents : List Nat) :
    Parts n indents (fun t => t.isOp ";" = true) (⟨.op, [';']⟩ :: marginPieces [' ']) := by
  intro s hs
  obtain ⟨x, indents, brackets, atLineStart, width⟩ := s
  obtain ⟨rfl, rfl, rfl⟩ := hs
  exact ⟨⟨.op, ";", ⟨0 + x, 0 + (x + byteLength [';'])⟩⟩,
    ⟨x + byteLength [';'] + byteLength [' '], indents, [], false, [' '].foldl widen width⟩, rfl, rfl,
    Behind.before ⟨rfl, rfl, rfl⟩⟩

/-- A line break and spaces behind it: the next line has as many as its width. -/
theorem steps_lineBreak (hs : Behind indents s) (w : Nat) :
    ∃ t x, steps ⟨.file, n, 0⟩ s (⟨.lineBreak, ['\n']⟩ :: marginPieces (List.replicate w ' ')) =
      .ok ([t], ⟨x, indents, [], true, w⟩) ∧ EndsLine t := by
  obtain ⟨x, indents, brackets, atLineStart, width⟩ := s
  obtain ⟨rfl, rfl, rfl⟩ := hs
  have hbreak : step ⟨.file, n, 0⟩ ⟨x, indents, [], false, width⟩ ⟨.lineBreak, ['\n']⟩ =
      .ok ([⟨.newline, "\n", ⟨0 + x, 0 + (x + byteLength ['\n'])⟩⟩],
        ⟨x + byteLength ['\n'], indents, [], true, 0⟩) := rfl
  have hmargin : ∃ y, steps ⟨.file, n, 0⟩ ⟨x + byteLength ['\n'], indents, [], true, 0⟩
      (marginPieces (List.replicate w ' ')) = .ok ([], ⟨y, indents, [], true, w⟩) := by
    unfold marginPieces
    split
    · next hnil =>
      obtain rfl : w = 0 := by simpa using hnil
      exact ⟨_, rfl⟩
    · refine ⟨x + byteLength ['\n'] + byteLength (List.replicate w ' '), ?_⟩
      rw [steps_cons (step_blank _ (.inl rfl)) rfl, foldl_widen_spaces, Nat.zero_add]
      rfl
  obtain ⟨y, hmargin⟩ := hmargin
  exact ⟨_, y, steps_cons hbreak hmargin, rfl, show isOpening "\n" = false by decide⟩

/-- A line as wide as the block that is open belongs to the block. -/
theorem before_same (x w : Nat) (ws : List Nat) : Before n [] (w :: ws) ⟨x, w :: ws, [], true, w⟩ where
  brackets := rfl
  marks here := by
    refine ⟨[], ?_, rfl⟩
    rw [lineMarks, if_pos ⟨rfl, rfl⟩, indentTo]
    simp [dedent]

/-- A wider line opens a block. -/
theorem before_wider {v w : Nat} (hlt : v < w) (x : Nat) (ws : List Nat) :
    Before n [.indent] (w :: v :: ws) ⟨x, v :: ws, [], true, w⟩ where
  brackets := rfl
  marks here := by
    refine ⟨[⟨.indent, "", here⟩], ?_, rfl⟩
    rw [lineMarks, if_pos ⟨rfl, rfl⟩, indentTo]
    exact if_pos hlt

theorem parts_lineBreak (n w : Nat) (ws : List Nat) :
    Parts n (w :: ws) EndsLine (⟨.lineBreak, ['\n']⟩ :: marginPieces (List.replicate w ' ')) := by
  intro s hs
  obtain ⟨t, x, hsteps, ht⟩ := steps_lineBreak hs w
  exact ⟨t, _, hsteps, ht, before_same x w ws⟩

end PythonSyntax.Layout
