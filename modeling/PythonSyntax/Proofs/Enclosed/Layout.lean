import PythonSyntax.Proofs.Concat.Layout
import PythonSyntax.Proofs.Enclosed.Scan
import PythonSyntax.Proofs.Layout.Bracket

/-
The tokens of a text in parentheses.

A text whose brackets are balanced has the same tokens as an expression inside a program and between
parentheses, for there the layout adds no marks to them.  In parentheses one bracket more is open, so
one more must be allowed.  `Enclosed` says how the two streams match from a place on: up to the end
of the one and the closing parenthesis of the other the brackets that are open there are closed.
-/

namespace PythonSyntax

open PythonSyntax.Parser PythonSyntax.Parser.TokenLikeness PythonSyntax.Lexeme

/-! ## What matches -/

/-- What matches in two runs of which the second one reads the text of the first in parentheses: it
stands one level deeper, under a limit that is higher by one.  Errors match whatever they are.  If
the text is not known to be `whole`, it may be that the first run does not use it up. -/
def enclosed (whole : Prop) : TokenLikeness :=
  { sameText False False False with
    error := fun _ _ => True
    excused := fun cause => cause = .outOfFuel ∨ ¬ whole ∧ cause = .fieldTrailing
    place := fun _ _ => trivial
    fuel := .inl rfl
    deepest := fun cause h hle hc => ((sameText False False False).deepest cause h hle hc).imp_right
      fun hexc => .inl (hexc.elim (fun h => h.1.elim) fun h => h.resolve_right id) }

section

variable {α β : Type} {Q : α → β → Prop}

/-- What matches for the same text matches when the text stands in parentheses. -/
theorem Parser.TokenLikeness.Results.enclosed {r : Except SyntaxError α} {r' : Except SyntaxError β}
    (h : (sameText False False False).Results Q r r') (whole : Prop) :
    (enclosed whole).Results Q r r' :=
  h.weaken (fun _ _ _ => trivial)
    fun _ hexc => .inl (hexc.elim (fun h => h.1.elim) fun h => h.resolve_right id)

theorem Parser.TokenLikeness.Relates.enclosed {p : Parser α} {q : Parser β} {S : Streams}
    {T : α → β → Streams} (h : (sameText False False False).Relates S p q T) (whole : Prop) :
    (enclosed whole).Relates S p q T :=
  fun ts us n m hs hn => (h ts us n m hs hn).enclosed whole

/-- Of results that match it is known which ones they are. -/
theorem Parser.TokenLikeness.Results.known {c : TokenLikeness} {r : Except SyntaxError α}
    {r' : Except SyntaxError β} (h : c.Results Q r r') :
    c.Results (fun a b => Q a b ∧ r = .ok a ∧ r' = .ok b) r r' := by
  cases h with
  | ok hq => exact .ok ⟨hq, rfl, rfl⟩
  | error he => exact .error he
  | excused hexc => exact .excused hexc

end

/-! ## Tokens in brackets -/

/-- Tokens that close as many brackets as are open and they open; `k` are open before them.  Those
outside all brackets satisfy `P`, unless they are brackets. -/
inductive Grouped (P : Token → Prop) : Nat → List Token → Prop where
  | nil : Grouped P 0 []
  | plain {k t ts} : t.isPlain = true → (k = 0 → P t) → Grouped P k ts → Grouped P k (t :: ts)
  | opening {k t ts} : t.kind = .op → Layout.isOpening t.text = true → Grouped P (k + 1) ts →
      Grouped P k (t :: ts)
  | closing {k t ts} : t.kind = .op → Layout.isClosing t.text = true → Grouped P k ts →
      Grouped P (k + 1) (t :: ts)

/-- How streams match where `k` brackets of the text are open: the tokens of the text, up to the token
that ends it, are those up to the closing parenthesis of the second stream.  The text ends with a token
of the kind `last`. -/
inductive Enclosed (P : Token → Prop) (last : TokenKind) (tail : List Token) (k : Nat) :
    List Token → List Token → Prop where
  | mk {as bs stop rest close} : List.Forall₂ (Same False) as bs → Grouped P k as →
      stop.kind = last → last = .endMarker ∨ last = .newline → close.isOp ")" = true →
      rest.length ≤ tail.length → Enclosed P last tail k (as ++ stop :: rest) (bs ++ close :: tail)

/-- Where the tokens of an expression end, those of a line may end instead. -/
theorem Enclosed.at_newline {P : Token → Prop} {as us tail : List Token} {k : Nat}
    {stop newline eof : Token}
    (h : Enclosed P .endMarker tail k (as ++ [stop]) us)
    (has : ∀ t ∈ as, t.kind.isContent = true) (hnewline : newline.kind = .newline)
    (htail : 1 ≤ tail.length) : Enclosed P .newline tail k (as ++ [newline, eof]) us := by
  generalize hts : as ++ [stop] = ts at h
  obtain ⟨hsame, hgrouped, hstop, -, hclose, -⟩ := h
  rcases List.append_eq_append_iff.mp hts with ⟨done, rfl, hdone⟩ | ⟨done, rfl, hdone⟩
  · obtain ⟨rfl, -⟩ : done = [] ∧ _ := by
      cases done with
      | nil => exact ⟨rfl, hdone⟩
      | cons _ done => simp at hdone
    rw [List.append_nil] at hsame hgrouped
    exact .mk hsame hgrouped hnewline (.inr rfl) hclose htail
  · cases done with
    | nil =>
      rw [List.append_nil]
      exact .mk hsame hgrouped hnewline (.inr rfl) hclose htail
    | cons t done =>
      obtain ⟨rfl, -⟩ := List.cons.inj hdone
      have hcontent := has _ (List.mem_append_right _ List.mem_cons_self)
      rw [hstop] at hcontent
      cases hcontent

namespace Layout

variable {whole : Prop} {limit base : Nat} {a b s s' : Layout} {l : Lexeme} {ls : List Lexeme}
  {tokens ts : List Token}

/-! ## Steps in an expression -/

/-- What a step on a lexeme of an expression inside a program does. -/
structure Gives (l : Lexeme) (depth : Nat) (tokens : List Token) (s : Layout) : Prop where
  depth : s.brackets.length = l.depthAfter depth
  known : l.kind ≠ .openQuote ∧ l.kind ≠ .stray
  tokens : (tokens = [] ∧ contentKind? l.kind = none) ∨
    ∃ t, tokens = [t] ∧ contentKind? l.kind = some t.kind ∧ t.text = String.ofList l.text

/-- A lexeme becomes a token with text just if there is a kind for the token. -/
theorem isContent_iff {l : LexemeKind} : l.isContent = true ↔ ∃ kind, contentKind? l = some kind := by
  cases l <;> simp [LexemeKind.isContent, contentKind?]

theorem length_bracketsAfter {cfg : LayoutConfig} {kind : TokenKind} {span : Span}
    {brackets : List String} (hkind : contentKind? l.kind = some kind)
    (h : bracketsAfter cfg s kind (String.ofList l.text) span = .ok brackets) :
    brackets.length = l.depthAfter s.brackets.length := by
  by_cases hop : l.kind = .op
  · rw [hop] at hkind
    cases hkind
    unfold bracketsAfter trackBracket at h
    rw [if_pos rfl] at h
    rw [depthAfter, opens, closes, hop]
    show _ = if isOpening (String.ofList l.text) = true then _
      else if isClosing (String.ofList l.text) = true then _ else _
    split at h
    · next hopen =>
      rw [if_pos hopen]
      split at h <;> cases h
      rfl
    · next hopen =>
      rw [if_neg hopen]
      split at h
      · next hclose =>
        rw [if_pos hclose]
        split at h
        · cases h
        · next hb =>
          rw [hb]
          split at h <;> cases h
          rfl
      · next hclose =>
        rw [if_neg hclose]
        cases h
        rfl
  · have hkind' : kind ≠ .op := by
      rintro rfl
      cases hl : l.kind <;> rw [hl] at hkind hop <;> first | (cases hkind; done) | exact absurd rfl hop
    unfold bracketsAfter at h
    rw [if_neg hkind'] at h
    cases h
    exact (depthAfter_of_ne_op hop _).symm

theorem gives_of_step {cfg : LayoutConfig} (hcfg : cfg.mode = .embedded)
    (h : step cfg s l = .ok (tokens, s')) : Gives l s.brackets.length tokens s' := by
  cases step_cases h with
  | blank hl hs =>
    subst hs
    rcases hl with hl | hl | hl
    all_goals
      refine ⟨(depthAfter_of_ne_op ?_ _).symm, ?_, .inl ⟨rfl, ?_⟩⟩ <;> rw [hl]
      · exact nofun
      · exact ⟨nofun, nofun⟩
      · rfl
  | joined hl _ hs =>
    subst hs
    refine ⟨(depthAfter_of_ne_op ?_ _).symm, ?_, .inl ⟨rfl, ?_⟩⟩ <;> rw [hl]
    · exact nofun
    · exact ⟨nofun, nofun⟩
    · rfl
  | emptyLine _ hfile => cases hcfg.symm.trans hfile
  | lineEnd _ hfile => cases hcfg.symm.trans hfile
  | @content _ kind span marks indents brackets hl hmarks hbrackets hs =>
    subst hs
    rw [lineMarks, if_neg (by simp [hcfg])] at hmarks
    cases hmarks
    refine ⟨length_bracketsAfter hl hbrackets, ?_, .inr ⟨_, rfl, hl, rfl⟩⟩
    constructor <;> intro hk <;> rw [hk] at hl <;> cases hl

/-! ## Steps in parentheses -/

/-- The second state is the first one in parentheses, on a line of a program. -/
structure Surrounds (a b : Layout) : Prop where
  brackets : b.brackets = a.brackets ++ ["("]
  atLineStart : b.atLineStart = false
  indents : b.indents = [0]

theorem trackBracket_surrounded {brackets : List String} {op : String} {span span' : Span}
    (h : isClosing op = true → brackets ≠ []) :
    (enclosed whole).Results (fun r r' => r' = r ++ ["("]) (trackBracket limit brackets op span)
      (trackBracket (limit + 1) (brackets ++ ["("]) op span') := by
  unfold trackBracket
  split
  · rw [List.length_append, List.length_singleton]
    by_cases hfull : limit ≤ brackets.length
    · rw [if_pos hfull, if_pos (Nat.succ_le_succ hfull)]
      exact .error trivial
    · rw [if_neg hfull, if_neg fun hle => hfull (Nat.le_of_succ_le_succ hle)]
      exact .ok rfl
  · split
    · next hclose =>
      obtain ⟨opening, rest, rfl⟩ := List.exists_cons_of_ne_nil (h hclose)
      rw [List.cons_append]
      dsimp only
      split
      · exact .ok rfl
      · exact .error trivial
    · exact .ok rfl

theorem content_surrounded (hab : Surrounds a b) {kind : TokenKind} {text : List Char}
    {span span' : Span}
    (h : kind = .op → isClosing (String.ofList text) = true → a.brackets ≠ []) :
    (enclosed whole).Results
      (fun r r' => List.Forall₂ (Same False) r.1 r'.1 ∧ Surrounds r.2 r'.2)
      (content ⟨.embedded, limit, base⟩ a kind text span)
      (content ⟨.file, limit + 1, 0⟩ b kind text span') := by
  have hbrackets : (enclosed whole).Results (fun r r' => r' = r ++ ["("])
      (bracketsAfter ⟨.embedded, limit, base⟩ a kind (String.ofList text) span)
      (bracketsAfter ⟨.file, limit + 1, 0⟩ b kind (String.ofList text) span') := by
    unfold bracketsAfter
    rw [hab.brackets]
    split
    · next hop => exact trackBracket_surrounded (h hop)
    · exact .ok rfl
  have hmarks : lineMarks ⟨.embedded, limit, base⟩ a ⟨span.start, span.start⟩ = .ok ([], a.indents) :=
    if_neg (by simp)
  have hmarks' : lineMarks ⟨.file, limit + 1, 0⟩ b ⟨span'.start, span'.start⟩ =
      .ok ([], b.indents) :=
    if_neg (by simp [hab.atLineStart])
  unfold content
  rw [hmarks, hmarks']
  refine hbrackets.bind fun brackets brackets' hr => .ok ⟨?_, hr, rfl, hab.indents⟩
  exact .cons (same_self _ _ False.elim) .nil

/-- A lexeme is fed alike in an expression and in parentheses. -/
theorem step_surrounded (hab : Surrounds a b) (h : l.closes = true → a.brackets ≠ []) :
    (enclosed whole).Results
      (fun r r' => List.Forall₂ (Same False) r.1 r'.1 ∧ Surrounds r.2 r'.2)
      (step ⟨.embedded, limit, base⟩ a l) (step ⟨.file, limit + 1, 0⟩ b l) := by
  have hne : b.brackets ≠ [] := by
    rw [hab.brackets]
    exact List.append_ne_nil_of_right_ne_nil _ (List.cons_ne_nil _ _)
  have hother : ∀ {kind : TokenKind} {span span' : Span}, kind ≠ .op → (enclosed whole).Results
      (fun r r' => List.Forall₂ (Same False) r.1 r'.1 ∧ Surrounds r.2 r'.2)
      (content ⟨.embedded, limit, base⟩ a kind l.text span)
      (content ⟨.file, limit + 1, 0⟩ b kind l.text span') :=
    fun hkind => content_surrounded hab fun hop => absurd hop hkind
  have hfeed : ∀ span span', (enclosed whole).Results
      (fun r r' => List.Forall₂ (Same False) r.1 r'.1 ∧ Surrounds r.2 r'.2)
      (feed ⟨.embedded, limit, base⟩ a l span) (feed ⟨.file, limit + 1, 0⟩ b l span') := by
    intro span span'
    unfold feed
    cases hkind : l.kind with
    | lineBreak =>
      dsimp only
      rw [if_pos (.inl rfl), if_pos (.inr hne)]
      exact .ok ⟨.nil, hab⟩
    | blank => exact .ok ⟨.nil, hab.brackets, hab.atLineStart, hab.indents⟩
    | comment => exact .ok ⟨.nil, hab.brackets, hab.atLineStart, hab.indents⟩
    | continuation => exact .ok ⟨.nil, hab.brackets, hab.atLineStart, hab.indents⟩
    | openQuote => exact .error trivial
    | stray => exact .error trivial
    | name => exact hother nofun
    | number => exact hother nofun
    | string => exact hother nofun
    | op =>
      refine content_surrounded hab fun _ hclose => h ?_
      rw [closes, hkind, hclose]
      rfl
  unfold step
  exact (hfeed _ _).bind fun r r' hr =>
    .ok ⟨hr.1, hr.2.brackets, hr.2.atLineStart, hr.2.indents⟩

/-! ## Runs -/

/-- A parenthesis at the start of a program. -/
theorem step_open (limit : Nat) :
    ∃ t s, step ⟨.file, limit + 1, 0⟩ start ⟨.op, ['(']⟩ = .ok ([t], s) ∧ t.isOp "(" = true ∧
      Surrounds start s := by
  have hbrackets : ∀ here, bracketsAfter ⟨.file, limit + 1, 0⟩ start .op (String.ofList ['(']) here =
      .ok ["("] := fun _ => rfl
  have hmarks : ∀ here, lineMarks ⟨.file, limit + 1, 0⟩ start here = .ok ([], [0]) := fun _ => rfl
  exact ⟨_, _, step_content rfl rfl (hmarks _) (hbrackets _), rfl, rfl, rfl, rfl⟩

/-- Line breaks behind a line that has a token end it. -/
theorem run_lineBreaks (limit base x width : Nat) {post : List Lexeme}
    (hpost : ∀ l ∈ post, l.kind = .lineBreak) :
    ∃ newline eof, run ⟨.file, limit, base⟩ ⟨x, [0], [], false, width⟩ post = .ok [newline, eof] ∧
      newline.kind = .newline ∧ eof.kind = .endMarker := by
  cases post with
  | nil => exact ⟨_, _, rfl, rfl, rfl⟩
  | cons l post =>
    rw [List.forall_mem_cons] at hpost
    have hstep : ∃ newline, step ⟨.file, limit, base⟩ ⟨x, [0], [], false, width⟩ l =
        .ok ([newline], ⟨x + byteLength l.text, [0], [], true, 0⟩) ∧ newline.kind = .newline := by
      exact ⟨_, step_outside rfl rfl hpost.1, rfl⟩
    obtain ⟨newline, hstep, hnewline⟩ := hstep
    obtain ⟨offset, hrun⟩ : ∃ offset, run ⟨.file, limit, base⟩
        ⟨x + byteLength l.text, [0], [], true, 0⟩ (post ++ []) =
          run ⟨.file, limit, base⟩ ⟨offset, [0], [], true, 0⟩ [] :=
      run_emptyLines rfl hpost.2 _ _
    rw [List.append_nil] at hrun
    refine ⟨newline, ⟨.endMarker, "", ⟨base + offset, base + offset⟩⟩, ?_, hnewline, rfl⟩
    exact run_cons hstep hrun

/-- The end of a text is reached with no bracket open, and then the parenthesis is closed. -/
theorem run_closing (limit base : Nat) (hab : Surrounds a b) (h : a.brackets = [])
    {post : List Lexeme} (hpost : ∀ l ∈ post, l.kind = .lineBreak) :
    ∃ eof close newline eof', finish ⟨.embedded, limit, base⟩ a = .ok [eof] ∧
      run ⟨.file, limit + 1, 0⟩ b (⟨.op, [')']⟩ :: post) = .ok [close, newline, eof'] ∧
      eof.kind = .endMarker ∧ close.isOp ")" = true ∧ newline.kind = .newline ∧
      eof'.kind = .endMarker := by
  obtain ⟨x, indents, brackets, atLineStart, width⟩ := b
  obtain ⟨hbrackets, hstart, hindents⟩ := hab
  rw [h, List.nil_append] at hbrackets
  dsimp only at hbrackets hstart hindents
  subst hbrackets hstart hindents
  obtain ⟨newline, eof', hrun, hnewline, heof'⟩ := run_lineBreaks (limit + 1) 0
    (x + byteLength [')']) width hpost
  refine ⟨_, ⟨.op, ")", ⟨0 + x, 0 + (x + byteLength [')'])⟩⟩, newline, eof', finish_embedded rfl h, ?_,
    rfl, rfl, hnewline, heof'⟩
  show run _ _ post >>= _ = _
  rw [hrun]
  rfl

/-- What the runs on the lexemes of an expression and on those lexemes in parentheses have in
common. -/
structure RunsAlike (P : Token → Prop) (depth : Nat) (ls : List Lexeme) (ts us : List Token) :
    Prop where
  streams : ∃ newline eof, newline.kind = .newline ∧ eof.kind = .endMarker ∧
    Enclosed P .endMarker [newline, eof] depth ts us
  known : ∀ l ∈ ls, l.kind ≠ .openQuote ∧ l.kind ≠ .stray
  empty : (current ts).kind = .endMarker → ∀ l ∈ ls, contentKind? l.kind = none

/-- A token is a bracket if its lexeme is. -/
theorem isBracket_of_lexeme {t : Token} (hkind : contentKind? l.kind = some t.kind)
    (htext : t.text = String.ofList l.text) :
    l.opens = (t.kind == .op && isOpening t.text) ∧
      l.closes = (t.kind == .op && isClosing t.text) := by
  rw [opens, closes, htext]
  generalize t.kind = kind at hkind
  cases hl : l.kind <;> rw [hl] at hkind <;> cases hkind <;> exact ⟨rfl, rfl⟩

/-- A token in front of others that are grouped. -/
theorem grouped_cons {P : Token → Prop} {depth : Nat} {t : Token}
    (hkind : contentKind? l.kind = some t.kind) (htext : t.text = String.ofList l.text)
    (hclosed : l.closes = true → depth ≠ 0) (hP : depth = 0 → l.depthAfter depth = 0 → P t)
    (h : Grouped P (l.depthAfter depth) ts) : Grouped P depth (t :: ts) := by
  obtain ⟨hopens, hcloses⟩ := isBracket_of_lexeme hkind htext
  unfold depthAfter at h hP
  cases ho : l.opens with
  | true =>
    rw [ho, if_pos rfl] at h
    rw [ho, eq_comm, Bool.and_eq_true, beq_iff_eq] at hopens
    exact .opening hopens.1 hopens.2 h
  | false =>
    rw [ho, if_neg Bool.false_ne_true] at h hP
    cases hc : l.closes with
    | true =>
      obtain ⟨depth, rfl⟩ := Nat.exists_eq_succ_of_ne_zero (hclosed hc)
      rw [hc, if_pos rfl] at h
      rw [hc, eq_comm, Bool.and_eq_true, beq_iff_eq] at hcloses
      exact .closing hcloses.1 hcloses.2 h
    | false =>
      rw [hc, if_neg Bool.false_ne_true] at h hP
      refine .plain ?_ (fun hzero => hP hzero hzero) h
      rw [Token.isPlain, isContent_of_contentKind? hkind, isBracketText, Bool.and_or_distrib_left,
        ← hopens, ← hcloses, ho, hc]
      rfl

/-- The first lexeme and the tokens of the others. -/
theorem RunsAlike.cons {P : Token → Prop} {depth : Nat} {us tokens' : List Token}
    (hl : Gives l depth tokens s) (hsame : List.Forall₂ (Same False) tokens tokens')
    (hclosed : l.closes = true → depth ≠ 0)
    (hP : depth = 0 → l.depthAfter depth = 0 → ∀ t : Token,
      contentKind? l.kind = some t.kind → t.text = String.ofList l.text → P t)
    (h : RunsAlike P s.brackets.length ls ts us) :
    RunsAlike P depth (l :: ls) (tokens ++ ts) (tokens' ++ us) := by
  obtain ⟨⟨newline, eof', hnewline, heof', henclosed⟩, hknown, hempty⟩ := h
  have hknown' : ∀ m ∈ l :: ls, m.kind ≠ .openQuote ∧ m.kind ≠ .stray :=
    List.forall_mem_cons.mpr ⟨hl.known, hknown⟩
  rw [hl.depth] at henclosed
  rcases hl.tokens with ⟨rfl, hkind⟩ | ⟨t, rfl, hkind, htext⟩
  · cases hsame
    have hop : l.kind ≠ .op := fun hop => by rw [hop] at hkind; cases hkind
    rw [depthAfter_of_ne_op hop] at henclosed
    exact ⟨⟨newline, eof', hnewline, heof', henclosed⟩, hknown',
      fun heof => List.forall_mem_cons.mpr ⟨hkind, hempty heof⟩⟩
  · obtain _ | ⟨htu, hnil⟩ := hsame
    cases hnil
    refine ⟨⟨newline, eof', hnewline, heof', ?_⟩, hknown', fun heof => ?_⟩
    · obtain ⟨has, hgrouped, heof, hlast, hclose, hrest⟩ := henclosed
      have hcons := grouped_cons hkind htext hclosed
        (fun hzero hafter => hP hzero hafter t hkind htext) hgrouped
      exact Enclosed.mk (.cons htu has) hcons heof hlast hclose hrest
    · have hcontent := isContent_of_contentKind? hkind
      rw [show t.kind = .endMarker from heof] at hcontent
      cases hcontent

/-- The tokens of lexemes in which brackets are balanced are the same in parentheses, behind which
the line ends. -/
theorem run_surrounded {P : Token → Prop} (hab : Surrounds a b)
    (hbalanced : balanced a.brackets.length ls = true)
    (hP : (∀ l ∈ ls, l.kind ≠ .openQuote ∧ l.kind ≠ .stray) →
      ∀ l ∈ outer a.brackets.length ls, ∀ t : Token,
        contentKind? l.kind = some t.kind → t.text = String.ofList l.text → P t)
    {post : List Lexeme} (hpost : ∀ l ∈ post, l.kind = .lineBreak) :
    (enclosed whole).Results (RunsAlike P a.brackets.length ls)
      (run ⟨.embedded, limit, base⟩ a ls)
      (run ⟨.file, limit + 1, 0⟩ b (ls ++ ⟨.op, [')']⟩ :: post)) := by
  induction ls generalizing a b with
  | nil =>
    have hnil : a.brackets = [] := List.eq_nil_of_length_eq_zero (beq_iff_eq.mp hbalanced)
    obtain ⟨eof, close, newline, eof', hfinish, hrun, heof, hclose, hnewline, heof'⟩ :=
      run_closing limit base hab hnil hpost
    rw [List.nil_append, hrun, hnil]
    show (enclosed whole).Results _ (finish _ a) _
    rw [hfinish]
    refine .ok ⟨⟨newline, eof', hnewline, heof', ?_⟩, nofun, fun _ => nofun⟩
    exact Enclosed.mk .nil .nil heof (.inl rfl) hclose (Nat.zero_le _)
  | cons l ls ih =>
    rw [balanced, Bool.and_eq_true, Bool.or_eq_true, Bool.not_eq_true', bne_iff_ne] at hbalanced
    have hclosed : l.closes = true → a.brackets.length ≠ 0 := fun hc =>
      hbalanced.1.resolve_left (by rw [hc]; exact nofun)
    rw [List.cons_append, run, run]
    refine (step_surrounded hab fun hc hnil => hclosed hc ?_).known.bind fun r r' hr => ?_
    · rw [hnil, List.length_nil]
    obtain ⟨⟨hsame, hab'⟩, hembedded, -⟩ := hr
    have hgives := gives_of_step rfl hembedded
    have houter := fun hknown m hm =>
      hP (List.forall_mem_cons.mpr ⟨hgives.known, hknown⟩) m (mem_outer_cons.mpr hm)
    rw [← hgives.depth] at hbalanced houter
    refine (ih hab' hbalanced.2 fun hknown m hm => houter hknown m (.inr hm)).bind ?_
    intro ts us hts
    refine .ok (hts.cons hgives hsame hclosed fun hzero hafter => ?_)
    exact houter hts.known l (.inl ⟨rfl, hzero, hgives.depth.trans hafter⟩)

end Layout

end PythonSyntax
