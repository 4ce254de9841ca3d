import PythonSyntax.Proofs.Layout.Step

/-
Token streams are well formed.

`Stream limit ts` says what a parser may rely on: where the end marker, the ends of lines and the
indentation marks stand, and that brackets match.  `tokenize_stream` proves it of every stream that
`tokenize` returns, together with what the stack of open widths is between any two lexemes.
-/

namespace PythonSyntax.Layout

/-! ## What a stream is -/

/-- Whether a token is a bracket. -/
def isBracket (t : Token) : Bool := t.kind == .op && (isOpening t.text || isClosing t.text)

/-- Tokens in which brackets match, at most `depth` deep, and only tokens with text stand between
a bracket and its match. -/
inductive Matched : Nat → List Token → Prop where
  | nil {depth} : Matched depth []
  | plain {depth t ts} : isBracket t = false → Matched depth ts → Matched depth (t :: ts)
  | group {depth o inner c ts} : o.kind = .op → isOpening o.text = true → Matched depth inner →
      (∀ t ∈ inner, t.kind.isContent = true) → c.kind = .op → c.text = closing o.text →
      Matched (depth + 1) ts → Matched (depth + 1) (o :: (inner ++ c :: ts))

/-- The number of tokens of a kind. -/
def countKind (k : TokenKind) (ts : List Token) : Nat := ts.countP (·.kind == k)

/-- A well-formed token stream, with brackets at most `limit` deep. -/
structure Stream (limit : Nat) (ts : List Token) : Prop where
  /-- The end marker stands at the end and nowhere else. -/
  endMarker : ∃ body e, ts = body ++ [e] ∧ e.kind = .endMarker ∧ ∀ t ∈ body, t.kind ≠ .endMarker
  /-- No more blocks are closed than have been opened. -/
  dedent_le_indent : ∀ pre, pre <+: ts → countKind .dedent pre ≤ countKind .indent pre
  /-- All blocks are closed. -/
  dedent_eq_indent : countKind .dedent ts = countKind .indent ts
  /-- A line ends after a token with text. -/
  before_newline : ∀ pre t post, ts = pre ++ t :: post → t.kind = .newline →
    ∃ pre' c, pre = pre' ++ [c] ∧ c.kind.isContent = true
  /-- A block is opened at the start or after the end of a line. -/
  before_indent : ∀ pre t post, ts = pre ++ t :: post → t.kind = .indent →
    pre = [] ∨ ∃ pre' c, pre = pre' ++ [c] ∧ c.kind = .newline
  /-- A block begins with a token with text. -/
  after_indent : ∀ pre t post, ts = pre ++ t :: post → t.kind = .indent →
    ∃ c post', post = c :: post' ∧ c.kind.isContent = true
  /-- A line that closes blocks opens none. -/
  after_dedent : ∀ pre t u post, ts = pre ++ t :: u :: post → t.kind = .dedent → u.kind ≠ .indent
  /-- Brackets match, and there is no layout inside them. -/
  brackets : Matched limit ts

/-! ## Neighbours -/

/-- Whether a token of kind `k` may stand after one of kind `prev`, or first. -/
def mayFollow (prev : Option TokenKind) (k : TokenKind) : Bool :=
  match k with
  | .newline => prev.any TokenKind.isContent
  | .indent => prev == none || prev == some .newline
  | .dedent => prev == none || prev == some .newline || prev == some .dedent
  | .endMarker => prev != some .indent
  | _ => true

/-- Whether each kind may follow the one before it, and the first one may follow `prev`. -/
def chained (prev : Option TokenKind) : List TokenKind → Bool
  | [] => true
  | k :: ks => mayFollow prev k && chained (some k) ks

/-- The kind that the tokens after `ts` follow. -/
def lastKind (prev : Option TokenKind) (ts : List Token) : Option TokenKind :=
  (ts.getLast?.map Token.kind).or prev

theorem chained_append (prev : Option TokenKind) (ts us : List Token) :
    chained prev ((ts ++ us).map Token.kind) =
      (chained prev (ts.map Token.kind) && chained (lastKind prev ts) (us.map Token.kind)) := by
  induction ts generalizing prev with
  | nil => simp [chained, lastKind]
  | cons t ts ih =>
    have h : lastKind (some t.kind) ts = lastKind prev (t :: ts) := by
      cases ts <;> simp [lastKind, List.getLast?_cons]
    simp only [List.cons_append, List.map_cons, chained, ih, h, Bool.and_assoc]

theorem lastKind_append (prev : Option TokenKind) (ts us : List Token) :
    lastKind prev (ts ++ us) = lastKind (lastKind prev ts) us := by
  simp only [lastKind, List.getLast?_append]
  cases us.getLast? <;> rfl

theorem mayFollow_content (prev : Option TokenKind) {k : TokenKind} (hk : k.isContent = true) :
    mayFollow prev k = true := by
  cases k <;> first | rfl | exact nomatch hk

/-- Where a token may stand at all in a chain, its predecessor allows it. -/
theorem mayFollow_of_chained (pre : List Token) {ts post : List Token} {t : Token} (hts : ts = pre ++ t :: post)
    (h : chained none (ts.map Token.kind) = true) :
    mayFollow (lastKind none pre) t.kind = true := by
  subst hts
  rw [chained_append, Bool.and_eq_true, List.map_cons, chained, Bool.and_eq_true] at h
  exact h.2.1

/-- What a state says of the token before it. -/
def Follows (prev : Option TokenKind) (s : Layout) : Prop :=
  if s.atLineStart then prev = none ∨ prev = some .newline
  else prev.any TokenKind.isContent = true

theorem chained_closers (prev : Option TokenKind) (here : Span) (n : Nat)
    (hprev : mayFollow prev .dedent = true) :
    chained prev ((List.replicate n (⟨.dedent, "", here⟩ : Token) ++
      [(⟨.endMarker, "", here⟩ : Token)]).map Token.kind) = true := by
  induction n generalizing prev with
  | zero =>
    simp only [mayFollow, Bool.or_eq_true, beq_iff_eq] at hprev
    rcases hprev with (rfl | rfl) | rfl <;> rfl
  | succ n ih =>
    rw [List.replicate_succ, List.cons_append, List.map_cons, chained, hprev, Bool.true_and]
    exact ih _ rfl

theorem kind_of_marks {w : Nat} {here : Span} {ws ws' : List Nat} {marks : List Token}
    (hm : Marks w here ws marks ws') : ∀ t ∈ marks, t.kind = .indent ∨ t.kind = .dedent := by
  cases hm with
  | same => simp
  | indent => simp
  | dedent => simp

theorem chained_marks {w : Nat} {here : Span} {ws ws' : List Nat} {marks : List Token}
    {prev : Option TokenKind} (hm : Marks w here ws marks ws')
    (hprev : prev = none ∨ prev = some .newline) :
    chained prev (marks.map Token.kind) = true := by
  cases hm with
  | same => rfl
  | indent => rcases hprev with rfl | rfl <;> rfl
  | @dedent popped =>
    have h := chained_closers prev here popped.length (by rcases hprev with rfl | rfl <;> rfl)
    rw [chained_append, Bool.and_eq_true] at h
    exact h.1

/-- One step emits tokens that may stand after those before it. -/
theorem chained_step {cfg : LayoutConfig} {s s' : Layout} {l : Lexeme} {tokens : List Token}
    {prev : Option TokenKind} (hne : s.indents ≠ []) (hprev : Follows prev s)
    (h : Step cfg s l tokens s') :
    chained prev (tokens.map Token.kind) = true ∧ Follows (lastKind prev tokens) s' := by
  unfold Follows at hprev ⊢
  cases h with
  | blank _ hs => subst hs; exact ⟨rfl, hprev⟩
  | joined _ _ hs => subst hs; exact ⟨rfl, hprev⟩
  | emptyLine _ _ _ _ hs => subst hs; exact ⟨rfl, hprev⟩
  | lineEnd _ _ _ hstart hs =>
    subst hs
    rw [hstart] at hprev
    exact ⟨by simpa [chained, mayFollow] using hprev, by simp [lastKind]⟩
  | @content _ kind span marks indents brackets hk hm _ hs =>
    subst hs
    have hc := isContent_of_contentKind? hk
    rw [chained_append, Bool.and_eq_true]
    refine ⟨⟨?_, by simp [chained, mayFollow_content _ hc]⟩, by simpa [lastKind] using hc⟩
    unfold lineMarks at hm
    split at hm
    · next hstart =>
      rw [hstart.1] at hprev
      exact chained_marks (marks_of_indentTo hne hm) hprev
    · cases hm
      rfl

/-! ## Depth of blocks -/

/-- The number of open blocks after some tokens, when `depth` are open before them. -/
def blocksAfter : Nat → List Token → Option Nat
  | depth, [] => some depth
  | depth, t :: ts =>
    if t.kind = .indent then blocksAfter (depth + 1) ts
    else if t.kind = .dedent then
      match depth with
      | 0 => none
      | depth + 1 => blocksAfter depth ts
    else blocksAfter depth ts

theorem blocksAfter_append (depth : Nat) (ts us : List Token) :
    blocksAfter depth (ts ++ us) = (blocksAfter depth ts).bind (blocksAfter · us) := by
  fun_induction blocksAfter depth ts <;> simp_all [blocksAfter]

theorem blocksAfter_eq_some {depth k : Nat} {ts : List Token} (h : blocksAfter depth ts = some k) :
    k + countKind .dedent ts = depth + countKind .indent ts := by
  fun_induction blocksAfter depth ts with
  | case1 depth => cases h; rfl
  | case2 depth t ts hi ih =>
    have := ih h
    simp [countKind, hi] at this ⊢
    omega
  | case3 => exact nomatch h
  | case4 t ts hi hd depth ih =>
    have := ih h
    simp [countKind, hd] at this ⊢
    omega
  | case5 depth t ts hi hd ih =>
    have := ih h
    simp [countKind, hi, hd] at this ⊢
    omega

/-- At no point have more blocks been closed than were open or have been opened. -/
theorem dedent_le_of_blocksAfter {depth k : Nat} {ts pre : List Token}
    (h : blocksAfter depth ts = some k) (hpre : pre <+: ts) :
    countKind .dedent pre ≤ depth + countKind .indent pre := by
  obtain ⟨post, rfl⟩ := hpre
  rw [blocksAfter_append] at h
  obtain ⟨j, hj, -⟩ := Option.bind_eq_some_iff.mp h
  have := blocksAfter_eq_some hj
  omega

theorem blocksAfter_replicate_dedent (here : Span) (depth n : Nat) :
    blocksAfter (n + depth) (List.replicate n ⟨.dedent, "", here⟩) = some depth := by
  induction n with
  | zero => rw [Nat.zero_add]; rfl
  | succ n ih => rw [List.replicate_succ, Nat.add_right_comm]; exact ih

theorem blocksAfter_marks {w : Nat} {here : Span} {ws ws' : List Nat} {marks : List Token}
    (hm : Marks w here ws marks ws') :
    blocksAfter (ws.length - 1) marks = some (ws'.length - 1) := by
  cases hm with
  | same => rfl
  | indent => rfl
  | @dedent popped _ _ _ hhead =>
    obtain ⟨v, vs, rfl⟩ : ∃ v vs, ws' = v :: vs := by
      cases ws' with
      | nil => exact nomatch hhead
      | cons v vs => exact ⟨v, vs, rfl⟩
    rw [List.length_append, List.length_cons, Nat.add_sub_assoc (by omega)]
    exact blocksAfter_replicate_dedent here _ _

theorem blocksAfter_step {cfg : LayoutConfig} {s s' : Layout} {l : Lexeme} {tokens : List Token}
    (hne : s.indents ≠ []) (h : Step cfg s l tokens s') :
    blocksAfter (s.indents.length - 1) tokens = some (s'.indents.length - 1) := by
  cases h with
  | blank _ hs => subst hs; rfl
  | joined _ _ hs => subst hs; rfl
  | emptyLine _ _ _ _ hs => subst hs; rfl
  | lineEnd _ _ _ _ hs => subst hs; rfl
  | @content _ kind span marks indents brackets hk hm _ hs =>
    subst hs
    have hmarks : blocksAfter (s.indents.length - 1) marks = some (indents.length - 1) := by
      unfold lineMarks at hm
      split at hm
      · exact blocksAfter_marks (marks_of_indentTo hne hm)
      · cases hm
        rfl
    rw [blocksAfter_append, hmarks, Option.bind_some]
    have hc := isContent_of_contentKind? hk
    cases kind <;> first | rfl | exact nomatch hc

/-! ## Matching brackets -/

/-- Tokens that close the open brackets, innermost first, and then match. -/
def Closes (limit : Nat) : List String → List Token → Prop
  | [], ts => Matched limit ts
  | o :: os, ts => ∃ inner c rest, ts = inner ++ c :: rest ∧ (∀ t ∈ inner, t.kind.isContent = true) ∧
      Matched (limit - (os.length + 1)) inner ∧ c.kind = .op ∧ c.text = closing o ∧
      Closes limit os rest

theorem Closes.plain {limit : Nat} {os : List String} {t : Token} {ts : List Token}
    (ht : isBracket t = false) (hos : os ≠ [] → t.kind.isContent = true)
    (h : Closes limit os ts) : Closes limit os (t :: ts) := by
  cases os with
  | nil => exact Matched.plain ht h
  | cons o os =>
    obtain ⟨inner, c, rest, rfl, hinner, hm, hc, hco, hrest⟩ := h
    refine ⟨t :: inner, c, rest, rfl, ?_, .plain ht hm, hc, hco, hrest⟩
    exact List.forall_mem_cons.mpr ⟨hos (List.cons_ne_nil _ _), hinner⟩

theorem Closes.close {limit : Nat} {o : String} {os : List String} {t : Token} {ts : List Token}
    (ht : t.kind = .op) (hto : t.text = closing o) (h : Closes limit os ts) :
    Closes limit (o :: os) (t :: ts) :=
  ⟨[], t, ts, rfl, by simp, .nil, ht, hto, h⟩

/-- A bracket that opens: what is inside it and what follows its match are then put together. -/
theorem Closes.open {limit : Nat} {os : List String} {t : Token} {ts : List Token}
    (ht : t.kind = .op) (hto : isOpening t.text = true) (hos : os.length < limit)
    (h : Closes limit (t.text :: os) ts) : Closes limit os (t :: ts) := by
  obtain ⟨inner, c, rest, rfl, hinner, hm, hc, hco, hrest⟩ := h
  have hcontent : ∀ u : Token, u.kind = .op → u.kind.isContent = true := fun u hu => by rw [hu]; rfl
  cases os with
  | nil =>
    obtain ⟨d, rfl⟩ : ∃ d, limit = d + 1 := ⟨limit - 1, by omega⟩
    exact Matched.group ht hto (by simpa using hm) hinner hc hco hrest
  | cons o os =>
    obtain ⟨inner', c', rest', rfl, hinner', hm', hc', hco', hrest'⟩ := hrest
    refine ⟨t :: (inner ++ c :: inner'), c', rest', by simp, ?_, ?_, hc', hco', hrest'⟩
    · simp only [List.mem_cons, List.mem_append]
      rintro u (rfl | hu | rfl | hu)
      · exact hcontent _ ht
      · exact hinner u hu
      · exact hcontent _ hc
      · exact hinner' u hu
    · rw [List.length_cons] at hm hos
      have hd : limit - (os.length + 1) = limit - (os.length + 1 + 1) + 1 := by omega
      rw [hd] at hm' ⊢
      exact .group ht hto hm hinner hc hco hm'

/-- The open brackets before an operator close what follows it if those after it close the rest. -/
theorem closes_of_trackBracket {limit : Nat} {os os' : List String} {text : String} {span span' : Span}
    {ts : List Token} (hb : trackBracket limit os text span = .ok os') (h : Closes limit os' ts) :
    Closes limit os (⟨.op, text, span'⟩ :: ts) := by
  unfold trackBracket at hb
  split at hb
  · next hopen =>
    split at hb
    · exact nomatch hb
    · next hlt =>
      cases hb
      exact .open rfl hopen (by omega) h
  · next hopen =>
    split at hb
    · next hclose =>
      split at hb
      · exact nomatch hb
      · next o os =>
        split at hb
        · next heq =>
          cases hb
          exact .close rfl heq.symm h
        · exact nomatch hb
    · next hclose =>
      cases hb
      exact .plain (by simp [isBracket, hopen, hclose]) (fun _ => rfl) h

theorem matched_append {limit : Nat} {ts us : List Token} (hts : ∀ t ∈ ts, isBracket t = false)
    (hus : Matched limit us) : Matched limit (ts ++ us) := by
  induction ts with
  | nil => exact hus
  | cons t ts ih =>
    rw [List.forall_mem_cons] at hts
    exact .plain hts.1 (ih hts.2)

theorem isBracket_of_marks {w : Nat} {here : Span} {ws ws' : List Nat} {marks : List Token}
    (hm : Marks w here ws marks ws') : ∀ t ∈ marks, isBracket t = false := by
  intro t ht
  rcases kind_of_marks hm t ht with h | h <;> simp [isBracket, h]

theorem closes_step {cfg : LayoutConfig} {s s' : Layout} {l : Lexeme} {tokens ts : List Token}
    (hs : s.brackets ≠ [] → s.atLineStart = false) (hne : s.indents ≠ [])
    (h : Step cfg s l tokens s') (hts : Closes cfg.maxBrackets s'.brackets ts) :
    Closes cfg.maxBrackets s.brackets (tokens ++ ts) := by
  cases h with
  | blank _ hs' => subst hs'; exact hts
  | joined _ _ hs' => subst hs'; exact hts
  | emptyLine _ _ _ _ hs' => subst hs'; exact hts
  | lineEnd _ _ hb _ hs' =>
    subst hs'
    exact .plain rfl (fun h => absurd hb h) hts
  | @content _ kind span marks indents brackets hk hm hb hs' =>
    subst hs'
    have hlast : Closes cfg.maxBrackets s.brackets
        (⟨kind, String.ofList l.text, span⟩ :: ts) := by
      unfold bracketsAfter at hb
      split at hb
      · next hop =>
        subst hop
        exact closes_of_trackBracket hb hts
      · next hop =>
        cases hb
        exact .plain (by simp [isBracket, hop]) (fun _ => isContent_of_contentKind? hk) hts
    rw [List.append_assoc]
    -- marks stand only before the first token of a line, where no bracket is open
    unfold lineMarks at hm
    split at hm
    · next hstart =>
      have hnil : s.brackets = [] := by
        by_contra hne'
        rw [hs hne'] at hstart
        exact absurd hstart.1 (by decide)
      rw [hnil] at hlast ⊢
      exact matched_append (isBracket_of_marks (marks_of_indentTo hne hm)) hlast
    · cases hm
      exact hlast

/-! ## The state between two lexemes -/

/-- The characters of a line so far: those of the lexemes after the last line break. -/
def lineText (ls : List Lexeme) : List Char :=
  ls.foldl (fun text l => if l.kind = .lineBreak then [] else text ++ l.text) []

/-- The width that a line has reached. -/
def lineWidth (ls : List Lexeme) : Nat := (lineText ls).foldl widen 0

theorem lineText_snoc (ls : List Lexeme) (l : Lexeme) :
    lineText (ls ++ [l]) = if l.kind = .lineBreak then [] else lineText ls ++ l.text := by
  simp [lineText, List.foldl_append]

/-- What holds of a state, whatever the lexemes before it are. -/
structure Sound (s : Layout) : Prop where
  decreasing : s.indents.Pairwise (· > ·)
  bottom : s.indents.getLast? = some 0
  inBrackets : s.brackets ≠ [] → s.atLineStart = false

theorem Sound.indents_ne_nil {s : Layout} (h : s.Sound) : s.indents ≠ [] := by
  intro hnil
  have := h.bottom
  rw [hnil] at this
  exact nomatch this

theorem sound_start : start.Sound := ⟨by simp [start], rfl, fun _ => by contradiction⟩

theorem head_of_marks {w : Nat} {here : Span} {ws ws' : List Nat} {marks : List Token}
    (hm : Marks w here ws marks ws') : ws'.head? = some w := by
  cases hm with
  | same hhead => exact hhead
  | indent => rfl
  | dedent _ _ hhead => exact hhead

theorem marks_sound {w : Nat} {here : Span} {ws ws' : List Nat} {marks : List Token}
    (hm : Marks w here ws marks ws') (hd : ws.Pairwise (· > ·)) (hb : ws.getLast? = some 0) :
    ws'.Pairwise (· > ·) ∧ ws'.getLast? = some 0 := by
  cases hm with
  | same => exact ⟨hd, hb⟩
  | @indent v vs hv =>
    refine ⟨List.pairwise_cons.mpr ⟨?_, hd⟩, by simpa [List.getLast?_cons] using hb⟩
    intro x hx
    rcases List.mem_cons.mp hx with rfl | hx
    · exact hv
    · exact Nat.lt_trans (List.rel_of_pairwise_cons hd hx) hv
  | dedent hp _ hhead =>
    have hne : ws' ≠ [] := fun h => by rw [h] at hhead; exact nomatch hhead
    have hlast := List.getLast?_eq_some_getLast hne
    rw [List.getLast?_append, hlast, Option.some_or, ← hlast] at hb
    exact ⟨(List.pairwise_append.mp hd).2.1, hb⟩

theorem sound_step {cfg : LayoutConfig} {s s' : Layout} {l : Lexeme} {tokens : List Token}
    (hs : s.Sound) (h : Step cfg s l tokens s') : s'.Sound := by
  cases h with
  | blank _ hs' => subst hs'; exact ⟨hs.decreasing, hs.bottom, hs.inBrackets⟩
  | joined _ _ hs' => subst hs'; exact ⟨hs.decreasing, hs.bottom, hs.inBrackets⟩
  | emptyLine _ _ _ _ hs' => subst hs'; exact ⟨hs.decreasing, hs.bottom, hs.inBrackets⟩
  | lineEnd _ _ hb _ hs' =>
    subst hs'
    exact ⟨hs.decreasing, hs.bottom, fun hne => absurd hb hne⟩
  | content _ hm _ hs' =>
    subst hs'
    unfold lineMarks at hm
    split at hm
    · have := marks_sound (marks_of_indentTo hs.indents_ne_nil hm) hs.decreasing hs.bottom
      exact ⟨this.1, this.2, fun _ => rfl⟩
    · cases hm
      exact ⟨hs.decreasing, hs.bottom, fun _ => rfl⟩

/-- The stack of open widths after some tokens, outermost first. -/
structure Stack (done : List Token) (widths : List Nat) : Prop where
  increasing : widths.Pairwise (· < ·)
  bottom : widths.head? = some 0
  height : widths.length + countKind .dedent done = 1 + countKind .indent done

theorem stack_of_sound {s : Layout} {done : List Token} (hs : s.Sound)
    (h : blocksAfter 0 done = some (s.indents.length - 1)) : Stack done s.indents.reverse := by
  refine ⟨List.pairwise_reverse.mpr hs.decreasing, by simpa using hs.bottom, ?_⟩
  have := blocksAfter_eq_some h
  have := List.length_pos_iff.mpr hs.indents_ne_nil
  rw [List.length_reverse]
  omega

/-- What holds after some lexemes of a program. -/
theorem steps_sound {cfg : LayoutConfig} (hcfg : cfg.mode = .file) {ls : List Lexeme}
    {done : List Token} {s : Layout} (h : steps cfg start ls = .ok (done, s)) :
    s.Sound ∧ blocksAfter 0 done = some (s.indents.length - 1) ∧
      (s.atLineStart = true → s.width = lineWidth ls) := by
  refine steps_induction
    (P := fun ls done s => s.Sound ∧ blocksAfter 0 done = some (s.indents.length - 1) ∧
      (s.atLineStart = true → s.width = lineWidth ls)) ⟨sound_start, rfl, fun _ => rfl⟩ ?_ h
  rintro ls done s l tokens s' ⟨hs, hblocks, hwidth⟩ hstep
  refine ⟨sound_step hs hstep, ?_, ?_⟩
  · rw [blocksAfter_append, hblocks]
    exact blocksAfter_step hs.indents_ne_nil hstep
  · intro hstart
    unfold lineWidth
    rw [lineText_snoc]
    cases hstep with
    | blank hk hs' =>
      subst hs'
      have hne : l.kind ≠ .lineBreak := by rcases hk with hk | hk | hk <;> rw [hk] <;> decide
      rw [if_neg hne, List.foldl_append]
      exact congrArg (l.text.foldl widen) (hwidth hstart)
    | joined _ hc hs' =>
      subst hs'
      rcases hc with hc | hc
      · rw [hcfg] at hc
        exact nomatch hc
      · have := hs.inBrackets hc
        rw [show s.atLineStart = true from hstart] at this
        exact nomatch this
    | emptyLine hk _ _ _ hs' => subst hs'; rw [if_pos hk]; rfl
    | lineEnd hk _ _ _ hs' => subst hs'; rw [if_pos hk]; rfl
    | content _ _ _ hs' => subst hs'; exact nomatch hstart

/-! ## Whole streams -/

/-- What the tokens from a state on satisfy, as far as the tokens before them do not matter. -/
structure Rest (limit : Nat) (s : Layout) (ts : List Token) : Prop where
  endMarker : ∃ body e, ts = body ++ [e] ∧ e.kind = .endMarker ∧ ∀ t ∈ body, t.kind ≠ .endMarker
  blocks : blocksAfter (s.indents.length - 1) ts = some 0
  chained : ∀ prev, Follows prev s → chained prev (ts.map Token.kind) = true
  closes : Closes limit s.brackets ts

theorem rest_finish {cfg : LayoutConfig} (hcfg : cfg.mode = .file) {s : Layout} {ts : List Token}
    (h : finish cfg s = .ok ts) : Rest cfg.maxBrackets s ts := by
  unfold finish at h
  dsimp only at h
  split at h
  · exact nomatch h
  · next hb =>
    rw [hcfg] at h
    cases h
    generalize (⟨cfg.base + s.offset, cfg.base + s.offset⟩ : Span) = here
    have hb : s.brackets = [] := not_not.mp hb
    refine ⟨⟨_, _, rfl, rfl, ?_⟩, ?_, ?_, ?_⟩
    · cases s.atLineStart <;> simp
    · have hone : blocksAfter (s.indents.length - 1)
          (if s.atLineStart = true then [] else [⟨.newline, "", here⟩])
            = some (s.indents.length - 1 + 0) := by
        cases s.atLineStart <;> rfl
      rw [blocksAfter_append, blocksAfter_append, hone, Option.bind_some,
        blocksAfter_replicate_dedent]
      rfl
    · intro prev hprev
      unfold Follows at hprev
      cases hstart : s.atLineStart with
      | true =>
        rw [hstart] at hprev
        exact chained_closers prev here _ (by rcases hprev with rfl | rfl <;> rfl)
      | false =>
        rw [hstart] at hprev
        refine Bool.and_eq_true_iff.mpr ⟨hprev, chained_closers _ here _ rfl⟩
    · rw [hb]
      refine matched_append ?_ (Matched.plain rfl .nil)
      cases s.atLineStart <;> simp [isBracket]

theorem kind_ne_endMarker_of_step {cfg : LayoutConfig} {s s' : Layout} {l : Lexeme}
    {tokens : List Token} (hne : s.indents ≠ []) (h : Step cfg s l tokens s') :
    ∀ t ∈ tokens, t.kind ≠ .endMarker := by
  cases h with
  | blank => simp
  | joined => simp
  | emptyLine => simp
  | lineEnd => simp
  | @content _ kind span marks indents brackets hk hm =>
    intro t ht
    rcases List.mem_append.mp ht with ht | ht
    · unfold lineMarks at hm
      split at hm
      · rcases kind_of_marks (marks_of_indentTo hne hm) t ht with h | h <;> rw [h] <;> decide
      · cases hm
        exact nomatch ht
    · rw [List.mem_singleton.mp ht]
      intro heq
      have hc := isContent_of_contentKind? hk
      rw [show kind = .endMarker from heq] at hc
      exact nomatch hc

theorem rest_step {cfg : LayoutConfig} {s s' : Layout} {l : Lexeme} {tokens ts : List Token}
    (hs : s.Sound) (h : Step cfg s l tokens s') (hts : Rest cfg.maxBrackets s' ts) :
    Rest cfg.maxBrackets s (tokens ++ ts) := by
  refine ⟨?_, ?_, ?_, closes_step hs.inBrackets hs.indents_ne_nil h hts.closes⟩
  · obtain ⟨body, e, rfl, he, hbody⟩ := hts.endMarker
    refine ⟨tokens ++ body, e, (List.append_assoc _ _ _).symm, he, ?_⟩
    intro t ht
    rcases List.mem_append.mp ht with ht | ht
    · exact kind_ne_endMarker_of_step hs.indents_ne_nil h t ht
    · exact hbody t ht
  · rw [blocksAfter_append, blocksAfter_step hs.indents_ne_nil h]
    exact hts.blocks
  · intro prev hprev
    obtain ⟨h₁, h₂⟩ := chained_step hs.indents_ne_nil hprev h
    rw [chained_append, h₁, Bool.true_and]
    exact hts.chained _ h₂

theorem rest_run {cfg : LayoutConfig} (hcfg : cfg.mode = .file) {s : Layout} {ls : List Lexeme}
    {ts : List Token} (hs : s.Sound) (h : run cfg s ls = .ok ts) : Rest cfg.maxBrackets s ts :=
  run_induction (I := Sound) (fun _ _ _ _ hs h => sound_step hs h)
    (fun _ _ _ h => rest_finish hcfg h) (fun _ _ _ _ _ hs h hts => rest_step hs h hts) hs h

theorem lastKind_eq {pre : List Token} {k : TokenKind} (h : lastKind none pre = some k) :
    ∃ pre' c, pre = pre' ++ [c] ∧ c.kind = k := by
  rcases List.eq_nil_or_concat pre with rfl | ⟨pre', c, rfl⟩
  · exact nomatch h
  · exact ⟨pre', c, List.concat_eq_append, by simpa [lastKind] using h⟩

/-- The clauses on neighbours, and on the tokens as a whole, of a stream from the start. -/
theorem stream_of_rest {limit : Nat} {ts : List Token} (h : Rest limit start ts) :
    Stream limit ts := by
  have hchain := h.chained none (Or.inl rfl)
  have hblocks : blocksAfter 0 ts = some 0 := h.blocks
  refine ⟨h.endMarker, ?_, ?_, ?_, ?_, ?_, ?_, h.closes⟩
  · intro pre hpre
    have := dedent_le_of_blocksAfter hblocks hpre
    omega
  · have := blocksAfter_eq_some hblocks
    omega
  · intro pre t post hts hk
    have hf := mayFollow_of_chained pre hts hchain
    rw [hk] at hf
    obtain ⟨k, hlast, hc⟩ := (Option.any_eq_true _ _).mp hf
    obtain ⟨pre', c, hpre, rfl⟩ := lastKind_eq hlast
    exact ⟨pre', c, hpre, hc⟩
  · intro pre t post hts hk
    have hf := mayFollow_of_chained pre hts hchain
    rw [hk] at hf
    simp only [mayFollow, Bool.or_eq_true, beq_iff_eq] at hf
    rcases hf with hf | hf
    · left
      cases pre with
      | nil => rfl
      | cons p ps => simp [lastKind, List.getLast?_cons] at hf
    · exact Or.inr (lastKind_eq hf)
  · intro pre t post hts hk
    cases post with
    | nil =>
      obtain ⟨body, e, rfl, he, -⟩ := h.endMarker
      have := (List.append_inj_right' hts rfl)
      simp_all
    | cons c post =>
      refine ⟨c, post, rfl, ?_⟩
      have hf := mayFollow_of_chained (pre ++ [t]) (by rw [hts, List.append_cons]) hchain
      have hlast : lastKind none (pre ++ [t]) = some .indent := by simp [lastKind, hk]
      rw [hlast] at hf
      cases hc : c.kind <;> rw [hc] at hf <;> first | rfl | exact nomatch hf
  · intro pre t u post hts hk hu
    have hf := mayFollow_of_chained (pre ++ [t]) (by rw [hts, List.append_cons]) hchain
    have hlast : lastKind none (pre ++ [t]) = some .dedent := by simp [lastKind, hk]
    rw [hlast, hu] at hf
    exact nomatch hf

/-- Every token stream of a program is well formed.  Between any two lexemes the open widths form
a stack that the tokens so far account for, and a token that begins a line has the width of the
line on top. -/
theorem tokenize_stream (source : List Char) (maxBrackets : Nat) (ts : List Token)
    (h : tokenize source maxBrackets = .ok ts) :
    Stream maxBrackets ts ∧
      ∀ pre post, lexemes source = pre ++ post → ∃ done s,
        steps ⟨.file, maxBrackets, 0⟩ start pre = .ok (done, s) ∧ done <+: ts ∧
        Stack done s.indents.reverse ∧
        ∀ l post', post = l :: post' → s.atLineStart = true →
          (contentKind? l.kind).isSome = true → ∃ tokens s',
            step ⟨.file, maxBrackets, 0⟩ s l = .ok (tokens, s') ∧
            s'.indents.head? = some (lineWidth pre) := by
  unfold tokenize at h
  refine ⟨stream_of_rest (rest_run rfl sound_start h), ?_⟩
  intro pre post hsplit
  rw [hsplit] at h
  obtain ⟨done, s, rest, hpre, hpost, rfl⟩ := run_append h
  obtain ⟨hs, hblocks, hwidth⟩ := steps_sound rfl hpre
  refine ⟨done, s, hpre, List.prefix_append _ _, stack_of_sound hs hblocks, ?_⟩
  rintro l post' rfl hstart hl
  rw [run] at hpost
  obtain ⟨⟨tokens, s'⟩, hstep, -⟩ := bind_ok hpost
  refine ⟨tokens, s', hstep, ?_⟩
  rw [← hwidth hstart]
  cases step_cases hstep with
  | blank hk => rcases hk with hk | hk | hk <;> rw [hk] at hl <;> cases hl
  | joined hk => rw [hk] at hl; cases hl
  | emptyLine hk => rw [hk] at hl; cases hl
  | lineEnd hk => rw [hk] at hl; cases hl
  | content _ hm _ hs' =>
    subst hs'
    rw [lineMarks, if_pos ⟨hstart, rfl⟩] at hm
    exact head_of_marks (marks_of_indentTo hs.indents_ne_nil hm)

/-- A block with a line break in brackets, and the dedent at the end. -/
theorem tokenize_stream_block :
    ∃ ts, tokenize ['x', ':', '\n', ' ', '(', '\n', '1', ')'] 1 = .ok ts ∧ Stream 1 ts :=
  have h : tokenize ['x', ':', '\n', ' ', '(', '\n', '1', ')'] 1 = .ok [
      ⟨.name, "x", ⟨0, 1⟩⟩, ⟨.op, ":", ⟨1, 2⟩⟩, ⟨.newline, "\n", ⟨2, 3⟩⟩, ⟨.indent, "", ⟨4, 4⟩⟩,
      ⟨.op, "(", ⟨4, 5⟩⟩, ⟨.number, "1", ⟨6, 7⟩⟩, ⟨.op, ")", ⟨7, 8⟩⟩, ⟨.newline, "", ⟨8, 8⟩⟩,
      ⟨.dedent, "", ⟨8, 8⟩⟩, ⟨.endMarker, "", ⟨8, 8⟩⟩] := by rfl
  ⟨_, h, (tokenize_stream _ 1 _ h).1⟩

end PythonSyntax.Layout
