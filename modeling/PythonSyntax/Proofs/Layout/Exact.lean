import PythonSyntax.Proofs.Lexeme.Filler
import PythonSyntax.Proofs.Enclosed.Layout
import PythonSyntax.Proofs.Layout.Line

/-
What the layout rejects, and where.

Of lexemes that are no open quotes and no stray characters, `Offends` says what is wrong with one behind
the others: it begins a line that matches no block, or it is a bracket that is refused.  Nothing here
speaks of stacks.  `Tracks` ties the state of a run to what has been read, each step keeps it and fails
just on what offends, and so a run fails at the first offence, or at the end if brackets are open there.
-/

namespace PythonSyntax.Layout

open PythonSyntax.Lexeme

variable {cfg : LayoutConfig} {s s' : Layout} {l : Lexeme} {pre ls : List Lexeme} {e : SyntaxError}
  {tokens ts : List Token}

/-! ## Offences -/

/-- The brackets among lexemes. -/
def bracketWord (ls : List Lexeme) : List String :=
  (ls.filter fun l => l.opens || l.closes).map fun l => String.ofList l.text

/-- A token behind some lexemes begins a logical line of a program that matches no block. -/
def Misaligned (cfg : LayoutConfig) (pre : List Lexeme) : Prop :=
  cfg.mode = .file ∧ ∃ w ∈ margin? pre.reverse, Unindents (lineWidths pre.reverse) w

/-- The place behind some lexemes. -/
def placeAfter (cfg : LayoutConfig) (pre : List Lexeme) : Nat := cfg.base + byteLength (textOf pre)

/-- What is wrong with a lexeme behind others: a line that it begins comes before a bracket that
it is. -/
inductive Offends (cfg : LayoutConfig) (pre : List Lexeme) (l : Lexeme) : SyntaxError → Prop where
  | misaligned : l.kind.isContent = true → Misaligned cfg pre →
      Offends cfg pre l ⟨.inconsistentDedent, ⟨placeAfter cfg pre, placeAfter cfg pre⟩⟩
  | bracket {cause} : l.kind = .op → ¬ Misaligned cfg pre →
      Refuses cfg.maxBrackets (bracketWord pre) (String.ofList l.text) cause →
      Offends cfg pre l ⟨cause, ⟨placeAfter cfg pre, placeAfter cfg (pre ++ [l])⟩⟩

/-- Nothing is wrong with any of some lexemes behind others. -/
def Inoffensive (cfg : LayoutConfig) (pre ls : List Lexeme) : Prop :=
  ∀ b l a, ls = b ++ l :: a → ∀ e, ¬ Offends cfg (pre ++ b) l e

/-- What is wrong with the first lexeme with which something is wrong. -/
def FirstOffence (cfg : LayoutConfig) (pre ls : List Lexeme) (e : SyntaxError) : Prop :=
  ∃ b l a, ls = b ++ l :: a ∧ Offends cfg (pre ++ b) l e ∧ Inoffensive cfg pre b

theorem inoffensive_nil : Inoffensive cfg pre [] := fun b _ _ h => (by simp at h)

theorem inoffensive_cons : Inoffensive cfg pre (l :: ls) ↔
    (∀ e, ¬ Offends cfg pre l e) ∧ Inoffensive cfg (pre ++ [l]) ls := by
  constructor
  · intro h
    refine ⟨?_, fun b m a hls e => ?_⟩
    · have hfirst := h [] l ls rfl
      rwa [List.append_nil] at hfirst
    · have hlater := h (l :: b) m a (by rw [hls, List.cons_append]) e
      rwa [List.append_cons] at hlater
  · rintro ⟨hfirst, hrest⟩ b m a hls e
    cases b with
    | nil =>
      cases hls
      rw [List.append_nil]
      exact hfirst e
    | cons k b =>
      cases hls
      rw [List.append_cons]
      exact hrest b m a rfl e

theorem firstOffence_cons : FirstOffence cfg pre (l :: ls) e ↔
    Offends cfg pre l e ∨ (∀ e', ¬ Offends cfg pre l e') ∧ FirstOffence cfg (pre ++ [l]) ls e := by
  constructor
  · rintro ⟨b, m, a, hls, hoffends, hb⟩
    cases b with
    | nil =>
      cases hls
      rw [List.append_nil] at hoffends
      exact .inl hoffends
    | cons k b =>
      cases hls
      rw [List.append_cons] at hoffends
      obtain ⟨hfirst, hrest⟩ := inoffensive_cons.mp hb
      exact .inr ⟨hfirst, b, m, a, rfl, hoffends, hrest⟩
  · rintro (hoffends | ⟨hfirst, b, m, a, rfl, hoffends, hb⟩)
    · exact ⟨[], l, ls, rfl, by rwa [List.append_nil], inoffensive_nil⟩
    · refine ⟨l :: b, m, a, rfl, by rwa [List.append_cons], inoffensive_cons.mpr ⟨hfirst, hb⟩⟩

/-! ## What a state knows of what has been read -/

/-- The state of a run behind some lexemes with which nothing is wrong. -/
structure Tracks (cfg : LayoutConfig) (pre : List Lexeme) (s : Layout) : Prop where
  offset : s.offset = byteLength (textOf pre)
  brackets : Leaves cfg.maxBrackets (bracketWord pre) s.brackets
  depth : openAfter pre.reverse = s.brackets.length
  margin : cfg.mode = .file → margin? pre.reverse = if s.atLineStart then some s.width else none
  outside : cfg.mode = .file → s.atLineStart = true → s.brackets = []
  blocks : cfg.mode = .file → Blocks (lineWidths pre.reverse) s.indents

theorem tracks_start : Tracks cfg [] .start :=
  ⟨rfl, .balanced .nil, rfl, fun _ => rfl, fun _ _ => rfl, fun _ => blocks_start⟩

theorem placeAfter_eq (h : Tracks cfg pre s) : placeAfter cfg pre = cfg.base + s.offset := by
  rw [placeAfter, h.offset]

theorem byteLength_snoc (pre : List Lexeme) (l : Lexeme) :
    byteLength (textOf (pre ++ [l])) = byteLength (textOf pre) + byteLength l.text := by
  rw [textOf_append, byteLength_append, textOf_cons, textOf_nil, List.append_nil]

theorem bracketWord_snoc (pre : List Lexeme) (l : Lexeme) :
    bracketWord (pre ++ [l]) =
      if l.opens || l.closes then bracketWord pre ++ [String.ofList l.text] else bracketWord pre := by
  rw [bracketWord, List.filter_append, List.map_append]
  cases h : l.opens || l.closes <;> simp [bracketWord, h]

theorem reverse_snoc (pre : List Lexeme) (l : Lexeme) : (pre ++ [l]).reverse = l :: pre.reverse := by
  rw [List.reverse_append, List.reverse_singleton, List.singleton_append]

/-- A lexeme that is no operator is no bracket. -/
theorem not_bracket (h : l.kind ≠ .op) : (l.opens || l.closes) = false := by
  have hop : (l.kind == .op) = false := beq_false_of_ne h
  rw [opens, closes, hop]
  rfl

/-- A lexeme that becomes no token adds to the text, and changes no brackets and no lines but the one
that it stands in. -/
theorem Tracks.quiet (h : Tracks cfg pre s) (hl : l.kind.isContent = false)
    (hs : s'.offset = s.offset + byteLength l.text) (hbrackets : s'.brackets = s.brackets)
    (hindents : s'.indents = s.indents)
    (hmargin : cfg.mode = .file → margin? (l :: pre.reverse) = if s'.atLineStart then some s'.width else none)
    (houtside : cfg.mode = .file → s'.atLineStart = true → s'.brackets = []) :
    Tracks cfg (pre ++ [l]) s' := by
  have hop : l.kind ≠ .op := fun hop => by rw [hop] at hl; cases hl
  refine ⟨?_, ?_, ?_, ?_, houtside, ?_⟩
  · rw [hs, h.offset, byteLength_snoc]
  · rw [bracketWord_snoc, not_bracket hop, hbrackets]
    exact h.brackets
  · rw [reverse_snoc, openAfter, depthAfter_of_ne_op hop, h.depth, hbrackets]
  · rw [reverse_snoc]
    exact hmargin
  · rw [reverse_snoc, lineWidths, hl, hindents]
    exact h.blocks

/-! ## Steps -/

/-- The marks before a token are found, unless it begins a line that matches no block. -/
theorem lineMarks_exact (h : Tracks cfg pre s) (here : Span) (hl : l.kind.isContent = true) :
    (Misaligned cfg pre ∧ lineMarks cfg s here = .error ⟨.inconsistentDedent, here⟩) ∨
      ¬ Misaligned cfg pre ∧ ∃ marks indents, lineMarks cfg s here = .ok (marks, indents) ∧
        (cfg.mode = .file → Blocks (lineWidths (l :: pre.reverse)) indents) := by
  unfold lineMarks Misaligned
  rw [lineWidths, hl, if_pos rfl]
  by_cases hfile : cfg.mode = .file
  · have hmargin := h.margin hfile
    rw [hmargin]
    cases hstart : s.atLineStart with
    | true =>
      have hfirst : true = true ∧ cfg.mode = .file := ⟨rfl, hfile⟩
      rw [if_pos hfirst, if_pos rfl]
      rcases indentTo_exact here (h.blocks hfile) with ⟨hun, herror⟩ | ⟨hun, hok⟩
      · exact .inl ⟨⟨hfile, _, rfl, hun⟩, herror⟩
      · obtain ⟨marks, indents, hok, hblocks⟩ := hok
        refine .inr ⟨?_, marks, indents, hok, fun _ => hblocks⟩
        rintro ⟨-, _, ⟨⟩, hbad⟩
        exact hun hbad
    | false =>
      rw [if_neg (by simp)]
      exact .inr ⟨fun ⟨_, _, hnone, _⟩ => (by cases hnone), [], s.indents, rfl, h.blocks⟩
  · rw [if_neg (fun hboth => hfile hboth.2)]
    exact .inr ⟨fun hboth => hfile hboth.1, [], s.indents, rfl, fun hf => absurd hf hfile⟩

/-- A step on a token fails where its marks are not found, or else where its bracket is refused. -/
theorem step_content_error {kind : TokenKind} {span : Span} (hk : contentKind? l.kind = some kind)
    (hspan : span = ⟨cfg.base + s.offset, cfg.base + (s.offset + byteLength l.text)⟩) :
    step cfg s l = .error e ↔ lineMarks cfg s ⟨span.start, span.start⟩ = .error e ∨
      (∃ m, lineMarks cfg s ⟨span.start, span.start⟩ = .ok m) ∧
        bracketsAfter cfg s kind (String.ofList l.text) span = .error e := by
  subst hspan
  unfold step
  dsimp only
  rw [feed_content hk, content]
  cases lineMarks cfg s _ with
  | error e' =>
    constructor
    · intro h
      cases h
      exact .inl rfl
    · rintro (h | ⟨⟨_, h⟩, -⟩)
      · cases h
        rfl
      · cases h
  | ok m =>
    show ((bracketsAfter cfg s kind _ _ >>= _) >>= _) = _ ↔ _
    cases bracketsAfter cfg s kind _ _ with
    | error e' =>
      constructor
      · intro h
        cases h
        exact .inr ⟨⟨m, rfl⟩, rfl⟩
      · rintro (h | ⟨-, h⟩)
        · cases h
        · cases h
          rfl
    | ok brackets =>
      constructor
      · intro h
        cases h
      · rintro (h | ⟨-, h⟩) <;> cases h

theorem op_of_contentKind? (h : contentKind? l.kind = some .op) : l.kind = .op := by
  cases hl : l.kind <;> rw [hl] at h <;> cases h

/-- A step fails just on what offends. -/
theorem step_error (h : Tracks cfg pre s) (hl : l.kind ≠ .openQuote ∧ l.kind ≠ .stray) :
    step cfg s l = .error e ↔ Offends cfg pre l e := by
  have hplace := placeAfter_eq h
  have hstop : placeAfter cfg (pre ++ [l]) = cfg.base + (s.offset + byteLength l.text) := by
    rw [placeAfter, byteLength_snoc, h.offset]
  cases hcontent : l.kind.isContent with
  | false =>
    have hok : ∃ r, step cfg s l = .ok r := by
      by_cases hbreak : l.kind = .lineBreak
      · rcases joined_or_outside cfg s with hjoined | ⟨hfile, hbrackets⟩
        · exact ⟨_, step_joined hbreak hjoined⟩
        · exact ⟨_, step_outside hfile hbrackets hbreak⟩
      · refine ⟨_, step_blank s ?_⟩
        cases hk : l.kind <;> simp_all [LexemeKind.isContent]
    obtain ⟨r, hr⟩ := hok
    rw [hr]
    constructor
    · intro h
      cases h
    · rintro (⟨hk, -⟩ | ⟨hk, -, -⟩)
      · rw [hcontent] at hk
        cases hk
      · rw [hk] at hcontent
        cases hcontent
  | true =>
    obtain ⟨kind, hk⟩ := isContent_iff.mp hcontent
    rw [step_content_error hk rfl]
    dsimp only
    rw [← hplace, ← hstop]
    rcases lineMarks_exact h ⟨placeAfter cfg pre, placeAfter cfg pre⟩ hcontent with
      ⟨hmis, herror⟩ | ⟨hmis, marks, indents, hok, -⟩
    · rw [herror]
      constructor
      · rintro (he | ⟨⟨_, he⟩, -⟩)
        · cases he
          exact .misaligned hcontent hmis
        · cases he
      · rintro (⟨-, -⟩ | ⟨-, hnot, -⟩)
        · exact .inl rfl
        · exact absurd hmis hnot
    · rw [hok]
      unfold bracketsAfter
      constructor
      · rintro (he | ⟨-, he⟩)
        · cases he
        · split at he
          · next hop =>
            obtain ⟨cause, hrefuses, rfl⟩ := (trackBracket_error h.brackets).mp he
            exact .bracket (op_of_contentKind? (hop ▸ hk)) hmis hrefuses
          · cases he
      · rintro (⟨-, hbad⟩ | ⟨hop, -, hrefuses⟩)
        · exact absurd hbad hmis
        · rw [hop] at hk
          cases hk
          rw [if_pos rfl]
          exact .inr ⟨⟨_, rfl⟩, (trackBracket_error h.brackets).mpr ⟨_, hrefuses, rfl⟩⟩

/-- A token keeps track of the brackets. -/
theorem Tracks.leaves_of_content (h : Tracks cfg pre s) {kind : TokenKind} {brackets : List String}
    {span : Span} (hk : contentKind? l.kind = some kind)
    (hbrackets : bracketsAfter cfg s kind (String.ofList l.text) span = .ok brackets) :
    Leaves cfg.maxBrackets (bracketWord (pre ++ [l])) brackets := by
  rw [bracketWord_snoc]
  unfold bracketsAfter at hbrackets
  split at hbrackets
  · next hop =>
    have hkind := op_of_contentKind? (hop ▸ hk)
    have htrack := h.brackets.track hbrackets
    rwa [opens, closes, hkind]
  · next hop =>
    cases hbrackets
    have hkind : l.kind ≠ .op := fun hkind => by
      rw [hkind] at hk
      exact hop (Option.some.inj hk).symm
    rw [not_bracket hkind]
    exact h.brackets

/-- The blocks behind the marks of a token are those of the lines up to it. -/
theorem Tracks.blocks_of_content (h : Tracks cfg pre s) (hl : l.kind.isContent = true) {here : Span}
    {marks : List Token} {indents : List Nat} (hmarks : lineMarks cfg s here = .ok (marks, indents))
    (hfile : cfg.mode = .file) : Blocks (lineWidths (l :: pre.reverse)) indents := by
  rcases lineMarks_exact h here hl with ⟨-, herror⟩ | ⟨-, _, _, hok, hblocks⟩
  · rw [herror] at hmarks
    cases hmarks
  · rw [hok] at hmarks
    cases hmarks
    exact hblocks hfile

/-- A step that does not fail keeps track. -/
theorem Tracks.step (h : Tracks cfg pre s) (hstep : step cfg s l = .ok (tokens, s')) :
    Tracks cfg (pre ++ [l]) s' := by
  cases step_cases hstep with
  | blank hk hs =>
    subst hs
    have hcontent : l.kind.isContent = false := by rcases hk with hk | hk | hk <;> rw [hk] <;> rfl
    have hbreak : ¬ (l.kind = .lineBreak ∧ openAfter pre.reverse = 0) := fun hb => by
      rcases hk with hk | hk | hk <;> rw [hk] at hb <;> cases hb.1
    refine h.quiet hcontent rfl rfl rfl (fun hfile => ?_) h.outside
    rw [margin?, if_neg hbreak, hcontent, if_neg Bool.false_ne_true, h.margin hfile]
    cases hstart : s.atLineStart <;> rfl
  | joined hk hc hs =>
    subst hs
    refine h.quiet (by rw [hk]; rfl) rfl rfl rfl (fun hfile => ?_) h.outside
    have hne : s.brackets ≠ [] := hc.resolve_left (by rw [hfile]; exact nofun)
    have hstart : s.atLineStart = false := by
      rw [← Bool.not_eq_true]
      exact fun hstart => hne (h.outside hfile hstart)
    have hdepth : openAfter pre.reverse ≠ 0 := by
      rw [h.depth]
      exact fun hzero => hne (List.eq_nil_of_length_eq_zero hzero)
    rw [margin?, if_neg (fun hb => hdepth hb.2), hk, h.margin hfile, hstart]
    rfl
  | emptyLine hk _ hb hstart hs =>
    subst hs
    refine h.quiet (by rw [hk]; rfl) rfl rfl rfl (fun _ => ?_) (fun _ _ => hb)
    rw [margin?, if_pos ⟨hk, by rw [h.depth, hb]; rfl⟩, hstart]
    rfl
  | lineEnd hk _ hb _ hs =>
    subst hs
    refine h.quiet (by rw [hk]; rfl) rfl rfl rfl (fun _ => ?_) (fun _ _ => hb)
    rw [margin?, if_pos ⟨hk, by rw [h.depth, hb]; rfl⟩]
    rfl
  | content hk =>
    obtain ⟨marks, indents, brackets, span, -, hmarks, hbrackets, -, rfl⟩ := content_of_step hk hstep
    have hcontent := isContent_iff.mpr ⟨_, hk⟩
    have hbreak : l.kind ≠ .lineBreak := fun hb => by rw [hb] at hcontent; cases hcontent
    refine ⟨?_, h.leaves_of_content hk hbrackets, ?_, fun _ => ?_, fun _ => nofun, fun hfile => ?_⟩
    · rw [byteLength_snoc, h.offset]
    · rw [reverse_snoc, openAfter, h.depth]
      exact (length_bracketsAfter hk hbrackets).symm
    · rw [reverse_snoc, margin?, if_neg (fun hb => hbreak hb.1), hcontent]
      rfl
    · rw [reverse_snoc]
      exact h.blocks_of_content hcontent hmarks hfile

/-! ## Runs -/

/-- At the end a text fails just if brackets are open. -/
theorem finish_error : finish cfg s = .error e ↔
    s.brackets ≠ [] ∧ e = ⟨.unexpectedEnd, ⟨cfg.base + s.offset, cfg.base + s.offset⟩⟩ := by
  unfold finish
  dsimp only
  split
  · next hb =>
    constructor
    · intro he
      cases he
      exact ⟨hb, rfl⟩
    · rintro ⟨-, rfl⟩
      rfl
  · next hb =>
    constructor
    · nofun
    · exact fun he => absurd he.1 hb

/-- A run fails at the first offence, or at the end if some brackets are open there. -/
theorem run_error (h : Tracks cfg pre s) (hls : ∀ l ∈ ls, l.kind ≠ .openQuote ∧ l.kind ≠ .stray) :
    run cfg s ls = .error e ↔ FirstOffence cfg pre ls e ∨
      Inoffensive cfg pre ls ∧
        (∃ o os, Leaves cfg.maxBrackets (bracketWord (pre ++ ls)) (o :: os)) ∧
        e = ⟨.unexpectedEnd, ⟨placeAfter cfg (pre ++ ls), placeAfter cfg (pre ++ ls)⟩⟩ := by
  induction ls generalizing pre s with
  | nil =>
    rw [run, finish_error, List.append_nil, placeAfter_eq h]
    have hnone : ¬ FirstOffence cfg pre [] e := by
      rintro ⟨b, _, _, hls, -⟩
      simp at hls
    constructor
    · rintro ⟨hne, rfl⟩
      obtain ⟨o, os, hbrackets⟩ := List.exists_cons_of_ne_nil hne
      exact .inr ⟨inoffensive_nil, ⟨o, os, hbrackets ▸ h.brackets⟩, rfl⟩
    · rintro (hfirst | ⟨-, ⟨o, os, hopen⟩, rfl⟩)
      · exact absurd hfirst hnone
      · exact ⟨by rw [h.brackets.unique hopen]; exact List.cons_ne_nil o os, rfl⟩
  | cons l ls ih =>
    rw [List.forall_mem_cons] at hls
    have hoffends : ∀ e, step cfg s l = .error e ↔ Offends cfg pre l e := fun e => step_error h hls.1
    have hall : pre ++ l :: ls = pre ++ [l] ++ ls := List.append_cons pre l ls
    rw [firstOffence_cons, inoffensive_cons, run, hall]
    cases hstep : step cfg s l with
    | error e' =>
      have he' : Offends cfg pre l e' := (hoffends e').mp hstep
      constructor
      · intro he
        cases he
        exact .inl (.inl he')
      · rintro ((he | ⟨hnone, -⟩) | ⟨⟨hnone, -⟩, -⟩)
        · have hsame := (hoffends e).mpr he
          rw [hstep] at hsame
          cases hsame
          rfl
        · exact absurd he' (hnone e')
        · exact absurd he' (hnone e')
    | ok r =>
      obtain ⟨tokens, s'⟩ := r
      have hnone : ∀ e, ¬ Offends cfg pre l e := fun e he => by
        rw [(hoffends e).mpr he] at hstep
        cases hstep
      have hrest := ih (h.step hstep) hls.2
      have hbind : (do
          let rest ← run cfg s' ls
          pure (tokens ++ rest) : Except SyntaxError (List Token)) = .error e ↔
            run cfg s' ls = .error e := by
        cases run cfg s' ls with
        | error e' => exact Iff.rfl
        | ok rest => constructor <;> intro h <;> cases h
      refine hbind.trans (hrest.trans ?_)
      constructor
      · rintro (hfirst | ⟨hclean, hend⟩)
        · exact .inl (.inr ⟨hnone, hfirst⟩)
        · exact .inr ⟨⟨hnone, hclean⟩, hend⟩
      · rintro ((he | ⟨-, hfirst⟩) | ⟨⟨-, hclean⟩, hend⟩)
        · exact absurd he (hnone e)
        · exact .inl hfirst
        · exact .inr ⟨hclean, hend⟩

/-- A run that succeeds has met no offence, and no bracket is open at its end. -/
theorem run_ok (h : Tracks cfg pre s) (hls : ∀ l ∈ ls, l.kind ≠ .openQuote ∧ l.kind ≠ .stray)
    (hrun : run cfg s ls = .ok ts) :
    Inoffensive cfg pre ls ∧ Balanced cfg.maxBrackets (bracketWord (pre ++ ls)) := by
  induction ls generalizing pre s ts with
  | nil =>
    have hnil : s.brackets = [] := by
      by_contra hne
      rw [run, finish_error.mpr ⟨hne, rfl⟩] at hrun
      cases hrun
    rw [List.append_nil]
    exact ⟨inoffensive_nil, leaves_nil.mp (hnil ▸ h.brackets)⟩
  | cons l ls ih =>
    rw [List.forall_mem_cons] at hls
    rw [run] at hrun
    obtain ⟨⟨tokens, s'⟩, hstep, hrun⟩ := bind_ok hrun
    obtain ⟨rest, hrest, -⟩ := bind_ok hrun
    obtain ⟨hclean, hbalanced⟩ := ih (h.step hstep) hls.2 hrest
    have hall : pre ++ l :: ls = pre ++ [l] ++ ls := List.append_cons pre l ls
    rw [hall]
    refine ⟨inoffensive_cons.mpr ⟨fun e he => ?_, hclean⟩, hbalanced⟩
    rw [(step_error h hls.1).mpr he] at hstep
    cases hstep

/-- A refused bracket opens or closes. -/
theorem Refuses.isBracket {limit : Nat} {word : List String} {b : String} {cause : Cause}
    (h : Refuses limit word b cause) : (isOpening b || isClosing b) = true := by
  cases h with
  | tooMany _ hopen _ => rw [hopen, Bool.true_or]
  | unmatched _ hclose => rw [hclose, Bool.or_true]
  | mismatched _ hclose _ => rw [hclose, Bool.or_true]

/-- Nothing is wrong with lexemes whose brackets match and whose lines stand in blocks. -/
theorem inoffensive_of_balanced (hbalanced : Balanced cfg.maxBrackets (bracketWord ls))
    (haligned : ∀ b l a, ls = b ++ l :: a → l.kind.isContent = true → ¬ Misaligned cfg b) :
    Inoffensive cfg [] ls := by
  intro b l a hls e hoffends
  rw [List.nil_append] at hoffends
  cases hoffends with
  | misaligned hl hmis => exact haligned b l a hls hl hmis
  | bracket hop _ hrefuses =>
    have hl : (l.opens || l.closes) = true := by
      have hbracket := hrefuses.isBracket
      rwa [opens, closes, hop]
    have hword : bracketWord ls = bracketWord b ++ String.ofList l.text :: bracketWord a := by
      rw [hls, bracketWord, List.filter_append, List.filter_cons_of_pos (by exact hl),
        List.map_append, List.map_cons]
      rfl
    rw [hword] at hbalanced
    exact hbalanced.not_refused hrefuses

/-- Of lexemes that are no open quotes and no stray characters a text is made just if their brackets
match, no deeper than they may be, and no token begins a line that is narrower than the block before
it and matches none around it.  Otherwise the error is that of the first lexeme with which something is
wrong, or at the end of the text where only some brackets are open still. -/
theorem run_exact (hls : ∀ l ∈ ls, l.kind ≠ .openQuote ∧ l.kind ≠ .stray) :
    ((∃ ts, run cfg .start ls = .ok ts) ↔
      Balanced cfg.maxBrackets (bracketWord ls) ∧
        ∀ b l a, ls = b ++ l :: a → l.kind.isContent = true → ¬ Misaligned cfg b) ∧
    ∀ e, run cfg .start ls = .error e ↔
      FirstOffence cfg [] ls e ∨
        Inoffensive cfg [] ls ∧ (∃ o os, Leaves cfg.maxBrackets (bracketWord ls) (o :: os)) ∧
          e = ⟨.unexpectedEnd, ⟨placeAfter cfg ls, placeAfter cfg ls⟩⟩ := by
  have herror := fun e => @run_error cfg .start [] ls e tracks_start hls
  refine ⟨⟨?_, ?_⟩, herror⟩
  · rintro ⟨ts, hrun⟩
    obtain ⟨hclean, hbalanced⟩ := run_ok tracks_start hls hrun
    exact ⟨hbalanced, fun b l a heq hl hmis => hclean b l a heq _ (.misaligned hl hmis)⟩
  · rintro ⟨hbalanced, haligned⟩
    cases hrun : run cfg .start ls with
    | ok ts => exact ⟨ts, rfl⟩
    | error e =>
      have hclean := inoffensive_of_balanced hbalanced haligned
      rcases (herror e).mp hrun with ⟨b, l, a, heq, hoffends, -⟩ | ⟨-, ⟨o, os, hopen⟩, -⟩
      · exact absurd hoffends (hclean b l a heq e)
      · exact absurd (hopen.unique (.balanced hbalanced)) (List.cons_ne_nil o os)

/-- The line of the name `c` is narrower than the block of the name `b` and wider than that of the
name `a`, and it is the first thing that is wrong. -/
theorem run_exact_unindented :
    let ls := lexemes ['a', '\n', ' ', ' ', 'b', '\n', ' ', 'c', ')']
    (∀ l ∈ ls, l.kind ≠ .openQuote ∧ l.kind ≠ .stray) ∧
      ¬ (Balanced 1 (bracketWord ls) ∧
        ∀ b l a, ls = b ++ l :: a → l.kind.isContent = true → ¬ Misaligned ⟨.file, 1, 0⟩ b) ∧
      (FirstOffence ⟨.file, 1, 0⟩ [] ls ⟨.inconsistentDedent, ⟨7, 7⟩⟩ ∨
        Inoffensive ⟨.file, 1, 0⟩ [] ls ∧ (∃ o os, Leaves 1 (bracketWord ls) (o :: os)) ∧
          (⟨.inconsistentDedent, ⟨7, 7⟩⟩ : SyntaxError) =
            ⟨.unexpectedEnd, ⟨placeAfter ⟨.file, 1, 0⟩ ls, placeAfter ⟨.file, 1, 0⟩ ls⟩⟩) := by
  intro ls
  have hls : ∀ l ∈ ls, l.kind ≠ .openQuote ∧ l.kind ≠ .stray := by decide +kernel
  have hrun : run ⟨.file, 1, 0⟩ .start ls = .error ⟨.inconsistentDedent, ⟨7, 7⟩⟩ := by decide +kernel
  obtain ⟨hok, herror⟩ := @run_exact ⟨.file, 1, 0⟩ ls hls
  refine ⟨hls, fun hgood => ?_, (herror _).mp hrun⟩
  obtain ⟨ts, hts⟩ := hok.mpr hgood
  rw [hrun] at hts
  cases hts

end PythonSyntax.Layout
