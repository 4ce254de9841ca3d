import PythonSyntax.Proofs.Layout.Step
import PythonSyntax.Proofs.Literal.Shape
import PythonSyntax.Proofs.Span.Place

/-
Where the tokens of a stream lie.

A step on a lexeme emits tokens whose text is the lexeme's and has its span, or that have no text
and lie in front of it.  So the tokens of a text that lies in a source lie in the source too, and
errors are placed there.  Between tokens with text there are only blanks, comments and line breaks.
-/

namespace PythonSyntax

open Lexeme

/-! ## Literals -/

/-- A string among the lexemes of a text is measured as one. -/
theorem string_of_mem {text : List Char} {l : Lexeme} (hl : l ∈ lexemes text)
    (hkind : l.kind = .string) : ∃ s n, Lexeme.string s = some n ∧ l.text = s.take n := by
  obtain ⟨pre, post, hpost⟩ := List.append_of_mem hl
  obtain ⟨m, n, hkinds, hm, htext, -⟩ := measured (lexemes_of_append hpost)
  have hstring : m = Lexeme.string := by
    rw [hkind] at hkinds
    simpa [kinds] using hkinds
  exact ⟨_, n, hstring ▸ hm, htext⟩

/-- A string among the lexemes of a text is a literal. -/
theorem isLiteral_of_mem {text : List Char} {l : Lexeme} (hl : l ∈ lexemes text)
    (hkind : l.kind = .string) : ∃ marks q triple body, IsLiteral l.text marks q triple body := by
  obtain ⟨s, n, hs, htext⟩ := string_of_mem hl hkind
  obtain ⟨marks, q, triple, body, hliteral, -⟩ := string_shape hs
  exact ⟨marks, q, triple, body, htext ▸ hliteral⟩

/-! ## Gaps -/

/-- A line break of any kind. -/
def IsBreak (b : List Char) : Prop := b = ['\n'] ∨ b = ['\r'] ∨ b = ['\r', '\n']

/-- What may stand between tokens with text, in front of `rest`: blanks, line breaks, hidden ones,
and comments up to the end of their lines. -/
inductive Gap (rest : List Char) : List Char → Prop where
  | nil : Gap rest []
  | blank {c gap} : c = ' ' ∨ c = '\t' ∨ c = '\x0c' → Gap rest gap → Gap rest (c :: gap)
  | lineBreak {b gap} : IsBreak b → Gap rest gap → Gap rest (b ++ gap)
  | continuation {b gap} : IsBreak b → Gap rest gap → Gap rest ('\\' :: (b ++ gap))
  | comment {note gap} : (∀ c ∈ note, c ≠ '\n' ∧ c ≠ '\r') →
      (∀ c ∈ (gap ++ rest).head?, c = '\n' ∨ c = '\r') → Gap rest gap →
      Gap rest ('#' :: (note ++ gap))

theorem isBreak_of_lineBreak {s : List Char} {n : Nat} (h : lineBreak s = some n) :
    IsBreak (s.take n) := by
  unfold lineBreak at h
  split at h <;> cases h
  · exact .inr (.inr rfl)
  · exact .inl rfl
  · exact .inr (.inl rfl)

/-- The kinds of lexemes that leave no token with text. -/
def LexemeKind.isGap : LexemeKind → Bool
  | continuation | lineBreak | blank | comment => true
  | _ => false

theorem gap_continuation {rest gap text : List Char} {n : Nat}
    (h : continuation (text ++ (gap ++ rest)) = some n)
    (htext : text = (text ++ (gap ++ rest)).take n) (hgap : Gap rest gap) :
    Gap rest (text ++ gap) := by
  obtain ⟨i, j, hi, hj, rfl⟩ := andThen_eq_some.mp h
  generalize text ++ (gap ++ rest) = s at hi hj htext
  cases s with
  | nil => cases hi
  | cons c r =>
    rw [one] at hi
    split at hi
    · next hc =>
      cases hi
      rw [beq_iff_eq] at hc
      rw [htext, hc, Nat.add_comm, List.take_succ_cons]
      exact .continuation (isBreak_of_lineBreak hj) hgap
    · cases hi

theorem gap_blank {rest gap text : List Char}
    (h : ∀ c ∈ text, c = ' ' ∨ c = '\t' ∨ c = '\x0c') (hgap : Gap rest gap) :
    Gap rest (text ++ gap) := by
  induction text with
  | nil => exact hgap
  | cons c text ih =>
    rw [List.forall_mem_cons] at h
    exact .blank h.1 (ih h.2)

theorem gap_comment {rest gap text : List Char} {n : Nat}
    (h : comment (text ++ (gap ++ rest)) = some n)
    (htext : text = (text ++ (gap ++ rest)).take n) (hgap : Gap rest gap) :
    Gap rest (text ++ gap) := by
  have hcut : (text ++ (gap ++ rest)).drop n = gap ++ rest := by
    have happend := List.take_append_drop n (text ++ (gap ++ rest))
    rw [← htext] at happend
    exact List.append_cancel_left happend
  generalize text ++ (gap ++ rest) = s at h htext hcut
  unfold comment at h
  split at h
  · next r =>
    cases h
    have hline := List.takeWhile_append_dropWhile (p := fun c => c != '\n' && c != '\r') (l := r)
    have htake := List.prefix_iff_eq_take.mp (List.takeWhile_prefix (l := r) fun c =>
      c != '\n' && c != '\r')
    have hdrop := List.take_append_drop (r.takeWhile fun c => c != '\n' && c != '\r').length r
    rw [← htake] at hdrop
    rw [List.take_succ_cons, ← htake] at htext
    rw [List.drop_succ_cons, List.append_cancel_left (hdrop.trans hline.symm)] at hcut
    rw [htext]
    refine .comment (fun c hc => ?_) (fun c hc => ?_) hgap
    · have hplain := List.mem_takeWhile_imp hc
      simpa using hplain
    · rw [← hcut] at hc
      have hstop := List.head?_dropWhile_not (fun c => c != '\n' && c != '\r') r
      rw [hc] at hstop
      simpa [or_iff_not_imp_left] using hstop
  · cases h

/-- A lexeme without a token in front of a gap makes a longer gap. -/
theorem gap_lexeme {rest gap : List Char} {l : Lexeme} {ls : List Lexeme}
    (h : lexemes (l.text ++ (gap ++ rest)) = l :: ls) (hkind : l.kind.isGap = true)
    (hgap : Gap rest gap) : Gap rest (l.text ++ gap) := by
  cases hl : l.kind <;> rw [hl] at hkind <;> cases hkind
  · obtain ⟨n, hm, htext⟩ := measured_kind (m := continuation) h hl
      (by simp [kinds])
    exact gap_continuation hm htext hgap
  · obtain ⟨n, hm, htext⟩ := measured_kind (m := lineBreak) h hl
      (by simp [kinds])
    rw [htext]
    exact .lineBreak (isBreak_of_lineBreak hm) hgap
  · obtain ⟨n, hm, htext⟩ := measured_kind (m := blank) h hl (by simp [kinds])
    have hblank : Within (fun c => c = ' ' ∨ c = '\t' ∨ c = '\x0c') blank :=
      within_run fun c hc => by simpa [or_assoc] using hc
    exact gap_blank (htext ▸ hblank _ _ hm) hgap
  · obtain ⟨n, hm, htext⟩ := measured_kind (m := comment) h hl (by simp [kinds])
    exact gap_comment hm htext hgap

/-! ## Steps -/

namespace Layout

/-- A token of a lexeme at an offset: it has the lexeme's text, or none and lies in front of it. -/
inductive OnLexeme (l : Lexeme) (offset : Nat) : Token → Prop where
  | text {kind} : OnLexeme l offset
      ⟨kind, String.ofList l.text, ⟨offset, offset + byteLength l.text⟩⟩
  | mark {kind} : kind.isContent = false → OnLexeme l offset ⟨kind, "", ⟨offset, offset⟩⟩

/-- What a step on a lexeme emits at an offset: tokens of the lexeme, of which one has text if the
lexeme is of a kind that does, and none otherwise. -/
structure Emits (l : Lexeme) (offset : Nat) (tokens : List Token) : Prop where
  onLexeme : ∀ t ∈ tokens, OnLexeme l offset t
  contents : tokens.filter (·.kind.isContent) = ((contentKind? l.kind).map fun kind =>
    ⟨kind, String.ofList l.text, ⟨offset, offset + byteLength l.text⟩⟩).toList
  gap : contentKind? l.kind = none → l.kind.isGap = true

/-- An error in a step on a lexeme at an offset is placed at the lexeme or right before it. -/
def Blames (l : Lexeme) (offset : Nat) (e : SyntaxError) : Prop :=
  e.span = ⟨offset, offset⟩ ∨ e.span = ⟨offset, offset + byteLength l.text⟩

variable {cfg : LayoutConfig} {s : Layout} {l : Lexeme} {offset : Nat}

theorem emits_nil (h : l.kind.isGap = true) : Emits l offset [] := by
  refine ⟨List.forall_mem_nil _, ?_, fun _ => h⟩
  cases hl : l.kind <;> rw [hl] at h <;> cases h <;> rfl

/-- The marks before a token have no text. -/
theorem settles_lineMarks (cfg : LayoutConfig) (s : Layout) (here : Span) :
    Settles (·.span = here) (fun r => ∀ t ∈ r.1, t.kind.isContent = false ∧ t.text = "" ∧
      t.span = here) (lineMarks cfg s here) := by
  unfold lineMarks
  split
  · unfold indentTo
    dsimp only
    split
    · exact .ok (List.forall_mem_singleton.mpr ⟨rfl, rfl, rfl⟩)
    · split
      · exact .error rfl
      · refine .ok fun t ht => ?_
        rw [(List.mem_replicate.mp ht).2]
        exact ⟨rfl, rfl, rfl⟩
  · exact .ok (List.forall_mem_nil _)

theorem settles_bracketsAfter (cfg : LayoutConfig) (s : Layout) (kind : TokenKind) (text : String)
    (span : Span) :
    Settles (·.span = span) (fun _ => True) (bracketsAfter cfg s kind text span) := by
  unfold bracketsAfter
  split
  · unfold trackBracket
    split
    · split
      · exact .error rfl
      · exact .ok trivial
    · split
      · split
        · exact .error rfl
        · split
          · exact .ok trivial
          · exact .error rfl
      · exact .ok trivial
  · exact .ok trivial

theorem settles_content {kind : TokenKind} (hk : contentKind? l.kind = some kind) :
    Settles (Blames l offset) (fun r => Emits l offset r.1)
      (content cfg s kind l.text ⟨offset, offset + byteLength l.text⟩) := by
  unfold content
  refine (settles_lineMarks cfg s _).mono (fun _ he => .inl he) (fun _ h => h) |>.bind fun r hr => ?_
  obtain ⟨marks, indents⟩ := r
  refine (settles_bracketsAfter cfg s kind _ _).mono (fun _ he => .inr he) (fun _ h => h)
    |>.bind fun brackets _ => .ok ⟨?_, ?_, ?_⟩
  · refine List.forall_mem_append.mpr ⟨fun t ht => ?_, List.forall_mem_singleton.mpr .text⟩
    obtain ⟨kind, text, span⟩ := t
    obtain ⟨hkind, rfl, rfl⟩ := hr _ ht
    exact .mark hkind
  · have hnone : marks.filter (·.kind.isContent) = [] := by
      rw [List.filter_eq_nil_iff]
      intro t ht
      rw [(hr t ht).1]
      exact Bool.false_ne_true
    rw [List.filter_append, hnone, hk]
    simp [isContent_of_contentKind? hk]
  · rw [hk]
    intro h
    cases h

theorem settles_feed (cfg : LayoutConfig) (s : Layout) (l : Lexeme) (offset : Nat) :
    Settles (Blames l offset) (fun r => Emits l offset r.1)
      (feed cfg s l ⟨offset, offset + byteLength l.text⟩) := by
  unfold feed
  split
  · next hl =>
    have hgap : l.kind.isGap = true := by rw [hl]; rfl
    split
    · exact .ok (emits_nil hgap)
    · dsimp only
      split
      · exact .ok (emits_nil hgap)
      · refine .ok ⟨List.forall_mem_singleton.mpr .text, ?_, fun _ => hgap⟩
        rw [hl]
        rfl
  · next hl => exact .ok (emits_nil (by rw [hl]; rfl))
  · next hl => exact .ok (emits_nil (by rw [hl]; rfl))
  · next hl => exact .ok (emits_nil (by rw [hl]; rfl))
  · exact .error (.inr rfl)
  · exact .error (.inr rfl)
  · next hl => exact settles_content (by rw [hl]; rfl)
  · next hl => exact settles_content (by rw [hl]; rfl)
  · next hl => exact settles_content (by rw [hl]; rfl)
  · next hl => exact settles_content (by rw [hl]; rfl)

/-- What a step emits, and how far it moves on. -/
theorem settles_step (cfg : LayoutConfig) (s : Layout) (l : Lexeme) :
    Settles (Blames l (cfg.base + s.offset))
      (fun r => Emits l (cfg.base + s.offset) r.1 ∧ r.2.offset = s.offset + byteLength l.text)
      (step cfg s l) := by
  unfold step
  dsimp only
  rw [← Nat.add_assoc]
  exact (settles_feed cfg s l _).bind fun r hr => .ok ⟨hr, rfl⟩

/-- The tokens at the end of a text have no text. -/
theorem settles_finish (cfg : LayoutConfig) (s : Layout) :
    Settles (·.span = ⟨cfg.base + s.offset, cfg.base + s.offset⟩)
      (fun ts => ∀ t ∈ ts, t.kind.isContent = false ∧ t.text = "" ∧
        t.span = ⟨cfg.base + s.offset, cfg.base + s.offset⟩) (finish cfg s) := by
  unfold finish
  dsimp only
  split
  · exact .error rfl
  · refine .ok (List.forall_mem_append.mpr ⟨?_, List.forall_mem_singleton.mpr ⟨rfl, rfl, rfl⟩⟩)
    split
    · refine List.forall_mem_append.mpr ⟨?_, fun t ht => ?_⟩
      · split
        · exact List.forall_mem_nil _
        · exact List.forall_mem_singleton.mpr ⟨rfl, rfl, rfl⟩
      · rw [(List.mem_replicate.mp ht).2]
        exact ⟨rfl, rfl, rfl⟩
    · exact List.forall_mem_nil _

/-! ## Runs -/

variable {source : List Char}

theorem OnLexeme.placed {t : Token} (h : OnLexeme l offset t) (hl : Lies source l.text offset) :
    t.Placed source := by
  cases h with
  | text =>
    refine ⟨by rwa [String.toList_ofList], ?_⟩
    rw [String.toList_ofList]
  | mark => exact ⟨Lies.left (a := []) hl, rfl⟩

theorem Blames.whole {e : SyntaxError} (h : Blames l offset e) (hl : Lies source l.text offset) :
    e.span.Whole source := by
  rcases h with h | h <;> rw [h]
  · exact Span.whole_of_lies hl
  · exact (Span.holds_of_lies hl).whole

/-- The tokens of lexemes that lie in a source lie in it, and errors mark whole characters of it. -/
theorem settles_run (cfg : LayoutConfig) (s : Layout) (ls : List Lexeme)
    (h : Lies source (ls.map Lexeme.text).flatten (cfg.base + s.offset)) :
    Settles (·.span.Whole source) (fun ts => ∀ t ∈ ts, t.Placed source) (run cfg s ls) := by
  induction ls generalizing s with
  | nil =>
    refine (settles_finish cfg s).mono (fun e he => ?_) fun ts hts t ht => ?_
    · rw [he]
      exact Span.whole_of_lies h
    · obtain ⟨-, htext, hspan⟩ := hts t ht
      rw [Token.Placed, htext, hspan]
      exact ⟨h, rfl⟩
  | cons l ls ih =>
    rw [List.map_cons, List.flatten_cons] at h
    unfold run
    refine ((settles_step cfg s l).mono (fun e he => he.whole h.left) fun _ h => h).bind ?_
    rintro ⟨tokens, s'⟩ ⟨hemits, hoffset⟩
    have hrest : Lies source (ls.map Lexeme.text).flatten (cfg.base + s'.offset) := by
      rw [hoffset, ← Nat.add_assoc]
      exact h.right
    refine (ih s' hrest).bind fun rest hts => .ok (List.forall_mem_append.mpr ⟨fun t ht => ?_, hts⟩)
    exact (hemits.onLexeme t ht).placed h.left

/-- A token with text of a run has the text of a lexeme. -/
theorem lexeme_of_run {ls : List Lexeme} {ts : List Token} (h : run cfg s ls = .ok ts) :
    ∀ t ∈ ts, t.kind.isContent = true →
      ∃ l ∈ ls, contentKind? l.kind = some t.kind ∧ t.text = String.ofList l.text := by
  induction ls generalizing s ts with
  | nil =>
    intro t ht hcontent
    rw [run] at h
    have hfinish := settles_finish cfg s
    rw [h] at hfinish
    rw [(hfinish.of_ok t ht).1] at hcontent
    cases hcontent
  | cons l ls ih =>
    obtain ⟨tokens, s', rest, hstep, hrest, rfl⟩ := run_cons_inv h
    have hemits := settles_step cfg s l
    rw [hstep] at hemits
    intro t ht hcontent
    rcases List.mem_append.mp ht with ht | ht
    · have hmem : t ∈ tokens.filter (·.kind.isContent) := List.mem_filter.mpr ⟨ht, hcontent⟩
      rw [hemits.of_ok.1.contents, Option.mem_toList, Option.map_eq_some_iff] at hmem
      obtain ⟨kind, hkind, rfl⟩ := hmem
      exact ⟨l, List.mem_cons_self, hkind, rfl⟩
    · obtain ⟨l', hl', hrest⟩ := ih hrest t ht hcontent
      exact ⟨l', List.mem_cons_of_mem _ hl', hrest⟩

/-- A string token of a run is a string among the lexemes. -/
theorem string_of_run {text : List Char} {ts : List Token}
    (h : run cfg s (lexemes text) = .ok ts) {t : Token} (ht : t ∈ ts) (hkind : t.kind = .string) :
    ∃ l ∈ lexemes text, l.kind = .string ∧ t.text.toList = l.text := by
  obtain ⟨l, hl, hcontent, htext⟩ := lexeme_of_run h t ht (by rw [hkind]; rfl)
  refine ⟨l, hl, ?_, by rw [htext, String.toList_ofList]⟩
  rw [hkind] at hcontent
  cases hk : l.kind <;> rw [hk] at hcontent <;> cases hcontent

/-- A string token of a run is a literal. -/
theorem isLiteral_of_run {text : List Char} {ts : List Token}
    (h : run cfg s (lexemes text) = .ok ts) {t : Token} (ht : t ∈ ts) (hkind : t.kind = .string) :
    ∃ marks q triple body, IsLiteral t.text.toList marks q triple body := by
  obtain ⟨l, hl, hstring, htext⟩ := string_of_run h ht hkind
  rw [htext]
  exact isLiteral_of_mem hl hstring

end Layout

/-! ## Tokens with text -/

/-- The text at an offset is the texts of the tokens in turn, with gaps before, between and behind
them, and each token has the span of its text. -/
inductive Laid : Nat → List Char → List Token → Prop where
  | nil {offset gap} : Gap [] gap → Laid offset gap []
  | cons {offset gap rest t ts} : Gap (t.text.toList ++ rest) gap →
      t.span = ⟨offset + byteLength gap, offset + byteLength gap + byteLength t.text.toList⟩ →
      Laid t.span.stop rest ts → Laid offset (gap ++ (t.text.toList ++ rest)) (t :: ts)

/-- A lexeme without a token in front of tokens. -/
theorem Laid.lexeme {l : Lexeme} {ls : List Lexeme} {offset : Nat} {rest : List Char}
    {ts : List Token} (hl : lexemes (l.text ++ rest) = l :: ls) (hkind : l.kind.isGap = true)
    (h : Laid (offset + byteLength l.text) rest ts) : Laid offset (l.text ++ rest) ts := by
  cases h with
  | nil hgap =>
    rw [← List.append_nil (_ ++ _), List.append_assoc] at hl
    exact .nil (gap_lexeme hl hkind hgap)
  | cons hgap hspan hts =>
    rw [Nat.add_assoc, ← byteLength_append] at hspan
    rw [← List.append_assoc]
    exact .cons (gap_lexeme hl hkind hgap) hspan hts

/-- The token of a lexeme in front of tokens. -/
theorem Laid.token {l : Lexeme} {kind : TokenKind} {offset : Nat} {rest : List Char}
    {ts : List Token} (h : Laid (offset + byteLength l.text) rest ts) :
    Laid offset (l.text ++ rest)
      (⟨kind, String.ofList l.text, ⟨offset, offset + byteLength l.text⟩⟩ :: ts) := by
  generalize ht : (⟨kind, String.ofList l.text, ⟨offset, offset + byteLength l.text⟩⟩ : Token) = t
  have htext : t.text.toList = l.text := by rw [← ht, String.toList_ofList]
  have hspan : t.span = ⟨offset, offset + byteLength l.text⟩ := by rw [← ht]
  rw [← htext, ← List.nil_append (_ ++ rest)]
  refine .cons .nil ?_ ?_
  · rw [hspan, htext, byteLength_nil, Nat.add_zero]
  · rw [hspan]
    exact h

/-- The tokens with text of a run are laid out in it. -/
theorem laid_of_run {cfg : LayoutConfig} {s : Layout} {text : List Char} {ts : List Token}
    (h : Layout.run cfg s (lexemes text) = .ok ts) :
    Laid (cfg.base + s.offset) text (ts.filter (·.kind.isContent)) := by
  generalize hls : lexemes text = ls at h
  induction ls generalizing text s ts with
  | nil =>
    have hnil : text = [] := by rw [← flatten_lexemes text, hls]; rfl
    have hfinish := Layout.settles_finish cfg s
    rw [Layout.run] at h
    rw [h] at hfinish
    have hnone : ts.filter (·.kind.isContent) = [] := by
      rw [List.filter_eq_nil_iff]
      intro t ht
      rw [(hfinish.of_ok t ht).1]
      exact Bool.false_ne_true
    rw [hnone, hnil]
    exact .nil .nil
  | cons l ls ih =>
    obtain ⟨m, n, -, -, htext, hrest⟩ := measured hls
    have hcut : l.text ++ text.drop n = text := by rw [htext, List.take_append_drop]
    obtain ⟨tokens, s', rest, hstep, hrun, rfl⟩ := Layout.run_cons_inv h
    have hemits := Layout.settles_step cfg s l
    rw [hstep] at hemits
    obtain ⟨hemits, hoffset⟩ := hemits.of_ok
    have hlaid := ih hrest.symm hrun
    rw [hoffset, ← Nat.add_assoc] at hlaid
    rw [List.filter_append, hemits.contents, ← hcut]
    cases hkind : Layout.contentKind? l.kind with
    | none => exact .lexeme (hcut.symm ▸ hls) (hemits.gap hkind) hlaid
    | some kind =>
      exact .token hlaid

end PythonSyntax
