import PythonSyntax.Proofs.Enclosed.Program
import PythonSyntax.Proofs.Formatted.Body
import PythonSyntax.Proofs.Formatted.Search
import PythonSyntax.Proofs.Parser.Dangling
import PythonSyntax.Proofs.Span.Layout
import PythonSyntax.Proofs.Suite.Text

/-
What stands behind the expression of a field.

No comment is in the expression of a field, so blanks behind it are blanks, and leave it as it is.  An
expression that is read does not end with an angle bracket; so an equals sign behind it is no part of an
operator, and the search stops at it.
-/

namespace PythonSyntax

open PythonSyntax.Lexeme PythonSyntax.Parser PythonSyntax.Parser.TokenLikeness

variable {e w : List Char} {ls ls' pre post : List Lexeme} {l : Lexeme} {ts us tokens : List Token}
  {spell : List Char → List Char} {n : Nesting} {v : Expr} {base limit : Nat}

/-! ## Blanks -/

/-- A text of blanks and line breaks. -/
def IsBlankText (w : List Char) : Prop := ∀ c ∈ w, isFieldBlank c = true

theorem isFieldBlank_iff {c : Char} : isFieldBlank c = true ↔ isBlank c = true ∨ c = '\n' ∨ c = '\r' := by
  simp only [isFieldBlank, isBlank, Bool.or_eq_true, beq_iff_eq]
  tauto

namespace IsBlankText

theorem append {w' : List Char} (h : IsBlankText w) (h' : IsBlankText w') : IsBlankText (w ++ w') :=
  List.forall_mem_append.mpr ⟨h, h'⟩

theorem mem_seals {c : Char} (hc : isFieldBlank c = true) : c ∈ seals := by
  rcases isFieldBlank_iff.mp hc with hc | rfl | rfl
  · have hall : ∀ d ∈ [' ', '\t', '\x0c'], d ∈ seals := by simp [seals]
    exact hall c (isBlank_iff.mp hc)
  · decide
  · decide

/-- Blanks are pieces that leave no token. -/
theorem fills (h : IsBlankText w) : ∀ l ∈ lexemes w, l.kind.Fills True := by
  generalize hls : lexemes w = ls
  induction ls generalizing w with
  | nil => exact nofun
  | cons l ls ih =>
    obtain ⟨n, hfront, -, hrest⟩ := front_of_lexemes hls
    obtain ⟨c, r, rfl⟩ : ∃ c r, w = c :: r := List.exists_cons_of_ne_nil fun hnil => by
      rw [hnil] at hfront
      cases hfront
    refine List.forall_mem_cons.mpr ⟨?_, ih (fun d hd => h d (List.mem_of_mem_drop hd)) hrest.symm⟩
    rcases isFieldBlank_iff.mp (h c List.mem_cons_self) with hc | hc
    · obtain ⟨hkind, -⟩ := Prod.mk.inj (Option.some.inj (hfront.symm.trans (front?_blank hc r)))
      rw [hkind]
      trivial
    · have hbreak : ¬ InLine c := fun hline => hc.elim hline.1 hline.2
      obtain ⟨k, hk⟩ := Option.ne_none_iff_exists'.mp (lineBreak_ne_none hbreak r)
      obtain ⟨hkind, -⟩ := Prod.mk.inj (Option.some.inj (hfront.symm.trans (front?_of_lineBreak hk)))
      rw [hkind]
      trivial

/-- Pieces that are blanks or line breaks are a text of them. -/
theorem of_lexeme (hl : l ∈ lexemes e) (hk : l.kind = .blank ∨ l.kind = .lineBreak) :
    IsBlankText l.text := by
  rcases hk with hk | hk
  · obtain ⟨pre, post, hsplit⟩ := List.append_of_mem hl
    exact fun c hc => isFieldBlank_iff.mpr (.inl (isBlank_of_lexeme hsplit hk c hc))
  · have hbreak : ∀ w ∈ lineBreaks, IsBlankText w := by simp [lineBreaks, IsBlankText, isFieldBlank]
    rcases text_of_lineBreak hl hk with hw | hw | hw <;> rw [hw] <;> exact hbreak _ (by decide)

theorem textOf (h : ∀ l ∈ ls, IsBlankText l.text) : IsBlankText (textOf ls) := by
  intro c hc
  obtain ⟨text, htext, hc⟩ := List.mem_flatten.mp hc
  obtain ⟨l, hl, rfl⟩ := List.mem_map.mp htext
  exact h l hl c hc

end IsBlankText

/-- What leaves no token in the expression of a field is blank. -/
theorem Parser.FillsField.blank_or_lineBreak (h : FillsField e)
    (hknown : ∀ l ∈ lexemes e, l.kind ≠ .openQuote ∧ l.kind ≠ .stray) (hl : l ∈ lexemes e)
    (hcontent : l.kind.isContent = false) : l.kind = .blank ∨ l.kind = .lineBreak := by
  obtain ⟨s', hs⟩ := FieldScan.passAll_of_splitField h
  obtain ⟨hcomment, hcontinuation⟩ :=
    FieldScan.kind_of_passAll ⟨rfl, rfl, .inl rfl⟩ h.ne_slash rfl hknown hs l hl
  cases hk : l.kind with
  | blank => exact .inl rfl
  | lineBreak => exact .inr rfl
  | comment => exact absurd hk hcomment
  | continuation => exact absurd hk hcontinuation
  | openQuote => exact absurd hk (hknown l hl).1
  | stray => exact absurd hk (hknown l hl).2
  | string | number | name | op =>
    rw [hk] at hcontent
    cases hcontent

/-! ## The tokens -/

namespace Layout

variable {a : Layout}

/-- Pieces without tokens may be replaced by others at the end of an expression. -/
theorem run_noise_same (hls : ∀ l ∈ ls, l.kind.Fills True) (hls' : ∀ l ∈ ls', l.kind.Fills True)
    (h : run ⟨.embedded, limit, base⟩ a ls = .ok ts) :
    ∃ us, run ⟨.embedded, limit, base⟩ a ls' = .ok us ∧ List.Forall₂ (Same False) ts us := by
  obtain ⟨b, hb, hrun⟩ := run_noise limit base hls a
  obtain ⟨b', hb', hrun'⟩ := run_noise limit base hls' a
  have hbrackets : a.brackets = [] := hb ▸ brackets_of_finish (hrun.symm.trans h)
  rw [hrun, finish_embedded rfl (hb.trans hbrackets)] at h
  cases h
  rw [hrun', finish_embedded rfl (hb'.trans hbrackets)]
  exact ⟨_, rfl, .cons (same_self _ _ False.elim) .nil⟩

theorem known_of_tokenizeEmbedded (h : tokenizeEmbedded e base limit = .ok ts) :
    ∀ l ∈ lexemes e, l.kind ≠ .openQuote ∧ l.kind ≠ .stray := by
  rw [tokenizeEmbedded, ← List.append_nil (lexemes e)] at h
  obtain ⟨_, _, _, hsteps, -⟩ := run_append h
  exact known_of_steps hsteps

/-- Blanks behind the expression of a field leave its tokens. -/
theorem tokenizeEmbedded_append (h : tokenizeEmbedded e base limit = .ok ts) (he : FillsField e)
    (hw : IsBlankText w) :
    ∃ us, tokenizeEmbedded (e ++ w) base limit = .ok us ∧ List.Forall₂ (Same False) ts us := by
  have hknown := known_of_tokenizeEmbedded h
  have hblank : ∀ l ∈ lexemes e, l.kind.isContent = false → IsBlankText l.text := fun l hl hcontent =>
    .of_lexeme hl (he.blank_or_lineBreak hknown hl hcontent)
  rcases exists_last (lexemes e) with hnone | ⟨pre, t, post, hsplit, ht, hpost⟩
  · have hfills : ∀ l ∈ lexemes e, l.kind.Fills True := fun l hl =>
      fills_of_known (hnone l hl) (hknown l hl)
    have htext : IsBlankText e := by
      rw [← textOf_lexemes e]
      exact .textOf fun l hl => hblank l hl (hnone l hl)
    exact run_noise_same hfills (htext.append hw).fills h
  · have hpost' : ∀ l ∈ post, l ∈ lexemes e := fun l hl => by
      rw [hsplit]
      exact List.mem_append_right _ (List.mem_cons_of_mem t hl)
    have hfront : ∀ l ∈ pre ++ [t], l ∈ lexemes e := fun l hl => by
      rw [hsplit, List.append_cons]
      exact List.mem_append_left _ hl
    have hsplit' : lexemes e = (pre ++ [t]) ++ post := by rw [hsplit, List.append_cons]
    -- the text up to the last token keeps its pieces before blanks
    have hx : lexemes (textOf (pre ++ [t])) = pre ++ [t] :=
      lexemes_of_prefix hsplit' fun l hl => (hknown l (hfront l hl)).1
    have hg : IsBlankText (textOf post ++ w) :=
      (IsBlankText.textOf fun l hl => hblank l (hpost' l hl) (hpost l hl)).append hw
    have hlexemes : lexemes (e ++ w) = (pre ++ [t]) ++ lexemes (textOf post ++ w) := by
      rw [← textOf_lexemes e, hsplit', textOf_append, List.append_assoc]
      have hgap := hg
      generalize textOf post ++ w = g at hgap ⊢
      cases g with
      | nil => rw [List.append_nil, lexemes_nil, List.append_nil, hx]
      | cons c r =>
        rw [lexemes_sealed (IsBlankText.mem_seals (hgap c List.mem_cons_self)), hx]
        · rw [hx]
          exact fun l hl => hknown l (hfront l hl)
        · rw [hx, List.getLast?_concat]
          rintro _ ⟨⟩
          exact ht
    rw [tokenizeEmbedded, hsplit'] at h
    obtain ⟨done, a, rest, hsteps, hrest, rfl⟩ := run_append h
    obtain ⟨us, hus, hsame⟩ := run_noise_same
      (fun l hl => fills_of_known (hpost l hl) (hknown l (hpost' l hl))) hg.fills hrest
    have hdone : List.Forall₂ (Same False) done done :=
      List.forall₂_same.mpr fun _ _ => ⟨rfl, .inl rfl, False.elim⟩
    refine ⟨done ++ us, ?_, List.rel_append hdone hsame⟩
    rw [tokenizeEmbedded, hlexemes]
    exact run_of_steps hsteps hus

end Layout

/-- Blanks behind the expression of a field leave its value. -/
theorem Parser.FillsField.embeds_append (he : FillsField e) (hw : IsBlankText w)
    (h : Embeds spell n e v) : Embeds spell n (e ++ w) v := by
  obtain ⟨fuel, h⟩ := h
  refine ⟨fuel, fun base => ?_⟩
  have halike : ReadsAlike (fun rule => embedded rule e base)
      (fun rule => embedded rule (e ++ w) base) := by
    intro rule rule' hrule
    refine TokenLikeness.embedded hrule fun n m hn => ?_
    have hdepth : n.limit - n.depth = m.limit - m.depth := by
      have hle := hn.1
      have heq := hn.2.resolve_left id
      omega
    rw [hdepth]
    cases htokens : tokenizeEmbedded e base (m.limit - m.depth) with
    | error err => exact .excused (.inr (.inr trivial))
    | ok ts =>
      obtain ⟨us, hus, hsame⟩ := Layout.tokenizeEmbedded_append htokens he hw
      rw [hus]
      exact .ok hsame
  exact (settles_of_ok (p := fun rule => embedded rule e base) halike (h base fuel (Nat.le_refl _) [])).2

/-! ## The last character -/

/-- What ends with an angle bracket, and is a token or blank, is an operator. -/
theorem isAngle_of_last {c : Char} (hl : l ∈ lexemes e)
    (hkind : l.kind.isContent = true ∨ IsBlankText l.text) (hlast : l.text.getLast? = some c)
    (hc : c = '<' ∨ c = '>') : l.kind = .op ∧ String.ofList l.text ∈ angles := by
  have hmem : c ∈ l.text := List.mem_of_getLast? hlast
  have hstop : ¬ Clear c := fun hclear => by
    rcases hc with rfl | rfl <;> exact hclear (by decide)
  have hvisible : isFieldBlank c = false := by rcases hc with rfl | rfl <;> rfl
  have hcontent : l.kind.isContent = true := hkind.resolve_right fun hblank =>
    nomatch hvisible.symm.trans (hblank c hmem)
  obtain ⟨pre, post, hsplit⟩ := List.append_of_mem hl
  obtain ⟨m, n, hm, hn, htext, -⟩ := measured (lexemes_of_append hsplit)
  have hclear : Within Clear m → False := fun hwithin => hstop (hwithin _ n hn c (htext ▸ hmem))
  cases hk : l.kind with
  | op =>
    obtain rfl : m = Lexeme.op := by simpa [kinds, hk] using hm
    have hangle : ∀ w ∈ operators, w.getLast? = some '<' ∨ w.getLast? = some '>' →
        String.ofList w ∈ angles := by decide
    refine ⟨rfl, hangle _ (htext ▸ op_eq_some hn) ?_⟩
    rcases hc with rfl | rfl
    · exact .inl hlast
    · exact .inr hlast
  | number =>
    obtain rfl : m = Lexeme.number := by simpa [kinds, hk] using hm
    exact (hclear within_number).elim
  | name =>
    obtain rfl : m = Lexeme.name := by simpa [kinds, hk] using hm
    exact (hclear within_name).elim
  | string =>
    -- a literal ends with its quote
    obtain ⟨marks, q, triple, body, hliteral⟩ := isLiteral_of_mem hl hk
    have hquote : l.text.getLast? = some q := by
      rw [hliteral.eq, ← List.append_assoc, ← List.append_assoc, List.getLast?_append]
      cases triple <;> rfl
    obtain rfl : q = c := Option.some.inj (hquote.symm.trans hlast)
    have hq := hliteral.quote
    rcases hc with rfl | rfl <;> cases hq
  | continuation | lineBreak | blank | comment | openQuote | stray =>
    rw [hk] at hcontent
    cases hcontent

theorem Parser.Dangles.append {done : List Token} (hdone : ∀ t ∈ done, t.kind ≠ .endMarker)
    (h : Dangles us) : Dangles (done ++ us) := by
  induction done with
  | nil => exact h
  | cons t done ih =>
    obtain ⟨ht, hdone⟩ := List.forall_mem_cons.mp hdone
    exact .cons ht (ih hdone)

/-- Where an operator that ends with an angle bracket is the last piece, it is the last token. -/
theorem dangles_of_tokenize (h : tokenizeEmbedded e base limit = .ok ts) (hls : lexemes e = pre ++ [l])
    (hl : l.kind = .op) (hangle : String.ofList l.text ∈ angles) : Dangles ts := by
  have hreadable := (readable_of_tokenizeEmbedded h).1
  rw [tokenizeEmbedded, hls] at h
  obtain ⟨done, a, rest, -, hrest, rfl⟩ := Layout.run_append h
  have hdangles : Dangles rest := by
    obtain ⟨tokens, a', closers, hstep, hfinish, rfl⟩ := Layout.run_cons_inv hrest
    have hcontent : Layout.contentKind? l.kind = some .op := by
      rw [hl]
      rfl
    obtain ⟨marks, indents, brackets, span, -, hmarks, -, rfl, -⟩ := Layout.content_of_step hcontent hstep
    rw [Layout.lineMarks, if_neg (by simp)] at hmarks
    cases hmarks
    rw [Layout.run, Layout.finish_embedded rfl (Layout.brackets_of_finish hfinish)] at hfinish
    cases hfinish
    exact .last ⟨rfl, hangle⟩ rfl
  exact hdangles.append (hreadable.append_inv hdangles.ne_nil).1

/-- An expression with an angle bracket at its end is not read. -/
theorem Parser.FillsField.last_ne (he : FillsField e) (h : Embeds spell n e v) {c : Char}
    (hlast : e.getLast? = some c) : c ≠ '<' ∧ c ≠ '>' := by
  by_contra hangle
  rw [not_and_or, not_not, not_not] at hangle
  obtain ⟨fuel, h⟩ := h
  have hv : outcome (embedded (Rule.run spell fuel) e 0) n [] = .ok (v, []) := h 0 fuel (Nat.le_refl _) []
  rw [outcome_embedded] at hv
  obtain ⟨tokens, htokens, hv⟩ := bind_ok hv
  have hknown : ∀ l ∈ lexemes e, l.kind ≠ .openQuote ∧ l.kind ≠ .stray :=
    Layout.known_of_tokenizeEmbedded htokens
  obtain ⟨pre, l, hls⟩ : ∃ pre l, lexemes e = pre ++ [l] := by
    rcases List.eq_nil_or_concat (lexemes e) with hnil | ⟨pre, l, hls⟩
    · rw [← textOf_lexemes e, hnil] at hlast
      cases hlast
    · exact ⟨pre, l, by rw [hls, List.concat_eq_append]⟩
  have hl : l ∈ lexemes e := by
    rw [hls]
    exact List.mem_append_right pre (List.mem_singleton_self l)
  have hlast' : l.text.getLast? = some c := by
    rw [← textOf_lexemes e, hls, textOf_append, textOf_cons, textOf_nil, List.append_nil,
      List.getLast?_append_of_ne_nil _ (text_ne_nil hl)] at hlast
    exact hlast
  have hkind : l.kind.isContent = true ∨ IsBlankText l.text := by
    cases hcontent : l.kind.isContent with
    | true => exact .inl rfl
    | false => exact .inr (.of_lexeme hl (he.blank_or_lineBreak hknown hl hcontent))
  obtain ⟨hop, hangle⟩ := isAngle_of_last hl hkind hlast' hangle
  have hdangles := dangles_of_tokenize htokens hls hop hangle
  have hleft : ¬ (current tokens).kind = .endMarker := hdangles.not_atEnd
  rw [if_neg hleft] at hv
  obtain ⟨⟨v', us⟩, hv, -⟩ := map_ok hv
  rw [outcome_bind] at hv
  obtain ⟨⟨value, vs⟩, hread, hend⟩ := bind_ok hv
  exact nomatch hend.symm.trans (outcome_endOfText_trailing (not_atEnd_of_yieldOr hdangles hread) value)

/-! ## The equals sign -/

namespace Parser.FieldScan

variable {s : FieldScan} {c : Char} {text r : List Char}

/-- Where the search comes to rest after the last character, an equals sign that follows changes nothing,
unless it completes an operator. -/
theorem Sound.pass_equals (hs : s.Sound (c :: '=' :: r)) (hangle : c ≠ '<' ∧ c ≠ '>')
    (h : s.pass c [] = .ok (some ⟨0, none, 0⟩)) : s.pass c ('=' :: r) = .ok (some ⟨0, none, 0⟩) := by
  have hrun : ∀ q, Quoted.isQuote q = true → quoteRun q (c :: '=' :: r) = quoteRun q [c] := by
    intro q hq
    refine @quoteRun_append [c] _ _ fun d hd => ?_
    rintro rfl
    cases hd
    cases hq
  obtain ⟨d, _ | ⟨q, k⟩, _ | skip⟩ := s
  · by_cases hslash : c = '\\'
    · rw [hslash, pass_slash] at h
      cases h
    cases hq : Quoted.isQuote c with
    | true =>
      rw [pass_quote hq] at h
      split at h <;> cases h
    | false =>
      rw [pass_outside hslash hq] at h ⊢
      by_cases hequals : c = '=' ∨ c = '!'
      · -- outside brackets the search would have stopped, and within them it is still there
        exfalso
        cases d with
        | zero => rcases hequals with rfl | rfl <;> simp at h
        | succ d => rcases hequals with rfl | rfl <;> simp at h
      · have hnot : ¬ (c = '=' ∨ c = '!' ∨ c = '<' ∨ c = '>') := by
          rintro (hc | hc | hc | hc)
          · exact hequals (.inl hc)
          · exact hequals (.inr hc)
          · exact hangle.1 hc
          · exact hangle.2 hc
        rw [← h]
        simp only [hnot, false_and, if_false]
  · exact h
  · by_cases hslash : c = '\\'
    · rw [hslash, pass_slash] at h
      cases h
    · rw [pass_literal hslash] at h ⊢
      rwa [hrun q (hs.quote q k rfl)]
  · exact h

/-- The same after a text. -/
theorem Sound.passAll_equals (hs : s.Sound (text ++ '=' :: r))
    (hangle : ∀ c ∈ text.getLast?, c ≠ '<' ∧ c ≠ '>')
    (h : FieldScan.passAll [] s text = some ⟨0, none, 0⟩) :
    FieldScan.passAll ('=' :: r) s text = some ⟨0, none, 0⟩ := by
  induction text generalizing s with
  | nil => exact h
  | cons c text ih =>
    obtain ⟨s₁, hpass, hr⟩ := passAll_cons_inv h
    rw [List.append_nil] at hpass
    cases text with
    | nil =>
      obtain rfl : s₁ = ⟨0, none, 0⟩ := Option.some.inj hr
      exact passAll_cons (hs.pass_equals (hangle c rfl) hpass)
    | cons d text =>
      have hsame : s.pass c (d :: text ++ '=' :: r) = s.pass c (d :: text) :=
        hs.pass_append (by rintro _ ⟨⟩; rfl) (.inl (List.cons_ne_nil d text))
      rw [← hsame] at hpass
      exact (passAll_cons hpass).trans (ih (hs.pass_some hpass).1 hangle hr)

/-- Outside literals blanks are passed over. -/
theorem passAll_blanks (hw : IsBlankText w) (rest : List Char) :
    FieldScan.passAll rest ⟨0, none, 0⟩ w = some ⟨0, none, 0⟩ := by
  induction w with
  | nil => rfl
  | cons c w ih =>
    obtain ⟨hc, hw⟩ := List.forall_mem_cons.mp hw
    have hpass : FieldScan.pass ⟨0, none, 0⟩ c (w ++ rest) = .ok (some ⟨0, none, 0⟩) := by
      simp only [isFieldBlank, Bool.or_eq_true, beq_iff_eq] at hc
      rcases hc with (((rfl | rfl) | rfl) | rfl) | rfl <;> rfl
    exact (passAll_cons hpass).trans (ih hw)

end Parser.FieldScan

/-- An equals sign ends an expression that is read, and the blanks behind it. -/
theorem Parser.FillsField.splitField_equals (he : FillsField e) (h : Embeds spell n e v)
    (hw : IsBlankText w) {r : List Char} (hr : r.head? ≠ some '=') :
    splitField 0 ⟨0, none, 0⟩ 0 ((e ++ w) ++ '=' :: r) = .ok (e ++ w, '=' :: r) := by
  refine FieldScan.splitField_iff.mpr ⟨'=', r, ⟨0, none, 0⟩, rfl, ?_, ?_⟩
  · rw [FieldScan.passAll_append, Option.bind_eq_some_iff]
    refine ⟨⟨0, none, 0⟩, ?_, FieldScan.passAll_blanks hw _⟩
    cases w with
    | nil => exact (FieldScan.sound_start _).passAll_equals (fun c hc => he.last_ne h hc) he.passAll
    | cons c w =>
      have hc := hw c List.mem_cons_self
      rw [(FieldScan.sound_start _).passAll_append, he.passAll]
      · rintro _ ⟨⟩
        simp only [isFieldBlank, Bool.or_eq_true, beq_iff_eq] at hc
        rcases hc with (((rfl | rfl) | rfl) | rfl) | rfl <;> rfl
      · rintro ⟨⟩
        cases hc
  · exact FieldScan.pass_eq_none.mpr ⟨rfl, .inr (.inr ⟨.inr rfl, hr⟩)⟩

end PythonSyntax
