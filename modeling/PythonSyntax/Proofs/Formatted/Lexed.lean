import PythonSyntax.Proofs.Enclosed.Line
import PythonSyntax.Proofs.Formatted.Region
import PythonSyntax.Proofs.Span.Layout

/-
The search for the end of a field sees the expression as the lexer does.

Over one lexeme the search finds the literal in it, if it is one, and counts the bracket that it is; in
front of every character outside the literal it stands as it did before the lexeme.  By induction over the
lexemes, `splitField_agrees`: where an expression that is found has tokens, the regions that the search
takes for literals are the quotes and bodies of its string tokens, outside them it counts as many open
brackets as the layout, and the end of the expression is the first place where none is open and a brace,
a colon, or a mark that is no part of a comparison stands.
-/

namespace PythonSyntax

open PythonSyntax.Parser PythonSyntax.Parser.FieldScan

/-! ## Quoted parts -/

/-- The part of a literal at an offset from its first quote on; another lexeme has none. -/
def Lexeme.quotedSpans (l : Lexeme) (offset : Nat) : List Span :=
  if l.kind = .string then
    [⟨offset + byteLength (l.text.takeWhile fun c => !Quoted.isQuote c), offset + byteLength l.text⟩]
  else []

/-- The quotes of a string token and what is between them, without the letters in front. -/
def Token.quotedSpan (t : Token) : Span :=
  ⟨t.span.start + byteLength (t.text.toList.takeWhile fun c => !Quoted.isQuote c), t.span.stop⟩

/-- The quoted parts among tokens. -/
def quotedSpans (ts : List Token) : List Span := (ts.filter (·.kind == .string)).map Token.quotedSpan

/-- The offset is in none of the spans. -/
def Span.Misses (spans : List Span) (offset : Nat) : Prop :=
  ∀ s ∈ spans, ¬ (s.start ≤ offset ∧ offset < s.stop)

namespace Layout

/-- The state of a run in front of the lexeme that holds the byte at an offset of the text. -/
def stateAt (cfg : LayoutConfig) : Layout → List Lexeme → Nat → Except SyntaxError Layout
  | s, [], _ => .ok s
  | s, l :: ls, offset =>
    if offset < s.offset + byteLength l.text then .ok s
    else do
      let (_, s) ← step cfg s l
      stateAt cfg s ls offset

end Layout

namespace Parser.FieldScan

variable {s s' : FieldScan} {c stop : Char} {x y text rest before after : List Char}
  {d n opened offset : Nat} {kind : LexemeKind} {m : Lexeme.Measure}

/-! ## Lexemes without quotes -/

/-- The kinds of lexemes that may stand in the expression of a field, but literals. -/
def plainKinds : List LexemeKind := [.lineBreak, .blank, .number, .name, .op]

/-- There is no quote in such a lexeme, and no bracket but one that is all of it. -/
theorem plain_lexeme (hm : (kind, m) ∈ Lexeme.kinds) (hkind : kind ∈ plainKinds) (hn : m text = some n) :
    (∀ c ∈ text.take n, Quoted.isQuote c = false) ∧
      ∀ x c y, text.take n = x ++ c :: y → ∀ b ∈ x, b ∉ counted := by
  have hplain : (∀ c ∈ text.take n, Quoted.isQuote c = false ∧ c ∉ counted) →
      (∀ c ∈ text.take n, Quoted.isQuote c = false) ∧
        ∀ x c y, text.take n = x ++ c :: y → ∀ b ∈ x, b ∉ counted := fun hplain =>
    ⟨fun c hc => (hplain c hc).1,
      fun x c y heq b hb => (hplain b (heq ▸ List.mem_append_left _ hb)).2⟩
  simp only [Lexeme.kinds, List.mem_cons, Prod.mk.injEq, List.not_mem_nil, or_false] at hm
  rcases hm with ⟨rfl, rfl⟩ | ⟨rfl, rfl⟩ | ⟨rfl, rfl⟩ | ⟨rfl, rfl⟩ | ⟨rfl, rfl⟩ | ⟨rfl, rfl⟩ |
    ⟨rfl, rfl⟩ | ⟨rfl, rfl⟩ | ⟨rfl, rfl⟩ | ⟨rfl, rfl⟩
  · exact absurd hkind (by decide)
  · refine hplain ?_
    rcases Lexeme.lineBreak_text hn with hw | hw | hw <;> rw [hw] <;> simp [Quoted.isQuote, counted]
  · exact hplain fun c hc => plain_of_clear (Lexeme.within_blank _ _ hn c hc)
  · exact absurd hkind (by decide)
  · exact absurd hkind (by decide)
  · exact absurd hkind (by decide)
  · exact hplain fun c hc => plain_of_clear (Lexeme.within_number _ _ hn c hc)
  · exact hplain fun c hc => plain_of_clear (Lexeme.within_name _ _ hn c hc)
  · have hw := Lexeme.op_eq_some hn
    have hcases : ∀ w ∈ Lexeme.operators,
        w.length = 1 ∨ (w.all fun c => !counted.contains c) = true := by decide
    refine ⟨(foldl_shift_op (d := 0) hw).2, fun x c y heq b hb hmem => ?_⟩
    rcases hcases _ hw with hone | hnone
    · rw [heq, List.length_append, List.length_cons] at hone
      have hnil : x = [] := List.eq_nil_of_length_eq_zero (by omega)
      rw [hnil] at hb
      cases hb
    · have hnot := List.all_eq_true.mp hnone b (heq ▸ List.mem_append_left _ hb)
      rw [List.contains_iff_mem.mpr hmem] at hnot
      cases hnot
  · exact absurd hkind (by decide)

/-! ## One lexeme -/

/-- What the search does over a lexeme at an offset, in front of which it stands. -/
structure PassesOver (l : Lexeme) (rest : List Char) (offset : Nat) (s : FieldScan) (before : List Char)
    (d : Nat) (s' : FieldScan) : Prop where
  stands : s'.Stands (before ++ l.text) (l.depthAfter d) rest
  regions : ∀ opened, FieldScan.regions rest s opened offset l.text = l.quotedSpans offset
  inside : ∀ x c y, l.text = x ++ c :: y → Span.Misses (l.quotedSpans offset) (offset + byteLength x) →
    ∃ s₁, FieldScan.passAll (c :: y ++ rest) s x = some s₁ ∧ s₁.Stands (before ++ x) d (c :: y ++ rest)

/-- A lexeme without quotes is passed over one character at a time. -/
theorem passesOver_plain {l : Lexeme} (h : s.Stands before d (l.text ++ rest)) (hkind : l.kind ≠ .string)
    (hquote : ∀ c ∈ l.text, Quoted.isQuote c = false)
    (hinit : ∀ x c y, l.text = x ++ c :: y → ∀ b ∈ x, b ∉ counted)
    (hdepth : s'.depth = l.depthAfter d) (hp : FieldScan.passAll rest s l.text = some s') :
    PassesOver l rest offset s before d s' := by
  have hstands := h.passAll hquote hp
  refine ⟨?_, fun opened => ?_, fun x c y heq _ => ?_⟩
  · rwa [← hstands.depth, hdepth] at hstands
  · rw [h.toRests.regions hquote hp, Lexeme.quotedSpans, if_neg hkind]
  · rw [heq] at hp hquote
    rw [heq, List.append_assoc] at h
    obtain ⟨s₁, hs₁, hstands₁⟩ := h.split (fun b hb => hquote b (List.mem_append_left _ hb)) hp
    rw [foldl_shift_uncounted (hinit x c y heq)] at hstands₁
    exact ⟨s₁, hs₁, hstands₁⟩

/-- Behind a quote no equals sign completes a comparison. -/
theorem completes_quote {q : Char} (hq : Quoted.isQuote q = true) (hlast : text.getLast? = some q)
    (before : List Char) : completes (before ++ text).reverse = false := by
  obtain ⟨init, rfl⟩ := List.getLast?_eq_some_iff.mp hlast
  rw [← List.append_assoc, List.reverse_append, List.reverse_singleton, List.singleton_append,
    Bool.eq_false_iff, ne_eq, completes_cons]
  rintro ⟨hsign, -⟩
  rcases hsign with rfl | rfl | rfl | rfl <;> cases hq

/-- A literal is passed over as one region, up to which the search goes over its letters. -/
theorem passesOver_literal {marks body : List Char} {q : Char}
    (h : s.Stands before d (marks ++ (body ++ after))) (hmarks : ∀ c ∈ marks, Lexeme.IsMark c)
    (hq : Quoted.isQuote q = true) (hhead : body.head? = some q) (hlast : body.getLast? = some q)
    (hbody : FieldScan.passAll after ⟨d, none, 0⟩ body = some ⟨d, none, 0⟩)
    (hregion : ∀ offset, FieldScan.regions after ⟨d, none, 0⟩ 0 offset body =
      [⟨offset, offset + byteLength body⟩])
    (hp : FieldScan.passAll after s (marks ++ body) = some s') :
    PassesOver ⟨.string, marks ++ body⟩ after offset s before d s' := by
  have hplain : ∀ c ∈ marks, Quoted.isQuote c = false := fun c hc => isQuote_of_isMark (hmarks c hc)
  have hletters : (marks ++ body).takeWhile (fun c => !Quoted.isQuote c) = marks := by
    obtain ⟨r, rfl⟩ := List.head?_eq_some_iff.mp hhead
    rw [List.takeWhile_append_of_pos fun c hc => by rw [hplain c hc]; rfl,
      List.takeWhile_cons_of_neg (by rw [hq]; exact Bool.false_ne_true), List.append_nil]
  have hspans : Lexeme.quotedSpans ⟨.string, marks ++ body⟩ offset =
      [⟨offset + byteLength marks, offset + byteLength (marks ++ body)⟩] := by
    rw [Lexeme.quotedSpans, if_pos rfl]
    dsimp only
    rw [hletters]
  have hmiddle : (body ++ after).head? = some q := by rw [List.head?_append, hhead]; rfl
  rw [passAll_append] at hp
  obtain ⟨s₁, hs₁, hs'⟩ := Option.bind_eq_some_iff.mp hp
  obtain rfl := h.toRests.marks hmarks hmiddle hq hs₁
  obtain rfl := Option.some.inj (hbody.symm.trans hs')
  refine ⟨⟨⟨?_, rfl, .inl rfl⟩, nofun, fun hcompletes => ?_⟩, fun opened => ?_, fun x c y heq hmisses => ?_⟩
  · exact (Lexeme.depthAfter_of_ne_op (show LexemeKind.string ≠ .op by decide) d).symm
  · rw [← List.append_assoc, completes_quote hq hlast] at hcompletes
    cases hcompletes.1
  · rw [regions_append hs₁ rfl 0, h.toRests.regions hplain hs₁, hregion, hspans,
      byteLength_append, Nat.add_assoc, List.nil_append]
  · -- a place that misses the region stands in front of one of the letters
    have hlt : byteLength x < byteLength marks := by
      have hlength : byteLength (marks ++ body) = byteLength x + (c.utf8Size + byteLength y) := by
        rw [show marks ++ body = x ++ c :: y from heq, byteLength_append, byteLength_cons]
      have hpos := c.utf8Size_pos
      have hmiss := hmisses _ (hspans ▸ List.mem_singleton_self _)
      dsimp only at hmiss
      omega
    obtain ⟨z, rfl, hz⟩ : ∃ z, marks = x ++ z ∧ c :: y = z ++ body := by
      rcases List.append_eq_append_iff.mp heq with ⟨z, rfl, -⟩ | ⟨z, hmarks, hz⟩
      · rw [byteLength_append] at hlt
        omega
      · exact ⟨z, hmarks, hz⟩
    rw [hz, List.append_assoc]
    rw [List.append_assoc] at h
    obtain ⟨s₂, hs₂, hstands⟩ := h.split (fun b hb => hplain b (List.mem_append_left _ hb)) hs₁
    have hclear : ∀ b ∈ x, Lexeme.Clear b := fun b hb =>
      Lexeme.clear_of_isMark (hmarks b (List.mem_append_left _ hb))
    rw [foldl_shift_clear hclear] at hstands
    exact ⟨s₂, hs₂, hstands⟩

/-- What the search does over the lexeme at the front of a text. -/
theorem passesOver_lexeme {l : Lexeme} {ls : List Lexeme} (h : s.Stands before d (text ++ stop :: rest))
    (hslash : ∀ c ∈ text, c ≠ '\\') (hstop : Quoted.isQuote stop = false) (hls : lexemes text = l :: ls)
    (hknown : l.kind ≠ .openQuote ∧ l.kind ≠ .stray) (htext : text = l.text ++ y)
    (hp : FieldScan.passAll (y ++ stop :: rest) s l.text = some s') :
    PassesOver l (y ++ stop :: rest) offset s before d s' := by
  obtain ⟨m, n, hm, hn, hl, -⟩ := Lexeme.measured hls
  have hy : y = text.drop n := by
    have hcut := List.take_append_drop n text
    rw [← hl] at hcut
    exact List.append_cancel_left (htext.symm.trans hcut.symm)
  obtain ⟨kind, w⟩ := l
  dsimp only at hm hl hknown hp htext
  subst hl hy
  by_cases hstring : kind = .string
  · subst hstring
    obtain rfl : m = Lexeme.string := by simpa [Lexeme.kinds] using hm
    obtain ⟨i, j, hi, hj, rfl⟩ := Lexeme.andThen_eq_some.mp hn
    obtain ⟨q, hq, hhead, hlast⟩ := quoted_ends hj
    have hslash' : ∀ c ∈ text.drop i, c ≠ '\\' := fun c hc => hslash c (List.mem_of_mem_drop hc)
    have hcut : text ++ stop :: rest = text.take i ++ ((text.drop i).take j ++
        ((text.drop i).drop j ++ stop :: rest)) := by
      rw [← List.append_assoc (List.take j _), List.take_append_drop, ← List.append_assoc,
        List.take_append_drop]
    rw [hcut] at h
    rw [List.take_add, ← List.drop_drop] at hp ⊢
    exact passesOver_literal h (Lexeme.within_marks text i hi) hq hhead hlast
      (passAll_quoted hslash' hstop hj) (fun _ => regions_quoted hslash' hstop hj) hp
  · have hrests := h.toRests.lexeme hslash hstop hm hn hknown hp
    have hcut : text ++ stop :: rest = text.take n ++ (text.drop n ++ stop :: rest) := by
      rw [← List.append_assoc, List.take_append_drop]
    have hplain : kind ∈ plainKinds := by
      cases kind with
      | lineBreak | blank | number | name | op => decide
      | string => exact absurd rfl hstring
      | openQuote => exact absurd rfl hknown.1
      | stray => exact absurd rfl hknown.2
      | comment =>
        obtain rfl : m = Lexeme.comment := by simpa [Lexeme.kinds] using hm
        cases hp.symm.trans (h.toRests.comment hn)
      | continuation =>
        obtain rfl : m = Lexeme.continuation := by simpa [Lexeme.kinds] using hm
        cases text with
        | nil => cases hn
        | cons c r =>
          rw [Lexeme.continuation_other (hslash c List.mem_cons_self)] at hn
          cases hn
    obtain ⟨hquote, hinit⟩ := plain_lexeme hm hplain hn
    rw [hcut] at h
    exact passesOver_plain h hstring hquote hinit hrests.depth hp

end Parser.FieldScan

/-! ## Runs -/

namespace Layout

variable {cfg : LayoutConfig} {a a' : Layout} {l : Lexeme} {ls : List Lexeme} {tokens ts us : List Token}
  {text x y before rest : List Char} {s s' : FieldScan} {stop : Char} {opened : Nat}

theorem quotedSpans_append (ts us : List Token) :
    quotedSpans (ts ++ us) = quotedSpans ts ++ quotedSpans us := by
  rw [quotedSpans, List.filter_append, List.map_append]
  rfl

/-- Only tokens with text have quoted parts. -/
theorem quotedSpans_contents (ts : List Token) :
    quotedSpans (ts.filter (·.kind.isContent)) = quotedSpans ts := by
  have hstring : ∀ t : Token, (t.kind == .string && t.kind.isContent) = (t.kind == .string) := by
    intro t
    cases t.kind <;> rfl
  rw [quotedSpans, List.filter_filter]
  simp only [hstring]
  rfl

/-- A step on a lexeme emits a string token just if the lexeme is a literal. -/
theorem quotedSpans_of_step (h : step cfg a l = .ok (tokens, a')) :
    quotedSpans tokens = l.quotedSpans (cfg.base + a.offset) ∧
      a'.offset = a.offset + byteLength l.text := by
  have hsettles := settles_step cfg a l
  rw [h] at hsettles
  obtain ⟨hemits, hoffset⟩ := hsettles.of_ok
  refine ⟨?_, hoffset⟩
  rw [← quotedSpans_contents, hemits.contents, Lexeme.quotedSpans]
  cases l.kind <;> simp [contentKind?, quotedSpans, Token.quotedSpan]

theorem quotedSpans_of_finish (h : finish cfg a = .ok ts) : quotedSpans ts = [] := by
  have hsettles := settles_finish cfg a
  rw [h] at hsettles
  rw [← quotedSpans_contents, filter_marks fun t ht => ⟨(hsettles.of_ok t ht).1, (hsettles.of_ok t ht).2.1⟩]
  rfl

theorem stateAt_here (h : byteLength x < byteLength l.text) :
    stateAt cfg a (l :: ls) (a.offset + byteLength x) = .ok a := by
  rw [stateAt, if_pos (by omega)]

theorem stateAt_later (hstep : step cfg a l = .ok (tokens, a'))
    (hoffset : a'.offset = a.offset + byteLength l.text) :
    stateAt cfg a (l :: ls) (a.offset + byteLength (l.text ++ x)) =
      stateAt cfg a' ls (a'.offset + byteLength x) := by
  rw [stateAt, byteLength_append, ← Nat.add_assoc, if_neg (by omega), hstep, hoffset]
  rfl

/-- A place in two texts put together is in or behind the second one, or inside of the first. -/
theorem append_cases (h : text ++ rest = x ++ y) : (∃ z, x = text ++ z ∧ rest = z ++ y) ∨
    ∃ c z, text = x ++ c :: z ∧ y = c :: z ++ rest := by
  rcases List.append_eq_append_iff.mp h with hz | ⟨_ | ⟨c, z⟩, rfl, rfl⟩
  · exact .inl hz
  · exact .inl ⟨[], by simp, rfl⟩
  · exact .inr ⟨c, z, rfl, rfl⟩

theorem bounds_of_mem_quotedSpans {span : Span} {offset : Nat} (h : span ∈ l.quotedSpans offset) :
    offset ≤ span.start ∧ span.stop ≤ offset + byteLength l.text := by
  unfold Lexeme.quotedSpans at h
  split at h
  · obtain rfl := List.mem_singleton.mp h
    exact ⟨Nat.le_add_right _ _, Nat.le_refl _⟩
  · cases h

/-- Behind `x` and in front of `y`, the search stands with as many open brackets as the layout has
there. -/
def StandsAt (cfg : LayoutConfig) (a : Layout) (ls : List Lexeme) (s : FieldScan)
    (before x y : List Char) : Prop :=
  ∃ s₁ b, FieldScan.passAll y s x = some s₁ ∧ stateAt cfg a ls (a.offset + byteLength x) = .ok b ∧
    s₁.Stands (before ++ x) b.brackets.length y

/-- A place behind the first lexeme. -/
theorem StandsAt.behind (h : StandsAt cfg a' ls s' (before ++ l.text) x y)
    (hp : FieldScan.passAll (x ++ y) s l.text = some s') (hstep : step cfg a l = .ok (tokens, a'))
    (hoffset : a'.offset = a.offset + byteLength l.text) :
    StandsAt cfg a (l :: ls) s before (l.text ++ x) y := by
  obtain ⟨s₁, b, hs₁, hb, hstands⟩ := h
  refine ⟨s₁, b, ?_, ?_, ?_⟩
  · rw [passAll_append, hp]
    exact hs₁
  · rw [stateAt_later hstep hoffset, hb]
  · rwa [← List.append_assoc]

/-- A place inside of the first lexeme. -/
theorem StandsAt.inside {c : Char}
    (hover : PassesOver l rest (cfg.base + a.offset) s before a.brackets.length s')
    (htext : l.text = x ++ c :: y)
    (hmisses : Span.Misses (l.quotedSpans (cfg.base + a.offset))
      (cfg.base + a.offset + byteLength x)) :
    StandsAt cfg a (l :: ls) s before x (c :: y ++ rest) := by
  obtain ⟨s₁, hs₁, hstands⟩ := hover.inside x c y htext hmisses
  refine ⟨s₁, a, hs₁, stateAt_here ?_, hstands⟩
  have hpos := c.utf8Size_pos
  rw [htext, byteLength_append, byteLength_cons]
  omega

/-- Where the search goes over a text that has tokens, its regions are the quoted parts of these, and in
front of each character outside of them it stands with as many open brackets as the layout has there. -/
theorem stands_of_run (hcfg : cfg.mode = .embedded)
    (hs : s.Stands before a.brackets.length (text ++ stop :: rest)) (hslash : ∀ c ∈ text, c ≠ '\\')
    (hstop : Quoted.isQuote stop = false) (hrun : run cfg a (lexemes text) = .ok ts)
    (hp : FieldScan.passAll (stop :: rest) s text = some s') (opened : Nat) :
    FieldScan.regions (stop :: rest) s opened (cfg.base + a.offset) text = quotedSpans ts ∧
      (∀ span ∈ quotedSpans ts, cfg.base + a.offset ≤ span.start ∧
        span.stop ≤ cfg.base + a.offset + byteLength text) ∧
      ∀ x y, text = x ++ y → Span.Misses (quotedSpans ts) (cfg.base + (a.offset + byteLength x)) →
        StandsAt cfg a (lexemes text) s before x (y ++ stop :: rest) := by
  generalize hls : lexemes text = ls at hrun
  induction ls generalizing text a s before ts opened with
  | nil =>
    obtain rfl : text = [] := by rw [← Lexeme.flatten_lexemes text, hls]; rfl
    rw [quotedSpans_of_finish hrun]
    refine ⟨rfl, nofun, fun x y heq _ => ?_⟩
    obtain ⟨rfl, rfl⟩ := List.append_eq_nil_iff.mp heq.symm
    exact ⟨s, a, rfl, rfl, by rwa [List.append_nil]⟩
  | cons l ls ih =>
    obtain ⟨m, n, -, -, hl, hrest⟩ := Lexeme.measured hls
    have htext : text = l.text ++ text.drop n := by rw [hl, List.take_append_drop]
    obtain ⟨tokens, a', us, hstep, hlater, rfl⟩ := run_cons_inv hrun
    have hgives := gives_of_step hcfg hstep
    obtain ⟨hspans, hoffset⟩ := quotedSpans_of_step hstep
    generalize text.drop n = tail at htext hrest
    subst htext
    rw [passAll_append] at hp
    obtain ⟨s₁, hs₁, hp⟩ := Option.bind_eq_some_iff.mp hp
    have hover : PassesOver l (tail ++ stop :: rest) (cfg.base + a.offset) s before a.brackets.length s₁ :=
      passesOver_lexeme hs hslash hstop hls hgives.known rfl hs₁
    have hstands := hover.stands
    rw [← hgives.depth] at hstands
    obtain ⟨hregions, hbounds, hplaces⟩ := ih hstands
      (fun c hc => hslash c (List.mem_append_right _ hc)) hp 0 hrest.symm hlater
    rw [hoffset] at hbounds
    rw [quotedSpans_append, hspans]
    refine ⟨?_, fun span hspan => ?_, fun x y heq hmisses => ?_⟩
    · rw [regions_append hs₁ hstands.quote 0, hover.regions, ← hregions, hoffset, Nat.add_assoc]
    · rw [byteLength_append]
      rcases List.mem_append.mp hspan with hspan | hspan
      · have hspan := bounds_of_mem_quotedSpans hspan
        omega
      · have hspan := hbounds span hspan
        omega
    · rcases append_cases heq with ⟨z, rfl, hz⟩ | ⟨c, z, hz, rfl⟩
      · have hmiss : Span.Misses (quotedSpans us) (cfg.base + (a'.offset + byteLength z)) := by
          intro span hspan
          have hlater := hmisses span (List.mem_append_right _ hspan)
          rwa [byteLength_append, ← Nat.add_assoc a.offset, ← hoffset] at hlater
        rw [hz, List.append_assoc] at hs₁
        exact (hplaces z y hz hmiss).behind hs₁ hstep hoffset
      · have hmiss : Span.Misses (l.quotedSpans (cfg.base + a.offset))
            (cfg.base + a.offset + byteLength x) := by
          intro span hspan
          rw [Nat.add_assoc]
          exact hmisses span (List.mem_append_left _ hspan)
        rw [List.append_assoc]
        exact .inside hover hz hmiss

end Layout

/-! ## Fields -/

/-- Behind `before`, a part of an expression with these tokens, no string token is open but so many
brackets are. -/
def OpenBehind (source : List Char) (base limit : Nat) (ts : List Token) (before : List Char) (n : Nat) :
    Prop :=
  Span.Misses (quotedSpans ts) (base + byteLength before) ∧
    ∃ layout, Layout.stateAt ⟨.embedded, limit, base⟩ .start (lexemes source) (byteLength before) =
      .ok layout ∧ layout.brackets.length = n

/-- The character `c` may end an expression outside brackets: it is a brace, a colon, or a mark that is no
part of a comparison. -/
def EndsField (before : List Char) (c : Char) (after : List Char) : Prop :=
  c = '}' ∨ c = ':' ∨ c = '!' ∧ after.head? ≠ some '=' ∨
    c = '=' ∧ after.head? ≠ some '=' ∧ completes before.reverse = false

/-- The search for the end of an expression, in front of `rest`, sees it as the lexer does, which makes
these tokens of it. -/
structure SeenAsLexed (source rest : List Char) (base limit : Nat) (ts : List Token) : Prop where
  /-- The regions that the search takes for literals are the quotes and bodies of the string tokens. -/
  regions : FieldScan.regions rest ⟨0, none, 0⟩ base base source = quotedSpans ts
  /-- In front of each character outside of them, as many brackets are open for both. -/
  depth : ∀ before c after, source = before ++ c :: after →
    Span.Misses (quotedSpans ts) (base + byteLength before) →
    ∃ s, FieldScan.passAll (c :: after ++ rest) ⟨0, none, 0⟩ before = some s ∧ s.quote = none ∧
      OpenBehind source base limit ts before s.depth
  /-- What follows is outside of them and of all brackets, and may end the expression. -/
  stop : ∃ c r, rest = c :: r ∧ OpenBehind source base limit ts source 0 ∧ EndsField source c r
  /-- No character in front of it is. -/
  first : ∀ before c after, source = before ++ c :: after → OpenBehind source base limit ts before 0 →
    ¬ EndsField before c (after ++ rest)

/-- Where the expression of a field is found and has tokens, the search sees it as the lexer does. -/
theorem splitField_lexed {start offset base limit : Nat} {text source rest : List Char}
    {ts : List Token} (hfound : splitField start ⟨0, none, 0⟩ offset text = .ok (source, rest))
    (htokens : tokenizeEmbedded source base limit = .ok ts) :
    text = source ++ rest ∧ SeenAsLexed source rest base limit ts := by
  obtain rfl := splitField_append hfound
  obtain ⟨c, r, s', rfl, hp, hstop⟩ := splitField_iff.mp hfound
  have hquote : Quoted.isQuote c = false := by
    rcases (pass_eq_none.mp hstop).2 with rfl | rfl | ⟨rfl | rfl, -⟩ <;> rfl
  obtain rfl := (pass_eq_none.mp hstop).1
  have hslash := ((sound_start _).passAll hp).2
  have hstart : FieldScan.Stands ⟨0, none, 0⟩ [] Layout.start.brackets.length (source ++ c :: r) :=
    ⟨⟨rfl, rfl, .inl rfl⟩, nofun, fun h => nomatch h.1⟩
  have hmode : (⟨.embedded, limit, base⟩ : LayoutConfig).mode = .embedded := rfl
  obtain ⟨hregions, hbounds, hplaces⟩ := Layout.stands_of_run hmode hstart hslash hquote htokens hp base
  have hzero : Layout.start.offset = 0 := rfl
  simp only [Layout.StandsAt, hzero, Nat.zero_add, Nat.add_zero] at hregions hbounds hplaces
  refine ⟨rfl, hregions, fun before d after heq hmisses => ?_, ?_, fun before d after heq hopen => ?_⟩
  · obtain ⟨s, layout, hs, hlayout, hstands⟩ := hplaces before (d :: after) heq hmisses
    exact ⟨s, hs, hstands.quote, hmisses, layout, hlayout, hstands.depth.symm⟩
  · have hmisses : Span.Misses (quotedSpans ts) (base + byteLength source) :=
      fun span hspan hin => absurd hin.2 (Nat.not_lt_of_le (hbounds span hspan).2)
    obtain ⟨s, layout, hs, hlayout, hstands⟩ := hplaces source [] (List.append_nil source).symm hmisses
    obtain rfl : s = ⟨0, none, 0⟩ := Option.some.inj (hs.symm.trans hp)
    have hdepth : layout.brackets.length = 0 := hstands.depth.symm
    rw [hdepth] at hstands
    exact ⟨c, r, rfl, ⟨hmisses, layout, hlayout, hdepth⟩, hstands.stops_iff.mp hstop⟩
  · obtain ⟨hmisses, layout, hlayout, hdepth⟩ := hopen
    obtain ⟨s, layout', hs, hlayout', hstands⟩ := hplaces before (d :: after) heq hmisses
    obtain rfl := Except.ok.inj (hlayout.symm.trans hlayout')
    rw [hdepth] at hstands
    intro hends
    -- the search would have stopped there
    have hnone : s.pass d (after ++ c :: r) = .ok none := hstands.stops_iff.mpr hends
    rw [heq, passAll_append, hs, Option.bind_some, FieldScan.passAll, hnone] at hp
    cases hp

/-- A literal with a brace in it, within brackets and in front of a comparison. -/
theorem splitField_lexed_comparison :
    ∃ ts, tokenizeEmbedded ['a', '[', '\'', '}', '\'', ']', '!', '=', 'b'] 3 1 = .ok ts ∧
      SeenAsLexed ['a', '[', '\'', '}', '\'', ']', '!', '=', 'b'] ['=', '}', '"'] 3 1 ts := by
  obtain ⟨ts, hts, -⟩ := exists_of_any
    (x := tokenizeEmbedded ['a', '[', '\'', '}', '\'', ']', '!', '=', 'b'] 3 1) (p := fun _ => true)
    (by decide +kernel)
  have hfound : splitField 3 ⟨0, none, 0⟩ 3
      ['a', '[', '\'', '}', '\'', ']', '!', '=', 'b', '=', '}', '"'] =
        .ok (['a', '[', '\'', '}', '\'', ']', '!', '=', 'b'], ['=', '}', '"']) := rfl
  exact ⟨ts, hts, (splitField_lexed hfound hts).2⟩

end PythonSyntax
