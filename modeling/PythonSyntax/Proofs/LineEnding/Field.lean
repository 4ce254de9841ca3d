import PythonSyntax.Proofs.LineEnding.Layout
import PythonSyntax.Proofs.Parser.FormattedString

/-
Cutting a formatted literal under another line ending.

A body is cut at its braces, and a field at the brackets, quotes and marks that end its parts.  No
line break is one of them, so a body and its spelling are cut at the same places, or are refused for
the same cause at the same place.
-/

namespace PythonSyntax.Parser

open PythonSyntax.Lexeme

variable {e : LineEnding} {s : List Char} {R : Nat → Prop}

/-! ## Parts of a text -/

/-- A part of a text within which `R` holds, and where it stands in the text and in its spelling. -/
structure Part (e : LineEnding) (s : List Char) (R : Nat → Prop) (text : List Char) (x y : Nat) :
    Prop where
  located : e.Located s text x y
  inside : ∀ z, x ≤ z → z < x + byteLength text → R z

namespace Part

variable {a b : List Char} {x y : Nat}

theorem left (h : Part e s R (a ++ b) x y) : Part e s R a x y := by
  refine ⟨h.located.left, fun z hx hz => h.inside z hx ?_⟩
  rw [byteLength_append]
  omega

theorem right (h : Part e s R (a ++ b) x y) :
    Part e s R b (x + byteLength a) (y + byteLength (e.spell a)) := by
  refine ⟨h.located.right, fun z hx hz => h.inside z (by omega) ?_⟩
  rw [byteLength_append]
  omega

/-- What follows a character that takes one byte. -/
theorem tail {c : Char} {r : List Char} (hc : c.utf8Size = 1) (hn : c ≠ '\n')
    (h : Part e s R (c :: r) x y) : Part e s R r (x + 1) (y + 1) := by
  have := right (a := [c]) h
  rwa [e.spell_cons hn, LineEnding.spell_nil, byteLength_cons, hc] at this

theorem twin (h : Part e s R a x y) : e.Twin s x y := h.located.twin

end Part

/-- Texts with their offsets, the second one the spelling of the first. -/
def AlikeRests (e : LineEnding) (s : List Char) (R : Nat → Prop) (r r' : List Char × Nat) : Prop :=
  r'.1 = e.spell r.1 ∧ Part e s R r.1 r.2 r'.2

/-! ## Bodies -/

theorem splitLiteral_break (isRaw inName : Bool) (text : List Char) :
    splitLiteral isRaw inName (e.text ++ text) =
      (e.text ++ (splitLiteral isRaw inName text).1, (splitLiteral isRaw inName text).2) := by
  cases e <;> cases inName <;> rfl

theorem splitLiteral_spell (isRaw inName : Bool) (text : List Char) :
    splitLiteral isRaw inName (e.spell text) =
      (e.spell (splitLiteral isRaw inName text).1, e.spell (splitLiteral isRaw inName text).2) := by
  induction text generalizing inName with
  | nil => rfl
  | cons c r ih =>
    by_cases hc : c = '\n'
    · subst hc
      have hbreak := splitLiteral_break (e := .lf) isRaw inName r
      rw [show LineEnding.lf.text ++ r = '\n' :: r from rfl] at hbreak
      rw [LineEnding.spell_break, splitLiteral_break, ih, hbreak]
      rfl
    · rw [e.spell_cons hc]
      unfold splitLiteral
      rw [e.isPrefixOf_spell (by decide) (by decide)]
      split
      · rw [ih]
        exact Prod.ext (e.spell_cons hc _).symm rfl
      · split
        · exact Prod.ext rfl (e.spell_cons hc r).symm
        · dsimp only
          rw [ih]
          exact Prod.ext (e.spell_cons hc _).symm rfl

/-! ## Expressions of fields -/

theorem quoteRun_spell {q : Char} (hq : InLine q) (text : List Char) :
    quoteRun q (e.spell text) = quoteRun q text := by
  have hshort : ∀ n (text : List Char), ((e.spell text).take n).takeWhile (· == q) =
      (text.take n).takeWhile (· == q) := by
    have hbreak : ∀ n c r, c ≠ q → ((c :: r).take n).takeWhile (· == q) = [] := by
      intro n c r hc
      cases n with
      | zero => rfl
      | succ n => rw [List.take_succ_cons, List.takeWhile_cons, if_neg (by simpa using hc)]
    intro n text
    induction n generalizing text with
    | zero => rfl
    | succ n ih =>
      cases text with
      | nil => rfl
      | cons c r =>
        by_cases hc : c = '\n'
        · subst hc
          rw [hbreak _ _ _ hq.1.symm]
          cases e with
          | lf => exact hbreak _ _ _ hq.1.symm
          | crlf => exact hbreak _ _ _ hq.2.symm
        · rw [e.spell_cons hc, List.take_succ_cons, List.take_succ_cons, List.takeWhile_cons,
            List.takeWhile_cons, ih]
  rw [quoteRun, quoteRun, hshort]

/-- Quotes in a row are quotes. -/
theorem eq_of_quoteRun {q : Char} {n : Nat} {text : List Char} (h : n ≤ quoteRun q text) :
    ∀ c ∈ text.take n, c = q := by
  intro c hc
  have hlead : (text.take 3).takeWhile (· == q) <+: text :=
    (List.takeWhile_prefix _).trans (List.take_prefix 3 text)
  have hsub : c ∈ (text.take 3).takeWhile (· == q) := by
    rw [List.prefix_iff_eq_take.mp hlead]
    exact (List.take_prefix_take_left h).subset hc
  simpa using List.mem_takeWhile_imp hsub

namespace FieldScan

/-- What a scan knows: the open quote is one, and it passes over no more than quotes and equals
signs. -/
structure Sound (f : FieldScan) (text : List Char) : Prop where
  quote : ∀ q n, f.quote = some (q, n) → Quoted.isQuote q = true
  skipped : ∀ c ∈ text.take f.skip, Quoted.isQuote c = true ∨ c = '='

variable {f f' : FieldScan} {c : Char} {r : List Char}

/-- What a scan passes over holds no line break and no backslash. -/
theorem Sound.skip_eq_zero (h : f.Sound (c :: r)) (hc : c = '\n' ∨ c = '\r' ∨ c = '\\') :
    f.skip = 0 := by
  cases hskip : f.skip with
  | zero => rfl
  | succ n =>
    have := h.skipped c (by rw [hskip]; exact List.mem_cons_self)
    rcases hc with rfl | rfl | rfl <;> exact absurd this (by decide)

/-- A line break changes nothing. -/
theorem Sound.pass_break (h : f.Sound (c :: r)) (hc : c = '\n' ∨ c = '\r') :
    f.pass c r = .ok (some f) := by
  have hskip := h.skip_eq_zero (c := c) (by rcases hc with rfl | rfl <;> decide)
  obtain ⟨depth, quote, skip⟩ := f
  cases hskip
  cases quote with
  | none => rcases hc with rfl | rfl <;> rfl
  | some qn =>
    obtain ⟨q, n⟩ := qn
    have hq := inLine_of_isQuote (h.quote q n rfl)
    rcases hc with rfl | rfl
    · exact if_neg fun hand => hq.1 hand.1.symm
    · exact if_neg fun hand => hq.2 hand.1.symm

/-- A character that is no line break is passed in the same way, whatever the ending. -/
theorem Sound.pass_spell (h : f.Sound (c :: r)) (hn : c ≠ '\n') (hr : c ≠ '\r') :
    f.pass c (e.spell r) = f.pass c r := by
  have hrun : quoteRun c (c :: e.spell r) = quoteRun c (c :: r) := by
    rw [← e.spell_cons hn, quoteRun_spell ⟨hn, hr⟩]
  have hhead : (e.spell r).head? = some '=' ↔ r.head? = some '=' :=
    e.head?_spell (by decide) (by decide)
  unfold pass
  split
  · rfl
  · cases hquote : f.quote with
    | none => simp only [hrun, hhead]
    | some qn =>
      obtain ⟨q, n⟩ := qn
      have hq := inLine_of_isQuote (h.quote q n hquote)
      dsimp only
      rw [← e.spell_cons hn, quoteRun_spell hq]

/-- The quotes in a row behind the first one. -/
theorem isQuote_of_quoteRun {q : Char} {n : Nat} (hq : Quoted.isQuote q = true)
    (hn : n ≤ quoteRun q (c :: r)) : ∀ d ∈ r.take (n - 1), Quoted.isQuote d = true ∨ d = '=' := by
  intro d hd
  cases n with
  | zero => exact nomatch hd
  | succ n =>
    rw [eq_of_quoteRun hn d (List.mem_cons_of_mem _ hd)]
    exact .inl hq

/-- The next state of a scan is sound, and the character was no backslash. -/
theorem Sound.pass_some (h : f.Sound (c :: r)) (hpass : f.pass c r = .ok (some f')) :
    f'.Sound r ∧ c ≠ '\\' := by
  have hpasses := f.passes_pass c r
  rw [hpass] at hpasses
  have hnone : f.skip = 0 → ∀ d ∈ r.take f.skip, Quoted.isQuote d = true ∨ d = '=' := by
    intro hskip
    rw [hskip]
    exact nofun
  cases hpasses with
  | seen hskip =>
    refine ⟨⟨h.quote, fun d hd => h.skipped d ?_⟩, ?_⟩
    · rw [hskip]
      exact List.mem_cons_of_mem _ hd
    · rintro rfl
      exact absurd (h.skip_eq_zero (.inr (.inr rfl))) (by rw [hskip]; exact Nat.succ_ne_zero _)
  | closeString _ hc hquote _ hn => exact ⟨⟨nofun, isQuote_of_quoteRun (h.quote _ _ hquote) hn⟩, hc⟩
  | openString _ hc _ hq _ hn =>
    refine ⟨⟨?_, isQuote_of_quoteRun hq hn⟩, hc⟩
    rintro q n ⟨⟩
    exact hq
  | openBracket hskip _ hc => exact ⟨⟨h.quote, hnone hskip⟩, by rcases hc with rfl | rfl | rfl <;> decide⟩
  | closeBracket hskip _ hc =>
    exact ⟨⟨h.quote, hnone hskip⟩, by rcases hc with rfl | rfl | ⟨rfl, -⟩ <;> decide⟩
  | operator _ _ hc hhead =>
    refine ⟨⟨h.quote, fun d hd => .inr ?_⟩, by rcases hc with rfl | rfl | rfl | rfl <;> decide⟩
    cases r with
    | nil => exact nomatch hd
    | cons a r =>
      have ha : a = '=' := by simpa using hhead
      simpa [ha] using hd
  | plain hskip hc => exact ⟨⟨h.quote, hnone hskip⟩, hc⟩

end FieldScan

theorem splitField_break (start x : Nat) {f : FieldScan} (text : List Char)
    (h : ∀ c r, c = '\n' ∨ c = '\r' → f.pass c r = .ok (some f)) :
    splitField start f x (e.text ++ text) =
      (splitField start f (x + byteLength e.text) text).map fun r => (e.text ++ r.1, r.2) := by
  have hcons : ∀ c x text, c = '\n' ∨ c = '\r' → splitField start f x (c :: text) =
      (splitField start f (x + c.utf8Size) text).map fun r => (c :: r.1, r.2) := by
    intro c x text hc
    rw [splitField, h c text hc]
  cases e with
  | lf => exact hcons _ _ _ (.inl rfl)
  | crlf =>
    show splitField start f x ('\r' :: '\n' :: text) = _
    rw [hcons _ _ _ (.inr rfl), hcons _ _ _ (.inl rfl), Nat.add_assoc]
    show _ = (splitField start f (x + ('\r'.utf8Size + '\n'.utf8Size)) text).map _
    cases splitField start f (x + ('\r'.utf8Size + '\n'.utf8Size)) text <;> rfl

/-- The expression of a field is spelled, and holds no backslash. -/
theorem splitField_alike {start start' x y : Nat} {f : FieldScan} {text : List Char}
    (hstart : e.Twin s start start') (hat : e.Located s text x y) (hs : '\r' ∉ text)
    (hf : f.Sound text) :
    (alike e s R).Results
      (fun r r' => r' = (e.spell r.1, e.spell r.2) ∧ '\\' ∉ r.1 ∧ text = r.1 ++ r.2)
      (splitField start f x text) (splitField start' f y (e.spell text)) := by
  induction text generalizing f x y with
  | nil =>
    show (alike e s R).Results _ (splitField start f x []) (splitField start' f y [])
    unfold splitField
    split
    · exact Layout.results_error (by decide) hstart
    · exact Layout.results_error (by decide) hat
  | cons c r ih =>
    have hs' : '\r' ∉ r := fun h => hs (List.mem_cons_of_mem _ h)
    have hrest := LineEnding.Located.right (a := [c]) hat
    by_cases hc : c = '\n'
    · subst hc
      have hpass : ∀ c r, c = '\n' ∨ c = '\r' → f.pass c r = .ok (some f) := by
        intro c r hc
        have hskip := hf.skip_eq_zero (.inl rfl)
        refine FieldScan.Sound.pass_break ⟨hf.quote, ?_⟩ hc
        rw [hskip]
        exact fun c hc => absurd hc List.not_mem_nil
      have hsound : f.Sound r := by
        refine ⟨hf.quote, ?_⟩
        rw [hf.skip_eq_zero (.inl rfl)]
        exact fun c hc => absurd hc List.not_mem_nil
      have hleft := splitField_break (e := .lf) start x r hpass
      rw [show LineEnding.lf.text ++ r = '\n' :: r from rfl] at hleft
      rw [LineEnding.spell_break, splitField_break _ _ _ hpass, hleft]
      have hspell : e.spell ['\n'] = e.text := by rw [LineEnding.spell_break, LineEnding.spell_nil,
        List.append_nil]
      rw [hspell] at hrest
      refine (ih hrest hs' hsound).map fun a b hab => ?_
      rw [hab.1]
      refine ⟨rfl, fun hmem => hab.2.1 ?_, congrArg ('\n' :: ·) hab.2.2⟩
      exact (List.mem_cons.mp hmem).resolve_left (by decide)
    · have hcr : c ≠ '\r' := fun h => hs (h ▸ List.mem_cons_self)
      rw [e.spell_cons hc, LineEnding.spell_nil] at hrest
      rw [e.spell_cons hc]
      unfold splitField
      rw [hf.pass_spell hc hcr]
      cases hpass : f.pass c r with
      | error cause =>
        refine Layout.results_error ?_ hat.twin
        rcases FieldScan.pass_error hpass with ⟨rfl, -⟩ | ⟨rfl, -⟩ <;> decide
      | ok o =>
        cases o with
        | none => exact .ok ⟨by rw [e.spell_cons hc]; rfl, List.not_mem_nil, rfl⟩
        | some f' =>
          obtain ⟨hsound, hesc⟩ := hf.pass_some hpass
          refine (ih hrest hs' hsound).map fun a b hab => ?_
          rw [hab.1]
          refine ⟨by rw [e.spell_cons hc], fun hmem => hab.2.1 ?_, congrArg (c :: ·) hab.2.2⟩
          exact (List.mem_cons.mp hmem).resolve_left (Ne.symm hesc)

/-! ## The other parts of a field -/

/-- A character that is no line break begins a text and its spelling, or neither. -/
theorem head_cases (e : LineEnding) {c : Char} (hc : InLine c) (text : List Char) :
    (∃ r, text = c :: r ∧ e.spell text = c :: e.spell r) ∨
      text.head? ≠ some c ∧ (e.spell text).head? ≠ some c := by
  by_cases hhead : text.head? = some c
  · cases text with
    | nil => exact nomatch hhead
    | cons d r =>
      obtain rfl : d = c := by simpa using hhead
      exact .inl ⟨r, rfl, e.spell_cons hc.1 r⟩
  · exact .inr ⟨hhead, fun h => hhead ((e.head?_spell hc.1 hc.2).mp h)⟩

/-- What a field shows of itself is spelled in both runs. -/
theorem fieldShown_alike (source : List Char) {text : List Char} {x y : Nat}
    (h : Part e s R text x y) :
    (fieldShown e.spell source text x).1 = (fieldShown id (e.spell source) (e.spell text) y).1 ∧
      AlikeRests e s R (fieldShown e.spell source text x).2
        (fieldShown id (e.spell source) (e.spell text) y).2 := by
  rcases head_cases e (show InLine '=' by decide) text with ⟨r, rfl, hspell⟩ | ⟨hhead, hhead'⟩
  · have hblank : isFieldBlank '\r' = isFieldBlank '\n' := rfl
    have htake : r.take (r.takeWhile isFieldBlank).length = r.takeWhile isFieldBlank :=
      (List.prefix_iff_eq_take.mp (List.takeWhile_prefix _)).symm
    have hrest := h.tail rfl (by decide)
    rw [← List.take_append_drop (r.takeWhile isFieldBlank).length r, htake] at hrest
    have hrest := hrest.right
    rw [← e.takeWhile_spell hblank, byteLength_blanks, byteLength_blanks] at hrest
    rw [hspell, fieldShown_equals, fieldShown_equals, e.drop_takeWhile_spell hblank]
    refine ⟨?_, rfl, hrest⟩
    rw [e.takeWhile_spell hblank, LineEnding.spell_append, e.spell_cons (by decide)]
    rfl
  · rw [fieldShown_none hhead, fieldShown_none hhead']
    exact ⟨rfl, rfl, h⟩

theorem fieldConversion_alike {text : List Char} {x y : Nat} (h : Part e s R text x y) :
    (alike e s R).Results (fun r r' => r.1 = r'.1 ∧ AlikeRests e s R r.2 r'.2)
      (fieldConversion text x) (fieldConversion (e.spell text) y) := by
  have hletter : ∀ {c} r x, isConversion c = true →
      fieldConversion ('!' :: c :: r) x = .ok (some c, r, x + 2) := by
    intro c r x hc
    rw [fieldConversion, if_pos hc]
  have hnone : ∀ {c} r x, isConversion c = false →
      fieldConversion ('!' :: c :: r) x = .error (errorAt (x + 1) .fieldConversion) := by
    intro c r x hc
    rw [fieldConversion, hc, if_neg Bool.false_ne_true]
  have hother : ∀ (text : List Char) x, text.head? ≠ some '!' →
      fieldConversion text x = .ok (none, text, x) := by
    intro text x hhead
    unfold fieldConversion
    split
    · exact absurd rfl hhead
    · exact absurd rfl hhead
    · rfl
  rcases head_cases e (show InLine '!' by decide) text with ⟨r, rfl, hspell⟩ | ⟨hhead, hhead'⟩
  · have hrest := h.tail rfl (by decide)
    rw [hspell]
    cases r with
    | nil => exact Layout.results_error nofun h.twin
    | cons c r =>
      by_cases hn : c = '\n'
      · subst hn
        rw [hnone r x rfl]
        cases e with
        | lf =>
          rw [show LineEnding.lf.spell ('\n' :: r) = '\n' :: LineEnding.lf.spell r from rfl,
            hnone _ _ rfl]
          exact Layout.results_error nofun hrest.twin
        | crlf =>
          rw [show LineEnding.crlf.spell ('\n' :: r) = '\r' :: '\n' :: LineEnding.crlf.spell r from rfl,
            hnone _ _ rfl]
          exact Layout.results_error nofun hrest.twin
      · rw [e.spell_cons hn]
        cases hc : isConversion c with
        | false =>
          rw [hnone _ _ hc, hnone _ _ hc]
          exact Layout.results_error nofun hrest.twin
        | true =>
          rw [hletter _ _ hc, hletter _ _ hc]
          exact .ok ⟨rfl, rfl, hrest.tail (utf8Size_of_isConversion hc) hn⟩
  · rw [hother _ _ hhead, hother _ _ hhead']
    exact .ok ⟨rfl, rfl, h⟩

theorem splitSpec_spell (depth : Nat) (text : List Char) :
    splitSpec depth (e.spell text) =
      (e.spell (splitSpec depth text).1, e.spell (splitSpec depth text).2) := by
  have hbreak : ∀ {e : LineEnding} depth text, splitSpec depth (e.text ++ text) =
      (e.text ++ (splitSpec depth text).1, (splitSpec depth text).2) := by
    intro e depth text
    cases e <;> rfl
  induction text generalizing depth with
  | nil => rfl
  | cons c r ih =>
    by_cases hc : c = '\n'
    · subst hc
      have hleft := hbreak (e := .lf) depth r
      rw [show LineEnding.lf.text ++ r = '\n' :: r from rfl] at hleft
      rw [LineEnding.spell_break, hbreak, ih, hleft]
      rfl
    · rw [e.spell_cons hc]
      unfold splitSpec
      split
      · exact Prod.ext rfl (e.spell_cons hc r).symm
      · dsimp only
        rw [ih]
        exact Prod.ext (e.spell_cons hc _).symm rfl

theorem fieldEnd_alike (shown : Option Piece) (value : Expr) (conversion : Option Char)
    (formatSpec : Option Expr) {text : List Char} {x y : Nat} (h : Part e s R text x y) :
    (alike e s R).Results (fun r r' => r.1 = r'.1 ∧ AlikeRests e s R r.2 r'.2)
      (fieldEnd shown value conversion formatSpec text x)
      (fieldEnd shown value conversion formatSpec (e.spell text) y) := by
  have hother : ∀ (text : List Char) x, text.head? ≠ some '}' →
      fieldEnd shown value conversion formatSpec text x = .error (errorAt x .fieldUnclosed) := by
    intro text x hhead
    unfold fieldEnd
    split
    · exact absurd rfl hhead
    · rfl
  rcases head_cases e (show InLine '}' by decide) text with ⟨r, rfl, hspell⟩ | ⟨hhead, hhead'⟩
  · rw [hspell]
    exact .ok ⟨rfl, rfl, h.tail rfl (by decide)⟩
  · rw [hother _ _ hhead, hother _ _ hhead']
    exact Layout.results_error nofun h.twin

end PythonSyntax.Parser
