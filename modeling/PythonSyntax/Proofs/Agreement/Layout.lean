import PythonSyntax.Proofs.Agreement.Logic
import PythonSyntax.Proofs.Layout.Step

/-
The layout of lexemes that match.

The layout looks at a lexeme through its kind, and through its text where that is an operator or a
blank.  So runs of it on lexemes that match emit tokens that match, or are refused alike.  `Fed` says
what must match at one lexeme; the runs may stand at other offsets, and one of them may allow more
open brackets.
-/

namespace PythonSyntax.Layout

open PythonSyntax.Parser PythonSyntax.Parser.TokenLikeness

variable {c : TokenLikeness}

/-! ## What matches -/

/-- Marks and errors at two offsets match. -/
structure Spot (c : TokenLikeness) (x y : Nat) : Prop where
  mark {kind : TokenKind} : kind ≠ .string → c.token ⟨kind, "", ⟨x, x⟩⟩ ⟨kind, "", ⟨y, y⟩⟩
  error {cause : Cause} : cause ≠ .openQuote → c.error ⟨cause, ⟨x, x⟩⟩ ⟨cause, ⟨y, y⟩⟩

/-- Two lexemes at two spans are fed to the layout alike. -/
structure Fed (c : TokenLikeness) (l l' : Lexeme) (span span' : Span) : Prop where
  kind : l.kind = l'.kind
  spot : Spot c span.start span'.start
  width : l.kind = .blank ∨ l.kind = .comment ∨ l.kind = .continuation →
    ∀ w, l.text.foldl widen w = l'.text.foldl widen w
  newline : l.kind = .lineBreak →
    c.token ⟨.newline, String.ofList l.text, span⟩ ⟨.newline, String.ofList l'.text, span'⟩
  content {kind : TokenKind} : contentKind? l.kind = some kind →
    c.token ⟨kind, String.ofList l.text, span⟩ ⟨kind, String.ofList l'.text, span'⟩
  refused : l.kind = .openQuote ∨ l.kind = .stray → l.text = l'.text
  error {cause : Cause} : (cause = .openQuote → l.kind = .openQuote) →
    c.error ⟨cause, span⟩ ⟨cause, span'⟩

/-- The first run may not open more brackets than the second, or that is excused. -/
structure Limits (c : TokenLikeness) (k k' : Nat) : Prop where
  le : k ≤ k'
  reached : k = k' ∨ c.excused .tooManyBrackets

/-- A state and another one that stands elsewhere.  After the first token of a line it does not matter
how wide the blanks were. -/
def Alike (a b : Layout) : Prop :=
  ∃ offset width, (a.atLineStart = true → a.width = width) ∧
    b = { a with offset := offset, width := width }

theorem alike_at (a : Layout) (offset : Nat) : Alike a { a with offset := offset } :=
  ⟨offset, a.width, fun _ => rfl, rfl⟩

/-! ## One step -/

theorem forall₂_replicate {α β : Type} {Q : α → β → Prop} {x : α} {y : β} (h : Q x y) (n : Nat) :
    List.Forall₂ Q (List.replicate n x) (List.replicate n y) := by
  induction n with
  | zero => exact .nil
  | succ n ih => exact .cons h ih

theorem indentTo_alike {a : Layout} {offset : Nat} {x y : Nat} (h : Spot c x y) :
    c.Results (fun r r' => List.Forall₂ c.token r.1 r'.1 ∧ r.2 = r'.2)
      (a.indentTo ⟨x, x⟩) (indentTo { a with offset := offset } ⟨y, y⟩) := by
  unfold indentTo
  dsimp only
  split
  · exact .ok ⟨.cons (h.mark nofun) .nil, rfl⟩
  · split
    · exact .error (h.error nofun)
    · refine .ok ⟨forall₂_replicate ?_ _, rfl⟩
      exact h.mark nofun

theorem trackBracket_alike {k k' : Nat} (hk : Limits c k k') (brackets : List String) (op : String)
    {span span' : Span}
    (h : ∀ {cause : Cause}, cause ≠ .openQuote → c.error ⟨cause, span⟩ ⟨cause, span'⟩) :
    c.Results Eq (trackBracket k brackets op span) (trackBracket k' brackets op span') := by
  unfold trackBracket
  split
  · by_cases hfull : k ≤ brackets.length
    · rw [if_pos hfull]
      rcases hk.reached with rfl | hexc
      · rw [if_pos hfull]
        exact .error (h nofun)
      · exact .excused hexc
    · have := hk.le
      rw [if_neg hfull, if_neg (by omega)]
      exact .ok rfl
  · split
    · split
      · exact .error (h nofun)
      · split
        · exact .ok rfl
        · exact .error (h nofun)
    · exact .ok rfl

/-- What a lexeme leaves: tokens that match, and alike states. -/
def AlikeSteps (c : TokenLikeness) (r r' : List Token × Layout) : Prop :=
  List.Forall₂ c.token r.1 r'.1 ∧ Alike r.2 r'.2

section

variable {mode : LayoutMode} {k k' base base' : Nat} {a b : Layout}

theorem content_alike (hk : Limits c k k') (hab : Alike a b) {kind : TokenKind}
    {text text' : List Char} {span span' : Span}
    (h : c.token ⟨kind, String.ofList text, span⟩ ⟨kind, String.ofList text', span'⟩)
    (hspot : Spot c span.start span'.start)
    (herror : ∀ {cause : Cause}, cause ≠ .openQuote → c.error ⟨cause, span⟩ ⟨cause, span'⟩) :
    c.Results (AlikeSteps c) (content ⟨mode, k, base⟩ a kind text span)
      (content ⟨mode, k', base'⟩ b kind text' span') := by
  have hmarks : c.Results (fun r r' => List.Forall₂ c.token r.1 r'.1 ∧ r.2 = r'.2)
      (lineMarks ⟨mode, k, base⟩ a ⟨span.start, span.start⟩)
      (lineMarks ⟨mode, k', base'⟩ b ⟨span'.start, span'.start⟩) := by
    obtain ⟨offset, width, hwidth, rfl⟩ := hab
    unfold lineMarks
    dsimp only
    split
    · next hstart =>
      rw [← hwidth hstart.1]
      exact indentTo_alike hspot
    · exact .ok ⟨.nil, rfl⟩
  have hbrackets : c.Results Eq
      (bracketsAfter ⟨mode, k, base⟩ a kind (String.ofList text) span)
      (bracketsAfter ⟨mode, k', base'⟩ b kind (String.ofList text') span') := by
    obtain ⟨offset, width, -, rfl⟩ := hab
    unfold bracketsAfter
    dsimp only
    split
    · next hop =>
      rw [show String.ofList text' = String.ofList text from
        (text_eq h (by rw [hop]; exact nofun) (by rw [hop]; exact nofun)).symm]
      exact trackBracket_alike hk _ _ herror
    · exact .ok rfl
  obtain ⟨offset, width, -, rfl⟩ := hab
  refine hmarks.bind fun r r' hr => hbrackets.bind fun brackets brackets' hbr => .ok ⟨?_, ?_⟩
  · exact List.rel_append hr.1 (.cons h .nil)
  · exact ⟨offset, width, fun hstart => (by cases hstart), by rw [← hr.2, hbr]⟩

theorem feed_alike (hk : Limits c k k') (hab : Alike a b) {l l' : Lexeme} {span span' : Span}
    (h : Fed c l l' span span') :
    c.Results (AlikeSteps c) (feed ⟨mode, k, base⟩ a l span)
      (feed ⟨mode, k', base'⟩ b l' span') := by
  have herror : ∀ {cause : Cause}, cause ≠ .openQuote → c.error ⟨cause, span⟩ ⟨cause, span'⟩ :=
    fun hc => h.error fun hopen => absurd hopen hc
  unfold feed
  rw [← h.kind]
  cases hkind : l.kind with
  | name => exact content_alike hk hab (h.content (by rw [hkind]; rfl)) h.spot herror
  | number => exact content_alike hk hab (h.content (by rw [hkind]; rfl)) h.spot herror
  | string => exact content_alike hk hab (h.content (by rw [hkind]; rfl)) h.spot herror
  | op => exact content_alike hk hab (h.content (by rw [hkind]; rfl)) h.spot herror
  | blank =>
    obtain ⟨offset, width, hwidth, rfl⟩ := hab
    exact .ok ⟨.nil, offset, _, fun hstart => by rw [h.width (.inl hkind), hwidth hstart], rfl⟩
  | comment =>
    obtain ⟨offset, width, hwidth, rfl⟩ := hab
    exact .ok ⟨.nil, offset, _, fun hstart => by rw [h.width (.inr (.inl hkind)), hwidth hstart], rfl⟩
  | continuation =>
    obtain ⟨offset, width, hwidth, rfl⟩ := hab
    exact .ok ⟨.nil, offset, _, fun hstart => by rw [h.width (.inr (.inr hkind)), hwidth hstart], rfl⟩
  | openQuote =>
    rw [← h.refused (.inl hkind)]
    exact .error (h.error fun _ => hkind)
  | stray =>
    rw [← h.refused (.inr hkind)]
    refine .error (herror ?_)
    unfold strayCause
    dsimp only
    split <;> exact nofun
  | lineBreak =>
    obtain ⟨offset, width, hwidth, rfl⟩ := hab
    dsimp only
    split
    · exact .ok ⟨.nil, offset, width, hwidth, rfl⟩
    · split
      · exact .ok ⟨.nil, offset, 0, fun _ => rfl, rfl⟩
      · exact .ok ⟨.cons (h.newline hkind) .nil, offset, 0, fun _ => rfl, rfl⟩

/-! ## Runs -/

/-- Lexemes from two offsets on that are fed to the layout alike, up to the offsets at their
ends. -/
inductive AllFed (c : TokenLikeness) : Nat → Nat → List Lexeme → List Lexeme → Prop where
  | nil {x y} : AllFed c x y [] []
  | cons {x y l l' ls ls'} :
      Fed c l l' ⟨x, x + byteLength l.text⟩ ⟨y, y + byteLength l'.text⟩ →
      AllFed c (x + byteLength l.text) (y + byteLength l'.text) ls ls' →
      AllFed c x y (l :: ls) (l' :: ls')

theorem step_alike (hk : Limits c k k') (hab : Alike a b) {l l' : Lexeme}
    (h : Fed c l l' ⟨base + a.offset, base + a.offset + byteLength l.text⟩
      ⟨base' + b.offset, base' + b.offset + byteLength l'.text⟩) :
    c.Results (fun r r' => AlikeSteps c r r' ∧ r.2.offset = a.offset + byteLength l.text ∧
        r'.2.offset = b.offset + byteLength l'.text)
      (step ⟨mode, k, base⟩ a l) (step ⟨mode, k', base'⟩ b l') := by
  unfold step
  rw [Nat.add_assoc, Nat.add_assoc] at h
  refine (feed_alike hk hab h).bind fun r r' hr => .ok ⟨⟨hr.1, ?_⟩, rfl, rfl⟩
  obtain ⟨offset, width, hwidth, hr⟩ := hr.2
  exact ⟨b.offset + byteLength l'.text, width, hwidth, by rw [hr]⟩

theorem steps_alike (hk : Limits c k k') (hab : Alike a b) {ls ls' : List Lexeme}
    (h : AllFed c (base + a.offset) (base' + b.offset) ls ls') :
    c.Results
      (fun r r' => AlikeSteps c r r' ∧
        r.2.offset = a.offset + byteLength (ls.map Lexeme.text).flatten ∧
        r'.2.offset = b.offset + byteLength (ls'.map Lexeme.text).flatten)
      (steps ⟨mode, k, base⟩ a ls) (steps ⟨mode, k', base'⟩ b ls') := by
  induction ls generalizing a b ls' with
  | nil =>
    cases h
    exact .ok ⟨⟨.nil, hab⟩, rfl, rfl⟩
  | cons l ls ih =>
    cases h with
    | @cons _ _ _ l' _ ls' hl hls =>
      refine (step_alike hk hab hl).bind fun r r' hr => ?_
      obtain ⟨⟨htokens, halike⟩, hoffset, hoffset'⟩ := hr
      rw [Nat.add_assoc, Nat.add_assoc, ← hoffset, ← hoffset'] at hls
      refine (ih halike hls).bind fun q q' hq => .ok ⟨⟨?_, hq.1.2⟩, ?_, ?_⟩
      · exact List.rel_append htokens hq.1.1
      · rw [List.map_cons, List.flatten_cons, byteLength_append, ← Nat.add_assoc, ← hoffset]
        exact hq.2.1
      · rw [List.map_cons, List.flatten_cons, byteLength_append, ← Nat.add_assoc, ← hoffset']
        exact hq.2.2

theorem finish_alike (hab : Alike a b) (h : Spot c (base + a.offset) (base' + b.offset)) :
    c.Results (List.Forall₂ c.token) (finish ⟨mode, k, base⟩ a) (finish ⟨mode, k', base'⟩ b) := by
  obtain ⟨offset, width, -, rfl⟩ := hab
  unfold finish
  dsimp only
  split
  · exact .error (h.error nofun)
  · refine .ok (List.rel_append ?_ (.cons (h.mark nofun) .nil))
    cases mode with
    | embedded => exact .nil
    | file =>
      refine List.rel_append ?_ (forall₂_replicate ?_ _)
      · split
        · exact .nil
        · exact .cons (h.mark nofun) .nil
      · exact h.mark nofun

end

/-- A run over some lexemes and then others. -/
theorem run_append_eq (cfg : LayoutConfig) (a : Layout) (pre post : List Lexeme) :
    run cfg a (pre ++ post) =
      steps cfg a pre >>= fun r => (run cfg r.2 post).map (r.1 ++ ·) := by
  induction pre generalizing a with
  | nil =>
    show run cfg a post = (run cfg a post).map ([] ++ ·)
    cases run cfg a post <;> rfl
  | cons l pre ih =>
    rw [List.cons_append, steps]
    cases hstep : step cfg a l with
    | error =>
      rw [run, hstep]
      rfl
    | ok r =>
      rw [run_cons_eq hstep, ih]
      show _ = ((steps cfg r.2 pre >>= fun q => .ok (r.1 ++ q.1, q.2)) >>= _)
      cases steps cfg r.2 pre with
      | error => rfl
      | ok q =>
        show ((run cfg q.2 post).map (q.1 ++ ·) >>= fun rest => .ok (r.1 ++ rest)) =
          (run cfg q.2 post).map (r.1 ++ q.1 ++ ·)
        cases run cfg q.2 post with
        | error => rfl
        | ok rest =>
          show Except.ok (r.1 ++ (q.1 ++ rest)) = Except.ok (r.1 ++ q.1 ++ rest)
          rw [List.append_assoc]

/-- The tokens of lexemes that are fed alike, if their ends match too. -/
theorem run_alike {mode : LayoutMode} {k k' base base' : Nat} {a b : Layout} (hk : Limits c k k')
    (hab : Alike a b) {ls ls' : List Lexeme}
    (h : AllFed c (base + a.offset) (base' + b.offset) ls ls')
    (hend : Spot c (base + (a.offset + byteLength (ls.map Lexeme.text).flatten))
      (base' + (b.offset + byteLength (ls'.map Lexeme.text).flatten))) :
    c.Results (List.Forall₂ c.token) (run ⟨mode, k, base⟩ a ls) (run ⟨mode, k', base'⟩ b ls') := by
  rw [← List.append_nil ls, ← List.append_nil ls', run_append_eq, run_append_eq]
  refine (steps_alike hk hab h).bind fun r r' hr => ?_
  obtain ⟨⟨htokens, halike⟩, hoffset, hoffset'⟩ := hr
  rw [← hoffset, ← hoffset'] at hend
  exact (finish_alike halike hend).map fun _ _ hq => List.rel_append htokens hq

end PythonSyntax.Layout
