import PythonSyntax.Proofs.Lexeme.Trim

/-
What may stand between two tokens of a line.

Blanks and hidden line breaks may always stand there, and inside brackets so may line breaks and
comments.  Such a `Filler` falls into pieces that leave no token, and the token after it is found where
it ends.  So a filler may be put between any two of the pieces that stand there already: these may join
with pieces of the filler, but no token changes.
-/

namespace PythonSyntax

/-- Whether the pieces of a kind may stand between two tokens of a line, which are `inside` brackets or
not. -/
def LexemeKind.Fills (inside : Prop) : LexemeKind → Prop
  | blank | continuation => True
  | lineBreak | comment => inside
  | string | openQuote | number | name | op | stray => False

namespace Lexeme

variable {inside : Prop} {g r s w z : List Char}

/-- Whether a character is a space, a tab or a form feed. -/
def isBlank (c : Char) : Bool := c == ' ' || c == '\t' || c == '\x0c'

theorem isBlank_iff {c : Char} : isBlank c = true ↔ c ∈ [' ', '\t', '\x0c'] := by
  simp [isBlank, or_assoc]

/-- A text that begins with a line break. -/
def BeginsBreak (s : List Char) : Prop := ∃ c r, s = c :: r ∧ ¬ InLine c

/-- The spellings of a line break. -/
def lineBreaks : List (List Char) := [['\n'], ['\r'], ['\r', '\n']]

/-- A text that may stand between two tokens of a line, which are `inside` brackets or not. -/
inductive Filler (inside : Prop) : List Char → Prop where
  | nil : Filler inside []
  | blank {c r} : isBlank c = true → Filler inside r → Filler inside (c :: r)
  | joined {b r} : b ∈ lineBreaks → Filler inside r → Filler inside ('\\' :: (b ++ r))
  | lineBreak {b r} : inside → b ∈ lineBreaks → Filler inside r → Filler inside (b ++ r)
  | comment {text r} : inside → (∀ c ∈ text, InLine c) → BeginsBreak r → Filler inside r →
      Filler inside ('#' :: (text ++ r))

theorem beginsBreak_of_mem (hb : g ∈ lineBreaks) (r : List Char) : BeginsBreak (g ++ r) := by
  simp only [lineBreaks, List.mem_cons, List.not_mem_nil, or_false] at hb
  rcases hb with rfl | rfl | rfl
  all_goals exact ⟨_, _, rfl, by unfold InLine; decide⟩

theorem BeginsBreak.append (h : BeginsBreak g) (r : List Char) : BeginsBreak (g ++ r) := by
  obtain ⟨c, s, rfl, hc⟩ := h
  exact ⟨c, s ++ r, rfl, hc⟩

namespace Filler

theorem append (hg : Filler inside g) (hr : Filler inside r) : Filler inside (g ++ r) := by
  induction hg with
  | nil => exact hr
  | blank hc _ ih => exact .blank hc ih
  | joined hb _ ih =>
    rw [List.cons_append, List.append_assoc]
    exact .joined hb ih
  | lineBreak hin hb _ ih =>
    rw [List.append_assoc]
    exact .lineBreak hin hb ih
  | comment hin htext hbreak _ ih =>
    rw [List.cons_append, List.append_assoc]
    exact .comment hin htext (hbreak.append _) ih

/-- A comment takes with it what is put behind it, up to the end of a line. -/
theorem comment_append (hin : inside) (hw : Filler inside w) {text : List Char}
    (htext : ∀ c ∈ text, InLine c) (hr : Filler inside r) (hbreak : BeginsBreak r) :
    Filler inside ('#' :: (text ++ (w ++ r))) := by
  have hsnoc : ∀ {text : List Char} {c : Char}, (∀ d ∈ text, InLine d) → InLine c →
      ∀ d ∈ text ++ [c], InLine d := fun htext hc =>
    List.forall_mem_append.mpr ⟨htext, List.forall_mem_singleton.mpr hc⟩
  induction hw generalizing text with
  | nil => exact .comment hin htext hbreak hr
  | @blank c w hc _ ih =>
    have hline : InLine c := by
      have hall : ∀ c ∈ [' ', '\t', '\x0c'], InLine c := by simp [InLine]
      exact hall c (isBlank_iff.mp hc)
    rw [List.cons_append, List.append_cons]
    exact ih (hsnoc htext hline)
  | @joined b w hb hw _ =>
    rw [List.cons_append, List.append_assoc, List.append_cons]
    exact .comment hin (hsnoc htext (by unfold InLine; decide)) (beginsBreak_of_mem hb _)
      (.lineBreak hin hb (hw.append hr))
  | @lineBreak b w _ hb hw _ =>
    rw [List.append_assoc]
    exact .comment hin htext (beginsBreak_of_mem hb _) (.lineBreak hin hb (hw.append hr))
  | @comment more w _ hmore hbreak' hw _ =>
    have hall : ∀ c ∈ text ++ '#' :: more, InLine c :=
      List.forall_mem_append.mpr ⟨htext, List.forall_mem_cons.mpr ⟨by unfold InLine; decide, hmore⟩⟩
    have heq : text ++ ('#' :: (more ++ w) ++ r) = (text ++ '#' :: more) ++ (w ++ r) := by simp
    rw [heq]
    exact .comment hin hall (hbreak'.append r) (hw.append hr)

/-- A filler begins with a character that seals the token before it. -/
theorem mem_seals {c : Char} (h : Filler inside (c :: g)) : c ∈ seals := by
  generalize hs : c :: g = s at h
  cases h with
  | nil => cases hs
  | blank hc =>
    obtain ⟨rfl, -⟩ := List.cons.inj hs
    have hall : ∀ c ∈ [' ', '\t', '\x0c'], c ∈ seals := by simp [seals]
    exact hall c (isBlank_iff.mp hc)
  | joined =>
    obtain ⟨rfl, -⟩ := List.cons.inj hs
    decide
  | lineBreak _ hb =>
    simp only [lineBreaks, List.mem_cons, List.not_mem_nil, or_false] at hb
    rcases hb with rfl | rfl | rfl <;>
    · obtain ⟨rfl, -⟩ := List.cons.inj hs
      decide
  | comment =>
    obtain ⟨rfl, -⟩ := List.cons.inj hs
    decide

end Filler

/-! ## The pieces of a filler -/

/-- The token after a filler, where it begins. -/
def BeginsToken (z : List Char) : Prop := ∃ l ls, lexemes z = l :: ls ∧ l.kind.isContent = true

/-- Pieces that leave no token before those of a text. -/
def FilledBefore (inside : Prop) (s z : List Char) : Prop :=
  ∃ noise, lexemes s = noise ++ lexemes z ∧ ∀ l ∈ noise, l.kind.Fills inside

theorem FilledBefore.cons {l : Lexeme} (hl : l.kind.Fills inside) (hs : lexemes g = l :: lexemes s)
    (h : FilledBefore inside s z) : FilledBefore inside g z := by
  obtain ⟨noise, hnoise, hfills⟩ := h
  exact ⟨l :: noise, by rw [hs, hnoise]; rfl, List.forall_mem_cons.mpr ⟨hl, hfills⟩⟩

/-- Pieces that join with those before them are of the filler. -/
theorem FilledBefore.drop (hz : BeginsToken z) {skipped ls : List Lexeme}
    (hs : lexemes s = skipped ++ ls) (hskipped : ∀ l ∈ skipped, l.kind.isContent = false)
    (h : FilledBefore inside s z) :
    ∃ noise, ls = noise ++ lexemes z ∧ ∀ l ∈ noise, l.kind.Fills inside := by
  obtain ⟨noise, hnoise, hfills⟩ := h
  obtain ⟨u, us, hu, hcontent⟩ := hz
  rcases List.append_eq_append_iff.mp (hs.symm.trans hnoise) with ⟨rest, rfl, hrest⟩ | ⟨rest, rfl, hrest⟩
  · exact ⟨rest, hrest, fun l hl => hfills l (List.mem_append_right _ hl)⟩
  · cases rest with
    | nil => exact ⟨[], hrest.symm, fun l hl => by cases hl⟩
    | cons v rest =>
      rw [hu] at hrest
      obtain ⟨rfl, -⟩ := List.cons.inj hrest
      have hfalse := hskipped u (List.mem_append_right _ List.mem_cons_self)
      exact nomatch hfalse.symm.trans hcontent

theorem FilledBefore.tail (hz : BeginsToken z) {l : Lexeme} {ls : List Lexeme}
    (hs : lexemes s = l :: ls) (hl : l.kind.isContent = false) (h : FilledBefore inside s z) :
    ∃ noise, ls = noise ++ lexemes z ∧ ∀ l ∈ noise, l.kind.Fills inside :=
  h.drop hz (show lexemes s = [l] ++ ls from hs) (List.forall_mem_singleton.mpr hl)

theorem lexemes_lineBreak (hb : g ∈ lineBreaks) : lexemes g = [⟨.lineBreak, g⟩] := by
  simp only [lineBreaks, List.mem_cons, List.not_mem_nil, or_false] at hb
  rcases hb with rfl | rfl | rfl <;> rfl

/-- A line break may take a line feed after it along. -/
theorem exists_lineBreak (hb : g ∈ lineBreaks) (hz : BeginsToken z) (h : FilledBefore inside s z) :
    ∃ text noise, lexemes (g ++ s) = ⟨.lineBreak, text⟩ :: (noise ++ lexemes z) ∧
      ∀ l ∈ noise, l.kind.Fills inside := by
  have hg : lexemes g = [] ++ [⟨.lineBreak, g⟩] := lexemes_lineBreak hb
  obtain ⟨text, skipped, ls, -, hskipped, hs, hlexemes⟩ :=
    lexemes_continued hg (fun l hl => by cases hl) s
  obtain ⟨noise, rfl, hfills⟩ := h.drop hz hs fun l hl => by rw [hskipped l hl]; rfl
  exact ⟨text, noise, hlexemes, hfills⟩

theorem filledBefore_lineBreak (hin : inside) (hb : g ∈ lineBreaks) (hz : BeginsToken z)
    (h : FilledBefore inside s z) : FilledBefore inside (g ++ s) z := by
  obtain ⟨text, noise, hlexemes, hfills⟩ := exists_lineBreak hb hz h
  exact ⟨⟨.lineBreak, text⟩ :: noise, hlexemes, List.forall_mem_cons.mpr ⟨hin, hfills⟩⟩

theorem filledBefore_joined (hb : g ∈ lineBreaks) (hz : BeginsToken z)
    (h : FilledBefore inside s z) : FilledBefore inside ('\\' :: (g ++ s)) z := by
  obtain ⟨text, noise, hlexemes, hfills⟩ := exists_lineBreak hb hz h
  obtain ⟨n, hfront, -, hrest⟩ := front_of_lexemes hlexemes
  have hcontinuation : continuation ('\\' :: (g ++ s)) = some (1 + n) := by
    rw [continuation_cons, lineBreak_of_front? hfront]
    rfl
  have hfront' : front? ('\\' :: (g ++ s)) = some (.continuation, 1 + n) := by
    rw [front?_eq, kindsBefore, List.findSome?_cons]
    simp only [hcontinuation, Option.map_some]
    rfl
  refine ⟨⟨.continuation, ('\\' :: (g ++ s)).take (1 + n)⟩ :: noise, ?_,
    List.forall_mem_cons.mpr ⟨trivial, hfills⟩⟩
  rw [lexemes_of_front hfront', Nat.add_comm 1 n, List.drop_succ_cons, ← hrest]
  rfl

theorem front?_comment (h : ∀ c ∈ g, InLine c) (hs : BeginsBreak s) :
    front? ('#' :: (g ++ s)) = some (.comment, g.length + 1) := by
  obtain ⟨c, r, rfl, hc⟩ := hs
  have hclass : ∀ d : Char, (d != '\n' && d != '\r') = true ↔ InLine d := fun d => by simp [InLine]
  have hstop : (c :: r).takeWhile (fun d => d != '\n' && d != '\r') = [] :=
    List.takeWhile_cons_of_neg fun hd => hc ((hclass c).mp hd)
  have htake : (g ++ c :: r).takeWhile (fun d => d != '\n' && d != '\r') = g := by
    rw [List.takeWhile_append_of_pos fun d hd => (hclass d).mpr (h d hd), hstop, List.append_nil]
  have hcomment : comment ('#' :: (g ++ c :: r)) = some (g.length + 1) := by
    rw [comment, htake]
  have hcontinuation : continuation ('#' :: (g ++ c :: r)) = none := continuation_other (by decide) _
  have hlineBreak : lineBreak ('#' :: (g ++ c :: r)) = none :=
    lineBreak_other (by unfold InLine; decide) _
  have hblank : blank ('#' :: (g ++ c :: r)) = none := rfl
  simp only [front?, kinds, List.findSome?_cons, hcontinuation, hlineBreak, hblank, hcomment,
    Option.map_none, Option.map_some]

theorem filledBefore_comment (hin : inside) (htext : ∀ c ∈ g, InLine c) (hs : BeginsBreak s)
    (h : FilledBefore inside s z) : FilledBefore inside ('#' :: (g ++ s)) z := by
  refine h.cons (l := ⟨.comment, '#' :: g⟩) hin ?_
  rw [lexemes_of_front (front?_comment htext hs), List.take_succ_cons, List.take_left,
    List.drop_succ_cons, List.drop_left]

theorem front?_blank {c : Char} (hc : isBlank c = true) (s : List Char) :
    front? (c :: s) = some (.blank, (s.takeWhile isBlank).length + 1) := by
  have hrun : run isBlank (c :: s) = some ((s.takeWhile isBlank).length + 1) := by
    rw [run, List.takeWhile_cons_of_pos hc]
    rfl
  have hblank : blank (c :: s) = some ((s.takeWhile isBlank).length + 1) := hrun
  have hline : ∀ d ∈ [' ', '\t', '\x0c'], d ≠ '\\' ∧ InLine d := by simp [InLine]
  obtain ⟨hbackslash, hinline⟩ := hline c (isBlank_iff.mp hc)
  have hcontinuation : continuation (c :: s) = none := continuation_other hbackslash _
  have hlineBreak : lineBreak (c :: s) = none := lineBreak_other hinline _
  simp only [front?, kinds, List.findSome?_cons, hcontinuation, hlineBreak, hblank,
    Option.map_none, Option.map_some]

theorem filledBefore_blank {c : Char} (hc : isBlank c = true) (hz : BeginsToken z)
    (h : FilledBefore inside s z) : FilledBefore inside (c :: s) z := by
  have hlexemes := lexemes_of_front (front?_blank hc s)
  rw [List.take_succ_cons, List.drop_succ_cons] at hlexemes
  cases hlength : (s.takeWhile isBlank).length with
  | zero =>
    rw [hlength] at hlexemes
    exact h.cons (l := ⟨.blank, [c]⟩) trivial hlexemes
  | succ n =>
    -- the blanks at the front of the filler are one piece with this one
    obtain ⟨d, s, rfl, hd⟩ : ∃ d s', s = d :: s' ∧ isBlank d = true := by
      cases s with
      | nil => cases hlength
      | cons d s =>
        refine ⟨d, s, rfl, ?_⟩
        by_contra hd
        rw [List.takeWhile_cons_of_neg hd] at hlength
        cases hlength
    rw [List.takeWhile_cons_of_pos hd, List.length_cons] at hlexemes
    have hs := lexemes_of_front (front?_blank hd s)
    obtain ⟨noise, hrest, hfills⟩ := h.tail hz hs rfl
    exact ⟨_ :: noise, hlexemes.trans (congrArg _ hrest),
      List.forall_mem_cons.mpr ⟨trivial, hfills⟩⟩

/-- A filler falls into pieces that leave no token, and what follows it into its own. -/
theorem Filler.filledBefore (h : Filler inside g) (hz : BeginsToken z) :
    FilledBefore inside (g ++ z) z := by
  induction h with
  | nil => exact ⟨[], rfl, fun l hl => by cases hl⟩
  | blank hc _ ih => exact filledBefore_blank hc hz ih
  | joined hb _ ih =>
    rw [List.cons_append, List.append_assoc]
    exact filledBefore_joined hb hz ih
  | lineBreak hin hb _ ih =>
    rw [List.append_assoc]
    exact filledBefore_lineBreak hin hb hz ih
  | comment hin htext hbreak _ ih =>
    rw [List.cons_append, List.append_assoc]
    exact filledBefore_comment hin htext (hbreak.append z) ih

/-! ## Blanks before a text -/

/-- A text whose first piece is no blank begins with none. -/
theorem isBlank_head? (h : ∀ l ∈ (lexemes s).head?, l.kind ≠ .blank) :
    ∀ c ∈ s.head?, isBlank c = false := by
  intro c hc
  cases s with
  | nil => cases hc
  | cons d r =>
    cases hc
    rw [← Bool.not_eq_true]
    intro hblank
    rw [lexemes_of_front (front?_blank hblank r)] at h
    exact h _ rfl rfl

/-- The pieces of the blanks before a text. -/
def marginPieces (margin : List Char) : List Lexeme := if margin = [] then [] else [⟨.blank, margin⟩]

theorem lexemes_margin (hg : ∀ c ∈ g, isBlank c = true) (hs : ∀ c ∈ s.head?, isBlank c = false) :
    lexemes (g ++ s) = marginPieces g ++ lexemes s := by
  cases g with
  | nil => rfl
  | cons c g =>
    rw [List.forall_mem_cons] at hg
    have hrun : (g ++ s).takeWhile isBlank = g := by
      have hstop : s.takeWhile isBlank = [] := by
        cases s with
        | nil => rfl
        | cons d s => exact List.takeWhile_cons_of_neg (by simp [hs d rfl])
      rw [List.takeWhile_append_of_pos hg.2, hstop, List.append_nil]
    rw [List.cons_append, lexemes_of_front (front?_blank hg.1 _), hrun]
    simp [marginPieces]

theorem kind_of_marginPieces : ∀ l ∈ marginPieces g, l.kind = .blank := by
  unfold marginPieces
  split
  · nofun
  · exact List.forall_mem_singleton.mpr rfl

/-! ## Fillers that stand in a text -/

/-- The text of pieces. -/
def textOf (ls : List Lexeme) : List Char := (ls.map Lexeme.text).flatten

@[simp] theorem textOf_nil : textOf [] = [] := rfl

@[simp] theorem textOf_cons (l : Lexeme) (ls : List Lexeme) : textOf (l :: ls) = l.text ++ textOf ls :=
  rfl

@[simp] theorem textOf_append (ls ls' : List Lexeme) : textOf (ls ++ ls') = textOf ls ++ textOf ls' := by
  rw [textOf, List.map_append, List.flatten_append, textOf, textOf]

theorem textOf_marginPieces (g : List Char) : textOf (marginPieces g) = g := by
  unfold marginPieces
  split
  · next hnil => exact hnil.symm
  · exact List.append_nil g

theorem Filler.blanks (h : ∀ c ∈ g, isBlank c = true) (hr : Filler inside r) :
    Filler inside (g ++ r) := by
  induction g with
  | nil => exact hr
  | cons c g ih =>
    rw [List.forall_mem_cons] at h
    exact .blank h.1 (ih h.2)

theorem lineBreaks_of_lineBreak {n : Nat} (h : lineBreak s = some n) : s.take n ∈ lineBreaks := by
  rcases lineBreak_text h with h | h | h <;> rw [h] <;> decide

theorem comment_eq_some {n : Nat} (h : comment s = some n) :
    ∃ r, s = '#' :: r ∧ s.take n = '#' :: r.takeWhile (fun c => c != '\n' && c != '\r') ∧
      s.drop n = r.dropWhile fun c => c != '\n' && c != '\r' := by
  unfold comment at h
  split at h
  · next r =>
    cases h
    refine ⟨r, rfl, ?_, ?_⟩
    · rw [List.take_succ_cons, ← List.prefix_iff_eq_take.mp (List.takeWhile_prefix _)]
    · rw [List.drop_succ_cons]
      have hdrop := @List.drop_left _ (r.takeWhile fun c => c != '\n' && c != '\r')
        (r.dropWhile fun c => c != '\n' && c != '\r')
      rwa [List.takeWhile_append_dropWhile] at hdrop
  · cases h

/-- The text of a comment. -/
theorem text_of_comment {l : Lexeme} {ls : List Lexeme} (h : lexemes s = l :: ls)
    (hl : l.kind = .comment) : ∃ text, l.text = '#' :: text ∧ ∀ c ∈ text, InLine c := by
  obtain ⟨n, hn, htext⟩ := measured_kind h hl (m := comment) fun m hm => by simpa [kinds] using hm
  obtain ⟨r, -, htake, -⟩ := comment_eq_some hn
  exact ⟨_, htext.trans htake, fun c hc =>
    inLine_of_class (by decide) (by decide) c (List.mem_takeWhile_imp hc)⟩

theorem lineBreak_ne_none {c : Char} (hc : ¬ InLine c) (r : List Char) : lineBreak (c :: r) ≠ none := by
  obtain rfl | rfl : c = '\n' ∨ c = '\r' := by
    unfold InLine at hc
    tauto
  · exact Option.some_ne_none 1
  · cases r with
    | nil => exact Option.some_ne_none 1
    | cons d r =>
      by_cases hd : d = '\n'
      · rw [hd]
        exact Option.some_ne_none 2
      · rw [lineBreak_carriageReturn hd]
        exact Option.some_ne_none 1

/-- A piece that leaves no token goes on a filler; behind a comment a line break must stand. -/
theorem Filler.cons {l : Lexeme} {ls : List Lexeme} (h : lexemes s = l :: ls)
    (hl : l.kind.Fills inside) (hr : Filler inside r) (hbreak : l.kind = .comment → BeginsBreak r) :
    Filler inside (l.text ++ r) := by
  obtain ⟨m, n, hm, hn, htext, -⟩ := measured h
  rw [htext]
  obtain ⟨kind, text⟩ := l
  dsimp only at hm hl hbreak
  simp only [kinds, List.mem_cons, Prod.mk.injEq, List.not_mem_nil, or_false] at hm
  rcases hm with ⟨rfl, rfl⟩ | ⟨rfl, rfl⟩ | ⟨rfl, rfl⟩ | ⟨rfl, rfl⟩ | ⟨rfl, rfl⟩ | ⟨rfl, rfl⟩ |
    ⟨rfl, rfl⟩ | ⟨rfl, rfl⟩ | ⟨rfl, rfl⟩ | ⟨rfl, rfl⟩
  · cases s with
    | nil => cases hn
    | cons c s =>
      obtain rfl : c = '\\' := by
        by_contra hc
        rw [continuation_other hc] at hn
        cases hn
      rw [continuation_cons] at hn
      obtain ⟨k, hk, rfl⟩ := Option.map_eq_some_iff.mp hn
      rw [Nat.add_comm 1 k, List.take_succ_cons]
      exact .joined (lineBreaks_of_lineBreak hk) hr
  · exact .lineBreak hl (lineBreaks_of_lineBreak hn) hr
  · exact hr.blanks (within_run (fun _ => id) s n hn)
  · obtain ⟨text, heq, hline⟩ := text_of_comment h rfl
    rw [← htext, heq]
    exact .comment hl hline (hbreak rfl) hr
  all_goals exact hl.elim

/-- A comment goes on to the end of its line. -/
theorem kind_after_comment {l l' : Lexeme} {ls : List Lexeme} (h : lexemes s = l :: l' :: ls)
    (hl : l.kind = .comment) : l'.kind = .lineBreak := by
  obtain ⟨m, k, hm, hk, -, hrest⟩ := measured h
  obtain rfl : m = comment := by simpa [kinds, hl] using hm
  obtain ⟨r, rfl, -, hdrop⟩ := comment_eq_some hk
  rw [hdrop] at hrest
  have hne : r.dropWhile (fun c => c != '\n' && c != '\r') ≠ [] := by
    intro hnil
    rw [hnil] at hrest
    cases hrest
  obtain ⟨c, r', hr'⟩ := List.exists_cons_of_ne_nil hne
  have hc : ¬ InLine c := by
    intro hc
    have hhead := List.head_dropWhile_not (fun c => c != '\n' && c != '\r') hne
    simp only [hr', List.head_cons] at hhead
    rw [Bool.and_eq_false_iff, bne_eq_false_iff_eq, bne_eq_false_iff_eq] at hhead
    rcases hhead with hhead | hhead
    · exact hc.1 hhead
    · exact hc.2 hhead
  rw [hr'] at hrest
  obtain ⟨j, hj⟩ := Option.ne_none_iff_exists'.mp (lineBreak_ne_none hc r')
  rw [lexemes_of_front (front?_of_lineBreak hj)] at hrest
  rw [(List.cons.inj hrest).1]

/-- So there is a line break where the text goes on after a comment. -/
theorem beginsBreak_after_comment {l l' : Lexeme} {ls : List Lexeme}
    (h : lexemes s = l :: l' :: ls) (hl : l.kind = .comment) (r : List Char) :
    BeginsBreak (l'.text ++ r) := by
  have hmem : l' ∈ lexemes s := by
    rw [h]
    exact List.mem_cons_of_mem l List.mem_cons_self
  refine beginsBreak_of_mem ?_ r
  rcases text_of_lineBreak hmem (kind_after_comment h hl) with htext | htext | htext <;>
    rw [htext] <;> decide

/-- The text between two tokens of a line is a filler. -/
theorem filler_gap {gap post : List Lexeme} {u : Lexeme} (h : lexemes s = gap ++ u :: post)
    (hu : u.kind.isContent = true) (hgap : ∀ l ∈ gap, l.kind.Fills inside) :
    Filler inside (textOf gap) := by
  induction gap generalizing s with
  | nil => exact .nil
  | cons l gap ih =>
    rw [List.forall_mem_cons] at hgap
    obtain ⟨n, -, -, hrest⟩ := front_of_lexemes h
    refine Filler.cons h hgap.1 (ih hrest.symm hgap.2) fun hl => ?_
    cases gap with
    | nil =>
      have hkind := kind_after_comment h hl
      rw [hkind] at hu
      cases hu
    | cons l' gap => exact beginsBreak_after_comment h hl _

/-- So it is with another filler put between two of its pieces. -/
theorem filler_insert {gap gap' post : List Lexeme} {u : Lexeme}
    (h : lexemes s = gap ++ (gap' ++ u :: post)) (hu : u.kind.isContent = true)
    (hgap : ∀ l ∈ gap, l.kind.Fills inside) (hgap' : ∀ l ∈ gap', l.kind.Fills inside)
    (hw : Filler inside w) : Filler inside (textOf gap ++ (w ++ textOf gap')) := by
  induction gap generalizing s with
  | nil => exact hw.append (filler_gap h hu hgap')
  | cons l gap ih =>
    rw [List.forall_mem_cons] at hgap
    obtain ⟨n, -, -, hrest⟩ := front_of_lexemes h
    have hfiller := ih hrest.symm hgap.2
    rw [textOf_cons, List.append_assoc]
    cases gap with
    | cons l' gap =>
      refine Filler.cons h hgap.1 hfiller fun hl => ?_
      rw [textOf_cons, List.append_assoc]
      exact beginsBreak_after_comment h hl _
    | nil =>
      -- the filler stands right behind the piece, which may be a comment that takes it along
      by_cases hl : l.kind = .comment
      · obtain ⟨text, htext, hline⟩ := text_of_comment h hl
        have hin : inside := by
          have hfills := hgap.1
          rwa [hl] at hfills
        obtain ⟨l', gap', rfl⟩ : ∃ l' rest, gap' = l' :: rest := by
          cases gap' with
          | nil =>
            rw [kind_after_comment h hl] at hu
            cases hu
          | cons l' gap' => exact ⟨l', gap', rfl⟩
        rw [htext]
        exact Filler.comment_append hin hw hline (filler_gap hrest.symm hu hgap')
          (beginsBreak_after_comment h hl _)
      · exact Filler.cons h hgap.1 hfiller fun h => absurd h hl

theorem textOf_lexemes (s : List Char) : textOf (lexemes s) = s := flatten_lexemes s

/-- The first pieces of a text are the pieces of their text. -/
theorem lexemes_of_prefix {pre post : List Lexeme} (h : lexemes s = pre ++ post)
    (hpre : ∀ l ∈ pre, l.kind ≠ .openQuote) : lexemes (textOf pre) = pre := by
  have htext : lexemes (textOf pre ++ textOf post) = pre ++ post := by
    rw [← textOf_append, ← h, textOf_lexemes]
  exact lexemes_trimmed htext rfl hpre

/-- A text whose last piece is a token keeps its pieces before a filler, and so does what begins with a
token behind it. -/
theorem lexemes_before_filler {x : List Char} {pre : List Lexeme} {t : Lexeme}
    (hx : lexemes x = pre ++ [t]) (hpre : ∀ l ∈ pre, l.kind ≠ .openQuote ∧ l.kind ≠ .stray)
    (ht : t.kind.isContent = true) {c : Char} (hg : Filler inside (c :: g)) (hz : BeginsToken z) :
    ∃ noise, (∀ l ∈ noise, l.kind.Fills inside) ∧
      lexemes (x ++ (c :: g ++ z)) = pre ++ t :: (noise ++ lexemes z) := by
  obtain ⟨noise, hnoise, hfills⟩ := hg.filledBefore hz
  refine ⟨noise, hfills, ?_⟩
  have hlast : ∀ l ∈ (lexemes x).getLast?, l.kind.isContent = true := by
    intro l hl
    rw [hx, List.getLast?_concat, Option.mem_some] at hl
    rwa [← hl]
  have hknown : ∀ l ∈ lexemes x, l.kind ≠ .openQuote ∧ l.kind ≠ .stray := by
    rw [hx]
    refine List.forall_mem_append.mpr ⟨hpre, List.forall_mem_singleton.mpr ?_⟩
    constructor <;> intro hk <;> rw [hk] at ht <;> cases ht
  rw [List.cons_append] at hnoise ⊢
  rw [lexemes_sealed hg.mem_seals hknown hlast, hx, hnoise, List.append_assoc]
  rfl

/-- A filler that is put between two tokens of a line, and between two of the pieces that stand there,
leaves the tokens as they are. -/
theorem lexemes_insert {source : List Char} {pre gap gap' post : List Lexeme} {t u : Lexeme}
    (h : lexemes source = pre ++ t :: (gap ++ (gap' ++ u :: post)))
    (hpre : ∀ l ∈ pre, l.kind ≠ .openQuote ∧ l.kind ≠ .stray) (ht : t.kind.isContent = true)
    (hu : u.kind.isContent = true) (hgap : ∀ l ∈ gap, l.kind.Fills inside)
    (hgap' : ∀ l ∈ gap', l.kind.Fills inside) (hw : Filler inside w) :
    ∃ noise, (∀ l ∈ noise, l.kind.Fills inside) ∧
      lexemes (textOf (pre ++ t :: gap) ++ (w ++ textOf (gap' ++ u :: post))) =
        pre ++ t :: (noise ++ u :: post) := by
  have hsplit : lexemes source = (pre ++ [t]) ++ (gap ++ (gap' ++ u :: post)) := by
    rw [h, List.append_assoc]
    rfl
  have hrest : lexemes (textOf (gap ++ (gap' ++ u :: post))) = gap ++ (gap' ++ u :: post) :=
    lexemes_of_append hsplit
  have hlater : lexemes (textOf (u :: post)) = u :: post := by
    rw [← List.append_assoc] at hrest
    exact lexemes_of_append hrest
  have hbefore : lexemes (textOf (pre ++ [t])) = pre ++ [t] := by
    refine lexemes_of_prefix hsplit (List.forall_mem_append.mpr ⟨fun l hl => (hpre l hl).1,
      List.forall_mem_singleton.mpr fun hk => ?_⟩)
    rw [hk] at ht
    cases ht
  have hz : BeginsToken (textOf (u :: post)) := ⟨u, post, hlater, hu⟩
  have hfiller := filler_insert hrest hu hgap hgap' hw
  have heq : textOf (pre ++ t :: gap) ++ (w ++ textOf (gap' ++ u :: post)) =
      textOf (pre ++ [t]) ++ (textOf gap ++ (w ++ textOf gap') ++ textOf (u :: post)) := by
    simp
  rw [heq]
  cases hg : textOf gap ++ (w ++ textOf gap') with
  | cons c g =>
    rw [hg] at hfiller
    obtain ⟨noise, hfills, hnoise⟩ := lexemes_before_filler hbefore hpre ht hfiller hz
    exact ⟨noise, hfills, by rw [hnoise, hlater]⟩
  | nil =>
    -- no piece is empty, and so nothing stands between the tokens and nothing is put there
    rw [List.append_eq_nil_iff, List.append_eq_nil_iff] at hg
    have hnil : ∀ ls, (∀ l ∈ ls, l ∈ lexemes source) → textOf ls = [] → ls = [] := by
      intro ls hls hempty
      cases ls with
      | nil => rfl
      | cons l ls =>
        rw [textOf_cons, List.append_eq_nil_iff] at hempty
        exact absurd hempty.1 (text_ne_nil (hls l List.mem_cons_self))
    obtain rfl := hnil gap (fun l hl => by rw [h]; simp [hl]) hg.1
    obtain rfl := hnil gap' (fun l hl => by rw [h]; simp [hl]) hg.2.2
    refine ⟨[], fun l hl => (by cases hl), ?_⟩
    rw [List.nil_append, ← textOf_append, List.append_assoc]
    have hsource := textOf_lexemes source
    rw [h] at hsource
    exact (congrArg lexemes hsource).trans h

end Lexeme

end PythonSyntax
