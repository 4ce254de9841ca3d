import PythonSyntax.Proofs.Lexeme.Split
import PythonSyntax.Proofs.LineEnding.String

/-
Lexemes under another line ending.

The lexemes of a spelled text are those of the text, spelled, up to the first string that hides a
line break; that one becomes an open quote under the ending CRLF.
-/

namespace PythonSyntax.Lexeme

variable {e : LineEnding}

/-! ## Pieces -/

/-- A measure that measures the same piece in one text under the ending `e`. -/
def FollowsAt (e : LineEnding) (m : Measure) (s : List Char) : Prop :=
  m (e.spell s) = (m s).map fun n => (e.spell (s.take n)).length

/-- The first of some measures is the first under an ending too, if all of them follow. -/
theorem findSome?_spell {s : List Char} (ms : List (LexemeKind × Measure))
    (h : ∀ km ∈ ms, FollowsAt e km.2 s) :
    (ms.findSome? fun km => (km.2 (e.spell s)).map fun n => (km.1, n)) =
      (ms.findSome? fun km => (km.2 s).map fun n => (km.1, n)).map
        fun kn => (kn.1, (e.spell (s.take kn.2)).length) := by
  induction ms with
  | nil => rfl
  | cons km ms ih =>
    rw [List.forall_mem_cons] at h
    have hm : km.2 (e.spell s) = _ := h.1
    rw [List.findSome?_cons, List.findSome?_cons, hm, ih h.2]
    cases km.2 s <;> rfl

theorem followsAt_before {s : List Char} (hs : '\r' ∉ s) :
    ∀ km ∈ kindsBefore, FollowsAt e km.2 s := by
  simp only [kindsBefore, List.forall_mem_cons, List.not_mem_nil, false_imp_iff, implies_true,
    and_true]
  exact ⟨follows_continuation s hs, follows_lineBreak s hs, follows_blank s hs, follows_comment s hs⟩

/-- Only a text that no kind before strings fits is tried further, so it begins with no line
break. -/
theorem followsAt_after {s : List Char} (hs : '\r' ∉ s) (hbefore : lineBreak s = none) :
    ∀ km ∈ kindsAfter, FollowsAt e km.2 s := by
  have hstray : FollowsAt e (one fun _ => true) s := by
    cases s with
    | nil => rfl
    | cons c r =>
      have hn : c ≠ '\n' := by
        rintro rfl
        exact nomatch hbefore
      rw [FollowsAt, e.spell_cons hn]
      simp [one, e.spell_cons hn]
  simp only [kindsAfter, List.forall_mem_cons, List.not_mem_nil, false_imp_iff, implies_true,
    and_true]
  exact ⟨follows_openQuote s hs, follows_number s hs, follows_name s hs, follows_op s hs, hstray⟩

/-- A piece under the ending CRLF, unless it is a literal that hides a line break. -/
theorem front?_crlf {s : List Char} (hs : '\r' ∉ s) {kind : LexemeKind} {n : Nat}
    (h : front? s = some (kind, n)) (hkeep : kind = .string → hidesBreak (s.take n) = false) :
    front? (LineEnding.crlf.spell s) = some (kind, (LineEnding.crlf.spell (s.take n)).length) := by
  rw [front?_eq] at h
  rw [front?_eq, findSome?_spell _ (followsAt_before hs)]
  cases hbefore : kindsBefore.findSome? fun km => (km.2 s).map fun n => (km.1, n) with
  | some kn =>
    rw [hbefore] at h
    cases h
    rfl
  | none =>
    have hline : lineBreak s = none := by
      have := List.findSome?_eq_none_iff.mp hbefore (.lineBreak, lineBreak) (by simp [kindsBefore])
      simpa using this
    rw [hbefore] at h
    rw [string_crlf s hs, findSome?_spell _ (followsAt_after hs hline)]
    cases hstring : Lexeme.string s with
    | none =>
      rw [hstring] at h
      have h : (kindsAfter.findSome? fun km => (km.2 s).map fun n => (km.1, n)) = some (kind, n) := h
      rw [h]
      rfl
    | some m =>
      rw [hstring] at h
      cases h
      rw [Option.filter_some, hkeep rfl]
      rfl

/-- Under the ending CRLF a literal that hides a line break is an open quote. -/
theorem front?_crlf_of_hidesBreak {s : List Char} (hs : '\r' ∉ s) {n : Nat}
    (h : front? s = some (.string, n)) (hhides : hidesBreak (s.take n) = true) :
    ∃ marks q, (∀ c ∈ marks, IsMark c) ∧ Quoted.isQuote q = true ∧
      front? (LineEnding.crlf.spell s) = some (.openQuote, marks.length + 1) ∧
      (LineEnding.crlf.spell s).take (marks.length + 1) = marks ++ [q] := by
  rw [front?_eq] at h
  rw [front?_eq, findSome?_spell _ (followsAt_before hs)]
  have hkinds : ∀ (ms : List (LexemeKind × Measure)) (m : Nat), (∀ km ∈ ms, km.1 ≠ .string) →
      (ms.findSome? fun km => (km.2 s).map fun n => (km.1, n)) ≠ some (.string, m) := by
    intro ms m hms hsome
    obtain ⟨km, hkm, hm⟩ := List.exists_of_findSome?_eq_some hsome
    obtain ⟨k, -, heq⟩ := Option.map_eq_some_iff.mp hm
    exact hms km hkm (congrArg Prod.fst heq)
  have hbefore : (kindsBefore.findSome? fun km => (km.2 s).map fun n => (km.1, n)) = none := by
    cases hsome : kindsBefore.findSome? fun km => (km.2 s).map fun n => (km.1, n) with
    | none => rfl
    | some kn =>
      rw [hsome] at h
      cases h
      exact absurd hsome (hkinds _ _ (by simp [kindsBefore]))
  have hline : lineBreak s = none := by
    have := List.findSome?_eq_none_iff.mp hbefore (.lineBreak, lineBreak) (by simp [kindsBefore])
    simpa using this
  have hstring : Lexeme.string s = some n := by
    rw [hbefore] at h
    cases hsome : Lexeme.string s with
    | none =>
      rw [hsome] at h
      exact absurd h (hkinds _ _ (by simp [kindsAfter]))
    | some m =>
      rw [hsome] at h
      cases h
      rfl
  obtain ⟨marks, q, r, rfl, hmarks, hquote, hopen⟩ := openQuote_of_hidesBreak hstring hhides
  have hafter : (kindsAfter.findSome? fun km =>
      (km.2 (marks ++ q :: r)).map fun n => (km.1, n)) = some (.openQuote, marks.length + 1) := by
    rw [kindsAfter, List.findSome?_cons]
    simp only [hopen, Option.map_some]
  have htake : (marks ++ q :: r).take (marks.length + 1) = marks ++ [q] := by
    rw [List.take_add, List.take_left, List.drop_left]
    rfl
  have hspell : LineEnding.crlf.spell (marks ++ [q]) = marks ++ [q] := by
    refine LineEnding.spell_eq_self fun hmem => ?_
    rcases List.mem_append.mp hmem with hmem | hmem
    · exact (inLine_of_isMark (hmarks _ hmem)).1 rfl
    · exact (inLine_of_isQuote hquote).1 (List.mem_singleton.mp hmem).symm
  refine ⟨marks, q, hmarks, hquote, ?_, ?_⟩
  · rw [hbefore, string_crlf _ hs, hstring, findSome?_spell _ (followsAt_after hs hline), hafter,
      Option.filter_some, hhides]
    simp [htake, hspell]
  · have := LineEnding.take_spell (e := .crlf) (marks.length + 1) (marks ++ q :: r)
    rw [htake, hspell] at this
    simpa using this

/-! ## Shapes -/

/-- What the text of a lexeme looks like, by its kind: only a string holds a line break beside other
characters, a hidden one apart. -/
inductive Shaped : Lexeme → Prop where
  | continuation : Shaped ⟨.continuation, ['\\', '\n']⟩
  | lineBreak : Shaped ⟨.lineBreak, ['\n']⟩
  | string {text marks q triple body} : IsLiteral text marks q triple body →
      (triple = false → '\n' ∈ body → '\\' ∈ body) → Shaped ⟨.string, text⟩
  | line {kind text} : kind ≠ .continuation → kind ≠ .lineBreak → kind ≠ .string → '\n' ∉ text →
      Shaped ⟨kind, text⟩

theorem lineBreak_eq_some {s : List Char} {n : Nat} (hs : '\r' ∉ s) (h : lineBreak s = some n) :
    ∃ r, s = '\n' :: r ∧ n = 1 := by
  unfold lineBreak at h
  split at h
  · exact absurd List.mem_cons_self hs
  · next r => exact ⟨r, rfl, (Option.some.inj h).symm⟩
  · exact absurd List.mem_cons_self hs
  · exact nomatch h

theorem continuation_eq_some {s : List Char} {n : Nat} (hs : '\r' ∉ s)
    (h : continuation s = some n) : s.take n = ['\\', '\n'] := by
  obtain ⟨i, j, hi, hj, rfl⟩ := andThen_eq_some.mp h
  cases s with
  | nil => cases hi
  | cons c r =>
    rw [one] at hi
    split at hi
    · next hc =>
      cases hi
      obtain ⟨r', hr, rfl⟩ := lineBreak_eq_some (not_mem_drop hs 1) hj
      rw [beq_iff_eq] at hc
      rw [List.drop_one, List.tail_cons] at hr
      rw [hc, hr]
      rfl
    · cases hi

theorem shaped_of_front {s : List Char} {kind : LexemeKind} {n : Nat} (hs : '\r' ∉ s)
    (h : front? s = some (kind, n)) : Shaped ⟨kind, s.take n⟩ := by
  -- a piece that stays on its line
  have hline : ∀ m : Measure, m s = some n → Within InLine m → '\n' ∉ s.take n :=
    fun m hm hin hmem => (hin s n hm _ hmem).1 rfl
  obtain ⟨km, hkm, hm⟩ := List.exists_of_findSome?_eq_some h
  obtain ⟨m, hm, heq⟩ := Option.map_eq_some_iff.mp hm
  cases heq
  simp only [kinds, List.mem_cons, List.not_mem_nil, or_false] at hkm
  rcases hkm with rfl | rfl | rfl | rfl | rfl | rfl | rfl | rfl | rfl | rfl
  · rw [continuation_eq_some hs hm]
    exact .continuation
  · obtain ⟨r, rfl, rfl⟩ := lineBreak_eq_some hs hm
    exact .lineBreak
  · exact .line (by decide) (by decide) (by decide) (hline _ hm within_blank.inLine)
  · exact .line (by decide) (by decide) (by decide) (hline _ hm within_comment)
  · obtain ⟨marks, q, triple, body, hliteral, hesc⟩ := string_shape hm
    exact .string hliteral hesc
  · exact .line (by decide) (by decide) (by decide) (hline _ hm within_openQuote)
  · exact .line (by decide) (by decide) (by decide) (hline _ hm within_number.inLine)
  · exact .line (by decide) (by decide) (by decide) (hline _ hm within_name.inLine)
  · exact .line (by decide) (by decide) (by decide) (hline _ hm within_op)
  · -- a line break would have been one
    refine .line (by decide) (by decide) (by decide) fun hmem => ?_
    cases s with
    | nil => cases hm
    | cons c r =>
      cases hm
      obtain rfl : '\n' = c := by simpa using hmem
      cases h

/-- Every lexeme has the shape of its kind. -/
theorem shaped_of_mem {s : List Char} (hs : '\r' ∉ s) : ∀ l ∈ lexemes s, Shaped l := by
  induction hlen : s.length using Nat.strongRecOn generalizing s with
  | ind k ih =>
    cases s with
    | nil => exact fun l hl => nomatch hl
    | cons c r =>
      cases hfront : front? (c :: r) with
      | none => exact absurd hfront (front_ne_none c r)
      | some kn =>
        obtain ⟨kind, n⟩ := kn
        have hn := front_pos hfront
        rw [lexemes_of_front hfront, List.forall_mem_cons]
        refine ⟨shaped_of_front hs hfront, ih _ ?_ (not_mem_drop hs n) rfl⟩
        rw [← hlen, List.length_drop, List.length_cons]
        omega

/-! ## Lexemes -/

/-- A lexeme with its line breaks written as the ending. -/
def spelled (e : LineEnding) (l : Lexeme) : Lexeme := ⟨l.kind, e.spell l.text⟩

/-- A string that hides a line break under the ending CRLF. -/
def Hides (l : Lexeme) : Prop := l.kind = .string ∧ hidesBreak l.text = true

instance : DecidablePred Hides := fun _ => inferInstanceAs (Decidable (_ ∧ _))

/-- A lexeme that stays one under an ending. -/
def Keeps (e : LineEnding) (l : Lexeme) : Prop := e = .crlf → ¬ Hides l

theorem map_spelled_lf (ls : List Lexeme) : ls.map (spelled .lf) = ls := by
  rw [List.map_congr_left (g := id) fun _ _ => by rw [spelled, LineEnding.spell_lf]; rfl,
    List.map_id]

/-- The lexemes of a text before the first that does not stay one are spelled, each by itself. -/
theorem lexemes_spell {s : List Char} (hs : '\r' ∉ s) {pre post : List Lexeme}
    (h : lexemes s = pre ++ post) (hkeep : ∀ l ∈ pre, Keeps e l) :
    lexemes (e.spell s) =
      pre.map (spelled e) ++ lexemes (e.spell (post.map Lexeme.text).flatten) := by
  cases e with
  | lf =>
    rw [map_spelled_lf, LineEnding.spell_lf, LineEnding.spell_lf, lexemes_of_append h, h]
  | crlf =>
    induction pre generalizing s with
    | nil => rw [← List.nil_append post, ← h, flatten_lexemes]; rfl
    | cons l pre ih =>
      cases s with
      | nil => exact nomatch h
      | cons c r =>
        cases hfront : front? (c :: r) with
        | none => exact absurd hfront (front_ne_none c r)
        | some kn =>
          obtain ⟨kind, n⟩ := kn
          rw [lexemes_of_front hfront] at h
          obtain ⟨rfl, hrest⟩ := List.cons.inj h
          rw [List.forall_mem_cons] at hkeep
          have hstays : kind = .string → hidesBreak ((c :: r).take n) = false := fun hk => by
            by_contra hhides
            exact hkeep.1 rfl ⟨hk, Bool.not_eq_false _ ▸ hhides⟩
          rw [lexemes_of_front (front?_crlf hs hfront hstays), LineEnding.take_spell,
            LineEnding.drop_spell, ih (not_mem_drop hs n) hrest hkeep.2]
          rfl

/-- A string that hides a line break becomes an open quote, which is not a triple one. -/
theorem lexemes_crlf_of_hides {s : List Char} (hs : '\r' ∉ s) {l : Lexeme} {post : List Lexeme}
    (h : lexemes s = l :: post) (hl : Hides l) :
    ∃ marks q rest, (∀ c ∈ marks, IsMark c) ∧ Quoted.isQuote q = true ∧
      lexemes (LineEnding.crlf.spell s) = ⟨.openQuote, marks ++ [q]⟩ :: rest := by
  cases hfront : front? s with
  | none =>
    cases s with
    | nil => exact nomatch h
    | cons c r => exact absurd hfront (front_ne_none c r)
  | some kn =>
    obtain ⟨kind, n⟩ := kn
    rw [lexemes_of_front hfront] at h
    obtain ⟨rfl, -⟩ := List.cons.inj h
    obtain ⟨hkind, hhides⟩ := hl
    cases hkind
    obtain ⟨marks, q, hmarks, hquote, hfront', htake⟩ :=
      front?_crlf_of_hidesBreak hs hfront hhides
    exact ⟨marks, q, _, hmarks, hquote, by rw [lexemes_of_front hfront', htake]⟩

end PythonSyntax.Lexeme
