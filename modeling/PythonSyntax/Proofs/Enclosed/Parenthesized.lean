import PythonSyntax.Proofs.Enclosed.Program
import PythonSyntax.Proofs.Lexeme.Filler

/-
The tokens of an expression inside a program are those of its text in parentheses.

An embedded expression is read without layout, and in parentheses a program has none either; the two
runs skip it by different means, so they are followed side by side, step by step.  A parenthesis in
front of the text moves all places by one byte, and a limit that is higher by one leaves room for it.
The parenthesis behind the text changes none of the pieces before it, unless the last one is a comment,
which would take the parenthesis with it.
-/

namespace PythonSyntax

variable {limit base d : Nat} {text : List Char}

/-! ## The pieces before a closing parenthesis -/

namespace Lexeme

variable {x s : List Char} {kind : LexemeKind} {n : Nat}

theorem lineBreak_before (h : lineBreak x = some n) (r : List Char) :
    lineBreak (x ++ ')' :: r) = some n := by
  unfold lineBreak at h
  split at h
  · exact h
  · exact h
  · next rest hpair =>
    cases h
    cases rest with
    | nil => rfl
    | cons e rest => exact lineBreak_carriageReturn (fun he => hpair rest (by rw [he])) _
  · cases h

theorem continuation_before (h : continuation x = some n) (r : List Char) :
    continuation (x ++ ')' :: r) = some n := by
  cases x with
  | nil => cases h
  | cons c x =>
    by_cases hc : c = '\\'
    · subst hc
      rw [continuation_cons] at h
      obtain ⟨k, hk, rfl⟩ := Option.map_eq_some_iff.mp h
      rw [List.cons_append, continuation_cons, lineBreak_before hk]
      rfl
    · rw [continuation_other hc] at h
      cases h

theorem front?_of_continuation (h : continuation s = some n) :
    front? s = some (.continuation, n) := by
  simp only [front?, kinds, List.findSome?_cons, h, Option.map_some]

/-- Before a parenthesis the last piece of a text is what it is at the end, if it is no comment. -/
theorem front?_last {l : Lexeme} (h : lexemes x = [l])
    (hl : l.kind ≠ .openQuote ∧ l.kind ≠ .stray ∧ l.kind ≠ .comment) (r : List Char) :
    front? (x ++ ')' :: r) = some (l.kind, x.length) := by
  have hparen : ')' ∈ seals := by decide
  have hfront := front?_of_singleton h
  cases hkind : l.kind with
  | lineBreak =>
    rw [hkind] at hfront
    exact front?_of_lineBreak (lineBreak_before (lineBreak_of_front? hfront) r)
  | continuation =>
    obtain ⟨m, hm, -⟩ := measured_kind h hkind (m := continuation) fun m hm => by
      simpa [kinds] using hm
    have hfront' := front?_of_continuation hm
    rw [hfront, Option.some.injEq, Prod.mk.injEq] at hfront'
    rw [hfront'.2]
    exact front?_of_continuation (continuation_before hm r)
  | blank =>
    obtain ⟨m, hm, -⟩ := measured_kind h hkind (m := blank) fun m hm => by simpa [kinds] using hm
    obtain ⟨c, x, rfl⟩ : ∃ c x', x = c :: x' := by
      cases x with
      | nil => cases hm
      | cons c x => exact ⟨c, x, rfl⟩
    have hc : isBlank c = true := by
      by_contra hc
      have hnone : blank (c :: x) = none := by
        show run isBlank (c :: x) = none
        rw [run, List.takeWhile_cons_of_neg hc]
        rfl
      rw [hnone] at hm
      cases hm
    have hlast := front?_blank hc x
    rw [hfront, Option.some.injEq, Prod.mk.injEq] at hlast
    rw [List.cons_append, front?_blank hc, takeWhile_sealed (by decide), ← hlast.2]
  | comment => exact absurd hkind hl.2.2
  | openQuote => exact absurd hkind hl.1
  | stray => exact absurd hkind hl.2.1
  | string => exact hkind ▸ front?_sealed hparen hfront ⟨hl.1, hl.2.1⟩ (.inr (by rw [hkind]; rfl)) r
  | number => exact hkind ▸ front?_sealed hparen hfront ⟨hl.1, hl.2.1⟩ (.inr (by rw [hkind]; rfl)) r
  | name => exact hkind ▸ front?_sealed hparen hfront ⟨hl.1, hl.2.1⟩ (.inr (by rw [hkind]; rfl)) r
  | op => exact hkind ▸ front?_sealed hparen hfront ⟨hl.1, hl.2.1⟩ (.inr (by rw [hkind]; rfl)) r

/-- A text keeps its pieces before a parenthesis, if the last of them is no comment. -/
theorem lexemes_before (hls : ∀ l ∈ lexemes x, l.kind ≠ .openQuote ∧ l.kind ≠ .stray)
    (hlast : ∀ l ∈ (lexemes x).getLast?, l.kind ≠ .comment) (r : List Char) :
    lexemes (x ++ ')' :: r) = lexemes x ++ lexemes (')' :: r) :=
  lexemes_append_seal (by decide) hls r fun l hl _ hy =>
    have hknown := hls l (List.mem_of_getLast? hl)
    front?_last hy ⟨hknown.1, hknown.2, hlast l hl⟩ r

theorem lexemes_inParentheses (hls : ∀ l ∈ lexemes x, l.kind ≠ .openQuote ∧ l.kind ≠ .stray)
    (hlast : ∀ l ∈ (lexemes x).getLast?, l.kind ≠ .comment) :
    lexemes (inParentheses x) = ⟨.op, ['(']⟩ :: (lexemes x ++ [⟨.op, [')']⟩]) := by
  have hfront : front? ('(' :: (x ++ [')'])) = some (.op, 1) := rfl
  have hparen : lexemes [')'] = [⟨.op, [')']⟩] := by decide +kernel
  rw [inParentheses, lexemes_of_front hfront, ← hparen]
  exact congrArg (⟨.op, ['(']⟩ :: ·) (lexemes_before hls hlast [])

end Lexeme

/-! ## Tokens that stand further on -/

/-- The token `d` bytes further on. -/
def Token.moved (d : Nat) (t : Token) : Token :=
  { t with span := ⟨d + t.span.start, d + t.span.stop⟩ }

/-- The end of a text in parentheses, which takes `n` bytes: the parenthesis and the end of the line. -/
def closingTokens (n : Nat) : List Token :=
  [⟨.op, ")", ⟨n + 1, n + 2⟩⟩, ⟨.newline, "", ⟨n + 2, n + 2⟩⟩, ⟨.endMarker, "", ⟨n + 2, n + 2⟩⟩]

namespace Layout

variable {a b a' : Layout} {l : Lexeme} {ls : List Lexeme} {tokens ts : List Token}

/-- The second state is the first one behind a parenthesis that is still open: it stands one byte
further on. -/
structure Shifted (a b : Layout) : Prop extends Surrounds a b where
  offset : b.offset = a.offset + 1

/-- A token is the same in parentheses, with one bracket more below those that are open. -/
theorem bracketsAfter_surrounded {kind : TokenKind} {op : String} {span span' : Span}
    {brackets : List String} (hab : Surrounds a b)
    (h : bracketsAfter ⟨.embedded, limit, base⟩ a kind op span = .ok brackets) :
    bracketsAfter ⟨.file, limit + 1, 0⟩ b kind op span' = .ok (brackets ++ ["("]) := by
  unfold bracketsAfter at h ⊢
  rw [hab.brackets]
  split
  · next hop =>
    rw [if_pos hop] at h
    unfold trackBracket at h ⊢
    split
    · next hopen =>
      rw [if_pos hopen] at h
      split at h
      · cases h
      · next hroom =>
        cases h
        rw [if_neg (by rw [List.length_append]; exact fun hle => hroom (Nat.le_of_succ_le_succ hle))]
        rfl
    · next hopen =>
      rw [if_neg hopen] at h
      split
      · next hclose =>
        rw [if_pos hclose] at h
        cases hbrackets : a.brackets with
        | nil =>
          rw [hbrackets] at h
          cases h
        | cons opening rest =>
          rw [hbrackets] at h
          dsimp only [List.cons_append] at h ⊢
          split at h
          · next hmatch =>
            cases h
            rw [if_pos hmatch]
          · cases h
      · next hclose =>
        rw [if_neg hclose] at h
        cases h
        rfl
  · next hop =>
    rw [if_neg hop] at h
    cases h
    rfl

/-- A step on a lexeme of an expression is taken in parentheses too, and its tokens stand at the same
places from the start of the text on. -/
theorem step_shifted (hab : Shifted a b)
    (h : step ⟨.embedded, limit, base⟩ a l = .ok (tokens, a')) :
    ∃ (inner : List Token) (b' : Layout), tokens = inner.map (Token.moved base) ∧
      step ⟨.file, limit + 1, 0⟩ b l = .ok (inner.map (Token.moved 1), b') ∧ Shifted a' b' ∧
      a'.offset = a.offset + byteLength l.text := by
  obtain ⟨⟨hbrackets, hstart, hindents⟩, hoffset⟩ := hab
  have hne : b.brackets ≠ [] := by
    rw [hbrackets]
    exact List.append_ne_nil_of_right_ne_nil _ (List.cons_ne_nil _ _)
  have hnext : b.offset + byteLength l.text = a.offset + byteLength l.text + 1 := by
    rw [hoffset, Nat.add_right_comm]
  cases step_cases h with
  | blank hl hs =>
    subst hs
    exact ⟨[], _, rfl, step_blank b hl, ⟨⟨hbrackets, hstart, hindents⟩, hnext⟩, rfl⟩
  | joined hl hjoin hs =>
    subst hs
    exact ⟨[], _, rfl, step_joined hl (.inr hne), ⟨⟨hbrackets, hstart, hindents⟩, hnext⟩, rfl⟩
  | emptyLine _ hfile => cases hfile
  | lineEnd _ hfile => cases hfile
  | content hkind =>
    obtain ⟨marks, indents, brackets, span, rfl, hmarks, hafter, heq, rfl⟩ := content_of_step hkind h
    rw [heq]
    rw [lineMarks, if_neg (by simp)] at hmarks
    cases hmarks
    have hmarks' : ∀ here, lineMarks ⟨.file, limit + 1, 0⟩ b here = .ok ([], b.indents) :=
      fun _ => if_neg (by simp [hstart])
    have hspan : (⟨1 + a.offset, 1 + (a.offset + byteLength l.text)⟩ : Span) =
        ⟨0 + b.offset, 0 + (b.offset + byteLength l.text)⟩ := by
      rw [hnext, hoffset]
      simp only [Nat.zero_add, Nat.add_comm]
    have hstep := @step_content ⟨.file, limit + 1, 0⟩ b l _ [] _ _ _ hkind hspan (hmarks' _)
      (bracketsAfter_surrounded ⟨hbrackets, hstart, hindents⟩ hafter)
    exact ⟨[⟨_, String.ofList l.text, ⟨a.offset, a.offset + byteLength l.text⟩⟩], _, rfl, hstep,
      ⟨⟨rfl, rfl, hindents⟩, hnext⟩, rfl⟩

/-- The lexemes of an expression have the same tokens behind a parenthesis, up to the one that closes
it. -/
theorem run_shifted (hab : Shifted a b) (h : run ⟨.embedded, limit, base⟩ a ls = .ok ts)
    {n : Nat} (hn : n = a.offset + byteLength (Lexeme.textOf ls)) :
    ∃ inner : List Token,
      ts = inner.map (Token.moved base) ++ [⟨.endMarker, "", ⟨base + n, base + n⟩⟩] ∧
      run ⟨.file, limit + 1, 0⟩ b (ls ++ [⟨.op, [')']⟩]) =
        .ok (inner.map (Token.moved 1) ++ closingTokens n) := by
  induction ls generalizing a b ts with
  | nil =>
    obtain rfl : n = a.offset := hn
    obtain ⟨⟨hbrackets, hstart, hindents⟩, hoffset⟩ := hab
    have hnil : a.brackets = [] := brackets_of_finish h
    rw [run, finish_embedded rfl hnil] at h
    cases h
    refine ⟨[], rfl, ?_⟩
    obtain ⟨offset, indents, brackets, atLineStart, width⟩ := b
    rw [hnil, List.nil_append] at hbrackets
    dsimp only at hbrackets hstart hindents hoffset
    subst hbrackets hstart hindents hoffset
    have hclose : step ⟨.file, limit + 1, 0⟩ ⟨a.offset + 1, [0], ["("], false, width⟩ ⟨.op, [')']⟩ =
        .ok ([⟨.op, ")", ⟨a.offset + 1, a.offset + 2⟩⟩], ⟨a.offset + 2, [0], [], false, width⟩) :=
      @step_content _ _ _ _ [] _ _ _ rfl (by simp only [Nat.zero_add]; rfl) rfl rfl
    have hfinish : run ⟨.file, limit + 1, 0⟩ ⟨a.offset + 2, [0], [], false, width⟩ [] = _ :=
      finish_onLine rfl rfl rfl rfl
    rw [show [] ++ [⟨.op, [')']⟩] = [(⟨.op, [')']⟩ : Lexeme)] from rfl, run_cons hclose hfinish]
    simp only [Nat.zero_add]
    rfl
  | cons l ls ih =>
    obtain ⟨tokens, a', rest, hstep, hrun, rfl⟩ := run_cons_inv h
    obtain ⟨first, b', rfl, hstep', hab', hoffset⟩ := step_shifted hab hstep
    have hn' : n = a'.offset + byteLength (Lexeme.textOf ls) := by
      rw [hn, Lexeme.textOf_cons, byteLength_append, hoffset, Nat.add_assoc]
    obtain ⟨inner, rfl, hrun'⟩ := ih hab' hrun hn'
    refine ⟨first ++ inner, by rw [List.map_append, List.append_assoc], ?_⟩
    rw [List.map_append, List.append_assoc]
    exact run_cons hstep' hrun'

/-- The pieces of an expression that has tokens are known ones. -/
theorem known_of_embedded (h : run ⟨.embedded, limit, base⟩ a ls = .ok ts) :
    ∀ l ∈ ls, l.kind ≠ .openQuote ∧ l.kind ≠ .stray := by
  induction ls generalizing a ts with
  | nil => exact nofun
  | cons l ls ih =>
    obtain ⟨tokens, a', rest, hstep, hrun, -⟩ := run_cons_inv h
    exact List.forall_mem_cons.mpr ⟨(gives_of_step rfl hstep).known, ih hrun⟩

end Layout

/-! ## Texts -/

/-- An expression inside a program is read as if it stood in parentheses: if it has tokens, then so
has the text in parentheses, where one bracket more may be open.  They are the same ones, only that
their places are counted from behind the parenthesis and no longer from the offset in the program. -/
theorem tokenize_parenthesized {ts : List Token} (h : tokenizeEmbedded text base limit = .ok ts)
    (hlast : ∀ l ∈ (lexemes text).getLast?, l.kind ≠ .comment) :
    ∃ (inner : List Token) (eof : Token), ts = inner.map (Token.moved base) ++ [eof] ∧
      eof = ⟨.endMarker, "", ⟨base + byteLength text, base + byteLength text⟩⟩ ∧
      tokenize (inParentheses text) (limit + 1) = .ok (⟨.op, "(", ⟨0, 1⟩⟩ ::
        (inner.map (Token.moved 1) ++ closingTokens (byteLength text))) := by
  have hknown := Layout.known_of_embedded h
  have hopen : Layout.step ⟨.file, limit + 1, 0⟩ .start ⟨.op, ['(']⟩ =
      .ok ([⟨.op, "(", ⟨0, 1⟩⟩], ⟨1, [0], ["("], false, 0⟩) :=
    @Layout.step_content _ _ _ _ [] _ _ _ rfl rfl rfl rfl
  have hshifted : Layout.Shifted .start ⟨1, [0], ["("], false, 0⟩ := ⟨⟨rfl, rfl, rfl⟩, rfl⟩
  have hend : byteLength text = 0 + byteLength (Lexeme.textOf (lexemes text)) := by
    rw [Lexeme.textOf_lexemes, Nat.zero_add]
  obtain ⟨inner, hts, hrun⟩ := Layout.run_shifted hshifted h hend
  refine ⟨inner, _, hts, rfl, ?_⟩
  rw [tokenize, Lexeme.lexemes_inParentheses hknown hlast]
  exact Layout.run_cons hopen hrun

/-- A sum that goes on in the next line, ten bytes into a program. -/
theorem tokenize_parenthesized_sum :
    ∃ ts, tokenizeEmbedded ['a', '+', '\n', 'b'] 10 0 = .ok ts ∧
      (∀ l ∈ (lexemes ['a', '+', '\n', 'b']).getLast?, l.kind ≠ .comment) ∧
      ∃ (inner : List Token) (eof : Token), ts = inner.map (Token.moved 10) ++ [eof] ∧
        eof = ⟨.endMarker, "", ⟨14, 14⟩⟩ ∧
        tokenize ['(', 'a', '+', '\n', 'b', ')'] 1 = .ok (⟨.op, "(", ⟨0, 1⟩⟩ ::
          (inner.map (Token.moved 1) ++ closingTokens 4)) := by
  obtain ⟨ts, hts, -⟩ := exists_of_any (x := tokenizeEmbedded ['a', '+', '\n', 'b'] 10 0)
    (p := fun _ => true) (by decide +kernel)
  have hlast : ∀ l ∈ (lexemes ['a', '+', '\n', 'b']).getLast?, l.kind ≠ .comment := by
    decide +kernel
  exact ⟨ts, hts, hlast, tokenize_parenthesized hts hlast⟩

end PythonSyntax
