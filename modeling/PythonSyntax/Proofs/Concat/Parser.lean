import PythonSyntax.Proofs.Concat.Layout
import PythonSyntax.Proofs.Parser.Statement

/-
The statements of a program in front of another one.

While the first program lasts, the rules of the grammar see its tokens and nothing else: a statement
ends in a token that is not part of a line, so looking one token ahead within a line stays inside the
program.  Where the first program ends it has its end marker and the two together have the second
program, which goes on with no statement of the first one.
-/

namespace PythonSyntax.Parser

open PythonSyntax.Layout TokenLikeness BlockLikeness

variable {α : Type} {X X' Y ts us : List Token} {d : Nat}

/-! ## Tokens in front of others -/

/-- The streams of a program, and of that program in front of tokens `Y`, from a place inside `d`
blocks on. -/
inductive Before (Y : List Token) (d : Nat) : Streams where
  | mk {X X' : List Token} {here : Span} : Front d X → List.Forall₂ (Same False) X X' →
      Before Y d (X ++ [⟨.endMarker, "", here⟩]) (X' ++ Y)

/-- The same where the first program is not at its end. -/
inductive Inside (Y : List Token) (d : Nat) : Streams where
  | mk {t u : Token} {X X' : List Token} {here : Span} :
      Front d (t :: X) → Same False t u → List.Forall₂ (Same False) X X' →
      Inside Y d (t :: (X ++ [⟨.endMarker, "", here⟩])) (u :: (X' ++ Y))

theorem Inside.first (h : Inside Y d ts us) : Same False (current ts) (current us) := by
  cases h with
  | mk _ htu _ => exact htu

theorem Inside.not_endMarker (h : Inside Y d ts us) : (current ts).kind ≠ .endMarker := by
  cases h with
  | mk hfront => exact hfront.unmarked _ List.mem_cons_self

theorem Inside.before (h : Inside Y d ts us) : Before Y d ts us := by
  cases h with
  | mk hfront htu hX => exact .mk hfront (.cons htu hX)

/-- The first program is not at its end, or has its end marker there. -/
theorem Before.inside_or_ended (h : Before Y d ts us) :
    Inside Y d ts us ∨ d = 0 ∧ (current ts).kind = .endMarker ∧ us = Y := by
  cases h with
  | mk hfront hX =>
    cases hX with
    | nil => exact .inr ⟨Option.some.inj hfront.blocks, rfl, rfl⟩
    | cons htu hX => exact .inl (.mk hfront htu hX)

section

variable (hY : Y ≠ [])
include hY

/-- A token of the first program is taken. -/
theorem Inside.dropCurrent (h : Inside Y d ts us) {d' : Nat}
    (hdrop : ∀ X, Front d (current ts :: X) → Front d' X) :
    Before Y d' (dropCurrent ts) (dropCurrent us) := by
  cases h with
  | mk hfront htu hX =>
    rw [dropCurrent_cons (by simp), dropCurrent_cons (by simp [hY])]
    exact .mk (hdrop _ hfront) hX

/-- A program does not end on a line. -/
theorem Inside.drop_content (h : Inside Y d ts us) (hcontent : (current ts).kind.isContent = true) :
    Inside Y d (Parser.dropCurrent ts) (Parser.dropCurrent us) := by
  cases h with
  | @mk t _ _ _ _ hfront htu hX =>
    replace hcontent : t.kind.isContent = true := hcontent
    rw [dropCurrent_cons (by simp), dropCurrent_cons (by simp [hY])]
    cases hX with
    | nil => exact absurd rfl (hfront.tail_ne_nil hcontent)
    | cons hvw hX =>
      refine .mk (hfront.tail_plain (fun hk => ?_) fun hk => ?_) hvw hX
      all_goals
        rw [hk] at hcontent
        exact nomatch hcontent

theorem Before.length_le (h : Before Y d ts us) : ts.length ≤ us.length := by
  cases h with
  | mk hfront hX =>
    have := List.length_pos_iff.mpr hY
    rw [List.length_append, List.length_append, hX.length_eq, List.length_singleton]
    omega

theorem Inside.lasts : Lasts (Same False) (Inside Y d) where
  first := Inside.first
  drop h hcontent := h.drop_content hY hcontent
  length_le h := h.before.length_le hY

/-- A program in front of tokens that go on with no statement. -/
def inFront (hwords : ∀ word ∈ followingWords, (current Y).isWord word = false) : BlockLikeness where
  toTokenLikeness := verbatim False True
  within := Inside Y
  after := Before Y
  lasts _ := Inside.lasts hY
  after_of_within := Inside.before
  within_of_after h := h.inside_or_ended.resolve_right nofun
  within_or_ended h := by
    refine h.inside_or_ended.imp_right ?_
    rintro ⟨-, hk, rfl⟩
    exact ⟨hk, fun h => hwords _ h, fun _ => .inr (.inr id)⟩
  length_le h := h.length_le hY
  newline h hk := h.dropCurrent hY fun X hX => hX.tail_plain (by rw [hk]; exact nofun)
    (by rw [hk]; exact nofun)
  indent h hk := (h.dropCurrent hY fun X hX => hX.tail_indent hk).inside_or_ended.resolve_right nofun
  dedent h hk := h.dropCurrent hY fun X hX => hX.tail_dedent hk
  endMarker h hk := absurd hk h.not_endMarker

end

/-! ## Programs -/

/-- Only at the end of a program there is no further statement. -/
theorem endMarker_of_fileItem {rule : StmtRule → Parser (List Stmt)} {n : Nesting}
    (h : outcome (fileItem rule) n ts = .ok (none, us)) : (current ts).kind = .endMarker := by
  rw [Parser.fileItem, outcome_peek_bind] at h
  split at h
  · assumption
  · cases h
  · rw [outcome_bind] at h
    obtain ⟨r, -, h⟩ := bind_ok h
    cases h

theorem fileItem_endMarker {rule : StmtRule → Parser (List Stmt)} {n : Nesting}
    (h : (current ts).kind = .endMarker) : outcome (fileItem rule) n ts = .ok (none, ts) := by
  rw [Parser.fileItem, outcome_peek_bind, h]
  rfl

/-- The items of a program in front of tokens `Y` are those of the program, and then those of `Y`. -/
theorem items_append {fuel fuel' : Nat} {spell : List Char → List Char}
    (hwords : ∀ word ∈ followingWords, (current Y).isWord word = false) (hle : fuel ≤ fuel')
    (hY : Y ≠ []) {bound bound' : List Token} {n m : Nesting} (hn : (verbatim False True).nesting n m)
    (hs : Before Y 0 ts us) (hreadable : Readable us) (hfuel : 32 * weight us + 22 ≤ fuel')
    (hbound : us.length < bound'.length) {sss : List (List Stmt)} {rest : List Token}
    (h : outcome (manyUpTo (fileItem (StmtRule.run spell fuel)) bound) n ts = .ok (sss, rest)) :
    ∃ bound'', Y.length < bound''.length ∧
      outcome (manyUpTo (fileItem (StmtRule.run spell fuel')) bound') m us =
        (outcome (manyUpTo (fileItem (StmtRule.run spell fuel')) bound'') m Y).map
          fun r => (sss ++ r.1, r.2) := by
  have hrules : (inFront hY hwords).StmtRules (StmtRule.run spell fuel)
      (StmtRule.run spell fuel') :=
    stmtRules_run (b := inFront hY hwords) (fun hle _ => rules_same _ hle) hle
  have hitem := hrules.fileItem
  induction bound generalizing ts us bound' sss with
  | nil => cases h
  | cons t bound ih =>
    rw [manyUpTo, outcome_bind] at h
    obtain ⟨⟨o, ts₁⟩, ho, h⟩ := bind_ok h
    rcases hs.inside_or_ended with hinside | ⟨-, hended, rfl⟩
    · have hitems := hitem ts us n m hinside hn
      rw [ho] at hitems
      obtain ⟨⟨o', us₁⟩, ho', hafter⟩ := hitems.of_ok
      have hread := (reads_fileItem (belowStmt_run spell fuel') hfuel).outcome hreadable m
      rw [ho'] at hread
      obtain ⟨hsuffix, hreadable₁, hlighter⟩ := hread
      cases o with
      | none => exact absurd (endMarker_of_fileItem ho) hinside.not_endMarker
      | some ss =>
        cases o' with
        | none => exact hafter.elim
        | some ss' =>
          obtain ⟨rfl, hafter⟩ := hafter
          obtain ⟨⟨sss₁, rest₁⟩, hrest, h⟩ := bind_ok h
          cases h
          have hafter : Before Y 0 ts₁ us₁ := hafter
          have hlt : weight us₁ < weight us := (hlighter ss rfl).1
          have hlength := length_lt_of_suffix hsuffix hlt
          cases bound' with
          | nil => cases hbound
          | cons t' bound' =>
            have hbound' : us₁.length < bound'.length := by
              rw [List.length_cons] at hbound
              omega
            obtain ⟨bound'', hbound'', heq⟩ := ih hafter hreadable₁ (by omega) hbound' hrest
            refine ⟨bound'', hbound'', ?_⟩
            rw [manyUpTo, outcome_bind, ho']
            show (outcome (manyUpTo _ bound') m us₁ >>= _) = _
            rw [heq]
            cases outcome (manyUpTo _ bound'') m Y <;> rfl
    · rw [fileItem_endMarker hended] at ho
      cases ho
      cases h
      refine ⟨bound', hbound, ?_⟩
      cases outcome _ m us <;> rfl

/-- The items of a program are read alike wherever it stands. -/
theorem items_same (spell : List Char → List Char) {fuel fuel' : Nat} (hle : fuel ≤ fuel')
    {bound bound' : List Token} (hbound : bound.length ≤ bound'.length) :
    (verbatim False True).Relates (List.Forall₂ (Same False))
      (manyUpTo (fileItem (StmtRule.run spell fuel)) bound)
      (manyUpTo (fileItem (StmtRule.run spell fuel')) bound')
      fun xs ys ts us => List.Forall₂ Eq xs ys ∧ List.Forall₂ (Same False) ts us := by
  have hrules : ((verbatim False True).throughoutBlocks same_eof).StmtRules (StmtRule.run spell fuel)
      (StmtRule.run spell fuel') :=
    stmtRules_run (b := (verbatim False True).throughoutBlocks same_eof)
      (fun hle _ => rules_same _ hle) hle
  exact Relates.manyUpTo hrules.fileItem hbound

theorem weight_le_of_same (h : List.Forall₂ (Same False) ts us) : weight ts ≤ weight us := by
  induction h with
  | nil => exact Nat.le_refl _
  | @cons t u ts us htu _ ih =>
    have htext : t.text.length ≤ u.text.length := by
      rcases htu.text with h | h
      · rw [h]
      · exact h.1.2
    rw [weight_cons, weight_cons, Token.weight, Token.weight]
    omega

/-- A program in front of another one has its statements, and then those of the other one. -/
theorem file_append {vs : List Token} {fuel fuel' fuel'' : Nat} {spell : List Char → List Char}
    {n : Nesting} {m₁ m₂ : Module} {r₁ r₂ : List Token}
    (hwords : ∀ word ∈ followingWords, (current Y).isWord word = false) (hY : Y ≠ [])
    (hs : Before Y 0 ts us) (hvs : List.Forall₂ (Same False) vs Y) (hreadable : Readable us)
    (hle : fuel ≤ fuel'') (hle' : fuel' ≤ fuel'') (hfuel : 32 * weight us + 22 ≤ fuel'')
    (h₁ : outcome (file (StmtRule.run spell fuel)) n ts = .ok (m₁, r₁))
    (h₂ : outcome (file (StmtRule.run spell fuel')) n vs = .ok (m₂, r₂)) :
    ∃ r, outcome (file (StmtRule.run spell fuel'')) n us = .ok (⟨m₁.body ++ m₂.body⟩, r) := by
  have hnesting : (verbatim False True).nesting n n := ⟨Nat.le_refl _, .inl trivial⟩
  obtain ⟨⟨xs, r₁⟩, hxs, h₁⟩ := bind_ok (h₁ : outcome (many _) n ts >>= _ = _)
  obtain ⟨⟨ys, r₂⟩, hys, h₂⟩ := bind_ok (h₂ : outcome (many _) n vs >>= _ = _)
  cases h₁
  cases h₂
  have hroom : us.length < (current us :: us).length := Nat.lt_succ_self _
  obtain ⟨bound, hbound, hfirst⟩ :=
    items_append hwords hle hY hnesting hs hreadable hfuel hroom ((outcome_many _).symm.trans hxs)
  have hle'' : (current vs :: vs).length ≤ bound.length := by
    rw [List.length_cons, hvs.length_eq]
    exact hbound
  have hsecond := items_same spell hle' hle'' vs Y n n hvs hnesting
  rw [show outcome (manyUpTo _ (current vs :: vs)) n vs = _ from hys] at hsecond
  obtain ⟨⟨zs, r⟩, hzs, hyz, -⟩ := hsecond.of_ok
  have hyz : ys = zs := List.forall₂_eq_eq_eq ▸ hyz
  refine ⟨r, ?_⟩
  show outcome (manyUpTo _ (current us :: us)) n us >>= _ = _
  rw [hfirst, hzs, ← hyz]
  show Except.ok ((⟨(xs ++ ys).flatten⟩ : Module), r) = _
  rw [List.flatten_append]

end PythonSyntax.Parser
