import PythonSyntax.Proofs.Agreement.Verbatim
import PythonSyntax.Proofs.Formatted.Merge

/-
What is read whatever stands around.

The pieces of a literal are read off its text alone.  If they are read once, then they are read with
more fuel, in front of other tokens and at another place too, and the value is the same.
-/

namespace PythonSyntax.Parser

open TokenLikeness
open Node (AreFields)

variable {α : Type} {spell : List Char → List Char} {n : Nesting} {fuel k : Nat}
  {ts us : List Token} {a : α}

/-- From some fuel on a parser has this value on all streams, which it leaves as they are. -/
def Settles (spell : List Char → List Char) (p : (Rule → Parser Expr) → Parser α) (n : Nesting)
    (fuel : Nat) (a : α) : Prop :=
  ∀ k, fuel ≤ k → ∀ ts, outcome (p (Rule.run spell k)) n ts = .ok (a, ts)

/-- Parsers that do alike wherever the rules do, and the first one accepts. -/
def ReadsAlike (p q : (Rule → Parser Expr) → Parser α) : Prop :=
  ∀ {rule rule'}, ((sameText False False True).throughout same_eof).Rules rule rule' →
    ReadsSame False False True (p rule) (q rule')

theorem Settles.mono {p : (Rule → Parser Expr) → Parser α} (h : Settles spell p n fuel a)
    (hk : fuel ≤ k) : Settles spell p n k a :=
  fun l hl => h l (Nat.le_trans hk hl)

/-- With more fuel the rules read the same. -/
theorem rules_throughout (spell : List Char → List Char) (hk : fuel ≤ k) :
    ((sameText False False True).throughout same_eof).Rules (Rule.run spell fuel) (Rule.run spell k) :=
  rules_same (lasts_forall₂ same_eof) hk

/-- What one parser reads once, one that does alike always reads. -/
theorem settles_of_ok {p q : (Rule → Parser Expr) → Parser α} (h : ReadsAlike p q)
    (ho : outcome (p (Rule.run spell fuel)) n ts = .ok (a, us)) :
    us = ts ∧ Settles spell q n fuel a := by
  have hread : ∀ k, fuel ≤ k → ∀ vs,
      us = ts ∧ outcome (q (Rule.run spell k)) n vs = .ok (a, vs) := by
    intro k hk vs
    -- the two streams are these and no others
    have hresults := h (rules_throughout spell hk)
      (fun ts' vs' => ts' = ts ∧ vs' = vs) ts vs n n ⟨rfl, rfl⟩ ⟨Nat.le_refl _, .inr rfl⟩
    rw [ho] at hresults
    obtain ⟨⟨b, ws⟩, hb, rfl, hus, rfl⟩ := hresults.of_ok
    exact ⟨hus, hb⟩
  exact ⟨(hread fuel (Nat.le_refl _) []).1, fun k hk vs => (hread k hk vs).2⟩

/-- The same of parsers that leave text. -/
theorem finds_of_ok {p q : (Rule → Parser Expr) → Parser (α × List Char × Nat)} {rest : List Char} {x : Nat}
    (h : ∀ {rule rule'}, ((sameText False False True).throughout same_eof).Rules rule rule' →
      EndsSame False False True (p rule) (q rule'))
    (ho : outcome (p (Rule.run spell fuel)) n ts = .ok ((a, rest, x), us)) :
    us = ts ∧ ∀ k, fuel ≤ k → ∀ vs, ∃ y, outcome (q (Rule.run spell k)) n vs = .ok ((a, rest, y), vs) := by
  have hread : ∀ k, fuel ≤ k → ∀ vs,
      us = ts ∧ ∃ y, outcome (q (Rule.run spell k)) n vs = .ok ((a, rest, y), vs) := by
    intro k hk vs
    have hresults := h (rules_throughout spell hk)
      (fun ts' vs' => ts' = ts ∧ vs' = vs) ts vs n n ⟨rfl, rfl⟩ ⟨Nat.le_refl _, .inr rfl⟩
    rw [ho] at hresults
    obtain ⟨⟨⟨b, rest', y⟩, ws⟩, hb, ⟨rfl, rfl, -⟩, hus, rfl⟩ := hresults.of_ok
    exact ⟨hus, y, hb⟩
  exact ⟨(hread fuel (Nat.le_refl _) []).1, fun k hk vs => (hread k hk vs).2⟩

theorem readsAlike_literalPieces {t u : Token} (h : t.text = u.text) :
    ReadsAlike (fun rule => literalPieces spell rule t) (fun rule => literalPieces spell rule u) :=
  fun hrule => literalPieces_same hrule h False.elim

theorem readsAlike_pieces (l l' : Literal) (h : l.isRaw = l'.isRaw) (levels : Nat)
    (text : List Char) (x y : Nat) :
    ReadsAlike (fun rule => pieces spell rule l levels text x)
      (fun rule => pieces spell rule l' levels text y) := by
  obtain ⟨isRaw, span⟩ := l
  obtain ⟨isRaw', span'⟩ := l'
  obtain rfl : isRaw = isRaw' := h
  exact fun hrule => pieces_same hrule isRaw False.elim levels text False.elim

/-! ## Fields among the pieces -/

theorem areFields_of_derives {ps : List Piece} (h : ∀ p ∈ ps, Derives (.piece p)) :
    AreFields ps := by
  intro e he
  cases h _ he
  rfl

/-- What is no text among the pieces of a literal is a field. -/
theorem areFields_of_settles {p : (Rule → Parser Expr) → Parser (List Piece)} {ps : List Piece}
    {b : Nat} (h : Settles spell p n fuel ps)
    (hp : ∀ rule ts, Below rule b → Reads ts (p rule) fun ps _ => ∀ p ∈ ps, Derives (.piece p)) :
    AreFields ps := by
  let eof : Token := ⟨.endMarker, "", ⟨0, 0⟩⟩
  have hbelow : Below (Rule.run spell (max fuel b)) b := fun r ts hlt hr =>
    below_run (max fuel b) r ts (Nat.lt_of_lt_of_le hlt (Nat.le_max_right fuel b)) hr
  have hread := (hp _ [eof] hbelow).outcome (.last rfl) n
  rw [h _ (Nat.le_max_left fuel b)] at hread
  exact areFields_of_derives hread.2.2

theorem areFields_literalPieces {t : Token} {ps : List Piece}
    (h : Settles spell (fun rule => literalPieces spell rule t) n fuel ps) : AreFields ps :=
  areFields_of_settles (b := 32 * t.text.length) h fun _ _ hb =>
    reads_literalPieces hb (Nat.le_refl _)

end PythonSyntax.Parser
