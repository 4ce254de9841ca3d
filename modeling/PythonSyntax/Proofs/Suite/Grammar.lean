import PythonSyntax.Proofs.Enclosed.Grammar
import PythonSyntax.Proofs.Spelling.Program
import PythonSyntax.Proofs.Suite.Line

/-
Simple statements among others.

A simple statement takes the tokens of its line wherever they stand, whether a line break or a
semicolon comes behind them, for it ends where its brackets are closed and no token goes on with it.
So the loops for a line, a block and a program all read statements with the right ends between them to
the same list.
-/

namespace PythonSyntax

open PythonSyntax.Parser PythonSyntax.Parser.TokenLikeness PythonSyntax.Parser.Likeness Filter

variable {α β : Type} {spell : List Char → List Char} {fuel fuel' limit k : Nat} {n : Nesting}
  {P : Token → Prop} {as bs ts us tail : List Token} {stop newline eof t : Token} {s : Stmt}
  {ss : List Stmt}

/-! ## What matches -/

theorem Grouped.isContent {k : Nat} (h : Grouped P k ts) : ∀ t ∈ ts, t.kind.isContent = true := by
  induction h with
  | nil => nofun
  | plain hplain _ _ ih => exact List.forall_mem_cons.mpr ⟨isContent_of_isPlain hplain, ih⟩
  | opening hkind _ _ ih => exact List.forall_mem_cons.mpr ⟨isContent_of_op hkind, ih⟩
  | closing hkind _ _ ih => exact List.forall_mem_cons.mpr ⟨isContent_of_op hkind, ih⟩

/-- The end of a line. -/
structure EndsLine (t : Token) : Prop where
  kind : t.kind = .newline
  text : Layout.isOpening t.text = false

/-- What may stand behind a simple statement. -/
inductive EndsSimple (t : Token) : Prop where
  | line : EndsLine t → EndsSimple t
  | semicolon : t.isOp ";" = true → EndsSimple t

/-- What matches where the same text stands in another program: the ends of lines may be written in any
way. -/
def placed : TokenLikeness :=
  { sameText False True True with
    token := fun t u => Same False t u ∨ EndsLine t ∧ EndsLine u
    error := fun _ _ => True
    kind := fun h => h.elim Same.kind fun h => h.1.kind.trans h.2.kind.symm
    text := fun h => h.elim (fun h => (sameText False True True).text h)
      fun h => .inr ⟨.inr h.1.kind, h.1.text, h.2.text⟩
    place := fun _ _ => trivial }

theorem Parser.TokenLikeness.Results.placed {Q : α → β → Prop} {r : Except SyntaxError α}
    {r' : Except SyntaxError β} (h : (sameText False True True).Results Q r r') :
    placed.Results Q r r' :=
  h.weaken (fun _ _ _ => trivial) fun _ => id

/-- How a line with a statement matches the tokens of the statement in another program, where `k`
brackets are open: behind them stands what ends the statement. -/
inductive Placed (P : Token → Prop) (stop : Token) (tail : List Token) (k : Nat) :
    List Token → List Token → Prop where
  | mk {ts us last eof} : List.Forall₂ (Same False) ts us → Grouped P k ts → EndsLine last →
      tail ≠ [] → Placed P stop tail k (ts ++ [last, eof]) (us ++ stop :: tail)

namespace Placed

theorem first (hstop : EndsSimple stop) (h : Placed P stop tail k ts us) :
    placed.token (current ts) (current us) ∨
      k = 0 ∧ ∃ op, ((current ts).kind = .newline ∧ op = ";") ∧ (current us).isOp op = true := by
  obtain ⟨has, hgrouped, hlast, -⟩ := h
  cases has with
  | nil =>
    cases hgrouped
    cases hstop with
    | line hline => exact .inl (.inr ⟨hlast, hline⟩)
    | semicolon hop => exact .inr ⟨rfl, ";", ⟨hlast.kind, rfl⟩, hop⟩
  | cons htu => exact .inl (.inl htu)

/-- A token with text is taken, after which `j` brackets are open. -/
theorem dropCurrent {j : Nat} (h : Placed P stop tail k ts us)
    (ht : (current ts).kind.isContent = true)
    (hj : ∀ as, Grouped P k (current ts :: as) → Grouped P j as) :
    Placed P stop tail j (dropCurrent ts) (dropCurrent us) := by
  obtain @⟨_, _, last, eof, has, hgrouped, hlast, htail⟩ := h
  cases has with
  | nil =>
    rw [show (current ([] ++ [last, eof])).kind = .newline from hlast.kind] at ht
    cases ht
  | cons htu has =>
    rw [List.cons_append, List.cons_append, dropCurrent_cons (by simp), dropCurrent_cons (by simp)]
    exact .mk has (hj _ hgrouped) hlast htail

theorem length_le (h : Placed P stop tail k ts us) : ts.length ≤ us.length := by
  obtain ⟨has, -, -, htail⟩ := h
  have hlength := List.length_pos_iff.mpr htail
  rw [List.length_append, List.length_append, has.length_eq, List.length_cons]
  simp only [List.length_cons, List.length_nil]
  omega

end Placed

/-- The likeness of a line with a statement and the statement in another program. -/
def placing (P : Token → Prop) (tail : List Token) (hstop : EndsSimple stop) : Likeness where
  toTokenLikeness := placed
  streams := Placed P stop tail
  stops kind op := kind = .newline ∧ op = ";"
  stops_cases h := ⟨.inr h.1, .inr h.2⟩
  stop _ _ _ := trivial
  first := Placed.first hstop
  plain h ht := h.dropCurrent (isContent_of_isPlain ht) fun _ => Grouped.tail_plain ht
  opening h hk ht := h.dropCurrent (isContent_of_op hk) fun _ => Grouped.tail_opening hk ht
  closing h hk ht := h.dropCurrent (isContent_of_op hk) fun _ => Grouped.tail_closing hk ht
  length_le := Placed.length_le

/-- The rules of expressions agree on a line and on its tokens in another program. -/
theorem rules_placing (hstop : EndsSimple stop) (hle : fuel ≤ fuel') :
    (placing P tail hstop).Rules (Rule.run spell fuel) (Rule.run spell fuel') := by
  -- the texts of literals are the same, and so are the fields in them
  refine rules_around False True True (fun rule rule' hrule => .of_ne_nil fun ts us hts hne => ?_) hle
  have hsame : List.Forall₂ (fun t u => Same False t u ∧ t.kind = .string) ts us := by
    refine hts.imp fun t u h => ⟨?_, h.2⟩
    have htoken : placed.token t u := h.1
    exact htoken.resolve_right fun hn => (by cases hn.1.kind.symm.trans h.2)
  have hread : ReadsSame False True True (strings spell rule ts) (strings spell rule' us) :=
    strings_readsSame hrule hsame hne
  exact fun k xs ys n m hs hn => (hread (Placed P stop tail k) xs ys n m hs hn).placed

/-- A statement that takes its line takes its tokens in another program, before all that may end it,
wherever the nesting leaves room for it. -/
theorem smallStatement_placed (hgrouped : Grouped P 0 as) (hnewline : EndsLine newline)
    (h : outcome (smallStatement (Rule.run spell fuel)) ⟨limit, 0⟩ (as ++ [newline, eof]) =
      .ok (s, [newline, eof]))
    (hbs : List.Forall₂ (Same False) as bs) (hn : limit + n.depth ≤ n.limit)
    (hstop : EndsSimple stop) (htail : tail ≠ []) :
    ∀ᶠ fuel' in atTop, outcome (smallStatement (Rule.run spell fuel')) n (bs ++ stop :: tail) =
      .ok (s, stop :: tail) := by
  refine eventually_atTop.mpr ⟨fuel, fun fuel' hle => ?_⟩
  have hagrees : (placing P tail hstop).Agrees (smallStatement (Rule.run spell fuel))
      (smallStatement (Rule.run spell fuel')) Eq := Likeness.smallStatement (rules_placing hstop hle)
  have hstreams : Placed P stop tail 0 (as ++ [newline, eof]) (bs ++ stop :: tail) :=
    .mk hbs hgrouped hnewline htail
  have hnesting : placed.nesting ⟨limit, 0⟩ n := ⟨hn, .inl trivial⟩
  have hresult := hagrees 0 _ _ _ _ hstreams hnesting
  rw [h] at hresult
  obtain ⟨⟨s', rest⟩, hrest, rfl, hleft⟩ := hresult.of_ok
  replace hleft : Placed P stop tail 0 [newline, eof] rest := hleft
  -- nothing is left of the line, so nothing is left of its tokens
  generalize hline : [newline, eof] = line at hleft
  obtain @⟨ts, us, _, _, hsame, -, -, -⟩ := hleft
  obtain ⟨rfl, -⟩ := List.append_inj' (show [] ++ [newline, eof] = ts ++ _ from hline) rfl
  cases hsame
  exact hrest

end PythonSyntax
