import PythonSyntax.Proofs.Spelling.Read

/-
The grammar of operator expressions.

`Spells r ws e` says that the words `ws` spell the tree `e` as a phrase of the rule `r`.  Each rule
has the phrases of the next rule of the ladder and its own; parentheses may stand around any phrase.
By induction on a spelling, the rule reads the words back to the tree.
-/

namespace PythonSyntax

open PythonSyntax.Parser

/-- The words that spell a tree as a phrase of a rule. -/
inductive Spells : Rule → List Word → Expr → Prop where
  | tighter {r s ws e} : r.tighter? = some s → Spells s ws e → Spells r ws e
  -- atoms
  | name {text} : isKeyword text = false →
      Spells .atom [⟨.name, text⟩] (.name (normalizeIdentifier text) .load)
  | number {text c} : Number.parse text.toList = .ok c →
      Spells .atom [⟨.number, text⟩] (.constant c)
  | group {ws e} : Spells .test ws e → Spells .atom (.op "(" :: (ws ++ [.op ")"])) e
  -- primaries
  | attr {ws e text} : isKeyword text = false → Spells .primary ws e →
      Spells .primary (ws ++ [.op ".", ⟨.name, text⟩]) (.attr e (normalizeIdentifier text) .load)
  | subscript {ws vs e slice} : Spells .primary ws e → Spells .test vs slice →
      Spells .primary (ws ++ .op "[" :: (vs ++ [.op "]"])) (.subscript e slice .load)
  | call {ws f} {args : List (List Word × Expr)} : Spells .primary ws f →
      (∀ a ∈ args, Spells .test a.1 a.2) →
      Spells .primary (ws ++ .op "(" :: ([.op ","].intercalate (args.map Prod.fst) ++ [.op ")"]))
        (.call f (args.map Prod.snd) [])
  -- arithmetic
  | power {ws vs base exponent} : Spells .primary ws base → Spells .factor vs exponent →
      Spells .power (ws ++ .op "**" :: vs) (.binOp base .pow exponent)
  | sign {ws e text op} : (text, op) ∈ Rule.signs → Spells .factor ws e →
      Spells .factor (.op text :: ws) (.unaryOp op e)
  | operator {r s operators text op ws vs left right} : r.level? = some (operators, s) →
      text ∈ operators → Operator.ofToken? text = some op → Spells r ws left →
      Spells s vs right → Spells r (ws ++ .op text :: vs) (.binOp left op right)
  -- comparisons and conditions
  | compare {ws e} {rest : List (Comparison × List Word × Expr)} : Spells .bitOr ws e →
      rest ≠ [] → (∀ x ∈ rest, Spells .bitOr x.2.1 x.2.2) →
      Spells .comparison (ws ++ (rest.map fun x => x.1.words ++ x.2.1).flatten)
        (.compare e (rest.map fun x => x.1) (rest.map fun x => x.2.2))
  | negation {ws e} : Spells .notTest ws e →
      Spells .notTest (.reserved "not" :: ws) (.unaryOp .not e)
  | boolean {r s word op ws e} {values : List (List Word × Expr)} :
      r.joiner? = some (word, op, s) → Spells s ws e → values ≠ [] →
      (∀ v ∈ values, Spells s v.1 v.2) →
      Spells r (ws ++ (values.map fun v => .reserved word :: v.1).flatten)
        (.boolOp op (e :: values.map Prod.snd))
  | condition {ws vs us body condition orelse} : Spells .orTest ws body →
      Spells .orTest vs condition → Spells .test us orelse →
      Spells .test (ws ++ .reserved "if" :: (vs ++ .reserved "else" :: us))
        (.ifExp condition body orelse)

/-! ## First words -/

variable {spell : List Char → List Char} {r s : Rule} {ws vs : List Word} {e : Expr}

theorem Rule.level_of_joiner {x : String × BoolOperator × Rule} (h : r.joiner? = some x) :
    r.level? = none ∧ r ≠ .primary := by
  cases r <;> cases h <;> exact ⟨rfl, by decide⟩

theorem Rule.BeginsAll.append (h : r.BeginsAll ws) (vs : List Word) : r.BeginsAll (ws ++ vs) := by
  obtain ⟨w, us, rfl, hw⟩ := h
  exact ⟨w, us ++ vs, rfl, hw⟩

/-- A phrase begins with a word with which phrases of its rule begin. -/
theorem Spells.begins (h : Spells r ws e) : r.BeginsAll ws := by
  induction h with
  | tighter hr _ ih => exact ih.mono (Rule.place_le_of_tighter hr)
  | name h => exact ⟨_, _, rfl, .name h⟩
  | number => exact ⟨_, _, rfl, .number⟩
  | group => exact ⟨_, _, rfl, .group⟩
  | attr _ _ ih => exact ih.append _
  | subscript _ _ ih => exact ih.append _
  | call _ _ ih => exact ih.append _
  | power _ _ ih => exact (ih.mono (by decide)).append _
  | sign hsign =>
    refine ⟨_, _, rfl, .sign (Nat.le_refl _) ?_⟩
    exact List.mem_map_of_mem (f := Prod.fst) hsign
  | operator _ _ _ _ _ ih => exact ih.append _
  | compare _ _ _ ih => exact (ih.mono (by decide)).append _
  | negation => exact ⟨_, _, rfl, .negation (Nat.le_refl _)⟩
  | boolean hr _ _ _ ih => exact (ih.mono (Rule.joiner_facts id hr).2.1).append _
  | condition _ _ _ ih => exact (ih.mono (by decide)).append _

/-! ## Reading back -/

/-- A rule reads words to a tree, and goes on with what it may join to the tree. -/
structure Rule.ReadsBack (spell : List Char → List Char) (r : Rule) (ws : List Word) (e : Expr) :
    Prop where
  reads : r.Reads spell ws e
  onLevel : ∀ operators s, r.level? = some (operators, s) →
    ReadsOn spell (operatorTail · operators s) joinLeft r s ws e
  onTrail : r = .primary → ReadsOn spell trailer trail .primary .atom ws e

namespace Rule.ReadsBack

theorem of_reads (h : r.Reads spell ws e) (hlevel : r.level? = none) (hne : r ≠ .primary) :
    ReadsBack spell r ws e where
  reads := h
  onLevel operators s hr := by
    rw [hlevel] at hr
    cases hr
  onTrail hr := absurd hr hne

theorem of_level {operators : List String} (hr : r.level? = some (operators, s))
    (h : ReadsOn spell (operatorTail · operators s) joinLeft r s ws e) :
    ReadsBack spell r ws e where
  reads := h.level hr
  onLevel operators' s' hr' := by
    cases hr.symm.trans hr'
    exact h
  onTrail := by
    rintro rfl
    cases hr

theorem of_trail (h : ReadsOn spell trailer trail .primary .atom ws e) :
    ReadsBack spell .primary ws e where
  reads := h.primary
  onLevel _ _ hr := by cases hr
  onTrail _ := h

/-- A phrase of the next rule is the first of its rule. -/
theorem tighter (hr : r.tighter? = some s) (hb : s.BeginsAll ws) (h : s.Reads spell ws e) :
    ReadsBack spell r ws e where
  reads := h.tighter hr hb
  onLevel operators s' hlevel := by
    obtain rfl : s = s' := by cases r <;> cases hlevel <;> cases hr <;> rfl
    exact .operand hlevel h
  onTrail hprimary := by
    subst hprimary
    cases hr
    exact .atom hb h

end Rule.ReadsBack

/-- The words of a tree are read back to it. -/
theorem Spells.readsBack (spell : List Char → List Char) (h : Spells r ws e) :
    r.ReadsBack spell ws e := by
  induction h with
  | tighter hr h ih => exact .tighter hr h.begins ih.reads
  | name h => exact .of_reads (.name h) rfl (by decide)
  | number h => exact .of_reads (.number h) rfl (by decide)
  | group h ih => exact .of_reads (.group h.begins ih.reads) rfl (by decide)
  | attr hname _ ih => exact .of_trail (.attr hname (ih.onTrail rfl))
  | subscript _ hslice ih ihslice =>
    exact .of_trail (.subscript (ih.onTrail rfl) hslice.begins ihslice.reads)
  | call _ hargs ih ihargs =>
    exact .of_trail (.call (ih.onTrail rfl) fun a ha => ⟨(hargs a ha).begins, (ihargs a ha).reads⟩)
  | power _ _ ih ih' => exact .of_reads (.power_op ih.reads ih'.reads) rfl (by decide)
  | sign hsign _ ih => exact .of_reads (.sign hsign ih.reads) rfl (by decide)
  | operator hr hmem hop _ _ ih ih' =>
    exact .of_level hr (.operator hr hmem hop (ih.onLevel _ _ hr) ih'.reads)
  | compare _ hne hrest ih ihrest =>
    exact .of_reads (.compare ih.reads hne fun x hx => ⟨(hrest x hx).begins, (ihrest x hx).reads⟩)
      rfl (by decide)
  | negation _ ih => exact .of_reads (.negation ih.reads) rfl (by decide)
  | boolean hr _ hne _ ih ihvalues =>
    obtain ⟨hlevel, hprimary⟩ := Rule.level_of_joiner hr
    exact .of_reads (ih.reads.boolean hr hne fun v hv => (ihvalues v hv).reads) hlevel hprimary
  | condition hbody _ _ ih ih' ih'' =>
    exact .of_reads (.condition hbody.begins ih.reads ih'.reads ih''.reads) rfl (by decide)

end PythonSyntax
