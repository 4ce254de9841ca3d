import Mathlib.Data.List.Basic
import Mathlib.Order.Filter.AtTopBot.Basic
import PythonSyntax.Proofs.Spelling.Take
import PythonSyntax.Proofs.Spelling.Word

/-
Spelled expressions are read back.

`Spells r ws e` is the grammar of operator expressions: the words `ws` spell the tree `e` as a
phrase of the rule `r`.  `Spells.read` says that the rule takes such words, and nothing after them,
to the tree, wherever a word follows that ends the phrase.

Rules are followed a number of levels deep, and what a rule takes does not depend on the number if
it is large.  So all statements are about large numbers, and none of them counts.
-/

namespace PythonSyntax

open PythonSyntax.Parser Filter

variable {spell : List Char → List Char} {r s : Rule} {ws vs : List Word} {e : Expr}

/-! ## What rules take -/

/-- Followed deep enough, a rule takes a stream to a tree and a rest. -/
def Rule.Takes (spell : List Char → List Char) (r : Rule) (n : Nesting) (ts : List Token) (e : Expr)
    (us : List Token) : Prop :=
  ∀ᶠ fuel in atTop, outcome (r.run spell fuel) n ts = .ok (e, us)

theorem Rule.takes_of_body {n : Nesting} {ts us : List Token}
    (h : ∀ᶠ fuel in atTop, outcome (r.body spell (Rule.run spell fuel)) n ts = .ok (e, us)) :
    r.Takes spell n ts e us := by
  obtain ⟨least, hleast⟩ := eventually_atTop.mp h
  refine eventually_atTop.mpr ⟨least + 1, fun fuel hle => ?_⟩
  cases fuel with
  | zero => cases hle
  | succ fuel => exact hleast fuel (by omega)

/-- A rule takes the tokens of some words to a tree if a word follows at which the phrase ends.
Brackets and chains may nest as deep as there are words. -/
def Rule.Reads (spell : List Char → List Char) (r : Rule) (ws : List Word) (e : Expr) : Prop :=
  ∀ ts rest n, ts.map Token.word = ws → rest ≠ [] → r.Ends (current rest).word →
    n.depth + ws.length ≤ n.limit → r.Takes spell n (ts ++ rest) e rest

/-- Like `Reads`, but items may follow that the rule joins to the tree; the phrase is one of the
rule `s`. -/
def Rule.ReadsOn {β : Type} (spell : List Char → List Char)
    (item : (Rule → Parser Expr) → Parser (Option β)) (join : Expr → List β → Expr) (r s : Rule)
    (ws : List Word) (e : Expr) : Prop :=
  ∀ ts rest n xs us, ts.map Token.word = ws → rest ≠ [] → s.Ends (current rest).word →
    n.depth + ws.length ≤ n.limit →
    (∀ᶠ fuel in atTop, Items (item (Rule.run spell fuel)) n rest xs us) →
    r.Takes spell n (ts ++ rest) (join e xs) us

/-! ## Words of streams -/

theorem Word.split_infix {w : Word} {ts : List Token} (h : ts.map Token.word = ws ++ w :: vs) :
    ∃ left t right, ts = left ++ t :: right ∧ left.map Token.word = ws ∧ t.word = w ∧
      right.map Token.word = vs := by
  obtain ⟨left, tail, rfl, hleft, htail⟩ := List.map_eq_append_iff.mp h
  obtain ⟨t, right, rfl, ht, hright⟩ := List.map_eq_cons_iff.mp htail
  exact ⟨left, t, right, rfl, hleft, ht, hright⟩

theorem Word.split_last {w : Word} {ts : List Token} (h : ts.map Token.word = ws ++ [w]) :
    ∃ left t, ts = left ++ [t] ∧ left.map Token.word = ws ∧ t.word = w := by
  obtain ⟨left, t, right, rfl, hleft, ht, hright⟩ := split_infix h
  cases List.map_eq_nil_iff.mp hright
  exact ⟨left, t, rfl, hleft, ht⟩

/-- A phrase of some words begins as the phrases of a rule do. -/
def Rule.BeginsAll (r : Rule) (ws : List Word) : Prop := ∃ w vs, ws = w :: vs ∧ r.Begins w

theorem Rule.BeginsAll.current {ts : List Token} (hb : r.BeginsAll ws)
    (hts : ts.map Token.word = ws) (rest : List Token) :
    r.Begins (Parser.current (ts ++ rest)).word := by
  obtain ⟨w, vs, rfl, hw⟩ := hb
  obtain ⟨t, us, rfl, rfl, -⟩ := List.map_eq_cons_iff.mp hts
  exact hw

theorem Rule.BeginsAll.mono (hb : s.BeginsAll ws) (hle : r.place ≤ s.place) : r.BeginsAll ws := by
  obtain ⟨w, vs, hws, hw⟩ := hb
  exact ⟨w, vs, hws, hw.mono hle⟩

theorem sign?_eq_none {t : Token} (h : r.Begins t.word) (hr : Rule.place .factor < r.place) :
    sign? t = none := by
  have hsign : ∀ text, t.kind = .op → t.text = text → text ∈ ["+", "-", "~"] → False := by
    intro text hkind htext hmem
    have hop : t.isOp text = true := Token.isOp_iff.mpr (by rw [Token.word, hkind, htext])
    rw [h.isOp (by rintro rfl; revert hmem; decide) fun _ => hr] at hop
    cases hop
  unfold sign?
  split
  · next hkind htext => exact (hsign _ hkind htext (by decide)).elim
  · next hkind htext => exact (hsign _ hkind htext (by decide)).elim
  · next hkind htext => exact (hsign _ hkind htext (by decide)).elim
  · rfl

/-- Before other words than the followers of a comparison there is none. -/
theorem comparison?_eq_none_of_ends {t next : Token} (h : Rule.Ends .comparison t.word) :
    comparison? t next = none := by
  have hword : ∀ kind text, t.kind = kind → t.text = text →
      ⟨kind, text⟩ ∉ Rule.followers .comparison := by
    rintro _ _ rfl rfl
    exact h .comparison (by decide) (Nat.le_refl _)
  unfold comparison?
  split
  case h_10 => rfl
  all_goals
    next hkind htext => exact absurd (by decide) (hword _ _ hkind htext)

/-- The words of a comparison. -/
def Comparison.words : Comparison → List Word
  | eq => [.op "=="]
  | notEq => [.op "!="]
  | lt => [.op "<"]
  | ltE => [.op "<="]
  | gt => [.op ">"]
  | gtE => [.op ">="]
  | same => [.reserved "is"]
  | notSame => [.reserved "is", .reserved "not"]
  | isIn => [.reserved "in"]
  | notIn => [.reserved "not", .reserved "in"]

theorem Comparison.words_cases (c : Comparison) :
    (∃ w, c.words = [w]) ∨ ∃ w w', c.words = [w, w'] := by
  cases c <;> first | exact .inl ⟨_, rfl⟩ | exact .inr ⟨_, _, rfl⟩

theorem Comparison.words_ends (c : Comparison) :
    ∃ w vs, c.words = w :: vs ∧ Rule.Ends .bitOr w := by
  cases c <;> exact ⟨_, _, rfl, by decide⟩

theorem comparison?_one {c : Comparison} {w : Word} {t next : Token} (hc : c.words = [w])
    (ht : t.word = w) (hnext : next.isWord "not" = false) :
    comparison? t next = some (c, false) := by
  cases c <;> cases hc
  all_goals
    obtain ⟨hkind, htext⟩ := Word.mk.inj ht
    unfold comparison?
    rw [hkind, htext]
  case same => exact if_neg (by rw [hnext]; exact Bool.false_ne_true)
  all_goals rfl

theorem comparison?_two {c : Comparison} {w w' : Word} {t next : Token} (hc : c.words = [w, w'])
    (ht : t.word = w) (hnext : next.word = w') : comparison? t next = some (c, true) := by
  cases c <;> cases hc
  all_goals
    obtain ⟨hkind, htext⟩ := Word.mk.inj ht
    unfold comparison?
    rw [hkind, htext]
    exact if_pos (Token.isWord_iff.mpr hnext)

namespace Rule

/-! ## Boolean operators -/

theorem joiner_facts (spell : List Char → List Char) {word : String} {op : BoolOperator}
    (hr : r.joiner? = some (word, op, s)) :
    r ∈ ladder ∧ r.place ≤ s.place ∧ .reserved word ∈ r.followers ∧ s.Ends (.reserved word) ∧
      ∀ rule, r.body spell rule = boolChain rule word op s := by
  cases r <;> cases hr <;> exact ⟨by decide, by decide, by decide, by decide, fun _ => rfl⟩

/-! ## Arithmetic -/

theorem level_facts (spell : List Char → List Char) {operators : List String}
    (hr : r.level? = some (operators, s)) :
    r ∈ ladder ∧ r.place ≤ s.place ∧ r.followers = operators.map Word.op ∧
      (∀ op ∈ operators, s.Ends (.op op)) ∧
      ∀ rule, r.body spell rule = operatorChain rule operators s := by
  cases r <;> cases hr <;>
    exact ⟨by decide, by decide, by decide, by decide, fun _ => rfl⟩

/-- The first operand of a level. -/
theorem ReadsOn.operand {operators : List String} (hr : r.level? = some (operators, s))
    (h : Reads spell s ws e) :
    ReadsOn spell (operatorTail · operators s) joinLeft r s ws e := by
  intro ts rest n xs us hts hrest hends hn hitems
  have hfirst := h ts rest n hts hrest hends hn
  refine takes_of_body ((hfirst.and hitems).mono fun fuel hfuel => ?_)
  rw [(level_facts spell hr).2.2.2.2]
  exact operatorChain_take hfuel.1 hfuel.2

/-- The last operand of a level. -/
theorem ReadsOn.level {operators : List String} (hr : r.level? = some (operators, s))
    (h : ReadsOn spell (operatorTail · operators s) joinLeft r s ws e) : Reads spell r ws e := by
  obtain ⟨hladder, hplace, hfollowers, -⟩ := level_facts spell hr
  intro ts rest n hts hrest hends hn
  refine h ts rest n [] rest hts hrest (hends.mono hplace) hn (.of_forall fun fuel => .done ?_)
  refine operatorTail_none fun op hop => hends.isOp hladder ?_
  rw [hfollowers]
  exact List.mem_map_of_mem hop

/-! ## Calls, subscripts and attributes -/

/-- An expression with what may follow it. -/
abbrev trail (e : Expr) (trailers : List Trailer) : Expr := trailers.foldl Trailer.apply e

theorem ReadsOn.atom (hb : BeginsAll .atom ws) (h : Reads spell .atom ws e) :
    ReadsOn spell trailer trail .primary .atom ws e := by
  intro ts rest n xs us hts hrest hends hn hitems
  have hfirst := h ts rest n hts hrest hends hn
  refine takes_of_body ((hfirst.and hitems).mono fun fuel hfuel => ?_)
  exact primary_take ((hb.current hts rest).isWord (by decide) (by decide)) hfuel.1 hfuel.2

theorem ReadsOn.primary (h : ReadsOn spell trailer trail .primary .atom ws e) :
    Reads spell .primary ws e := by
  intro ts rest n hts hrest hends hn
  refine h ts rest n [] rest hts hrest (hends.mono (by decide)) hn (.of_forall fun fuel => .done ?_)
  exact trailer_none (hends.isOp (by decide) (by decide)) (hends.isOp (by decide) (by decide))
    (hends.isOp (by decide) (by decide))

/-! ## The ladder -/

theorem place_of_tighter (h : r.tighter? = some s) : s.place = r.place + 1 := by
  cases r <;> first | (cases h; done) | (cases h; rfl)

theorem place_le_of_tighter (h : r.tighter? = some s) : r.place ≤ s.place := by
  rw [place_of_tighter h]
  exact Nat.le_succ _

theorem exists_tighter (h : r.place + 1 < ladder.length) :
    ∃ s, r.tighter? = some s ∧ s ∈ ladder ∧ s.place = r.place + 1 := by
  have hs : r.tighter? = some ladder[r.place + 1] := List.getElem?_eq_getElem h
  exact ⟨_, hs, List.getElem_mem h, place_of_tighter hs⟩

/-- What passes from a rule to the next looser one passes to every looser one. -/
theorem climb {motive : Rule → Prop} (step : ∀ r s, r.tighter? = some s → motive s → motive r)
    (hs : s ∈ ladder) (hle : r.place ≤ s.place) (h : motive s) : motive r := by
  generalize hk : s.place - r.place = k
  induction k generalizing r with
  | zero =>
    have heq : s.place = r.place := by omega
    rwa [(List.idxOf_inj hs).mp heq] at h
  | succ k ih =>
    have hlast : s.place < ladder.length := List.idxOf_lt_length_of_mem hs
    obtain ⟨t, ht, -, hplace⟩ := exists_tighter (r := r) (by omega)
    exact step r t ht (ih (by omega) (by omega))

section

variable {n : Nesting} {ts us : List Token} {fuel : Nat}

/-- What a rule takes the looser one takes one level up, before a word at which its phrases end. -/
theorem run_tighter (hr : r.tighter? = some s) (hb : s.Begins (current ts).word)
    (hends : r.Ends (current us).word) (h : outcome (s.run spell fuel) n ts = .ok (e, us)) :
    outcome (r.run spell (fuel + 1)) n ts = .ok (e, us) := by
  show outcome (r.body spell (Rule.run spell fuel)) n ts = .ok (e, us)
  have hjoined : ∀ word op, r.joiner? = some (word, op, s) →
      outcome (r.body spell (Rule.run spell fuel)) n ts = .ok (e, us) := by
    intro word op hjoiner
    obtain ⟨hladder, -, hword, -, hbody⟩ := joiner_facts spell hjoiner
    rw [hbody]
    exact boolChain_take h
      (.done ((ifEatWord_neg (hends.isWord hladder hword)).trans (outcome_pure _)))
  have hlevel : ∀ operators, r.level? = some (operators, s) →
      outcome (r.body spell (Rule.run spell fuel)) n ts = .ok (e, us) := by
    intro operators hlevel
    obtain ⟨hladder, -, hfollowers, -, hbody⟩ := level_facts spell hlevel
    rw [hbody]
    refine operatorChain_take h (.done (operatorTail_none fun op hop => ?_))
    exact hends.isOp hladder (hfollowers ▸ List.mem_map_of_mem hop)
  cases r with
  | test =>
    cases hr
    exact test_plain (hb.isWord (by decide) (by decide)) h (hends.isWord (by decide) (by decide))
  | orTest => cases hr; exact hjoined _ _ rfl
  | andTest => cases hr; exact hjoined _ _ rfl
  | notTest =>
    cases hr
    exact notTest_plain (hb.isWord (by decide) (by decide)) h
  | comparison =>
    cases hr
    exact comparison_take h (.done (comparisonTail_none (comparison?_eq_none_of_ends hends)))
  | factor =>
    cases hr
    exact factor_plain (sign?_eq_none hb (by decide)) h
  | power =>
    cases hr
    exact power_plain h (hends.isOp (by decide) (by decide))
  | primary =>
    cases hr
    refine primary_take (hb.isWord (by decide) (by decide)) h (.done ?_)
    exact trailer_none (hends.isOp (by decide) (by decide)) (hends.isOp (by decide) (by decide))
      (hends.isOp (by decide) (by decide))
  | bitOr => cases hr; exact hlevel _ rfl
  | bitXor => cases hr; exact hlevel _ rfl
  | bitAnd => cases hr; exact hlevel _ rfl
  | shift => cases hr; exact hlevel _ rfl
  | sum => cases hr; exact hlevel _ rfl
  | term => cases hr; exact hlevel _ rfl
  | _ => cases hr

/-- What a rule takes every looser one takes, as many levels up as there are rules between them. -/
theorem run_loosen (hs : s ∈ ladder) (hle : r.place ≤ s.place) (hb : s.Begins (current ts).word)
    (hends : r.Ends (current us).word) (h : outcome (s.run spell fuel) n ts = .ok (e, us)) :
    outcome (r.run spell (fuel + (s.place - r.place))) n ts = .ok (e, us) := by
  have hclimb : r.place ≤ s.place ∧ (r.Ends (current us).word → r.Begins (current ts).word ∧
      outcome (r.run spell (fuel + (s.place - r.place))) n ts = .ok (e, us)) := by
    refine climb (motive := fun r => r.place ≤ s.place ∧ (r.Ends (current us).word →
      r.Begins (current ts).word ∧
        outcome (r.run spell (fuel + (s.place - r.place))) n ts = .ok (e, us)))
      (fun r t hr ⟨hts, ih⟩ => ?_) hs hle ⟨Nat.le_refl _, fun _ => ⟨hb, by rwa [Nat.sub_self]⟩⟩
    have hplace := place_of_tighter hr
    refine ⟨by omega, fun hends => ?_⟩
    obtain ⟨hb, h⟩ := ih (hends.mono (place_le_of_tighter hr))
    have hfuel : fuel + (s.place - r.place) = fuel + (s.place - t.place) + 1 := by omega
    rw [hfuel]
    exact ⟨hb.mono (place_le_of_tighter hr), run_tighter hr hb hends h⟩
  exact (hclimb.2 hends).2

/-- What a rule takes the looser one takes, before a word at which its phrases end. -/
theorem Takes.tighter (hr : r.tighter? = some s) (hb : s.Begins (current ts).word)
    (hends : r.Ends (current us).word) (h : Takes spell s n ts e us) : Takes spell r n ts e us :=
  takes_of_body (h.mono fun _ => run_tighter hr hb hends)

/-- What a rule takes every looser one takes, before a word at which its phrases end. -/
theorem Takes.loosen (hs : s ∈ ladder) (hle : r.place ≤ s.place) (hb : s.Begins (current ts).word)
    (hends : r.Ends (current us).word) (h : Takes spell s n ts e us) : Takes spell r n ts e us := by
  obtain ⟨least, hleast⟩ := eventually_atTop.mp h
  refine eventually_atTop.mpr ⟨least + (s.place - r.place), fun fuel hfuel => ?_⟩
  have hrun := run_loosen hs hle hb hends (hleast (fuel - (s.place - r.place)) (by omega))
  rwa [Nat.sub_add_cancel (by omega)] at hrun

end

/-- The phrases of a rule are phrases of the looser one. -/
theorem Reads.tighter (hr : r.tighter? = some s) (hb : BeginsAll s ws) (h : Reads spell s ws e) :
    Reads spell r ws e := by
  intro ts rest n hts hrest hends hn
  have hphrase := h ts rest n hts hrest (hends.mono (place_le_of_tighter hr)) hn
  exact hphrase.tighter hr (hb.current hts rest) hends

/-! ## Atoms -/

theorem run_name {n : Nesting} {t : Token} {rest : List Token} {text : String}
    (ht : t.word = ⟨.name, text⟩) (h : isKeyword text = false) (hrest : rest ≠ []) (fuel : Nat) :
    outcome (atom.run spell (fuel + 1)) n (t :: rest) =
      .ok (.name (normalizeIdentifier text) .load, rest) := by
  obtain ⟨hkind, rfl⟩ := Word.mk.inj ht
  have hword : wordConstant? t.text = none := by
    unfold wordConstant?
    split
    case h_4 => rfl
    all_goals
      next heq => rw [heq] at h; exact absurd h (by decide)
  have hident : (current (t :: rest)).isIdentifier = true := by
    show (t.kind == .name && !isKeyword t.text) = true
    rw [hkind, h]
    rfl
  have hatom : outcome (Parser.atom spell (Rule.run spell fuel)) n (t :: rest) =
      .ok (.name (normalizeIdentifier t.text) .load, dropCurrent (t :: rest)) :=
    atom_name hident hword
  rwa [dropCurrent_cons hrest] at hatom

theorem Takes.name {n : Nesting} {t : Token} {rest : List Token} {text : String}
    (ht : t.word = ⟨.name, text⟩) (h : isKeyword text = false) (hrest : rest ≠ []) :
    Takes spell .atom n (t :: rest) (.name (normalizeIdentifier text) .load) rest :=
  takes_of_body (.of_forall (run_name ht h hrest))

theorem Reads.name {text : String} (h : isKeyword text = false) :
    Reads spell .atom [⟨.name, text⟩] (.name (normalizeIdentifier text) .load) := by
  intro ts rest n hts hrest _ _
  obtain ⟨t, rfl, ht⟩ := List.map_eq_singleton_iff.mp hts
  exact .name ht h hrest

theorem Reads.number {text : String} {c : Constant} (h : Number.parse text.toList = .ok c) :
    Reads spell .atom [⟨.number, text⟩] (.constant c) := by
  intro ts rest n hts hrest _ _
  obtain ⟨t, rfl, ht⟩ := List.map_eq_singleton_iff.mp hts
  obtain ⟨hkind, rfl⟩ := Word.mk.inj ht
  refine takes_of_body (.of_forall fun fuel => ?_)
  have hatom : outcome (Parser.atom spell (Rule.run spell fuel)) n ([t] ++ rest) =
      .ok (.constant c, dropCurrent ([t] ++ rest)) := atom_number hkind h
  rwa [show dropCurrent ([t] ++ rest) = rest from dropCurrent_cons hrest] at hatom

/-- What stands in brackets is read one level deeper, up to the closing one. -/
theorem Reads.inside {w : Word} (hw : Ends .test w) (h : Reads spell .test ws e) {ts : List Token}
    (hts : ts.map Token.word = ws) {close : Token} (hclose : close.word = w) (rest : List Token)
    {n : Nesting} (hn : n.depth + ws.length < n.limit) :
    Takes spell .test ⟨n.limit, n.depth + 1⟩ (ts ++ close :: rest) e (close :: rest) := by
  refine h ts (close :: rest) _ hts (List.cons_ne_nil _ _) ?_ (by simp only; omega)
  show Ends .test close.word
  rwa [hclose]

theorem Takes.named {n : Nesting} {ts us : List Token} (h : Takes spell .test n ts e us)
    (hwalrus : (current us).isOp ":=" = false) : Takes spell .named n ts e us :=
  takes_of_body (h.mono fun _ hfuel => named_plain hfuel hwalrus)

/-- An operator begins no clause of a comprehension. -/
theorem beginsClause_of_op {t : Token} {text : String} (h : t.word = .op text) (rest : List Token) :
    beginsClause (t :: rest) = false := by
  show (t.isWord "for" || (t.isWord "async" && _)) = false
  rw [Token.isWord_of_op h, Token.isWord_of_op h]
  rfl

theorem Reads.group (hb : BeginsAll .test ws) (h : Reads spell .test ws e) :
    Reads spell .atom (.op "(" :: (ws ++ [.op ")"])) e := by
  intro stream rest n hstream hrest _ hn
  obtain ⟨opening, tail, rfl, hopen, htail⟩ := List.map_eq_cons_iff.mp hstream
  obtain ⟨ts, close, rfl, hts, hclose⟩ := Word.split_last htail
  rw [List.length_cons, List.length_append, List.length_singleton] at hn
  have hbegins := hb.current hts (close :: rest)
  have htest := h.inside (by decide) hts hclose rest (n := n) (by omega)
  have hnamed := htest.named (Token.isOp_of_word hclose (by decide))
  have hstar : Takes spell .starOrNamed ⟨n.limit, n.depth + 1⟩ (ts ++ close :: rest) e
      (close :: rest) :=
    takes_of_body (hnamed.mono fun _ hfuel =>
      starOr_plain (hbegins.isOp (by decide) (by decide)) hfuel)
  have hdrop : dropCurrent (opening :: (ts ++ close :: rest)) = ts ++ close :: rest :=
    dropCurrent_cons (by simp)
  have hbracketed : Takes spell .bracketed ⟨n.limit, n.depth + 1⟩
      (opening :: (ts ++ close :: rest)) e rest := by
    refine takes_of_body (hstar.mono fun fuel hfuel => ?_)
    rw [← hdrop] at hbegins hfuel
    have hgroup : outcome (Parser.bracketed (Rule.run spell fuel)) ⟨n.limit, n.depth + 1⟩
        (opening :: (ts ++ close :: rest)) = .ok (e, dropCurrent (close :: rest)) :=
      bracketed_group (Token.isOp_iff.mpr hopen) (hbegins.isOp (by decide) (by decide))
        (hbegins.isWord (by decide) (by decide)) hfuel (beginsClause_of_op hclose rest)
        (Token.isOp_iff.mpr hclose) (Token.isOp_of_word hclose (by decide))
    rwa [dropCurrent_cons hrest] at hgroup
  refine takes_of_body (hbracketed.mono fun _ hfuel => ?_)
  rw [List.cons_append, List.append_assoc]
  exact atom_group (Token.isOp_iff.mpr hopen) (by omega) hfuel

/-! ## Trailers -/

section

variable {f : Expr}

theorem ReadsOn.attr {text : String} (hname : isKeyword text = false)
    (h : ReadsOn spell trailer trail .primary .atom ws e) :
    ReadsOn spell trailer trail .primary .atom (ws ++ [.op ".", ⟨.name, text⟩])
      (.attr e (normalizeIdentifier text) .load) := by
  intro stream rest n xs us hstream hrest _ hn hitems
  obtain ⟨ts, point, tail, rfl, hts, hpoint, htail⟩ := Word.split_infix hstream
  obtain ⟨name, rfl, hident⟩ := List.map_eq_singleton_iff.mp htail
  obtain ⟨hkind, rfl⟩ := Word.mk.inj hident
  rw [List.length_append] at hn
  rw [List.append_assoc]
  refine h ts (point :: name :: rest) n (.attr (normalizeIdentifier name.text) :: xs) us hts
    (List.cons_ne_nil _ _) ?_ (by omega) (hitems.mono fun fuel hfuel => ?_)
  · show Ends .atom point.word
    rw [hpoint]
    decide
  · have hident : (current (dropCurrent (point :: name :: rest))).isIdentifier = true := by
      show (name.kind == .name && !isKeyword name.text) = true
      rw [hkind, hname]
      rfl
    have hfirst : outcome (trailer (Rule.run spell fuel)) n (point :: name :: rest) =
        .ok (some (.attr (normalizeIdentifier name.text)), dropCurrent (name :: rest)) :=
      trailer_attr (Token.isOp_of_word hpoint (by decide)) (Token.isOp_of_word hpoint (by decide))
        (Token.isOp_iff.mpr hpoint) hident
    rw [dropCurrent_cons hrest] at hfirst
    exact .more hfirst (by simp only [List.length_cons]; omega) hfuel

theorem ReadsOn.subscript (h : ReadsOn spell trailer trail .primary .atom ws e)
    (hb : BeginsAll .test vs) (hslice : Reads spell .test vs f) :
    ReadsOn spell trailer trail .primary .atom (ws ++ .op "[" :: (vs ++ [.op "]"]))
      (.subscript e f .load) := by
  intro stream rest n xs us hstream hrest _ hn hitems
  obtain ⟨ts, opening, tail, rfl, hts, hopen, htail⟩ := Word.split_infix hstream
  obtain ⟨ss, close, rfl, hss, hclose⟩ := Word.split_last htail
  simp only [List.length_append, List.length_cons, List.length_nil] at hn
  have hbegins := hb.current hss (close :: rest)
  have htest := hslice.inside (by decide) hss hclose rest (n := n) (by omega)
  have hsubscript : Takes spell .subscript ⟨n.limit, n.depth + 1⟩ (ss ++ close :: rest) f
      (close :: rest) :=
    takes_of_body (htest.mono fun _ hfuel =>
      subscript_plain (hbegins.isOp (by decide) (by decide)) hfuel
        (Token.isOp_of_word hclose (by decide)))
  have hsubscripts : Takes spell .subscripts ⟨n.limit, n.depth + 1⟩ (ss ++ close :: rest) f
      (close :: rest) :=
    takes_of_body (hsubscript.mono fun _ hfuel =>
      subscripts_single hfuel (Token.isOp_of_word hclose (by decide)))
  rw [List.append_assoc, List.cons_append, List.append_assoc]
  refine h ts _ n (.subscript f :: xs) us hts (List.cons_ne_nil _ _) ?_ (by omega)
    ((hsubscripts.and hitems).mono fun fuel hfuel => ?_)
  · show Ends .atom opening.word
    rw [hopen]
    decide
  · have hdrop : dropCurrent (opening :: (ss ++ close :: rest)) = ss ++ close :: rest :=
      dropCurrent_cons (by simp)
    have hfirst : outcome (trailer (Rule.run spell fuel)) n (opening :: (ss ++ close :: rest)) =
        .ok (some (.subscript f), dropCurrent (close :: rest)) :=
      trailer_subscript (Token.isOp_of_word hopen (by decide)) (Token.isOp_iff.mpr hopen)
        (by omega) (by rw [hdrop]; exact hfuel.1) (Token.isOp_iff.mpr hclose)
    rw [dropCurrent_cons hrest] at hfirst
    exact .more hfirst (by simp only [List.length_cons, List.length_append]; omega) hfuel.2

/-- An argument of a call, before a comma or the closing parenthesis. -/
theorem Reads.argument (hb : BeginsAll .test ws) (h : Reads spell .test ws e) {ts : List Token}
    (hts : ts.map Token.word = ws) {next : Token} {text : String} (hnext : next.word = .op text)
    (htext : text = "," ∨ text = ")") (rest : List Token) {n : Nesting}
    (hn : n.depth + ws.length ≤ n.limit) :
    ∀ᶠ fuel in atTop, ∀ es, outcome (Parser.argument (Rule.run spell fuel) ⟨es, []⟩) n
      (ts ++ next :: rest) = .ok (⟨es ++ [e], []⟩, next :: rest) := by
  have hends : Ends .test next.word := by
    rw [hnext]
    rcases htext with rfl | rfl <;> decide
  have hbegins := hb.current hts (next :: rest)
  have hnamed := (h ts (next :: rest) n hts (List.cons_ne_nil _ _) hends hn).named
    (Token.isOp_of_word hnext (by rcases htext with rfl | rfl <;> decide))
  refine hnamed.mono fun fuel hfuel es => ?_
  exact argument_plain (hbegins.isOp (by decide) (by decide)) (hbegins.isOp (by decide) (by decide))
    hfuel (Token.isOp_of_word hnext (by rcases htext with rfl | rfl <;> decide))
    (beginsClause_of_op hnext rest)

theorem args_read {args : List (List Word × Expr)}
    (hargs : ∀ a ∈ args, BeginsAll .test a.1 ∧ Reads spell .test a.1 a.2) {close : Token}
    (hclose : close.word = .op ")") (rest : List Token) {n : Nesting} {ts : List Token}
    (hts : ts.map Token.word = [.op ","].intercalate (args.map Prod.fst))
    (hn : n.depth + ts.length ≤ n.limit) :
    ∀ᶠ fuel in atTop, ∀ es, Args (Rule.run spell fuel) n es (ts ++ close :: rest)
      (es ++ args.map Prod.snd) (close :: rest) := by
  induction args generalizing ts with
  | nil =>
    cases List.map_eq_nil_iff.mp hts
    refine .of_forall fun fuel es => ?_
    rw [List.map_nil, List.append_nil]
    exact .done (Token.isOp_iff.mpr hclose)
  | cons a args ih =>
    rw [List.forall_mem_cons] at hargs
    obtain ⟨⟨hb, hread⟩, hargs⟩ := hargs
    cases args with
    | nil =>
      have hws : ts.map Token.word = a.1 := by simpa using hts
      rw [← List.length_map Token.word, hws] at hn
      refine (hread.argument hb hws hclose (.inr rfl) rest hn).mono fun fuel hfuel es => ?_
      exact .last ((hb.current hws _).isOp (by decide) (by decide)) (hfuel es)
        (Token.isOp_of_word hclose (by decide))
    | cons b args =>
      rw [List.map_cons, List.map_cons, List.intercalate_cons_cons, List.append_assoc] at hts
      obtain ⟨left, comma, right, rfl, hleft, hcomma, hright⟩ := Word.split_infix hts
      rw [List.length_append, List.length_cons] at hn
      have hlength : left.length = a.1.length := by rw [← hleft, List.length_map]
      have hfirst := hread.argument hb hleft hcomma (.inl rfl) (right ++ close :: rest) (n := n)
        (by omega)
      have hothers := ih hargs hright (by omega)
      rw [List.append_assoc, List.cons_append]
      refine (hfirst.and hothers).mono fun fuel hfuel es => ?_
      have hdrop : dropCurrent (comma :: (right ++ close :: rest)) = right ++ close :: rest :=
        dropCurrent_cons (by simp)
      have hmore := hfuel.2 (es ++ [a.2])
      rw [List.append_assoc, ← hdrop] at hmore
      refine .more ((hb.current hleft _).isOp (by decide) (by decide)) (hfuel.1 es)
        (Token.isOp_iff.mpr hcomma) ?_ hmore
      rw [hdrop]
      simp only [List.length_append, List.length_cons]
      omega

theorem ReadsOn.call {args : List (List Word × Expr)}
    (h : ReadsOn spell trailer trail .primary .atom ws e)
    (hargs : ∀ a ∈ args, BeginsAll .test a.1 ∧ Reads spell .test a.1 a.2) :
    ReadsOn spell trailer trail .primary .atom
      (ws ++ .op "(" :: ([.op ","].intercalate (args.map Prod.fst) ++ [.op ")"]))
      (.call e (args.map Prod.snd) []) := by
  intro stream rest n xs us hstream hrest _ hn hitems
  obtain ⟨ts, opening, tail, rfl, hts, hopen, htail⟩ := Word.split_infix hstream
  obtain ⟨as, close, rfl, has, hclose⟩ := Word.split_last htail
  rw [← has] at hn
  simp only [List.length_append, List.length_cons, List.length_nil, List.length_map] at hn
  have hall := args_read hargs hclose rest (n := ⟨n.limit, n.depth + 1⟩) has
    (by simp only; omega)
  rw [List.append_assoc, List.cons_append, List.append_assoc]
  refine h ts _ n (.call (args.map Prod.snd) [] :: xs) us hts (List.cons_ne_nil _ _) ?_ (by omega)
    ((hall.and hitems).mono fun fuel hfuel => ?_)
  · show Ends .atom opening.word
    rw [hopen]
    decide
  · have hdrop : dropCurrent (opening :: (as ++ close :: rest)) = as ++ close :: rest :=
      dropCurrent_cons (by simp)
    have hinside : outcome (arguments (Rule.run spell fuel)) ⟨n.limit, n.depth + 1⟩
        (dropCurrent (opening :: (as ++ close :: rest))) =
          .ok (⟨args.map Prod.snd, []⟩, close :: rest) := by
      rw [hdrop]
      exact (hfuel.1 []).arguments
    have hfirst : outcome (trailer (Rule.run spell fuel)) n (opening :: (as ++ close :: rest)) =
        .ok (some (.call (args.map Prod.snd) []), dropCurrent (close :: rest)) :=
      trailer_call (Token.isOp_iff.mpr hopen) (by omega) hinside (Token.isOp_iff.mpr hclose)
    rw [dropCurrent_cons hrest] at hfirst
    exact .more hfirst (by simp only [List.length_cons, List.length_append]; omega) hfuel.2

end

/-! ## Operators -/

theorem Reads.power_op {base exponent : Expr} (hbase : Reads spell .primary ws base)
    (hexponent : Reads spell .factor vs exponent) :
    Reads spell .power (ws ++ .op "**" :: vs) (.binOp base .pow exponent) := by
  intro stream rest n hstream hrest hends hn
  obtain ⟨left, op, right, rfl, hleft, hop, hright⟩ := Word.split_infix hstream
  rw [List.length_append, List.length_cons] at hn
  rw [List.append_assoc, List.cons_append]
  have hends' : Ends .primary op.word := by
    rw [hop]
    decide
  have hfirst := hbase left (op :: (right ++ rest)) n hleft (List.cons_ne_nil _ _) hends' (by omega)
  have hsecond := hexponent right rest ⟨n.limit, n.depth + 1⟩ hright hrest hends.factor
    (by simp only; omega)
  refine takes_of_body ((hfirst.and hsecond).mono fun fuel hfuel => ?_)
  refine power_take hfuel.1 (Token.isOp_iff.mpr hop) (by omega) ?_
  rw [dropCurrent_cons (by simp [hrest])]
  exact hfuel.2

/-- A prefix of a rule, behind which the rule is followed once more, one level deeper. -/
theorem Reads.behind {w : Word} {f : Expr} (h : Reads spell r ws e)
    (htake : ∀ rule n t ts us, t.word = w → n.depth < n.limit →
      outcome (rule r) ⟨n.limit, n.depth + 1⟩ (dropCurrent (t :: ts)) = .ok (e, us) →
      outcome (r.body spell rule) n (t :: ts) = .ok (f, us)) : Reads spell r (w :: ws) f := by
  intro stream rest n hstream hrest hends hn
  obtain ⟨t, ts, rfl, ht, hts⟩ := List.map_eq_cons_iff.mp hstream
  rw [List.length_cons] at hn
  have hoperand := h ts rest ⟨n.limit, n.depth + 1⟩ hts hrest hends (by simp only; omega)
  refine takes_of_body (hoperand.mono fun fuel hfuel => ?_)
  refine htake _ n t (ts ++ rest) rest ht (by omega) ?_
  rw [dropCurrent_cons (by simp [hrest])]
  exact hfuel

/-- The signs and the operators that they stand for. -/
def signs : List (String × UnaryOperator) := [("+", .plus), ("-", .minus), ("~", .invert)]

theorem sign?_of_mem {t : Token} {text : String} {op : UnaryOperator} (h : (text, op) ∈ signs)
    (ht : t.word = .op text) : sign? t = some op := by
  obtain ⟨hkind, rfl⟩ := Word.mk.inj ht
  unfold sign?
  rw [hkind]
  simp only [signs, List.mem_cons, Prod.mk.injEq, List.not_mem_nil, or_false] at h
  rcases h with ⟨h, rfl⟩ | ⟨h, rfl⟩ | ⟨h, rfl⟩ <;> rw [h] <;> rfl

theorem Reads.sign {text : String} {op : UnaryOperator} (hsign : (text, op) ∈ signs)
    (h : Reads spell .factor ws e) : Reads spell .factor (.op text :: ws) (.unaryOp op e) := by
  refine h.behind fun rule n t ts us ht hn hoperand => ?_
  have hcurrent : sign? (current (t :: ts)) = some op := sign?_of_mem hsign ht
  exact factor_sign hcurrent hn hoperand

theorem Reads.negation (h : Reads spell .notTest ws e) :
    Reads spell .notTest (.reserved "not" :: ws) (.unaryOp .not e) := by
  refine h.behind fun rule n t ts us ht hn hoperand => ?_
  have hcurrent : (current (t :: ts)).isWord "not" = true := Token.isWord_iff.mpr ht
  exact notTest_not hcurrent hn hoperand

/-- One more operand of a level. -/
theorem ReadsOn.operator {operators : List String} {text : String} {op : Operator} {right : Expr}
    (hr : r.level? = some (operators, s)) (hmem : text ∈ operators)
    (hop : Operator.ofToken? text = some op)
    (h : ReadsOn spell (operatorTail · operators s) joinLeft r s ws e)
    (hright : Reads spell s vs right) :
    ReadsOn spell (operatorTail · operators s) joinLeft r s (ws ++ .op text :: vs)
      (.binOp e op right) := by
  intro stream rest n xs us hstream hrest hends hn hitems
  obtain ⟨left, t, second, rfl, hleft, ht, hsecond⟩ := Word.split_infix hstream
  rw [List.length_append, List.length_cons] at hn
  rw [List.append_assoc, List.cons_append]
  have hends' : s.Ends t.word := by
    rw [ht]
    exact (level_facts spell hr).2.2.2.1 text hmem
  have htakes := hright second rest n hsecond hrest hends (by omega)
  refine h left _ n ((op, right) :: xs) us hleft (List.cons_ne_nil _ _) hends' (by omega)
    ((htakes.and hitems).mono fun fuel hfuel => ?_)
  obtain ⟨hkind, rfl⟩ := Word.mk.inj ht
  have hfirst : outcome (operatorTail (Rule.run spell fuel) operators s) n
      (t :: (second ++ rest)) = .ok (some (op, right), rest) := by
    refine operatorTail_some hkind hmem hop ?_
    rw [dropCurrent_cons (by simp [hrest])]
    exact hfuel.1
  refine .more hfirst ?_ hfuel.2
  simp only [List.length_cons, List.length_append]
  omega

/-! ## Chains of items -/

/-- An item of a chain takes the tokens of some words to a value, before a word at which a phrase of
the rule `s` ends. -/
def ReadsItem {β : Type} (spell : List Char → List Char)
    (item : (Rule → Parser Expr) → Parser (Option β)) (s : Rule) (ws : List Word) (b : β) : Prop :=
  ∀ ts rest n, ts.map Token.word = ws → rest ≠ [] → s.Ends (current rest).word →
    n.depth + ws.length ≤ n.limit →
    ∀ᶠ fuel in atTop, outcome (item (Rule.run spell fuel)) n (ts ++ rest) = .ok (some b, rest)

/-- Items stand next to each other if each begins with a word at which the one before it ends, and
there is no further item. -/
theorem items_read {β : Type} {item : (Rule → Parser Expr) → Parser (Option β)} {rest : List Token}
    {n : Nesting} (hrest : rest ≠ []) (hends : s.Ends (current rest).word)
    (hnone : ∀ rule, outcome (item rule) n rest = .ok (none, rest)) {items : List (List Word × β)}
    (hitems : ∀ i ∈ items, (∃ w vs, i.1 = w :: vs ∧ s.Ends w) ∧ ReadsItem spell item s i.1 i.2)
    {ts : List Token} (hts : ts.map Token.word = (items.map Prod.fst).flatten)
    (hn : n.depth + ts.length ≤ n.limit) :
    s.Ends (current (ts ++ rest)).word ∧
      ∀ᶠ fuel in atTop, Items (item (Rule.run spell fuel)) n (ts ++ rest) (items.map Prod.snd)
        rest := by
  induction items generalizing ts with
  | nil =>
    cases List.map_eq_nil_iff.mp hts
    exact ⟨hends, .of_forall fun fuel => .done (hnone _)⟩
  | cons i items ih =>
    rw [List.forall_mem_cons] at hitems
    obtain ⟨⟨⟨w, vs, hi, hw⟩, hread⟩, hitems⟩ := hitems
    obtain ⟨left, right, rfl, hleft, hright⟩ := List.map_eq_append_iff.mp hts
    rw [List.length_append] at hn
    have hlength : left.length = i.1.length := by rw [← hleft, List.length_map]
    obtain ⟨hnext, hothers⟩ := ih hitems hright (by omega)
    have hfirst := hread left (right ++ rest) n hleft (by simp [hrest]) hnext (by omega)
    rw [hi] at hleft
    obtain ⟨t, tail, rfl, ht, -⟩ := List.map_eq_cons_iff.mp hleft
    rw [List.append_assoc]
    refine ⟨ht ▸ hw, (hfirst.and hothers).mono fun fuel hfuel => .more hfuel.1 ?_ hfuel.2⟩
    simp only [List.length_append, List.length_cons]
    omega

/-- An operand after a word that joins it to those before. -/
theorem readsItem_joined {word : String} (h : Reads spell s ws e) :
    ReadsItem spell (fun rule => optional (eatWord word) (rule s)) s (.reserved word :: ws) e := by
  intro stream rest n hstream hrest hends hn
  obtain ⟨t, ts, rfl, ht, hts⟩ := List.map_eq_cons_iff.mp hstream
  rw [List.length_cons] at hn
  have hcurrent : (current (t :: ts ++ rest)).isWord word = true := Token.isWord_iff.mpr ht
  have hdrop : dropCurrent (t :: ts ++ rest) = ts ++ rest := by
    rw [List.cons_append, dropCurrent_cons (by simp [hrest])]
  refine (h ts rest n hts hrest hends (by omega)).mono fun fuel hfuel => ?_
  refine (ifEatWord_pos hcurrent).trans ?_
  rw [hdrop, outcome_bind_of hfuel]
  rfl

/-- Several operands with a word between them. -/
theorem Reads.boolean {word : String} {op : BoolOperator} {values : List (List Word × Expr)}
    (hr : r.joiner? = some (word, op, s)) (h : Reads spell s ws e) (hne : values ≠ [])
    (hvalues : ∀ v ∈ values, Reads spell s v.1 v.2) :
    Reads spell r (ws ++ (values.map fun v => .reserved word :: v.1).flatten)
      (.boolOp op (e :: values.map Prod.snd)) := by
  obtain ⟨hladder, hplace, hword, hoperand, hbody⟩ := joiner_facts spell hr
  intro stream rest n hstream hrest hends hn
  obtain ⟨ts, us, rfl, hts, hus⟩ := List.map_eq_append_iff.mp hstream
  have hlength := congrArg List.length hus
  have hlength' := congrArg List.length hts
  rw [List.length_map] at hlength hlength'
  rw [List.length_append, ← hlength, ← hlength'] at hn
  have hitems : ∀ i ∈ values.map fun v => (Word.reserved word :: v.1, v.2),
      (∃ w vs, i.1 = w :: vs ∧ s.Ends w) ∧
        ReadsItem spell (fun rule => optional (eatWord word) (rule s)) s i.1 i.2 := by
    rw [List.forall_mem_map]
    exact fun v hv => ⟨⟨_, _, rfl, hoperand⟩, readsItem_joined (hvalues v hv)⟩
  have hus' : us.map Token.word = ((values.map fun v => (Word.reserved word :: v.1, v.2)).map
      Prod.fst).flatten := by
    rw [hus, List.map_map]
    rfl
  obtain ⟨hnext, hrun⟩ := items_read hrest (hends.mono hplace) (fun rule =>
    (ifEatWord_neg (hends.isWord hladder hword)).trans (outcome_pure _)) hitems hus' (n := n)
    (by omega)
  have hfirst := h ts (us ++ rest) n hts (by simp [hrest]) hnext (by omega)
  rw [List.append_assoc]
  refine takes_of_body ((hfirst.and hrun).mono fun fuel hfuel => ?_)
  rw [hbody, boolChain_take hfuel.1 hfuel.2, List.map_map, if_neg (by simpa using hne)]
  rfl

/-! ## Comparisons -/

/-- A comparison and its right operand. -/
theorem readsItem_compared (c : Comparison) (hb : BeginsAll .bitOr ws)
    (h : Reads spell .bitOr ws e) :
    ReadsItem spell comparisonTail .bitOr (c.words ++ ws) (c, e) := by
  intro stream rest n hstream hrest hends hn
  obtain ⟨left, ts, rfl, hleft, hts⟩ := List.map_eq_append_iff.mp hstream
  rw [List.length_append] at hn
  have hbegins := hb.current hts rest
  refine (h ts rest n hts hrest hends (by omega)).mono fun fuel hfuel => ?_
  rw [List.append_assoc]
  rcases c.words_cases with ⟨w, hw⟩ | ⟨w, w', hw⟩
  · rw [hw] at hleft
    obtain ⟨t, rfl, ht⟩ := List.map_eq_singleton_iff.mp hleft
    have hdrop : dropCurrent ([t] ++ (ts ++ rest)) = ts ++ rest :=
      dropCurrent_cons (by simp [hrest])
    have hcomparison : comparison? t (current (dropCurrent ([t] ++ (ts ++ rest)))) =
        some (c, false) := by
      rw [hdrop]
      exact comparison?_one hw ht (hbegins.isWord (by decide) (by decide))
    refine comparisonTail_some hcomparison ?_
    rw [if_neg Bool.false_ne_true, hdrop]
    exact hfuel
  · rw [hw] at hleft
    obtain ⟨t, tail, rfl, ht, htail⟩ := List.map_eq_cons_iff.mp hleft
    obtain ⟨u, rfl, hu⟩ := List.map_eq_singleton_iff.mp htail
    have hdrop : dropCurrent ([t, u] ++ (ts ++ rest)) = u :: (ts ++ rest) := rfl
    have hcomparison : comparison? t (current (dropCurrent ([t, u] ++ (ts ++ rest)))) =
        some (c, true) := comparison?_two hw ht hu
    refine comparisonTail_some hcomparison ?_
    rw [if_pos rfl, hdrop, dropCurrent_cons (by simp [hrest])]
    exact hfuel

/-- A chain of comparisons. -/
theorem Reads.compare {rest : List (Comparison × List Word × Expr)} (h : Reads spell .bitOr ws e)
    (hne : rest ≠ [])
    (hrest : ∀ x ∈ rest, BeginsAll .bitOr x.2.1 ∧ Reads spell .bitOr x.2.1 x.2.2) :
    Reads spell .comparison (ws ++ (rest.map fun x => x.1.words ++ x.2.1).flatten)
      (.compare e (rest.map fun x => x.1) (rest.map fun x => x.2.2)) := by
  intro stream after n hstream hafter hends hn
  obtain ⟨ts, us, rfl, hts, hus⟩ := List.map_eq_append_iff.mp hstream
  rw [List.length_append, ← hts, ← hus, List.length_map, List.length_map] at hn
  have hitems : ∀ i ∈ rest.map fun x => (x.1.words ++ x.2.1, x.1, x.2.2),
      (∃ w vs, i.1 = w :: vs ∧ Ends .bitOr w) ∧
        ReadsItem spell comparisonTail .bitOr i.1 i.2 := by
    rw [List.forall_mem_map]
    intro x hx
    refine ⟨?_, readsItem_compared x.1 (hrest x hx).1 (hrest x hx).2⟩
    obtain ⟨w, vs, hw, hwends⟩ := x.1.words_ends
    exact ⟨w, vs ++ x.2.1, by rw [hw]; rfl, hwends⟩
  have hus' : us.map Token.word = ((rest.map fun x => (x.1.words ++ x.2.1, x.1, x.2.2)).map
      Prod.fst).flatten := by
    rw [hus, List.map_map]
    rfl
  obtain ⟨hnext, hrun⟩ := items_read hafter (hends.mono (by decide)) (fun rule =>
    comparisonTail_none (comparison?_eq_none_of_ends hends)) hitems hus' (n := n) (by omega)
  have hfirst := h ts (us ++ after) n hts (by simp [hafter]) hnext
    (by rw [← hts, List.length_map]; omega)
  rw [List.append_assoc]
  refine takes_of_body ((hfirst.and hrun).mono fun fuel hfuel => ?_)
  refine (comparison_take hfuel.1 hfuel.2).trans ?_
  rw [List.map_map, List.map_map, List.map_map, if_neg (by simpa using hne)]
  rfl

/-! ## Conditions -/

theorem Reads.condition {body condition orelse : Expr} {us : List Word}
    (hb : BeginsAll .orTest ws) (hbody : Reads spell .orTest ws body)
    (hcondition : Reads spell .orTest vs condition) (horelse : Reads spell .test us orelse) :
    Reads spell .test (ws ++ .reserved "if" :: (vs ++ .reserved "else" :: us))
      (.ifExp condition body orelse) := by
  intro stream rest n hstream hrest hends hn
  obtain ⟨first, ifWord, tail, rfl, hfirst, hif, htail⟩ := Word.split_infix hstream
  obtain ⟨second, elseWord, third, rfl, hsecond, helse, hthird⟩ := Word.split_infix htail
  simp only [List.length_append, List.length_cons] at hn
  simp only [List.append_assoc, List.cons_append]
  have hifEnds : Ends .orTest ifWord.word := by
    rw [hif]
    decide
  have helseEnds : Ends .orTest elseWord.word := by
    rw [helse]
    decide
  have htakes := hbody first (ifWord :: (second ++ elseWord :: (third ++ rest))) n hfirst
    (List.cons_ne_nil _ _) hifEnds (by omega)
  have htakes' := hcondition second (elseWord :: (third ++ rest)) n hsecond
    (List.cons_ne_nil _ _) helseEnds (by omega)
  have htakes'' := horelse third rest ⟨n.limit, n.depth + 1⟩ hthird hrest hends
    (by simp only; omega)
  refine takes_of_body ((htakes.and (htakes'.and htakes'')).mono fun fuel hfuel => ?_)
  obtain ⟨hfuel, hfuel', hfuel''⟩ := hfuel
  have hdrop : dropCurrent (ifWord :: (second ++ elseWord :: (third ++ rest))) =
      second ++ elseWord :: (third ++ rest) := dropCurrent_cons (by simp)
  have hdrop' : dropCurrent (elseWord :: (third ++ rest)) = third ++ rest :=
    dropCurrent_cons (by simp [hrest])
  rw [← hdrop] at hfuel'
  rw [← hdrop'] at hfuel''
  exact test_condition ((hb.current hfirst _).isWord (by decide) (by decide)) hfuel
    (Token.isWord_iff.mpr hif) hfuel' (Token.isWord_iff.mpr helse) (by omega) hfuel''

end Rule

end PythonSyntax
