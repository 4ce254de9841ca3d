import PythonSyntax.Proofs.Agreement.Verbatim
import PythonSyntax.Proofs.Parser.Dangling
import PythonSyntax.Proofs.Parser.Progress

/-
The tokens of operands.

What the rule for an operand takes from a stream closes the brackets that it opens, and no comma stands
outside of them.  Inside brackets any rule may be at work; that it closes what it opens is read off a run
that is compared with itself, with the number of open brackets as the likeness of the streams.  Outside
brackets only the rules from `bitOr` down to the atom are, and `Leads` says of each of them where it
leaves the stream.
-/

namespace PythonSyntax

open PythonSyntax.Parser PythonSyntax.Parser.Likeness PythonSyntax.Parser.TokenLikeness

variable {src ts us : List Token} {t : Token} {j k : Nat}

/-! ## Open brackets -/

/-- Whether a token is an opening bracket. -/
def Token.opens (t : Token) : Bool := t.kind == .op && Layout.isOpening t.text

theorem Token.opens_iff :
    t.opens = true ↔ t.kind = .op ∧ (t.text = "(" ∨ t.text = "[" ∨ t.text = "\x7b") := by
  simp [Token.opens, Layout.isOpening, or_assoc]

theorem Token.opens_of_isOp {op : String} (h : t.isOp op = true) (hop : Layout.isOpening op = true) :
    t.opens = true := by
  rw [Token.isOp, Bool.and_eq_true, beq_iff_eq (b := op)] at h
  rw [Token.opens, h.1, h.2, hop]
  rfl

/-- Whether a token is a closing bracket. -/
def Token.closes (t : Token) : Bool := t.kind == .op && Layout.isClosing t.text

/-- The number of open brackets after a token of an operand, where `k` are open before it: no bracket is
closed that is not open, and no comma stands outside brackets. -/
def Token.depth? (t : Token) (k : Nat) : Option Nat :=
  if t.opens then some (k + 1)
  else if t.closes then
    match k with
    | 0 => none
    | k + 1 => some k
  else if !t.isPlain || (k == 0 && t.isOp ",") then none
  else some k

/-- The number of open brackets after tokens of an operand, where `k` are open before them. -/
def depth? (k : Nat) (ts : List Token) : Option Nat := ts.foldlM (fun k t => t.depth? k) k

/-- The tokens close the brackets that they open, and no comma stands outside of these. -/
def IsTight (ts : List Token) : Prop := depth? 0 ts = some 0

theorem depth?_of_opens (h : t.opens = true) : t.depth? k = some (k + 1) := if_pos h

theorem depth?_of_closes (h : t.closes = true) : t.depth? (k + 1) = some k := by
  have hopens : t.opens = false := by
    refine Bool.eq_false_iff.mpr fun hopens => ?_
    rw [Token.closes, Bool.and_eq_true] at h
    rcases (Token.opens_iff.mp hopens).2 with ht | ht | ht <;> rw [ht] at h <;>
      exact absurd h.2 (by decide)
  unfold Token.depth?
  rw [hopens, h]
  rfl

theorem depth?_of_plain (h : t.isPlain = true) (hcomma : k = 0 → t.isOp "," = false) :
    t.depth? k = some k := by
  have hbracket : t.opens = false ∧ t.closes = false := by
    simp only [Token.isPlain, Layout.isBracketText, Bool.and_eq_true, Bool.not_eq_true',
      Bool.and_eq_false_iff, Bool.or_eq_false_iff] at h
    rcases h.2 with h | h <;> simp [Token.opens, Token.closes, h]
  have hpass : (k == 0 && t.isOp ",") = false := by
    cases k with
    | zero => exact hcomma rfl
    | succ k => rfl
  unfold Token.depth?
  rw [hbracket.1, hbracket.2, h, hpass]
  rfl

/-- A token that may stand somewhere is not the end of the stream. -/
theorem not_endMarker_of_depth? (h : t.depth? k = some j) : t.kind ≠ .endMarker := by
  intro hk
  simp [Token.depth?, Token.opens, Token.closes, Token.isPlain, hk, TokenKind.isContent] at h

theorem depth?_append {w v : List Token} (h : depth? k w = some j) : depth? k (w ++ v) = depth? j v := by
  rw [depth?, List.foldlM_append]
  rw [depth?] at h
  rw [h]
  rfl

/-! ## Streams at a depth -/

/-- A stream is what is left of `src` after tokens of an operand, with `k` brackets open. -/
structure Depth (src : List Token) (k : Nat) (ts : List Token) : Prop where
  readable : Readable ts
  taken : ∃ w, src = w ++ ts ∧ depth? 0 w = some k

namespace Depth

theorem self (h : Readable ts) : Depth ts 0 ts := ⟨h, [], rfl, rfl⟩

/-- The first token is taken. -/
theorem drop (h : Depth src k ts) (hk : (current ts).depth? k = some j) :
    Depth src j (dropCurrent ts) := by
  obtain ⟨w, rfl, hw⟩ := h.taken
  obtain ⟨t, us, rfl, hd, hus, -⟩ := h.readable.tail (not_endMarker_of_depth? hk)
  rw [hd]
  refine ⟨hus, w ++ [t], by rw [List.append_assoc]; rfl, ?_⟩
  rw [depth?_append hw]
  show (Token.depth? t k >>= pure) = some j
  rw [show Token.depth? t k = some j from hk]
  rfl

theorem plain (h : Depth src (k + 1) ts) (ht : (current ts).isPlain = true) :
    Depth src (k + 1) (dropCurrent ts) :=
  h.drop (depth?_of_plain ht fun hk => absurd hk (Nat.succ_ne_zero k))

end Depth

/-! ## Inside brackets -/

/-- Two runs that stop nowhere stop at the same places. -/
theorem stops_nowhere {kind : TokenKind} {op : String} (h : False) :
    (kind = .endMarker ∨ kind = .newline) ∧ (op = ")" ∨ op = ";") := h.elim

/-- A run compared with itself inside brackets. -/
def inBrackets (src : List Token) : Likeness where
  toTokenLikeness := verbatim True False
  streams k ts us := ts = us ∧ Depth src (k + 1) ts
  stops _ _ := False
  stops_cases := @stops_nowhere
  stop := False.elim
  first h := .inl (h.1 ▸ same_self _ _ fun _ => rfl)
  plain h ht := ⟨by rw [h.1], h.2.plain ht⟩
  opening h hk ht := ⟨by rw [h.1], h.2.drop (depth?_of_opens (by simp [Token.opens, hk, ht]))⟩
  closing h hk ht := ⟨by rw [h.1], h.2.drop (depth?_of_closes (by simp [Token.closes, hk, ht]))⟩
  length_le h := h.1 ▸ Nat.le_refl _

variable {spell : List Char → List Char} {rule : Rule → Parser Expr} {α β : Type} {p : Parser α}

theorem rules_inBrackets (fuel : Nat) :
    (inBrackets src).Rules (Rule.run spell fuel) (Rule.run spell fuel) := by
  refine rules_around True False (¬ True) (fun rule rule' hrule => ?_) (Nat.le_refl fuel)
  exact .of_ne_nil fun ts us hts hne k =>
    strings_readsSame hrule hts hne ((inBrackets src).streams k)

/-- What agrees with itself keeps the number of open brackets. -/
theorem keeps_of_agrees {Q : α → α → Prop} (h : (inBrackets src).Agrees p p Q) (k : Nat) :
    Keeps (Depth src (k + 1)) p := by
  intro n ts a us hs ho
  have hresults := h k ts ts n n ⟨rfl, hs⟩ ⟨Nat.le_refl _, .inr rfl⟩
  rw [ho] at hresults
  obtain ⟨r, -, -, -, hdepth⟩ := hresults.of_ok
  exact hdepth

/-! ## Taking tokens -/

theorem depth?_of_isOp {op : String} (h : t.isOp op = true) (hop : Layout.isBracketText op = false)
    (hcomma : k = 0 → op ≠ ",") : t.depth? k = some k := by
  refine depth?_of_plain (isPlain_of_isOp h hop) fun hk => ?_
  rw [Token.isOp, (kind_text_of_isOp h).2, beq_false_of_ne (hcomma hk), Bool.and_false]

theorem depth?_of_kind (hc : t.kind.isContent = true) (hk : t.kind ≠ .op) : t.depth? k = some k :=
  depth?_of_plain (isPlain_of_kind hc hk) fun _ => by rw [Token.isOp, beq_false_of_ne hk]; rfl

theorem depth?_of_isWord {word : String} (h : t.isWord word = true) : t.depth? k = some k := by
  rw [Token.isWord, Bool.and_eq_true, beq_iff_eq] at h
  exact depth?_of_kind (by rw [h.1]; rfl) (by rw [h.1]; decide)

theorem closes_of_isOp {op : String} (h : t.isOp op = true) (hop : Layout.isClosing op = true) :
    t.closes = true := by
  obtain ⟨hk, ht⟩ := kind_text_of_isOp h
  simp [Token.closes, hk, ht, hop]

theorem opens_of_isOp {op : String} (h : t.isOp op = true) (hop : Layout.isOpening op = true) :
    t.opens = true := by
  obtain ⟨hk, ht⟩ := kind_text_of_isOp h
  simp [Token.opens, hk, ht, hop]

namespace Depth

theorem eatIf {test : Token → Bool} (h : ∀ t, test t = true → t.depth? k = some k) :
    Keeps (Depth src k) (eatIf test) := by
  intro n ts a us hs ho
  rw [outcome_eatIf] at ho
  split at ho
  · next ht =>
    cases ho
    exact hs.drop (h _ ht)
  · cases ho
    exact hs

theorem expect {test : Token → Bool} (h : ∀ t, test t = true → t.depth? k = some j) :
    Leads (Depth src k) (Depth src j) (expect test) := by
  intro n ts a us hs ho
  rw [outcome_expect] at ho
  split at ho
  · next ht =>
    cases ho
    exact hs.drop (h _ ht)
  · cases ho

/-- An operator that is no bracket, nor a comma outside brackets. -/
theorem eatOp {op : String} (hop : Layout.isBracketText op = false) (hcomma : k = 0 → op ≠ ",") :
    Keeps (Depth src k) (eatOp op) := eatIf fun _ ht => depth?_of_isOp ht hop hcomma

theorem eatWord {word : String} : Keeps (Depth src k) (eatWord word) :=
  eatIf fun _ ht => depth?_of_isWord ht

theorem identifier : Keeps (Depth src k) identifier := by
  refine .bind (expect fun t ht => ?_) fun _ => .pure
  have hk := kind_of_isIdentifier ht
  exact depth?_of_kind (by rw [hk]; rfl) (by rw [hk]; nofun)

theorem optionalString : Keeps (Depth src k) (Parser.optional (atKind .string) advance) := by
  intro n ts a us hs ho
  have ho : outcome (if ((current ts).kind == TokenKind.string) = true
    then (do return some (← advance)) else return none) n ts = .ok (a, us) := ho
  split at ho
  · next hk =>
    cases ho
    have hk := beq_iff_eq.mp hk
    exact hs.drop (depth?_of_kind (by rw [hk]; rfl) (by rw [hk]; nofun))
  · cases ho
    exact hs

/-- The bracket that is open is closed. -/
theorem close {op : String} (hop : Layout.isClosing op = true) :
    Leads (Depth src 1) (Depth src 0) (expectOp op) :=
  .bind (expect fun _ ht => depth?_of_closes (closes_of_isOp ht hop)) fun _ => .pure

theorem ifClose {op : String} {q : Parser α} (hop : Layout.isClosing op = true)
    (hp : Keeps (Depth src 0) p) (hq : Leads (Depth src 1) (Depth src 0) q) :
    Leads (Depth src 1) (Depth src 0) (Parser.eatOp op >>= fun b => if b = true then p else q) := by
  intro n ts a us hs ho
  rw [outcome_bind, Parser.eatOp, outcome_eatIf] at ho
  split at ho
  · next ht => exact hp n _ a us (hs.drop (depth?_of_closes (closes_of_isOp ht hop))) ho
  · exact hq n ts a us hs ho

/-- A token of which it is known that it may stand there. -/
theorem advance_bind {U : List Token → Prop} {f : Token → Parser β} (ht : t.depth? k = some j)
    (h : ∀ t, Leads (Depth src j) U (f t)) :
    Leads (fun ts => Depth src k ts ∧ current ts = t) U (advance >>= f) := by
  rintro n ts a us ⟨hs, rfl⟩ ho
  exact h _ n _ a us (hs.drop ht) ho

/-- An opening bracket. -/
theorem open_bind {f : Token → Parser β} (h : ∀ t, Leads (Depth src 1) (Depth src 0) (f t)) :
    Leads (fun ts => Depth src 0 ts ∧ (current ts).opens = true) (Depth src 0) (advance >>= f) := by
  rintro n ts a us ⟨hs, ht⟩ ho
  exact h _ n _ a us (hs.drop (depth?_of_opens ht)) ho

end Depth

/-! ## The rules -/

/-- Whether a rule is that of operands, or one below it. -/
def Rule.isOperand : Rule → Bool
  | bitOr | bitXor | bitAnd | shift | sum | term | factor | power | primary | atom => true
  | _ => false

/-- Outside brackets the rules for operands take no comma, and close what they open.  The rule of braces
goes on behind an opening one. -/
structure Operands (src : List Token) (rule : Rule → Parser Expr) : Prop where
  operand {r : Rule} : r.isOperand = true → Keeps (Depth src 0) (rule r)
  bracketed : Leads (fun ts => Depth src 0 ts ∧ (current ts).opens = true) (Depth src 0)
    (rule .bracketed)
  dictOrSet : Leads (Depth src 1) (Depth src 0) (rule .dictOrSet)

section

variable (hrules : (inBrackets src).Rules rule rule)
include hrules

theorem keeps_rule {r : Rule} (hr : isWhole r = true) : Keeps (Depth src 1) (rule r) :=
  keeps_of_agrees (hrules.below hr) 0

theorem keeps_clauses : Keeps (Depth src 1) (clauses rule) := keeps_of_agrees hrules.clauses 0

theorem keeps_itemsUntil (closing : String) {r : Rule} (hr : isWhole r = true) :
    Keeps (Depth src 1) (itemsUntil closing (rule r)) :=
  keeps_of_agrees (Rules.itemsUntil (c := inBrackets src) (fun _ _ hs => hs.elim) (hrules.below hr)) 0

theorem keeps_arguments : Keeps (Depth src 1) (arguments rule) := by
  have hcomma : Keeps (Depth src 1) (eatOp ",") := Depth.eatOp rfl nofun
  refine .iterate fun s => .bind .atOp fun _ => .ite .pure (.bind ?_ fun _ => hcomma.bind fun _ => .pure)
  refine .peek_bind_any fun here => .bind (Depth.eatOp rfl nofun) fun _ => .ite ?_ ?_
  · exact .ite .failAt ((keeps_rule hrules rfl).bind fun _ => .pure)
  refine .bind (Depth.eatOp rfl nofun) fun _ => .ite ((keeps_rule hrules rfl).bind fun _ => .pure) ?_
  refine (keeps_rule hrules rfl).bind fun e => .bind (Depth.eatOp rfl nofun) fun _ => .ite ?_ ?_
  · split
    · exact (keeps_rule hrules rfl).bind fun _ => .pure
    · exact .failAt
  refine .bind .startsClause fun _ => .ite ?_ (.ite .failAt (.ite .failAt .pure))
  exact (keeps_clauses hrules).bind fun _ => .bind .atOp fun _ => .bind .peekNext fun _ => .ite .failAt .pure

theorem keeps_inside (closing : String) : Keeps (Depth src 1) (inside rule closing) := by
  refine (keeps_rule hrules rfl).bind fun _ => .bind .startsClause fun _ => .ite ?_ ?_
  · exact (keeps_clauses hrules).bind fun _ => .pure
  · exact .bind .atOp fun _ => (keeps_itemsUntil hrules closing rfl).bind fun _ => .pure

theorem leads_parenthesized : Leads (Depth src 1) (Depth src 0) (parenthesized rule) := by
  refine Depth.ifClose rfl .pure <| .bind .atWord fun _ => .ite ?_ ?_
  · exact (keeps_rule hrules rfl).bind fun _ => (Depth.close rfl).bind fun _ => .pure
  · refine (keeps_inside hrules _).bind fun content => (Depth.close rfl).bind fun _ => ?_
    split <;> exact .pure

theorem leads_listDisplay : Leads (Depth src 1) (Depth src 0) (listDisplay rule) := by
  refine Depth.ifClose rfl .pure ?_
  refine (keeps_inside hrules _).bind fun content => (Depth.close rfl).bind fun _ => ?_
  split <;> exact .pure

theorem leads_dictRest (first : Option Expr × Expr) :
    Leads (Depth src 1) (Depth src 0) (dictRest rule first) := by
  have hentry : Keeps (Depth src 1) (dictEntry rule) := keeps_of_agrees hrules.dictEntry 0
  refine .bind (.many ?_) fun _ => (Depth.close rfl).bind fun _ => .pure
  refine .bind (Depth.eatOp rfl nofun) fun _ => .ite ?_ .pure
  exact .bind .atOp fun _ => .ite .pure (hentry.bind fun _ => .pure)

theorem leads_setRest (first : Expr) : Leads (Depth src 1) (Depth src 0) (setRest rule first) := by
  refine .bind .startsClause fun _ => .ite ?_ ?_
  · exact (keeps_clauses hrules).bind fun _ => (Depth.close rfl).bind fun _ => .pure
  · exact (keeps_itemsUntil hrules _ rfl).bind fun _ => (Depth.close rfl).bind fun _ => .pure

theorem leads_dictOrSet : Leads (Depth src 1) (Depth src 0) (dictOrSet rule) := by
  refine Depth.ifClose rfl .pure <| .bind (Depth.eatOp rfl nofun) fun _ => .ite ?_ ?_
  · exact (keeps_rule hrules rfl).bind fun _ => leads_dictRest hrules _
  refine (keeps_rule hrules rfl).bind fun first => .ite (leads_setRest hrules first) ?_
  refine .bind (Depth.eatOp rfl nofun) fun _ => .ite ?_ (leads_setRest hrules first)
  refine (keeps_rule hrules rfl).bind fun value => .bind .startsClause fun _ => .ite ?_ ?_
  · exact (keeps_clauses hrules).bind fun _ => (Depth.close rfl).bind fun _ => .pure
  · exact leads_dictRest hrules _

theorem keeps_trailer : Keeps (Depth src 0) (trailer rule) := by
  have hopen : ∀ {op}, Layout.isOpening op = true → ∀ ts, Depth src 0 ts ∧ (current ts).isOp op = true →
      Depth src 0 ts ∧ (current ts).opens = true := fun hop ts hs => ⟨hs.1, opens_of_isOp hs.2 hop⟩
  refine .ifAtOp (.nested ?_) (.ifAtOp (.nested ?_) ?_)
  · refine Leads.pre (Depth.open_bind fun _ => ?_) (hopen rfl)
    exact (keeps_arguments hrules).bind fun _ => (Depth.close rfl).bind fun _ => .pure
  · refine Leads.pre (Depth.open_bind fun _ => ?_) (hopen rfl)
    exact (keeps_rule hrules rfl).bind fun _ => (Depth.close rfl).bind fun _ => .pure
  · exact .bind (Depth.eatOp rfl (by decide)) fun _ => .ite (Depth.identifier.bind fun _ => .pure) .pure

end

namespace Operands

variable (h : Operands src rule)
include h

theorem operatorChain (operators : List String) {operand : Rule} (hr : operand.isOperand = true) :
    Keeps (Depth src 0) (operatorChain rule operators operand) := by
  have htail : Keeps (Depth src 0) (operatorTail rule operators operand) := by
    refine .peek_bind fun t => ?_
    split
    · exact Leads.pure.pre fun _ => And.left
    · next op hop =>
      refine Depth.advance_bind (j := 0) ?_ fun _ => (h.operand hr).bind fun _ => .pure
      split at hop
      · next hcond =>
        rw [Bool.and_eq_true, beq_iff_eq] at hcond
        refine depth?_of_isOp (isOp_of_kind hcond.1 rfl) (Rules.isBracketText_of_ofToken? hop) ?_
        rintro - hcomma
        rw [hcomma] at hop
        cases hop
      · cases hop
  exact (h.operand hr).bind fun _ => (Leads.many htail).bind fun _ => .pure

theorem factor : Keeps (Depth src 0) (factor rule) := by
  refine .peek_bind fun t => ?_
  split
  · next op hsign =>
    refine Depth.advance_bind (j := 0) ?_ fun _ => .bind (.nested (h.operand rfl)) fun _ => .pure
    refine depth?_of_plain (Rules.isPlain_of_sign? hsign) fun _ => Bool.eq_false_iff.mpr fun hcomma => ?_
    obtain ⟨hk, ht⟩ := kind_text_of_isOp hcomma
    rw [sign?, hk, ht] at hsign
    cases hsign
  · exact (h.operand rfl).pre fun _ => And.left

theorem power : Keeps (Depth src 0) (power rule) :=
  (h.operand rfl).bind fun _ => .bind (Depth.eatOp rfl (by decide)) fun _ =>
    .ite (.bind (.nested (h.operand rfl)) fun _ => .pure) .pure

theorem primary (hrules : (inBrackets src).Rules rule rule) : Keeps (Depth src 0) (primary rule) :=
  Depth.eatWord.bind fun _ => (h.operand rfl).bind fun _ =>
    .bind (.many (keeps_trailer hrules)) fun _ => .pure

theorem atom : Keeps (Depth src 0) (atom spell rule) := by
  refine .peek_bind fun t => ?_
  split
  · next hk =>
    split
    · next htext =>
      refine (Leads.nested h.bracketed).pre fun ts hs => ⟨hs.1, ?_⟩
      rw [hs.2, Token.opens, hk]
      rcases htext with htext | htext | htext <;> rw [htext] <;> rfl
    · refine Leads.pre ?_ fun _ => And.left
      exact .bind (Depth.eatOp rfl (by decide)) fun _ => .ite .pure .unexpected
  · next hk =>
    refine Depth.advance_bind (depth?_of_kind (by rw [hk]; rfl) (by rw [hk]; nofun)) fun _ => ?_
    split
    · exact .pure
    · exact .failAt
  · refine Leads.pre ?_ fun _ => And.left
    exact (Leads.many Depth.optionalString).bind fun _ => .strings
  · next hk =>
    split
    · exact Depth.advance_bind (depth?_of_kind (by rw [hk]; rfl) (by rw [hk]; nofun)) fun _ => .pure
    · exact Leads.pre (Depth.identifier.bind fun _ => .pure) fun _ => And.left
  · exact .unexpected

end Operands

/-! ## All rules -/

theorem operands_body (hrules : (inBrackets src).Rules rule rule) (h : Operands src rule) :
    Operands src (Rule.body spell rule) where
  operand {r} hr := by
    cases r with
    | bitOr => exact h.operatorChain _ rfl
    | bitXor => exact h.operatorChain _ rfl
    | bitAnd => exact h.operatorChain _ rfl
    | shift => exact h.operatorChain _ rfl
    | sum => exact h.operatorChain _ rfl
    | term => exact h.operatorChain _ rfl
    | factor => exact h.factor
    | power => exact h.power
    | primary => exact h.primary hrules
    | atom => exact h.atom
    | _ => cases hr
  bracketed := Depth.open_bind fun _ =>
    .ite (leads_parenthesized hrules) (.ite (leads_listDisplay hrules) h.dictOrSet)
  dictOrSet := leads_dictOrSet hrules

theorem operands_run (fuel : Nat) : Operands src (Rule.run spell fuel) := by
  induction fuel with
  | zero => exact ⟨fun _ => .fail, .fail, .fail⟩
  | succ fuel ih => exact operands_body (rules_inBrackets fuel) ih

/-- What the rule for an operand takes closes the brackets that it opens, with no comma outside them. -/
theorem exists_tight {fuel : Nat} {n : Nesting} {e : Expr} (hts : Readable ts)
    (h : outcome (Rule.run spell fuel .bitOr) n ts = .ok (e, us)) : ∃ w, ts = w ++ us ∧ IsTight w :=
  ((operands_run fuel).operand rfl n ts e us (.self hts) h).taken

end PythonSyntax
