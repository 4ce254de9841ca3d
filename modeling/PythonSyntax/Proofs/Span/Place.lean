import PythonSyntax.SyntaxError
import PythonSyntax.Token

/-
Texts that lie in a source.

A text lies at a byte offset if the source is something of that many bytes, then the text, and
then anything.  A span holds a text if the text lies at its start and ends at its stop: the slice
of the source between the two is the text, and both lie between characters.
-/

namespace PythonSyntax

variable {source text a b : List Char} {offset n : Nat}

/-! ## Offsets -/

/-- The text lies at the offset in the source. -/
def Lies (source text : List Char) (offset : Nat) : Prop :=
  ∃ before after, source = before ++ (text ++ after) ∧ byteLength before = offset

/-- The text lies at the offset in the source, and there is more of the source behind it. -/
def LiesInside (source text : List Char) (offset : Nat) : Prop :=
  ∃ before after, source = before ++ (text ++ after) ∧ byteLength before = offset ∧ after ≠ []

theorem Lies.self (source : List Char) : Lies source source 0 :=
  ⟨[], [], by rw [List.nil_append, List.append_nil], rfl⟩

theorem Lies.left (h : Lies source (a ++ b) offset) : Lies source a offset := by
  obtain ⟨before, after, rfl, hbefore⟩ := h
  exact ⟨before, b ++ after, by rw [List.append_assoc], hbefore⟩

theorem Lies.right (h : Lies source (a ++ b) offset) :
    Lies source b (offset + byteLength a) := by
  obtain ⟨before, after, rfl, rfl⟩ := h
  exact ⟨before ++ a, after, by simp only [List.append_assoc], byteLength_append _ _⟩

/-- All but the end of a text that lies in a source. -/
theorem Lies.inside (h : Lies source (a ++ b) offset) (hb : b ≠ []) :
    LiesInside source a offset := by
  obtain ⟨before, after, rfl, hbefore⟩ := h
  exact ⟨before, b ++ after, by rw [List.append_assoc], hbefore, by simp [hb]⟩

theorem LiesInside.lies (h : LiesInside source text offset) : Lies source text offset := by
  obtain ⟨before, after, heq, hbefore, -⟩ := h
  exact ⟨before, after, heq, hbefore⟩

theorem LiesInside.left (h : LiesInside source (a ++ b) offset) : LiesInside source a offset := by
  obtain ⟨before, after, rfl, hbefore, hafter⟩ := h
  exact ⟨before, b ++ after, by rw [List.append_assoc], hbefore, by simp [hafter]⟩

theorem LiesInside.right (h : LiesInside source (a ++ b) offset) :
    LiesInside source b (offset + byteLength a) := by
  obtain ⟨before, after, rfl, rfl, hafter⟩ := h
  exact ⟨before ++ a, after, by simp only [List.append_assoc], byteLength_append _ _, hafter⟩

/-- Behind the first character of a text that lies in a source. -/
theorem LiesInside.tail {c : Char} (h : LiesInside source (c :: text) offset) :
    LiesInside source text (offset + c.utf8Size) := by
  have hright := LiesInside.right (a := [c]) h
  rwa [byteLength_cons, byteLength_nil, Nat.add_zero] at hright

/-! ## Looking -/

/-- Whether the text lies at the offset in the source. -/
def liesAt (text : List Char) : List Char → Nat → Bool
  | source, 0 => text.isPrefixOf source
  | [], _ + 1 => false
  | c :: source, n + 1 => decide (c.utf8Size ≤ n + 1) && liesAt text source (n + 1 - c.utf8Size)

theorem lies_zero : Lies source text 0 ↔ text <+: source := by
  constructor
  · rintro ⟨before, after, rfl, hbefore⟩
    cases before with
    | nil => exact List.prefix_append _ _
    | cons c before =>
      rw [byteLength_cons] at hbefore
      have hc := c.utf8Size_pos
      omega
  · rintro ⟨after, rfl⟩
    exact (Lies.self _).left

theorem lies_cons {c : Char} :
    Lies (c :: source) text (n + 1) ↔
      c.utf8Size ≤ n + 1 ∧ Lies source text (n + 1 - c.utf8Size) := by
  constructor
  · rintro ⟨before, after, heq, hbefore⟩
    cases before with
    | nil => cases hbefore
    | cons d before =>
      obtain ⟨rfl, rfl⟩ := List.cons.inj heq
      rw [byteLength_cons] at hbefore
      exact ⟨by omega, before, after, rfl, by omega⟩
  · rintro ⟨hle, before, after, rfl, hbefore⟩
    exact ⟨c :: before, after, rfl, by rw [byteLength_cons]; omega⟩

theorem liesAt_iff : liesAt text source offset = true ↔ Lies source text offset := by
  induction source generalizing offset with
  | nil =>
    cases offset with
    | zero => rw [liesAt, lies_zero, List.isPrefixOf_iff_prefix]
    | succ n =>
      refine ⟨(nomatch ·), ?_⟩
      rintro ⟨before, after, heq, hbefore⟩
      rw [(List.append_eq_nil_iff.mp heq.symm).1] at hbefore
      cases hbefore
  | cons c source ih =>
    cases offset with
    | zero => rw [liesAt, lies_zero, List.isPrefixOf_iff_prefix]
    | succ n => rw [liesAt, lies_cons, Bool.and_eq_true, decide_eq_true_iff, ih]

instance : Decidable (Lies source text offset) := decidable_of_iff _ liesAt_iff

/-! ## Spans -/

namespace Span

/-- The slice of the source in the span is the text. -/
def Holds (s : Span) (source text : List Char) : Prop :=
  Lies source text s.start ∧ s.stop = s.start + byteLength text

instance {s : Span} : Decidable (s.Holds source text) := inferInstanceAs (Decidable (_ ∧ _))

/-- The span is one of the source, and begins between two characters. -/
structure Within (s : Span) (source : List Char) : Prop where
  start_le_stop : s.start ≤ s.stop
  stop_le : s.stop ≤ byteLength source
  boundary : Lies source [] s.start

/-- The span is one of the source, and begins and ends between two characters. -/
structure Whole (s : Span) (source : List Char) : Prop where
  start_le_stop : s.start ≤ s.stop
  start_boundary : Lies source [] s.start
  stop_boundary : Lies source [] s.stop

theorem holds_of_lies (h : Lies source text offset) :
    Holds ⟨offset, offset + byteLength text⟩ source text :=
  ⟨h, rfl⟩

theorem Holds.whole {s : Span} (h : s.Holds source text) : s.Whole source := by
  obtain ⟨hlies, hstop⟩ := h
  refine ⟨by omega, Lies.left (a := []) hlies, ?_⟩
  rw [hstop]
  exact Lies.right (b := []) (by rwa [List.append_nil])

/-- No text lies at any offset at which a text does. -/
theorem whole_of_lies (h : Lies source text offset) : Whole ⟨offset, offset⟩ source :=
  (holds_of_lies (Lies.left (a := []) h)).whole

theorem Whole.within {s : Span} (h : s.Whole source) : s.Within source := by
  refine ⟨h.start_le_stop, ?_, h.start_boundary⟩
  obtain ⟨before, after, heq, hbefore⟩ := h.stop_boundary
  rw [heq, byteLength_append]
  omega

/-- One byte of a source, where there is more of it. -/
theorem within_of_inside (h : LiesInside source text offset) :
    Within ⟨offset, offset + 1⟩ source := by
  obtain ⟨before, after, rfl, rfl, hafter⟩ := h
  refine ⟨Nat.le_succ _, ?_, ⟨before, text ++ after, rfl, rfl⟩⟩
  obtain ⟨c, r, rfl⟩ := List.exists_cons_of_ne_nil hafter
  have hc := c.utf8Size_pos
  rw [byteLength_append, byteLength_append, byteLength_cons]
  dsimp only
  omega

theorem Whole.union {s t : Span} (hs : s.Whole source) (ht : t.Whole source) :
    (s.union t).Whole source := by
  have hle := hs.start_le_stop
  refine ⟨?_, ?_, ?_⟩
  · simp only [Span.union]
    omega
  · show Lies source [] (min s.start t.start)
    rcases Nat.le_total s.start t.start with h | h
    · rw [Nat.min_eq_left h]
      exact hs.start_boundary
    · rw [Nat.min_eq_right h]
      exact ht.start_boundary
  · show Lies source [] (max s.stop t.stop)
    rcases Nat.le_total s.stop t.stop with h | h
    · rw [Nat.max_eq_right h]
      exact ht.stop_boundary
    · rw [Nat.max_eq_left h]
      exact hs.stop_boundary

end Span

/-- A token whose text is the slice of the source in its span. -/
def Token.Placed (t : Token) (source : List Char) : Prop := t.span.Holds source t.text.toList

instance {t : Token} : Decidable (t.Placed source) :=
  inferInstanceAs (Decidable (t.span.Holds source t.text.toList))

/-! ## Errors -/

/-- The causes that are blamed on one byte of a replacement field, whatever character begins there. -/
def Cause.isAtByte : Cause → Bool
  | fieldEmpty | fieldUnclosed | fieldOpenString | fieldConversion | fieldTooDeep => true
  | _ => false

/-- An error that marks whole characters of the source, or the first byte of one. -/
inductive SyntaxError.Marks (source : List Char) : SyntaxError → Prop where
  | whole {cause span} : Span.Whole span source → Marks source ⟨cause, span⟩
  | byte {cause offset} : cause.isAtByte = true → LiesInside source [] offset →
      Marks source ⟨cause, ⟨offset, offset + 1⟩⟩

theorem SyntaxError.Marks.within {e : SyntaxError} (h : e.Marks source) : e.span.Within source := by
  cases h with
  | whole h => exact h.within
  | byte _ h => exact Span.within_of_inside h

/-! ## Results -/

/-- A value of which `Q` holds, or an error of which `P` does. -/
inductive Settles {α : Type} (P : SyntaxError → Prop) (Q : α → Prop) :
    Except SyntaxError α → Prop where
  | ok {x : α} : Q x → Settles P Q (.ok x)
  | error {e : SyntaxError} : P e → Settles P Q (.error e)

namespace Settles

variable {α β : Type} {P P' : SyntaxError → Prop} {Q Q' : α → Prop} {R : β → Prop}
  {r : Except SyntaxError α}

theorem bind {f : α → Except SyntaxError β} (h : Settles P Q r)
    (hf : ∀ a, Q a → Settles P R (f a)) : Settles P R (r >>= f) := by
  cases h with
  | ok ha => exact hf _ ha
  | error he => exact .error he

theorem map {f : α → β} (h : Settles P Q r) (hf : ∀ a, Q a → R (f a)) : Settles P R (r.map f) := by
  cases h with
  | ok ha => exact .ok (hf _ ha)
  | error he => exact .error he

theorem mono (h : Settles P Q r) (hP : ∀ e, P e → P' e) (hQ : ∀ a, Q a → Q' a) :
    Settles P' Q' r := by
  cases h with
  | ok ha => exact .ok (hQ _ ha)
  | error he => exact .error (hP _ he)

theorem of_ok {a : α} (h : Settles P Q (.ok a)) : Q a := by
  cases h with
  | ok ha => exact ha

theorem of_error {e : SyntaxError} (h : Settles P Q (.error e)) : P e := by
  cases h with
  | error he => exact he

end Settles

end PythonSyntax
