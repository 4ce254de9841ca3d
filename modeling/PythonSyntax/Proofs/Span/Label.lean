import PythonSyntax.Proofs.Position
import PythonSyntax.Proofs.Span.Program
import PythonSyntax.Reading

/-
What the label of an error covers.

An error is blamed on tokens, on a place between them, or on one byte of a replacement field.  In the
last case the search through the field stands at some character, and nothing bounds which one.
`label_boundaries`: the label of every refused program begins at a character boundary, and ends at one
except where such a byte is the first of a longer character.
-/

namespace PythonSyntax

variable {source : List Char} {n : Nat}

theorem isBoundary_iff_lies : IsBoundary source n ↔ Lies source [] n := by
  constructor
  · rintro ⟨before, ⟨after, rfl⟩, rfl⟩
    exact ⟨before, after, rfl, rfl⟩
  · rintro ⟨before, after, rfl, rfl⟩
    exact ⟨before, List.prefix_append _ _, rfl⟩

/-- There is no boundary behind the first byte of a longer character. -/
theorem not_lies_succ {c : Char} (h : Lies source [c] n) (hc : 1 < c.utf8Size) :
    ¬ Lies source [] (n + 1) := by
  obtain ⟨before, after, rfl, rfl⟩ := h
  induction before with
  | nil =>
    intro hlies
    have hsize : c.utf8Size ≤ 1 := (lies_cons.mp hlies).1
    omega
  | cons d before ih =>
    intro hlies
    have hrest := (lies_cons.mp hlies).2
    rw [byteLength_cons, Nat.add_assoc, Nat.add_sub_cancel_left] at hrest
    exact ih hrest

/-- The error is blamed on one byte of a replacement field, where a character begins that takes more. -/
def SyntaxError.SplitsCharacter (e : SyntaxError) (source : List Char) : Prop :=
  e.cause.isAtByte = true ∧ e.span.stop = e.span.start + 1 ∧
    ∃ c, Lies source [c] e.span.start ∧ 1 < c.utf8Size

theorem SyntaxError.Marks.stop_iff {e : SyntaxError} (h : e.Marks source) :
    IsBoundary source e.span.stop ↔ ¬ e.SplitsCharacter source := by
  rw [isBoundary_iff_lies]
  constructor
  · rintro hstop ⟨-, hone, c, hlies, hc⟩
    rw [hone] at hstop
    exact not_lies_succ hlies hc hstop
  · intro hsplits
    cases h with
    | whole h => exact h.stop_boundary
    | @byte cause offset hcause hinside =>
      obtain ⟨before, after, rfl, rfl, hafter⟩ := hinside
      obtain ⟨c, r, rfl⟩ := List.exists_cons_of_ne_nil hafter
      have hlies : Lies (before ++ c :: r) [c] (byteLength before) := ⟨before, r, rfl, rfl⟩
      have hsize : c.utf8Size = 1 := by
        have hpos := c.utf8Size_pos
        by_contra hne
        exact hsplits ⟨hcause, rfl, c, hlies, by omega⟩
      have hright := Lies.right (a := [c]) (b := []) hlies
      rwa [byteLength_cons, byteLength_nil, hsize] at hright

theorem Span.Within.clamp_eq {s : Span} (h : s.Within source) : s.clamp (byteLength source) = s := by
  have hstart := h.start_le_stop
  have hstop := h.stop_le
  rw [Span.clamp, Nat.min_eq_left (hstart.trans hstop), Nat.min_eq_left hstop, Nat.max_eq_right hstart]

/-- The label of a refused program begins at a character boundary.  It ends at one too, unless the
error is blamed on one byte of a replacement field and the character there takes more. -/
theorem label_boundaries {name : String} {source : List Char} {maxNesting : Nat} {f : Failure}
    (h : Module.ofSource name source maxNesting = .error f) :
    ∃ e label, parseModule source maxNesting = .error e ∧ f.label? = some label ∧
      IsBoundary source label.start ∧
      (IsBoundary source (label.start + label.length) ↔ ¬ e.SplitsCharacter source) := by
  rw [Module.ofSource] at h
  cases hparse : parseModule source maxNesting with
  | ok m => rw [hparse] at h; cases h
  | error e =>
    rw [hparse] at h
    cases h
    have hmarks := marks_of_parseModule hparse
    have hlength : e.span.start + e.span.length = e.span.stop :=
      Nat.add_sub_cancel' hmarks.within.start_le_stop
    refine ⟨e, e.span, rfl, congrArg some hmarks.within.clamp_eq, ?_, ?_⟩
    · exact isBoundary_iff_lies.mpr hmarks.within.boundary
    · rw [hlength]
      exact hmarks.stop_iff

theorem label_boundaries_bracket :
    ∃ f label, ∃ e : SyntaxError, Module.ofSource unnamedSource ['é', ')'] 1 = .error f ∧
      f.label? = some label ∧ IsBoundary ['é', ')'] label.start ∧
      (IsBoundary ['é', ')'] (label.start + label.length) ↔ ¬ e.SplitsCharacter ['é', ')']) := by
  obtain ⟨e, he, -⟩ := exists_rejection (x := parseModule ['é', ')'] 1) (p := fun _ => true)
    (by decide +kernel)
  have hfailure : Module.ofSource unnamedSource ['é', ')'] 1 =
      .error (e.inSource unnamedSource ['é', ')']) := by rw [Module.ofSource, he]; rfl
  obtain ⟨e, label, -, h⟩ := label_boundaries hfailure
  exact ⟨_, label, e, hfailure, h⟩

/-- A field with a conversion that there is not. -/
def accentedConversion : List Char := ['f', '"', '{', 'x', '!', 'é', '}', '"']

/-- The error is blamed on the first of the two bytes of the conversion, and so its label ends inside
of a character. -/
theorem label_inside_conversion :
    ∃ f label, Module.ofSource unnamedSource accentedConversion 1 = .error f ∧
      f.label? = some label ∧ ¬ IsBoundary accentedConversion (label.start + label.length) := by
  obtain ⟨e, he, hspan⟩ := exists_rejection (x := parseModule accentedConversion 1)
    (p := fun e => e.span == ⟨5, 6⟩) (by decide +kernel)
  have hlabel : (e.inSource unnamedSource accentedConversion).label? = some ⟨5, 6⟩ := by
    show some (e.span.clamp _) = _
    rw [beq_iff_eq.mp hspan]
    rfl
  refine ⟨_, _, by rw [Module.ofSource, he]; rfl, hlabel, ?_⟩
  rw [isBoundary_iff_lies]
  decide +kernel

end PythonSyntax
