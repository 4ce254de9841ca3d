import PythonSyntax.Proofs.Formatted.RoundTrip
import PythonSyntax.Proofs.Tree.Derived

/-
Values one after the other.

The values of a literal are texts and fields in turn: no two texts are neighbours.  Where two lists of
values meet, the texts on both sides of the seam become one, and that is all there is to the pieces of
two literals in a row.
-/

namespace PythonSyntax.Parser

open Node (AreFields)

/-- Two lists of values in a row: the texts at the seam are one constant. -/
def joinValues : List Expr → List Expr → List Expr
  | [.constant (.str t)], .constant (.str u) :: ys => .constant (.str (t ++ u)) :: ys
  | [], ys => ys
  | x :: xs, ys => x :: joinValues xs ys

theorem joinValues_nil (ys : List Expr) : joinValues [] ys = ys := rfl

/-- What is no text stays apart. -/
theorem joinValues_cons {x : Expr} (hx : ∀ t, x ≠ .constant (.str t)) (xs ys : List Expr) :
    joinValues (x :: xs) ys = x :: joinValues xs ys := by
  rw [joinValues]
  exact fun t _ _ _ h => absurd h (hx t)

/-- Only the last value meets what follows. -/
theorem joinValues_cons_cons (x y : Expr) (xs ys : List Expr) :
    joinValues (x :: y :: xs) ys = x :: joinValues (y :: xs) ys := by
  rw [joinValues]
  exact nofun

theorem joinValues_text (t : Text) (ys : List Expr) :
    joinValues (textValue t) ys = Part.prepend t ys := by
  unfold textValue Part.prepend
  cases t with
  | nil => rfl
  | cons c t =>
    rw [if_neg (List.cons_ne_nil c t), List.isEmpty_cons, if_neg Bool.false_ne_true]
    split
    · rfl
    · next h =>
      rw [joinValues, joinValues_nil]
      exact fun _ u ys hys _ _ => h u ys hys

/-- Two texts are one. -/
theorem joinValues_textValue (t u : Text) :
    joinValues (textValue t) (textValue u) = textValue (t ++ u) := by
  have hend : ∀ v : Text, Part.prepend v [] = textValue v := fun v =>
    (Part.prepend_apart v [] nofun).trans (List.append_nil _)
  rw [joinValues_text, ← hend u, ← Part.prepend_append, hend]

/-- Values in front of the last ones. -/
theorem joinValues_append_cons (t : Text) {x : Expr} (hx : ∀ t, x ≠ .constant (.str t))
    (xs ys : List Expr) :
    joinValues (textValue t ++ x :: xs) ys = textValue t ++ x :: joinValues xs ys := by
  unfold textValue
  split
  · exact joinValues_cons hx xs ys
  · rw [List.singleton_append, joinValues_cons_cons, joinValues_cons hx]
    rfl

/-! ## Pieces in a row -/

variable {ps qs : List Piece}

theorem ne_text_of_isField {e : Expr} (h : e.isField = true) (t : Text) : e ≠ .constant (.str t) := by
  rintro rfl
  cases h

theorem areFields_tail {p : Piece} (h : AreFields (p :: ps)) : AreFields ps :=
  fun e he => h e (List.mem_cons_of_mem p he)

/-- A text in front of pieces is a text in front of their values. -/
theorem mergeAfter_eq_prepend (h : AreFields ps) (t : Text) :
    mergeAfter t ps = Part.prepend t (merge ps) := by
  induction ps generalizing t with
  | nil => exact ((Part.prepend_apart t [] nofun).trans (List.append_nil _)).symm
  | cons p ps ih =>
    cases p with
    | text u =>
      rw [merge, mergeAfter, mergeAfter, ih (areFields_tail h), ih (areFields_tail h), List.nil_append,
        Part.prepend_append]
    | value e =>
      have he := ne_text_of_isField (h e List.mem_cons_self)
      rw [merge, mergeAfter, mergeAfter, Part.prepend_apart]
      · rfl
      · intro u vs heq
        exact he u (List.cons.inj heq).1

theorem merge_text_value (t : Text) (e : Expr) (ps : List Piece) :
    merge (.text t :: .value e :: ps) = textValue t ++ e :: merge ps := rfl

/-- The text in front of a value that is no text, and the value, can be told from the list. -/
theorem textValue_append_cons {t u : Text} {x y : Expr} {xs ys : List Expr}
    (hx : ∀ t, x ≠ .constant (.str t)) (hy : ∀ t, y ≠ .constant (.str t))
    (h : textValue t ++ x :: xs = textValue u ++ y :: ys) : t = u ∧ x = y ∧ xs = ys := by
  cases t with
  | nil =>
    cases u with
    | nil =>
      obtain ⟨rfl, rfl⟩ := List.cons.inj h
      exact ⟨rfl, rfl, rfl⟩
    | cons => exact absurd (List.cons.inj h).1 (hx _)
  | cons =>
    cases u with
    | nil => exact absurd (List.cons.inj h).1.symm (hy _)
    | cons =>
      obtain ⟨ht, htail⟩ := List.cons.inj h
      obtain ⟨rfl, rfl⟩ := List.cons.inj htail
      cases ht
      exact ⟨rfl, rfl, rfl⟩

/-- The values of pieces in a row. -/
theorem merge_append (hps : AreFields ps) (hqs : AreFields qs) :
    merge (ps ++ qs) = joinValues (merge ps) (merge qs) := by
  have hafter : ∀ t, mergeAfter t (ps ++ qs) = joinValues (mergeAfter t ps) (merge qs) := by
    induction ps with
    | nil => exact fun t => (mergeAfter_eq_prepend hqs t).trans (joinValues_text t _).symm
    | cons p ps ih =>
      intro t
      cases p with
      | text u => exact ih (areFields_tail hps) (t ++ u)
      | value e =>
        have he := ne_text_of_isField (hps e List.mem_cons_self)
        rw [List.cons_append, mergeAfter, mergeAfter, ih (areFields_tail hps), joinValues_append_cons t he]
  exact hafter []

/-- Texts are one text. -/
theorem merge_texts (ts : List Text) : merge (ts.map Piece.text) = textValue ts.flatten := by
  have hafter : ∀ t, mergeAfter t (ts.map Piece.text) = textValue (t ++ ts.flatten) := by
    induction ts with
    | nil => exact fun t => congrArg textValue (List.append_nil t).symm
    | cons u ts ih =>
      intro t
      rw [List.map_cons, mergeAfter, ih, List.flatten_cons, List.append_assoc]
  exact hafter []

end PythonSyntax.Parser
