import PythonSyntax.Proofs.Indexed.Stored
import PythonSyntax.Proofs.Json.Spaced

/-
Texts that are put together.

A stored text begins as a string and grows at its end, by characters, strings, single surrogates and
other stored texts, copies of itself among them.  `Built s t` says that `s` comes about in this way
and that `t` is the sequence of all code points that were put in.  Each step keeps `s` what storing
`t` code point by code point gives, `ofText t`, in which every surrogate stands between the
characters around it.  So nothing of the sequence is lost: all that can be asked of `s` is answered
as `t` answers it.
-/

namespace PythonSyntax.Indexed.Stored

variable {s s' : Stored} {t t' : Text}

/-! ## Building -/

/-- The stored text of a string. -/
def ofChars (cs : List Char) : Stored := ⟨cs, []⟩

/-- A string behind a stored text. -/
def pushChars (s : Stored) (cs : List Char) : Stored := { s with chars := s.chars ++ cs }

/-- `s` is put together from the code points of `t`, in order. -/
inductive Built : Stored → Text → Prop
  | ofChars (cs : List Char) : Built (ofChars cs) (Text.ofChars cs)
  | push {s : Stored} {t : Text} (p : CodePoint) : Built s t → Built (s.push p) (t ++ [p])
  | pushChars {s : Stored} {t : Text} (cs : List Char) : Built s t →
      Built (s.pushChars cs) (t ++ Text.ofChars cs)
  | append {s s' : Stored} {t t' : Text} : Built s t → Built s' t' → Built (s.append s') (t ++ t')

theorem ofText_ofChars (cs : List Char) : ofText (Text.ofChars cs) = ofChars cs := by
  induction cs with
  | nil => rfl
  | cons c cs ih =>
    show ofText (.scalar c :: Text.ofChars cs) = _
    rw [ofText_scalar, ih]
    rfl

theorem pushChars_eq_append (s : Stored) (cs : List Char) :
    s.pushChars cs = s.append (ofChars cs) := by
  simp [pushChars, append, ofChars, shift]

/-- However it is put together, a stored text is what its code points are stored as. -/
theorem Built.eq_ofText (h : Built s t) : s = ofText t := by
  induction h with
  | ofChars cs => exact (ofText_ofChars cs).symm
  | push p _ ih =>
    rw [ih, ofText, ofText, List.foldl_append]
    rfl
  | pushChars cs _ ih => rw [pushChars_eq_append, ofText_append, ofText_ofChars, ih]
  | append _ _ ih ih' => rw [ofText_append, ih, ih']

/-! ## Offsets -/

/-- Each surrogate stands between two parts of the characters. -/
theorem split_ofText (t : Text) : ∀ x ∈ (ofText t).surrogates,
    ∃ pre post, (ofText t).chars = pre ++ post ∧ byteLength pre = x.1 := by
  induction t with
  | nil => exact nofun
  | cons p t ih =>
    cases p with
    | scalar c =>
      rw [ofText_scalar]
      refine List.forall_mem_map.mpr fun x hx => ?_
      obtain ⟨pre, post, hchars, hpre⟩ := ih x hx
      exact ⟨c :: pre, post, congrArg (c :: ·) hchars, by rw [byteLength_cons, hpre]⟩
    | surrogate i =>
      rw [ofText_surrogate]
      exact List.forall_mem_cons.mpr ⟨⟨[], _, rfl, rfl⟩, ih⟩

theorem pairwise_ofText (t : Text) : (ofText t).surrogates.Pairwise (·.1 ≤ ·.1) := by
  induction t with
  | nil => exact .nil
  | cons p t ih =>
    cases p with
    | scalar c =>
      rw [ofText_scalar]
      exact List.pairwise_map.mpr (ih.imp fun h => Nat.add_le_add_left h _)
    | surrogate i =>
      rw [ofText_surrogate]
      exact List.pairwise_cons.mpr ⟨fun _ _ => Nat.zero_le _, ih⟩

/-! ## What a stored text says -/

/-- Different texts are stored differently. -/
theorem ofText_injective (h : ofText t = ofText t') : t = t' := by
  obtain ⟨ps, hps, rfl⟩ := pieces?_ofText t
  obtain ⟨ps', hps', rfl⟩ := pieces?_ofText t'
  rw [h, hps'] at hps
  cases hps
  rfl

/-- Whether nothing is stored. -/
def isEmpty (s : Stored) : Bool := s.chars.isEmpty && s.surrogates.isEmpty

theorem isEmpty_ofText : (ofText t).isEmpty = true ↔ t = [] := by
  rw [isEmpty, Bool.and_eq_true, List.isEmpty_iff, List.isEmpty_iff]
  constructor
  · rintro ⟨hchars, hsurrogates⟩
    rw [← chars_ofText hsurrogates, hchars]
    rfl
  · rintro rfl
    exact ⟨rfl, rfl⟩

/-- The characters, if no surrogate stands among them. -/
def string? (s : Stored) : Option (List Char) := if s.surrogates = [] then some s.chars else none

theorem string?_ofText {cs : List Char} : (ofText t).string? = some cs ↔ t = Text.ofChars cs := by
  unfold string?
  constructor
  · intro h
    split at h
    · next hsurrogates =>
      cases h
      exact (chars_ofText hsurrogates).symm
    · cases h
  · rintro rfl
    rw [ofText_ofChars]
    rfl

/-- The characters are those that the text has as a string. -/
theorem string?_eq (t : Text) : (ofText t).string? = t.mapM CodePoint.toChar? := by
  induction t with
  | nil => rfl
  | cons p t ih =>
    cases p with
    | scalar c =>
      rw [ofText_scalar, List.mapM_cons, ← ih]
      simp only [string?, shift, List.map_eq_nil_iff]
      split <;> rfl
    | surrogate i =>
      rw [ofText_surrogate, List.mapM_cons]
      rfl

theorem hasSurrogates_eq_false : t.hasSurrogates = false ↔ ∃ cs, t = Text.ofChars cs := by
  induction t with
  | nil => exact iff_of_true rfl ⟨[], rfl⟩
  | cons p t ih =>
    cases p with
    | scalar c =>
      refine ih.trans ⟨?_, ?_⟩
      · rintro ⟨cs, rfl⟩
        exact ⟨c :: cs, rfl⟩
      · rintro ⟨cs, hcs⟩
        obtain ⟨d, cs, rfl, -, rfl⟩ := List.map_eq_cons_iff.mp hcs.symm
        exact ⟨cs, rfl⟩
    | surrogate i =>
      refine iff_of_false Bool.noConfusion ?_
      rintro ⟨cs, hcs⟩
      obtain ⟨d, _, -, hd, -⟩ := List.map_eq_cons_iff.mp hcs.symm
      cases hd

/-- What is printed is read as the text, with every escape read by itself. -/
theorem read_writeText (t : Text) : JsonValue.read (Json.writeText t []) = some (.string t) := by
  have hread := Json.read_compact (.str t)
  rw [Json.compact, String.toList_ofList] at hread
  exact hread

/-- A stored text is the sequence of its code points: its surrogates stand in order between its
characters, its printed forms and its tests are those of the sequence, and it is equal to another
one just if the sequences are. -/
theorem Built.faithful (h : Built s t) (h' : Built s' t') :
    (s.surrogates.Pairwise (·.1 ≤ ·.1) ∧ ∀ x ∈ s.surrogates, x.1 ≤ byteLength s.chars ∧
        ∃ pre post, s.chars = pre ++ post ∧ byteLength pre = x.1) ∧
      s.lossy? = some t.lossy ∧
      (s.literal? = some (Json.writeText t []) ∧
        JsonValue.read (Json.writeText t []) = some (.string t)) ∧
      (s.literal? = s'.literal? → t = t') ∧
      (s.isEmpty = true ↔ t = []) ∧
      (∀ cs, s.string? = some cs ↔ t = Text.ofChars cs) ∧
      (s.string? = none ↔ t.hasSurrogates = true) ∧
      s.string?.map String.ofList = t.toString? ∧
      (s = s' ↔ t = t') := by
  cases h.eq_ofText
  cases h'.eq_ofText
  refine ⟨⟨pairwise_ofText t, fun x hx => ?_⟩, lossy?_ofText t,
    ⟨literal?_ofText t, read_writeText t⟩, fun heq => ?_, isEmpty_ofText, fun cs => string?_ofText,
    ?_, congrArg (Option.map String.ofList) (string?_eq t), ofText_injective, congrArg ofText⟩
  · obtain ⟨pre, post, hchars, hpre⟩ := split_ofText t x hx
    refine ⟨?_, pre, post, hchars, hpre⟩
    rw [hchars, byteLength_append]
    omega
  · -- equal literals are read as one text
    rw [literal?_ofText, literal?_ofText, Option.some_inj] at heq
    have hread := read_writeText t
    rw [heq, read_writeText t'] at hread
    cases hread
    rfl
  · rw [Option.eq_none_iff_forall_ne_some, ← Bool.not_eq_false, hasSurrogates_eq_false, not_exists]
    exact forall_congr' fun cs => not_congr string?_ofText

/-- A character with a surrogate behind it, and a copy of the two behind them. -/
theorem Built.faithful_doubled :
    let s := (Stored.ofChars ['é']).push (.surrogate 0)
    let t : Text := [.scalar 'é', .surrogate 0]
    Built (s.append s) (t ++ t) ∧ Built s t ∧
      (s.append s).surrogates = [(2, 0), (4, 0)] ∧
      (s.append s).lossy? = some ['é', '\uFFFD', 'é', '\uFFFD'] ∧
      (s.append s = s ↔ t ++ t = t) := by
  have h : Built ((Stored.ofChars ['é']).push (.surrogate 0)) [.scalar 'é', .surrogate 0] :=
    .push _ (.ofChars _)
  obtain ⟨-, hlossy, -, -, -, -, -, -, heq⟩ := Built.faithful (h.append h) h
  exact ⟨h.append h, h, by decide, hlossy, heq⟩

end PythonSyntax.Indexed.Stored
