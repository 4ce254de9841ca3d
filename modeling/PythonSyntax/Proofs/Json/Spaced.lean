import PythonSyntax.Proofs.Json.Scalar

/-
Printed values are read back.

Both printers are one printer, `spaced`, with some white space on the lines and after the colons.
Whatever that white space is, the reader takes the text of a value to what the value says; and if
the white space outside of strings is taken out of the text, what is left is the compact text.
-/

namespace PythonSyntax

open JsonValue

namespace Json

/-! ## One printer -/

/-- The white space that a printer puts before an entry or a closing bracket of some level, and
after a colon. -/
structure Spacing where
  line : Nat → List Char
  colon : List Char
  line_spaces : ∀ level, ∀ c ∈ line level, isSpace c = true
  colon_spaces : ∀ c ∈ colon, isSpace c = true

namespace Spacing

/-- No white space. -/
def compact : Spacing where
  line _ := []
  colon := []
  line_spaces _ := List.forall_mem_nil _
  colon_spaces := List.forall_mem_nil _

/-- A line for every entry, and a space after a colon. -/
def pretty : Spacing where
  line level := newLine level []
  colon := [' ']
  line_spaces level := by
    rw [newLine, List.append_nil, List.forall_mem_cons]
    refine ⟨by decide, fun c hc => ?_⟩
    rw [(List.mem_replicate.mp hc).2]
    decide
  colon_spaces := List.forall_mem_singleton.mpr rfl

end Spacing

mutual

/-- The text of a value with the given white space, in front of `rest`. -/
def spaced (g : Spacing) (level : Nat) (j : Json) (rest : List Char) : List Char :=
  match j with
  | arr [] => '[' :: ']' :: rest
  | arr (item :: items) =>
    '[' :: (g.line (level + 1) ++ item.spaced g (level + 1)
      (spacedItems g (level + 1) items (g.line level ++ ']' :: rest)))
  | obj [] => '{' :: '}' :: rest
  | obj ((k, v) :: fields) =>
    '{' :: (g.line (level + 1) ++ writeText (Text.ofString k) (':' :: (g.colon ++
      v.spaced g (level + 1)
        (spacedFields g (level + 1) fields (g.line level ++ '}' :: rest)))))
  | j => j.writeScalar rest

/-- The further items of an array, each after a comma. -/
def spacedItems (g : Spacing) (level : Nat) (items : List Json) (rest : List Char) : List Char :=
  match items with
  | [] => rest
  | item :: items =>
    ',' :: (g.line level ++ item.spaced g level (spacedItems g level items rest))

/-- The further fields of an object, each after a comma. -/
def spacedFields (g : Spacing) (level : Nat) (fields : List (String × Json)) (rest : List Char) :
    List Char :=
  match fields with
  | [] => rest
  | (k, v) :: fields =>
    ',' :: (g.line level ++ writeText (Text.ofString k) (':' :: (g.colon ++
      v.spaced g level (spacedFields g level fields rest))))

end

mutual

/-- The compact printer writes no white space. -/
theorem write_eq (level : Nat) (j : Json) (rest : List Char) :
    j.write rest = j.spaced .compact level rest := by
  match j with
  | null | bool true | bool false | nat _ | float _ | str _ => rfl
  | arr [] | obj [] => rfl
  | arr (item :: items) =>
    rw [write, spaced, write_eq (level + 1) item, writeItems_eq (level + 1) items]
    rfl
  | obj ((k, v) :: fields) =>
    rw [write, spaced, write_eq (level + 1) v, writeFields_eq (level + 1) fields]
    rfl

theorem writeItems_eq (level : Nat) (items : List Json) (rest : List Char) :
    writeItems items rest = spacedItems .compact level items rest := by
  match items with
  | [] => rfl
  | item :: items =>
    rw [writeItems, spacedItems, write_eq level item, writeItems_eq level items]
    rfl

theorem writeFields_eq (level : Nat) (fields : List (String × Json)) (rest : List Char) :
    writeFields fields rest = spacedFields .compact level fields rest := by
  match fields with
  | [] => rfl
  | (k, v) :: fields =>
    rw [writeFields, spacedFields, write_eq level v, writeFields_eq level fields]
    rfl

end

theorem newLine_eq (level : Nat) (rest : List Char) :
    newLine level rest = Spacing.pretty.line level ++ rest := by
  simp [Spacing.pretty, newLine]

mutual

/-- The indenting printer puts every entry on a line of its own. -/
theorem writeIndented_eq (level : Nat) (j : Json) (rest : List Char) :
    j.writeIndented level rest = j.spaced .pretty level rest := by
  match j with
  | null | bool true | bool false | nat _ | float _ | str _ => rfl
  | arr [] | obj [] => rfl
  | arr (item :: items) =>
    rw [writeIndented, spaced, writeIndented_eq, writeIndentedItems_eq, newLine_eq, newLine_eq]
  | obj ((k, v) :: fields) =>
    rw [writeIndented, spaced, writeIndented_eq, writeIndentedFields_eq, newLine_eq, newLine_eq]
    rfl

theorem writeIndentedItems_eq (level : Nat) (items : List Json) (rest : List Char) :
    writeIndentedItems level items rest = spacedItems .pretty level items rest := by
  match items with
  | [] => rfl
  | item :: items =>
    rw [writeIndentedItems, spacedItems, writeIndented_eq, writeIndentedItems_eq, newLine_eq]

theorem writeIndentedFields_eq (level : Nat) (fields : List (String × Json)) (rest : List Char) :
    writeIndentedFields level fields rest = spacedFields .pretty level fields rest := by
  match fields with
  | [] => rfl
  | (k, v) :: fields =>
    rw [writeIndentedFields, spacedFields, writeIndented_eq, writeIndentedFields_eq, newLine_eq]
    rfl

end

end Json

/-! ## Reading -/

namespace JsonValue

variable {fuel : Nat} {gap s r : List Char} {c : Char}

theorem skipSpace_append (hgap : ∀ c ∈ gap, isSpace c = true) (s : List Char) :
    skipSpace (gap ++ s) = skipSpace s :=
  List.dropWhile_append_of_pos hgap

theorem skipSpace_cons (h : isSpace c = false) : skipSpace (c :: r) = c :: r :=
  List.dropWhile_cons_of_neg (by rw [h]; exact Bool.false_ne_true)

/-- White space in front of a value is passed over, and in the same way before what follows an
entry. -/
theorem readValue_append (hgap : ∀ c ∈ gap, isSpace c = true) (s : List Char) :
    readValue fuel (gap ++ s) = readValue fuel s := by
  cases fuel with
  | zero => rfl
  | succ fuel => rw [readValue, readValue, skipSpace_append hgap]

theorem readItems_append (hgap : ∀ c ∈ gap, isSpace c = true) (s : List Char) :
    readItems fuel (gap ++ s) = readItems fuel s := by
  cases fuel with
  | zero => rfl
  | succ fuel => rw [readItems, readItems, skipSpace_append hgap]

theorem readMember_append (hgap : ∀ c ∈ gap, isSpace c = true) (s : List Char) :
    readMember fuel (gap ++ s) = readMember fuel s := by
  cases fuel with
  | zero => rfl
  | succ fuel => rw [readMember, readMember, skipSpace_append hgap]

theorem readMembers_append (hgap : ∀ c ∈ gap, isSpace c = true) (s : List Char) :
    readMembers fuel (gap ++ s) = readMembers fuel s := by
  cases fuel with
  | zero => rfl
  | succ fuel => rw [readMembers, readMembers, skipSpace_append hgap]

theorem readValue_string : readValue (fuel + 1) ('"' :: r) =
    (readString r).map fun (t, r) => (string t, r) := by
  rw [readValue, skipSpace_cons (by decide)]
  rfl

theorem readValue_array_nil : readValue (fuel + 1) ('[' :: ']' :: r) = some (array [], r) := by
  rw [readValue, skipSpace_cons (by decide)]
  rfl

theorem readValue_array (hgap : ∀ c ∈ gap, isSpace c = true) (hspace : isSpace c = false)
    (hclose : c ≠ ']') {v : JsonValue} {vs : List JsonValue} {u : List Char}
    (hv : readValue fuel (c :: r) = some (v, s)) (hvs : readItems fuel s = some (vs, u)) :
    readValue (fuel + 1) ('[' :: (gap ++ c :: r)) = some (array (v :: vs), u) := by
  rw [readValue, skipSpace_cons (by decide)]
  simp only [show ¬ '[' = '"' by decide, if_false, if_true, skipSpace_append hgap,
    skipSpace_cons hspace]
  split
  · next heq => cases heq; exact absurd rfl hclose
  · rw [hv]
    simp only [Option.bind_eq_bind, Option.bind_some, hvs]
    rfl

theorem readItems_close : readItems (fuel + 1) (']' :: r) = some ([], r) := by
  rw [readItems, skipSpace_cons (by decide)]
  rfl

theorem readItems_comma {v : JsonValue} {vs : List JsonValue} {u : List Char}
    (hv : readValue fuel r = some (v, s)) (hvs : readItems fuel s = some (vs, u)) :
    readItems (fuel + 1) (',' :: r) = some (v :: vs, u) := by
  rw [readItems, skipSpace_cons (by decide)]
  simp only [hv, hvs, Option.bind_eq_bind, Option.bind_some]
  rfl

theorem readValue_object_nil : readValue (fuel + 1) ('{' :: '}' :: r) = some (object [], r) := by
  rw [readValue, skipSpace_cons (by decide)]
  rfl

theorem readValue_object (hgap : ∀ c ∈ gap, isSpace c = true) {m : Text × JsonValue}
    {ms : List (Text × JsonValue)} {u : List Char}
    (hm : readMember fuel ('"' :: r) = some (m, s)) (hms : readMembers fuel s = some (ms, u)) :
    readValue (fuel + 1) ('{' :: (gap ++ '"' :: r)) = some (object (m :: ms), u) := by
  rw [readValue, skipSpace_cons (by decide)]
  simp only [show ¬ '{' = '"' by decide, show ¬ '{' = '[' by decide, if_false, if_true,
    skipSpace_append hgap, skipSpace_cons (show isSpace '"' = false by decide)]
  show (readMember fuel ('"' :: r) >>= _) = _
  rw [hm]
  simp only [Option.bind_eq_bind, Option.bind_some, hms]
  rfl

theorem readMember_colon (hgap : ∀ c ∈ gap, isSpace c = true) {k : Text} {v : JsonValue}
    {u : List Char} (hk : readString r = some (k, ':' :: (gap ++ s)))
    (hv : readValue fuel s = some (v, u)) :
    readMember (fuel + 1) ('"' :: r) = some ((k, v), u) := by
  rw [readMember, skipSpace_cons (by decide)]
  simp only [hk, Option.bind_eq_bind, Option.bind_some, skipSpace_cons
    (show isSpace ':' = false by decide), readValue_append hgap, hv]
  rfl

theorem readMembers_close : readMembers (fuel + 1) ('}' :: r) = some ([], r) := by
  rw [readMembers, skipSpace_cons (by decide)]
  rfl

theorem readMembers_comma {m : Text × JsonValue} {ms : List (Text × JsonValue)} {u : List Char}
    (hm : readMember fuel r = some (m, s)) (hms : readMembers fuel s = some (ms, u)) :
    readMembers (fuel + 1) (',' :: r) = some (m :: ms, u) := by
  rw [readMembers, skipSpace_cons (by decide)]
  simp only [hm, hms, Option.bind_eq_bind, Option.bind_some]
  rfl

end JsonValue

/-! ## Printed values -/

namespace Json

variable {g : Spacing}

theorem length_lt_writeText (t : Text) (rest : List Char) :
    rest.length + 1 < (writeText t rest).length := by
  have hpoints : ∀ t : Text, rest.length + 1 ≤
      (t.foldr (fun p r => escape p ++ r) ('"' :: rest)).length := by
    intro t
    induction t with
    | nil => exact Nat.le_refl _
    | cons p t ih =>
      rw [List.foldr_cons, List.length_append]
      omega
  rw [writeText, List.length_cons]
  have := hpoints t
  omega

theorem length_lt_writeScalar (j : Json) (rest : List Char) :
    rest.length < (j.writeScalar rest).length := by
  have hnumber : ∀ token : List Char, token ≠ [] → rest.length < (token ++ rest).length := by
    intro token hne
    have := List.length_pos_iff.mpr hne
    rw [List.length_append]
    omega
  unfold writeScalar
  split
  · exact hnumber _ (by decide)
  · exact hnumber _ (by decide)
  · exact hnumber _ (toList_toString_ne_nil _)
  · exact hnumber _ (Binary64.render_ne_nil _)
  · have := length_lt_writeText ‹_› rest
    omega
  · exact hnumber _ (by decide)

mutual

/-- A value has at least one character. -/
theorem length_lt_spaced (level : Nat) (j : Json) (rest : List Char) :
    rest.length < (j.spaced g level rest).length := by
  match j with
  | null | bool _ | nat _ | float _ | str _ => exact length_lt_writeScalar _ rest
  | arr [] | obj [] =>
    simp only [spaced, List.length_cons]
    omega
  | arr (item :: items) =>
    have hitem := length_lt_spaced (level + 1) item
      (spacedItems g (level + 1) items (g.line level ++ ']' :: rest))
    have hitems := length_le_spacedItems (level + 1) items (g.line level ++ ']' :: rest)
    simp only [spaced, List.length_cons, List.length_append] at hitems ⊢
    omega
  | obj ((k, v) :: fields) =>
    have hkey := length_lt_writeText (Text.ofString k) (':' :: (g.colon ++ v.spaced g (level + 1)
      (spacedFields g (level + 1) fields (g.line level ++ '}' :: rest))))
    have hv := length_lt_spaced (level + 1) v
      (spacedFields g (level + 1) fields (g.line level ++ '}' :: rest))
    have hfields := length_le_spacedFields (level + 1) fields (g.line level ++ '}' :: rest)
    simp only [spaced, List.length_cons, List.length_append] at hkey hfields ⊢
    omega

theorem length_le_spacedItems (level : Nat) (items : List Json) (rest : List Char) :
    rest.length ≤ (spacedItems g level items rest).length := by
  match items with
  | [] => exact Nat.le_refl _
  | item :: items =>
    have hitem := length_lt_spaced level item (spacedItems g level items rest)
    have hitems := length_le_spacedItems level items rest
    simp only [spacedItems, List.length_cons, List.length_append]
    omega

theorem length_le_spacedFields (level : Nat) (fields : List (String × Json)) (rest : List Char) :
    rest.length ≤ (spacedFields g level fields rest).length := by
  match fields with
  | [] => exact Nat.le_refl _
  | (k, v) :: fields =>
    have hkey := length_lt_writeText (Text.ofString k) (':' :: (g.colon ++ v.spaced g level
      (spacedFields g level fields rest)))
    have hv := length_lt_spaced level v (spacedFields g level fields rest)
    have hfields := length_le_spacedFields level fields rest
    simp only [spacedFields, List.length_cons, List.length_append] at hkey ⊢
    omega

end

theorem isSpace_of_isNumberChar {c : Char} (h : isNumberChar c = true) : isSpace c = false := by
  have hne : ∀ d, isNumberChar d = false → c ≠ d := by
    rintro d hd rfl
    rw [hd] at h
    cases h
  simp [isSpace, hne ' ' (by decide), hne '\t' (by decide), hne '\n' (by decide),
    hne '\r' (by decide)]

/-- A value begins with a character that is no white space and closes no bracket. -/
theorem head_spaced (level : Nat) (j : Json) (rest : List Char) :
    ∃ c r, j.spaced g level rest = c :: r ∧ isSpace c = false ∧ c ≠ ']' := by
  have hnumber : ∀ token : List Char, token ≠ [] → (∀ c ∈ token, isNumberChar c = true) →
      ∃ c r, token ++ rest = c :: r ∧ isSpace c = false ∧ c ≠ ']' := by
    intro token hne htoken
    obtain ⟨c, token, rfl⟩ := List.exists_cons_of_ne_nil hne
    have hc := htoken c List.mem_cons_self
    refine ⟨c, token ++ rest, rfl, isSpace_of_isNumberChar hc, ?_⟩
    rintro rfl
    exact absurd hc (by decide)
  match j with
  | null | bool true | bool false => exact ⟨_, _, rfl, by decide, by decide⟩
  | nat n => exact hnumber _ (toList_toString_ne_nil n) (isNumberChar_of_toString n)
  | float x => exact hnumber _ x.render_ne_nil x.isNumberChar_of_render
  | str t => exact ⟨_, _, rfl, by decide, by decide⟩
  | arr [] | arr (_ :: _) | obj [] | obj ((_, _) :: _) =>
    exact ⟨_, _, by rw [spaced], by decide, by decide⟩

theorem readValue_scalar {fuel : Nat} {c : Char} {r : List Char} (hspace : isSpace c = false)
    (hquote : c ≠ '"') (harray : c ≠ '[') (hobject : c ≠ '{') :
    readValue (fuel + 1) (c :: r) = readScalar (c :: r) := by
  rw [readValue, skipSpace_cons hspace]
  simp only [if_neg hquote, if_neg harray, if_neg hobject]

theorem readValue_number {fuel : Nat} {token rest : List Char} (hne : token ≠ [])
    (htoken : ∀ c ∈ token, isNumberChar c = true) (h : Delimited rest) :
    readValue (fuel + 1) (token ++ rest) = some (.number token, rest) := by
  obtain ⟨c, token, rfl⟩ := List.exists_cons_of_ne_nil hne
  have hc := htoken c List.mem_cons_self
  have hspace : ∀ d, isNumberChar d = false → c ≠ d := by
    rintro d hd rfl
    rw [hd] at hc
    cases hc
  rw [← readScalar_number hne htoken h]
  exact readValue_scalar (isSpace_of_isNumberChar hc) (hspace _ (by decide)) (hspace _ (by decide))
    (hspace _ (by decide))

theorem delimited_append {gap r : List Char} {c : Char} (hgap : ∀ c ∈ gap, isSpace c = true)
    (hc : isNumberChar c = false) : Delimited (gap ++ c :: r) := by
  cases gap with
  | nil => exact delimited_cons hc
  | cons d gap =>
    refine delimited_cons ?_
    by_contra hd
    have := isSpace_of_isNumberChar (Bool.not_eq_false _ ▸ hd)
    rw [hgap d List.mem_cons_self] at this
    cases this

theorem delimited_spacedItems (level : Nat) (items : List Json) {rest : List Char}
    (h : Delimited rest) : Delimited (spacedItems g level items rest) := by
  cases items with
  | nil => exact h
  | cons item items =>
    rw [spacedItems]
    exact delimited_cons (by decide)

theorem delimited_spacedFields (level : Nat) (fields : List (String × Json)) {rest : List Char}
    (h : Delimited rest) : Delimited (spacedFields g level fields rest) := by
  match fields with
  | [] => exact h
  | (k, v) :: fields =>
    rw [spacedFields]
    exact delimited_cons (by decide)

mutual

/-- The text of a value is read as what the value says, whatever white space is in it. -/
theorem readValue_spaced (level : Nat) (j : Json) (fuel : Nat) {rest : List Char}
    (h : Delimited rest) (hfuel : (j.spaced g level rest).length ≤ fuel + rest.length) :
    readValue fuel (j.spaced g level rest) = some (j.value, rest) := by
  have hlength := length_lt_spaced (g := g) level j rest
  obtain ⟨fuel, rfl⟩ : ∃ f, fuel = f + 1 := ⟨fuel - 1, by omega⟩
  match j with
  | null | bool true | bool false =>
    exact readValue_scalar (by decide) (by decide) (by decide) (by decide)
  | nat n => exact readValue_number (toList_toString_ne_nil n) (isNumberChar_of_toString n) h
  | float x => exact readValue_number x.render_ne_nil x.isNumberChar_of_render h
  | str t =>
    rw [show (str t).spaced g level rest = writeText t rest from rfl, writeText, readValue_string,
      readString_points]
    rfl
  | arr [] =>
    rw [spaced]
    exact readValue_array_nil
  | obj [] =>
    rw [spaced]
    exact readValue_object_nil
  | arr (item :: items) =>
    have hclose : Delimited (g.line level ++ ']' :: rest) :=
      delimited_append (g.line_spaces level) (by decide)
    have hitems := length_le_spacedItems (g := g) (level + 1) items (g.line level ++ ']' :: rest)
    have hitem := length_lt_spaced (g := g) (level + 1) item
      (spacedItems g (level + 1) items (g.line level ++ ']' :: rest))
    simp only [spaced, List.length_cons, List.length_append] at hfuel hitems
    have hv := readValue_spaced (level + 1) item fuel
      (delimited_spacedItems (g := g) (level + 1) items hclose) (by omega)
    have hvs := readItems_spaced (level + 1) items fuel rest (g.line_spaces level)
      (by omega)
    obtain ⟨c, r, hhead, hspace, hne⟩ := head_spaced (g := g) (level + 1) item
      (spacedItems g (level + 1) items (g.line level ++ ']' :: rest))
    rw [spaced, hhead]
    rw [hhead] at hv
    exact readValue_array (g.line_spaces _) hspace hne hv hvs
  | obj ((k, v) :: fields) =>
    have hclose : Delimited (g.line level ++ '}' :: rest) :=
      delimited_append (g.line_spaces level) (by decide)
    have hfields := length_le_spacedFields (g := g) (level + 1) fields (g.line level ++ '}' :: rest)
    have hvalue := length_lt_spaced (g := g) (level + 1) v
      (spacedFields g (level + 1) fields (g.line level ++ '}' :: rest))
    have hkey := length_lt_writeText (Text.ofString k) (':' :: (g.colon ++ v.spaced g (level + 1)
      (spacedFields g (level + 1) fields (g.line level ++ '}' :: rest))))
    simp only [spaced, List.length_cons, List.length_append] at hfuel hfields hkey
    obtain ⟨fuel, rfl⟩ : ∃ f, fuel = f + 1 := ⟨fuel - 1, by omega⟩
    have hv := readValue_spaced (level + 1) v fuel
      (delimited_spacedFields (g := g) (level + 1) fields hclose) (by omega)
    have hms := readMembers_spaced (level + 1) fields (fuel + 1) rest (g.line_spaces level)
      (by omega)
    rw [spaced, writeText]
    exact readValue_object (g.line_spaces _)
      (readMember_colon g.colon_spaces (readString_points _) hv) hms

theorem readItems_spaced (level : Nat) (items : List Json) (fuel : Nat) {gap : List Char}
    (rest : List Char) (hgap : ∀ c ∈ gap, isSpace c = true)
    (hfuel : (spacedItems g level items (gap ++ ']' :: rest)).length ≤
      fuel + gap.length + rest.length) :
    readItems fuel (spacedItems g level items (gap ++ ']' :: rest)) =
      some (valueItems items, rest) := by
  have hlength := length_le_spacedItems (g := g) level items (gap ++ ']' :: rest)
  rw [List.length_append, List.length_cons] at hlength
  obtain ⟨fuel, rfl⟩ : ∃ f, fuel = f + 1 := ⟨fuel - 1, by omega⟩
  match items with
  | [] =>
    rw [spacedItems, readItems_append hgap]
    exact readItems_close
  | item :: items =>
    have hclose : Delimited (gap ++ ']' :: rest) := delimited_append hgap (by decide)
    have hitems := length_le_spacedItems (g := g) level items (gap ++ ']' :: rest)
    have hitem := length_lt_spaced (g := g) level item
      (spacedItems g level items (gap ++ ']' :: rest))
    simp only [spacedItems, List.length_cons, List.length_append] at hfuel hitems
    have hv := readValue_spaced level item fuel
      (delimited_spacedItems (g := g) level items hclose) (by omega)
    have hvs := readItems_spaced level items fuel rest hgap (by omega)
    rw [spacedItems, valueItems]
    refine readItems_comma ?_ hvs
    rw [readValue_append (g.line_spaces level), hv]

theorem readMembers_spaced (level : Nat) (fields : List (String × Json)) (fuel : Nat)
    {gap : List Char} (rest : List Char) (hgap : ∀ c ∈ gap, isSpace c = true)
    (hfuel : (spacedFields g level fields (gap ++ '}' :: rest)).length ≤
      fuel + gap.length + rest.length) :
    readMembers fuel (spacedFields g level fields (gap ++ '}' :: rest)) =
      some (valueFields fields, rest) := by
  have hlength := length_le_spacedFields (g := g) level fields (gap ++ '}' :: rest)
  rw [List.length_append, List.length_cons] at hlength
  obtain ⟨fuel, rfl⟩ : ∃ f, fuel = f + 1 := ⟨fuel - 1, by omega⟩
  match fields with
  | [] =>
    rw [spacedFields, readMembers_append hgap]
    exact readMembers_close
  | (k, v) :: fields =>
    have hclose : Delimited (gap ++ '}' :: rest) := delimited_append hgap (by decide)
    have hfields := length_le_spacedFields (g := g) level fields (gap ++ '}' :: rest)
    have hvalue := length_lt_spaced (g := g) level v
      (spacedFields g level fields (gap ++ '}' :: rest))
    have hkey := length_lt_writeText (Text.ofString k) (':' :: (g.colon ++ v.spaced g level
      (spacedFields g level fields (gap ++ '}' :: rest))))
    simp only [spacedFields, List.length_cons, List.length_append] at hfuel hfields hkey
    obtain ⟨fuel, rfl⟩ : ∃ f, fuel = f + 1 := ⟨fuel - 1, by omega⟩
    have hv := readValue_spaced level v fuel
      (delimited_spacedFields (g := g) level fields hclose) (by omega)
    have hms := readMembers_spaced level fields (fuel + 1) rest hgap (by omega)
    rw [spacedFields, valueFields, writeText]
    refine readMembers_comma ?_ hms
    rw [readMember_append (g.line_spaces level)]
    exact readMember_colon g.colon_spaces (readString_points _) hv

end

/-- A printed value is JSON that says what the value says. -/
theorem read_spaced (g : Spacing) (j : Json) : JsonValue.read (j.spaced g 0 []) = some j.value := by
  have hdelimited : Delimited [] := nofun
  unfold JsonValue.read
  rw [readValue_spaced 0 j _ hdelimited (Nat.le_add_right _ _)]
  rfl

theorem read_compact (j : Json) : JsonValue.read j.compact.toList = some j.value := by
  rw [compact, String.toList_ofList, write_eq 0, read_spaced]

theorem read_pretty (j : Json) : JsonValue.read j.pretty.toList = some j.value := by
  rw [pretty, String.toList_ofList, writeIndented_eq, read_spaced]

/-! ## White space -/

/-- A text without the white space outside of its strings.  `inside` says whether the text begins
inside a string, where a backslash takes the next character with it. -/
def squeeze (inside : Bool) (s : List Char) : List Char :=
  match s with
  | [] => []
  | c :: r =>
    if inside then
      if c = '\\' then
        match r with
        | d :: r => c :: d :: squeeze true r
        | [] => [c]
      else c :: squeeze (c != '"') r
    else if isSpace c then squeeze false r
    else c :: squeeze (c == '"') r

section

variable {c : Char} {r s : List Char}

theorem squeeze_space (h : isSpace c = true) : squeeze false (c :: r) = squeeze false r := by
  rw [squeeze.eq_def]
  exact (if_neg Bool.false_ne_true).trans (if_pos h)

theorem squeeze_gap {gap : List Char} (h : ∀ c ∈ gap, isSpace c = true) (r : List Char) :
    squeeze false (gap ++ r) = squeeze false r := by
  induction gap with
  | nil => rfl
  | cons c gap ih =>
    rw [List.forall_mem_cons] at h
    rw [List.cons_append, squeeze_space h.1, ih h.2]

theorem squeeze_keep (h : isSpace c = false) :
    squeeze false (c :: r) = c :: squeeze (c == '"') r := by
  rw [squeeze.eq_def]
  exact (if_neg Bool.false_ne_true).trans (if_neg (by rw [h]; exact Bool.false_ne_true))

theorem squeeze_mark (hspace : isSpace c = false) (hquote : c ≠ '"') :
    squeeze false (c :: r) = c :: squeeze false r := by
  rw [squeeze_keep hspace, beq_eq_false_iff_ne.mpr hquote]

theorem squeeze_escaped (c : Char) :
    squeeze true ('\\' :: c :: r) = '\\' :: c :: squeeze true r := by
  rw [squeeze.eq_def]
  rfl

theorem squeeze_inside (h : c ≠ '\\') : squeeze true (c :: r) = c :: squeeze (c != '"') r := by
  rw [squeeze.eq_def]
  exact (if_pos rfl).trans (if_neg h)

theorem squeeze_plain (hslash : c ≠ '\\') (hquote : c ≠ '"') :
    squeeze true (c :: r) = c :: squeeze true r := by
  rw [squeeze_inside hslash, bne_iff_ne.mpr hquote]

theorem squeeze_hexDigit (n : Nat) :
    squeeze true (hexDigit n :: r) = hexDigit n :: squeeze true r := by
  have hdigits : ∀ d : Fin 16, Nat.digitChar d ≠ '\\' ∧ Nat.digitChar d ≠ '"' := by decide
  obtain ⟨hslash, hquote⟩ := hdigits ⟨n % 16, Nat.mod_lt n (by decide)⟩
  exact squeeze_plain hslash hquote

theorem squeeze_unicodeEscape (n : Nat) :
    squeeze true (unicodeEscape n ++ r) = unicodeEscape n ++ squeeze true r := by
  simp only [unicodeEscape, List.cons_append, List.nil_append, squeeze_escaped, squeeze_hexDigit]

/-- The spelling of a code point stays inside the string. -/
theorem squeeze_escape (p : CodePoint) :
    squeeze true (escape p ++ r) = escape p ++ squeeze true r := by
  cases p with
  | surrogate i => exact squeeze_unicodeEscape _
  | scalar c =>
    rcases escape_cases c with ⟨d, hd, -⟩ | ⟨hd, -⟩ | ⟨hd, hquote, hslash, -⟩
    · rw [hd]
      exact squeeze_escaped d
    · rw [hd, squeeze_unicodeEscape]
    · rw [hd]
      exact squeeze_plain hslash hquote

/-- A string keeps all its characters. -/
theorem squeeze_writeText (t : Text) (rest : List Char) :
    squeeze false (writeText t rest) = writeText t (squeeze false rest) := by
  have hpoints : squeeze true (t.foldr (fun p r => escape p ++ r) ('"' :: rest)) =
      t.foldr (fun p r => escape p ++ r) ('"' :: squeeze false rest) := by
    induction t with
    | nil => exact squeeze_inside (by decide)
    | cons p t ih => rw [List.foldr_cons, squeeze_escape, ih, List.foldr_cons]
  rw [writeText, squeeze_keep (by decide), writeText, ← hpoints]
  rfl

theorem squeeze_word {w : List Char} (h : ∀ c ∈ w, isSpace c = false ∧ c ≠ '"') (r : List Char) :
    squeeze false (w ++ r) = w ++ squeeze false r := by
  induction w with
  | nil => rfl
  | cons c w ih =>
    rw [List.forall_mem_cons] at h
    rw [List.cons_append, squeeze_mark h.1.1 h.1.2, ih h.2, List.cons_append]

theorem squeeze_writeScalar (j : Json) (rest : List Char) :
    squeeze false (j.writeScalar rest) = j.writeScalar (squeeze false rest) := by
  have hnumber : ∀ token : List Char, (∀ c ∈ token, isNumberChar c = true) →
      squeeze false (token ++ rest) = token ++ squeeze false rest := by
    refine fun token htoken => squeeze_word (fun c hc => ?_) rest
    refine ⟨isSpace_of_isNumberChar (htoken c hc), ?_⟩
    rintro rfl
    exact absurd (htoken _ hc) (by decide)
  unfold writeScalar
  split
  · exact squeeze_word (by simp [isSpace]) rest
  · exact squeeze_word (by simp [isSpace]) rest
  · exact hnumber _ (isNumberChar_of_toString _)
  · exact hnumber _ (Binary64.isNumberChar_of_render _)
  · exact squeeze_writeText _ rest
  · exact squeeze_word (by simp [isSpace]) rest

end

mutual

/-- Without its white space a printed value is the compact text. -/
theorem squeeze_spaced (level : Nat) (j : Json) (rest : List Char) :
    squeeze false (j.spaced g level rest) = j.spaced .compact level (squeeze false rest) := by
  match j with
  | null | bool _ | nat _ | float _ | str _ => exact squeeze_writeScalar _ rest
  | arr [] | obj [] =>
    rw [spaced, squeeze_mark (by decide) (by decide), squeeze_mark (by decide) (by decide), spaced]
  | arr (item :: items) =>
    have hlast : squeeze false (g.line level ++ ']' :: rest) = ']' :: squeeze false rest := by
      rw [squeeze_gap (g.line_spaces level), squeeze_mark (by decide) (by decide)]
    rw [spaced, squeeze_mark (by decide) (by decide), squeeze_gap (g.line_spaces _),
      squeeze_spaced (level + 1) item, squeeze_spacedItems (level + 1) items, hlast, spaced]
    rfl
  | obj ((k, v) :: fields) =>
    have hlast : squeeze false (g.line level ++ '}' :: rest) = '}' :: squeeze false rest := by
      rw [squeeze_gap (g.line_spaces level), squeeze_mark (by decide) (by decide)]
    rw [spaced, squeeze_mark (by decide) (by decide),
      squeeze_gap (g.line_spaces _), squeeze_writeText, squeeze_mark (by decide) (by decide),
      squeeze_gap g.colon_spaces, squeeze_spaced (level + 1) v,
      squeeze_spacedFields (level + 1) fields, hlast, spaced]
    rfl

theorem squeeze_spacedItems (level : Nat) (items : List Json) (rest : List Char) :
    squeeze false (spacedItems g level items rest) =
      spacedItems .compact level items (squeeze false rest) := by
  match items with
  | [] => rfl
  | item :: items =>
    rw [spacedItems, squeeze_mark (by decide) (by decide), squeeze_gap (g.line_spaces _),
      squeeze_spaced level item, squeeze_spacedItems level items, spacedItems]
    rfl

theorem squeeze_spacedFields (level : Nat) (fields : List (String × Json)) (rest : List Char) :
    squeeze false (spacedFields g level fields rest) =
      spacedFields .compact level fields (squeeze false rest) := by
  match fields with
  | [] => rfl
  | (k, v) :: fields =>
    rw [spacedFields, squeeze_mark (by decide) (by decide), squeeze_gap (g.line_spaces _),
      squeeze_writeText, squeeze_mark (by decide) (by decide), squeeze_gap g.colon_spaces,
      squeeze_spaced level v, squeeze_spacedFields level fields, spacedFields]
    rfl

end

/-- The indented text of a value is the compact one with white space outside of its strings. -/
theorem squeeze_pretty (j : Json) : squeeze false j.pretty.toList = j.compact.toList := by
  rw [pretty, compact, String.toList_ofList, String.toList_ofList, writeIndented_eq,
    squeeze_spaced, write_eq 0]
  rfl

end Json

end PythonSyntax
