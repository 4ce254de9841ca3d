import PythonSyntax.Json
import PythonSyntax.Proofs.Indexed.Slice

/-
Texts as they are stored.

A string of characters has no room for a lone surrogate, so a stored text keeps those beside its
characters, with the byte offsets at which they stand.  However a text is put together, these
offsets are in order and lie between characters; so the pieces between the surrogates can be cut
out of the characters, and a printer that goes through the pieces writes what the text is.  So
whole values can be printed, and made values of characters, with texts that are stored.
-/

namespace PythonSyntax.Indexed

variable {t u : Text} {pre mid : List Char} {c : Char} {i : Fin 2048}

/-- A text: its characters, and the surrogates among them with the offsets at which they stand. -/
structure Stored where
  chars : List Char
  surrogates : List (Nat × Fin 2048)

namespace Stored

/-! ## Storing -/

/-- One more code point. -/
def push (s : Stored) : CodePoint → Stored
  | .scalar c => { s with chars := s.chars ++ [c] }
  | .surrogate i => { s with surrogates := s.surrogates ++ [(byteLength s.chars, i)] }

/-- The surrogates with offsets that count from `n` bytes before. -/
def shift (n : Nat) (surrogates : List (Nat × Fin 2048)) : List (Nat × Fin 2048) :=
  surrogates.map fun (offset, i) => (n + offset, i)

/-- A stored text behind another. -/
def append (s s' : Stored) : Stored :=
  ⟨s.chars ++ s'.chars, s.surrogates ++ shift (byteLength s.chars) s'.surrogates⟩

/-- A text, stored code point by code point. -/
def ofText (t : Text) : Stored := t.foldl push ⟨[], []⟩

theorem append_push (s s' : Stored) (p : CodePoint) : (s.append s').push p = s.append (s'.push p) := by
  cases p with
  | scalar c => simp [push, append]
  | surrogate i => simp [push, append, shift, byteLength_append]

theorem foldl_push (s s' : Stored) (t : Text) : t.foldl push (s.append s') = s.append (t.foldl push s') := by
  induction t generalizing s' with
  | nil => rfl
  | cons p t ih => rw [List.foldl_cons, append_push, ih, List.foldl_cons]

/-- Texts that are stored one behind the other are stored as one. -/
theorem ofText_append (t u : Text) : ofText (t ++ u) = (ofText t).append (ofText u) := by
  have hempty : t.foldl push ⟨[], []⟩ = (ofText t).append ⟨[], []⟩ := by
    simp [append, shift, ofText]
  rw [ofText, List.foldl_append, hempty, foldl_push]
  rfl

theorem ofText_scalar (c : Char) (t : Text) : ofText (.scalar c :: t) =
    ⟨c :: (ofText t).chars, shift c.utf8Size (ofText t).surrogates⟩ :=
  (ofText_append [.scalar c] t).trans (by simp [append, ofText, push, byteLength_cons, byteLength_nil])

theorem ofText_surrogate (i : Fin 2048) (t : Text) : ofText (.surrogate i :: t) =
    ⟨(ofText t).chars, (0, i) :: (ofText t).surrogates⟩ :=
  (ofText_append [.surrogate i] t).trans (by simp [append, ofText, push, shift, byteLength_nil])

theorem shift_shift (m n : Nat) (surrogates : List (Nat × Fin 2048)) :
    shift m (shift n surrogates) = shift (m + n) surrogates := by
  simp [shift, Nat.add_assoc]

/-! ## Pieces -/

/-- What a stored text consists of: characters, and single surrogates. -/
abbrev Piece := List Char ⊕ Fin 2048

/-- The code points of a piece. -/
def points : Piece → Text
  | .inl cs => Text.ofChars cs
  | .inr i => [.surrogate i]

/-- The pieces from an offset on. -/
def piecesFrom? (chars : List Char) : Nat → List (Nat × Fin 2048) → Option (List Piece)
  | start, [] =>
    if start < byteLength chars then (after? chars start).map fun cs => [.inl cs] else some []
  | start, (offset, i) :: rest => do
    let before ← if start < offset then (slice? chars start offset).map fun cs => [.inl cs] else some []
    let after ← piecesFrom? chars offset rest
    return before ++ .inr i :: after

/-- The pieces of a stored text. -/
def pieces? (s : Stored) : Option (List Piece) := piecesFrom? s.chars 0 s.surrogates

/-- The pieces from an offset on are the characters from there to the first surrogate, and then what
follows. -/
theorem piecesFrom?_ofText (t : Text) (pre mid : List Char) :
    ∃ ps, piecesFrom? (pre ++ (mid ++ (ofText t).chars)) (byteLength pre)
        (shift (byteLength pre + byteLength mid) (ofText t).surrogates) = some ps ∧
      ps.flatMap points = Text.ofChars mid ++ t := by
  induction t generalizing pre mid with
  | nil =>
    have hlength : byteLength (pre ++ (mid ++ (ofText []).chars)) = byteLength pre + byteLength mid := by
      rw [byteLength_append, byteLength_append]
      rfl
    cases mid with
    | nil =>
      refine ⟨[], ?_, rfl⟩
      show piecesFrom? _ (byteLength pre) [] = _
      rw [piecesFrom?, hlength, byteLength_nil, if_neg (by omega)]
    | cons c mid =>
      refine ⟨[.inl (c :: mid)], ?_, by simp [points]⟩
      have hsize := c.utf8Size_pos
      show piecesFrom? _ (byteLength pre) [] = _
      rw [piecesFrom?, hlength, byteLength_cons, if_pos (by omega), after?_append]
      simp [ofText]
  | cons p t ih =>
    cases p with
    | scalar c =>
      obtain ⟨ps, hps, hpoints⟩ := ih pre (mid ++ [c])
      refine ⟨ps, ?_, by simpa [Text.ofChars] using hpoints⟩
      rw [byteLength_append, byteLength_cons, byteLength_nil, Nat.add_zero] at hps
      rw [ofText_scalar, shift_shift, Nat.add_assoc, ← hps, List.append_assoc]
      rfl
    | surrogate i =>
      obtain ⟨ps, hps, hpoints⟩ := ih (pre ++ mid) []
      rw [byteLength_nil, Nat.add_zero, byteLength_append, List.nil_append, List.append_assoc] at hps
      rw [ofText_surrogate]
      show ∃ ps, piecesFrom? _ _ ((byteLength pre + byteLength mid + 0, i) :: shift _ _) = _ ∧ _
      rw [Nat.add_zero, piecesFrom?, hps]
      cases mid with
      | nil =>
        refine ⟨.inr i :: ps, ?_, ?_⟩
        · rw [byteLength_nil, if_neg (by omega)]
          rfl
        · rw [List.flatMap_cons, hpoints]
          rfl
      | cons c mid =>
        have hsize := c.utf8Size_pos
        refine ⟨.inl (c :: mid) :: .inr i :: ps, ?_, ?_⟩
        · rw [if_pos (by rw [byteLength_cons]; omega), slice?_middle]
          rfl
        · rw [List.flatMap_cons, List.flatMap_cons, hpoints]
          rfl

/-- The pieces of a stored text can be cut out, and are the text. -/
theorem pieces?_ofText (t : Text) : ∃ ps, (ofText t).pieces? = some ps ∧ ps.flatMap points = t := by
  obtain ⟨ps, hps, hpoints⟩ := piecesFrom?_ofText t [] []
  have hshift : shift (byteLength [] + byteLength []) (ofText t).surrogates = (ofText t).surrogates := by
    simp [shift, byteLength_nil]
  rw [hshift] at hps
  exact ⟨ps, hps, hpoints⟩

/-! ## Printing -/

/-- The characters of a stored text, with U+FFFD for each surrogate. -/
def lossy? (s : Stored) : Option (List Char) :=
  s.pieces?.map fun ps => ps.flatMap fun
    | .inl cs => cs
    | .inr _ => ['\uFFFD']

/-- A piece in a JSON string: of a quoted piece all but the quotes at either end. -/
def written? : Piece → Option (List Char)
  | .inl cs => do
    let quoted := Json.writeText (Text.ofChars cs) []
    let stop ← minus? (byteLength quoted) 1
    slice? quoted 1 stop
  | .inr i => some (Json.escape (.surrogate i))

/-- The JSON string of a stored text. -/
def literal? (s : Stored) : Option (List Char) := do
  let ps ← s.pieces?
  let parts ← ps.mapM written?
  return '"' :: (parts.flatten ++ ['"'])

/-- Every text can be printed with replacements. -/
theorem lossy?_ofText (t : Text) : (ofText t).lossy? = some t.lossy := by
  obtain ⟨ps, hps, rfl⟩ := pieces?_ofText t
  have hpiece : (fun
      | .inl cs => cs
      | .inr _ => ['\uFFFD'] : Piece → List Char) = fun p => (points p).lossy := by
    funext p
    cases p with
    | inl cs => exact (Text.lossy_ofChars cs).symm
    | inr i => rfl
  rw [lossy?, hps, Option.map_some, hpiece, Text.lossy, List.map_flatMap]
  rfl

theorem writeText_eq (t : Text) (rest : List Char) :
    Json.writeText t rest = ['"'] ++ (t.flatMap Json.escape ++ '"' :: rest) := by
  have hfold : t.foldr (fun c r => Json.escape c ++ r) ('"' :: rest) =
      t.flatMap Json.escape ++ '"' :: rest := by
    induction t with
    | nil => rfl
    | cons p t ih => rw [List.foldr_cons, ih, List.flatMap_cons, List.append_assoc]
  rw [Json.writeText, hfold]
  rfl

/-- Between its quotes, a quoted piece is what its code points are in a string. -/
theorem written?_eq (p : Piece) : written? p = some ((points p).flatMap Json.escape) := by
  cases p with
  | inl cs =>
    have hslice := slice?_middle ['"'] ((Text.ofChars cs).flatMap Json.escape) ['"']
    have hone : byteLength ['"'] = 1 := rfl
    have hlength : byteLength (['"'] ++ ((Text.ofChars cs).flatMap Json.escape ++ ['"'])) =
        1 + (1 + byteLength ((Text.ofChars cs).flatMap Json.escape)) := by
      rw [byteLength_append, byteLength_append, hone]
      omega
    rw [written?, writeText_eq, hlength, minus?_add, Option.bind_eq_bind, Option.bind_some]
    exact hslice
  | inr i => rw [written?, points, List.flatMap_singleton]

/-- Every text can be printed as a JSON string. -/
theorem literal?_ofText (t : Text) : (ofText t).literal? = some (Json.writeText t []) := by
  obtain ⟨ps, hps, rfl⟩ := pieces?_ofText t
  have hwritten : written? = fun p => pure ((points p).flatMap Json.escape) := funext written?_eq
  rw [literal?, hps, Option.bind_eq_bind, Option.bind_some, hwritten, List.mapM_pure, writeText_eq,
    List.flatMap_assoc]
  rfl

/-- A text in which no surrogate stands is its characters. -/
theorem chars_ofText (h : (ofText t).surrogates = []) : Text.ofChars (ofText t).chars = t := by
  induction t with
  | nil => rfl
  | cons p t ih =>
    cases p with
    | scalar c =>
      rw [ofText_scalar] at h ⊢
      exact congrArg (CodePoint.scalar c :: ·) (ih (List.map_eq_nil_iff.mp h))
    | surrogate i =>
      rw [ofText_surrogate] at h
      cases h

/-- The characters of a stored text for readers that hold only characters.  Only a text with
surrogates is cut up. -/
def value? (s : Stored) : Option (List Char) :=
  if s.surrogates = [] then some s.chars else s.lossy?

/-- A stored text as a JSON string, in front of `rest`. -/
def write? (s : Stored) (rest : List Char) : Option (List Char) :=
  if s.surrogates = [] then some (Json.writeText (Text.ofChars s.chars) rest)
  else s.literal?.map (· ++ rest)

theorem value?_ofText (t : Text) : (ofText t).value? = some t.lossy := by
  unfold value?
  split
  · next h =>
    have hchars := congrArg Text.lossy (chars_ofText h)
    rw [Text.lossy_ofChars] at hchars
    rw [hchars]
  · exact lossy?_ofText t

theorem write?_ofText (t : Text) (rest : List Char) :
    (ofText t).write? rest = some (Json.writeText t rest) := by
  unfold write?
  split
  · next h => rw [chars_ofText h]
  · rw [literal?_ofText, Option.map_some, writeText_eq, writeText_eq]
    simp

end Stored

/-! ## Values -/

open Json (lossyItems lossyFields writeItems writeFields)

mutual

/-- The value with U+FFFD for every lone surrogate, its texts stored. -/
def lossy? : Json → Option Json
  | .str t => (Stored.ofText t).value?.map fun cs => .str (Text.ofChars cs)
  | .arr items => (lossyItems? items).map .arr
  | .obj fields => (lossyFields? fields).map .obj
  | j => some j

/-- `lossy?` on every item of an array. -/
def lossyItems? : List Json → Option (List Json)
  | [] => some []
  | j :: rest => do return (← lossy? j) :: (← lossyItems? rest)

/-- `lossy?` on the value of every field of an object. -/
def lossyFields? : List (String × Json) → Option (List (String × Json))
  | [] => some []
  | (k, v) :: rest => do return (k, ← lossy? v) :: (← lossyFields? rest)

end

mutual

/-- The compact text of a value in front of `rest`, its texts stored. -/
def write? (j : Json) (rest : List Char) : Option (List Char) :=
  match j with
  | .str t => (Stored.ofText t).write? rest
  | .arr [] => some ('[' :: ']' :: rest)
  | .arr (item :: items) => do
    let items ← writeItems? items (']' :: rest)
    return '[' :: (← write? item items)
  | .obj [] => some ('{' :: '}' :: rest)
  | .obj ((k, v) :: fields) => do
    let fields ← writeFields? fields ('}' :: rest)
    return '{' :: Json.writeText (Text.ofString k) (':' :: (← write? v fields))
  | j => some (j.writeScalar rest)

/-- The further items of an array, each after a comma. -/
def writeItems? (items : List Json) (rest : List Char) : Option (List Char) :=
  match items with
  | [] => some rest
  | item :: items => do
    let items ← writeItems? items rest
    return ',' :: (← write? item items)

/-- The further fields of an object, each after a comma. -/
def writeFields? (fields : List (String × Json)) (rest : List Char) : Option (List Char) :=
  match fields with
  | [] => some rest
  | (k, v) :: fields => do
    let fields ← writeFields? fields rest
    return ',' :: Json.writeText (Text.ofString k) (':' :: (← write? v fields))

end

mutual

/-- Every value can be made one of characters. -/
theorem lossy?_eq : ∀ j : Json, lossy? j = some j.lossy
  | .null | .bool _ | .nat _ | .float _ => rfl
  | .str t => by rw [lossy?, Stored.value?_ofText]; rfl
  | .arr items => by rw [lossy?, lossyItems?_eq items]; rfl
  | .obj fields => by rw [lossy?, lossyFields?_eq fields]; rfl

theorem lossyItems?_eq : ∀ items : List Json, lossyItems? items = some (lossyItems items)
  | [] => rfl
  | j :: rest => by rw [lossyItems?, lossy?_eq j, lossyItems?_eq rest]; rfl

theorem lossyFields?_eq :
    ∀ fields : List (String × Json), lossyFields? fields = some (lossyFields fields)
  | [] => rfl
  | (k, v) :: rest => by rw [lossyFields?, lossy?_eq v, lossyFields?_eq rest]; rfl

end

mutual

/-- Every value can be printed. -/
theorem write?_eq : ∀ (j : Json) (rest : List Char), write? j rest = some (j.write rest)
  | .null, _ | .bool _, _ | .nat _, _ | .float _, _ => rfl
  | .str t, rest => Stored.write?_ofText t rest
  | .arr [], _ => rfl
  | .arr (item :: items), rest => by
    rw [write?, writeItems?_eq items, Option.bind_eq_bind, Option.bind_some, write?_eq item]
    rfl
  | .obj [], _ => rfl
  | .obj ((k, v) :: fields), rest => by
    rw [write?, writeFields?_eq fields, Option.bind_eq_bind, Option.bind_some, write?_eq v]
    rfl

theorem writeItems?_eq : ∀ (items : List Json) (rest : List Char),
    writeItems? items rest = some (writeItems items rest)
  | [], _ => rfl
  | item :: items, rest => by
    rw [writeItems?, writeItems?_eq items, Option.bind_eq_bind, Option.bind_some, write?_eq item]
    rfl

theorem writeFields?_eq : ∀ (fields : List (String × Json)) (rest : List Char),
    writeFields? fields rest = some (writeFields fields rest)
  | [], _ => rfl
  | (k, v) :: fields, rest => by
    rw [writeFields?, writeFields?_eq fields, Option.bind_eq_bind, Option.bind_some, write?_eq v]
    rfl

end

end PythonSyntax.Indexed
