import PythonSyntax.Proofs.Indexed.Chunk
import PythonSyntax.Proofs.Indexed.Escape
import PythonSyntax.Proofs.Indexed.Layout
import PythonSyntax.Proofs.Indexed.Stored
import PythonSyntax.Proofs.Span.Field

/-
Runs of string literals, read by indices.

Here a body stays whole while it is read, and only indices into its bytes move; whatever is taken
out of it is a slice.  A parser that asks for what does not exist gives up.  It does what the one
does that takes characters off the front of a body, since an index always stands between two
characters, with the rest of the body behind it: the three scanners end between characters, and
what is stepped over in between is ASCII.  No offset of a body in a word is greater than that behind
its end by more than two.  So the parser never gives up on its own account.
-/

namespace PythonSyntax.Indexed

open PythonSyntax.Parser PythonSyntax.Parser.TokenLikeness

variable {α β : Type} {top : Nat}

/-- A value, if there is one; a parser without it gives up. -/
def inRange (a? : Option α) : Parser α :=
  match a? with
  | some a => return a
  | none => fail .outOfFuel

theorem inRange_bind (a : α) (f : α → Parser β) : (inRange (some a) >>= f) = f a := pure_bind a f

/-! ## Pieces -/

/-- The body of a literal or a format spec: its text, where that stands, whether it is raw, and the
span of the literal. -/
structure Body where
  text : List Char
  base : Nat
  isRaw : Bool
  span : Span

/-- The literal of a body. -/
def Body.literal (b : Body) : Literal := ⟨b.isRaw, b.span⟩

/-- Whether an ASCII character stands at an index. -/
def Body.isAt (b : Body) (index : Nat) (c : Char) : Bool := (bytes b.text)[index]? == some (code c)

/-- The error at an index, if the offsets on both sides of its byte fit. -/
def Body.fault? (top : Nat) (b : Body) (index : Nat) (cause : Cause) : Option SyntaxError := do
  let _ ← fits? top (b.base + index + 1)
  return errorAt (b.base + index) cause

/-- The piece of a chunk of a body. -/
def textPiece (b : Body) (chunk : List Char) : Parser (List Piece) := do
  let decoded ← inRange <| if b.isRaw then some ((Escape.decodeRaw false chunk).map Text.ofChars)
    else decodeUpTo? false chunk.length chunk
  match decoded with
  | .ok t => return [.text t]
  | .error fault => failAt b.span (.string fault)

/-- The expression of a field. -/
def embedded (top : Nat) (rule : Rule → Parser Expr) (text : List Char) (base : Nat) :
    Parser Expr := do
  let n ← read
  let tokens ← Parser.ofExcept (← inRange (tokenizeEmbedded? top text base (n.limit - n.depth)))
  withTokens tokens do
    if ← atKind .endMarker then fail .fieldEmpty
    else
      let value ← yieldOr rule .starTestList
      if ← atKind .endMarker then return value else fail .fieldTrailing

/-- The index behind the blanks from an index on. -/
def blanksEnd? (top : Nat) (bs : List UInt8) (index : Nat) : Option Nat :=
  fits? top (index + ((bs.drop index).takeWhile fun b =>
    [' ', '\t', '\n', '\x0c', '\r'].any (b == code ·)).length)

/-- What a field that begins at `start` shows of itself, and the index behind that. -/
def fieldShown? (top : Nat) (b : Body) (start index : Nat) : Option (Option Piece × Nat) :=
  if b.isAt index '=' then do
    let stop ← blanksEnd? top (bytes b.text) (index + 1)
    let shown ← slice? b.text start stop
    return (some (.text (Text.ofChars shown)), stop)
  else some (none, index)

/-- A conversion, if there is one, and the index behind it. -/
def fieldConversion? (top : Nat) (b : Body) (index : Nat) :
    Option (Except SyntaxError (Option Char × Nat)) :=
  if b.isAt index '!' then do
    match ← after? b.text (index + 1) with
    | [] => return .error (← b.fault? top index .fieldUnclosed)
    | c :: _ =>
      if isConversion c then return .ok (some c, ← fits? top (index + 1 + c.utf8Size))
      else return .error (← b.fault? top (index + 1) .fieldConversion)
  else some (.ok (none, index))

/-- A format spec, if there is one, and the index behind it.  `spec` reads it. -/
def fieldSpec (top : Nat) (spec : Body → Parser (List Piece)) (b : Body) (index : Nat) :
    Parser (Option Expr × Nat) := do
  if b.isAt index ':' then
    let stop ← inRange (specEnd? top (bytes b.text) (index + 1))
    let inner ← inRange (slice? b.text (index + 1) stop)
    let base ← inRange (fits? top (b.base + (index + 1)))
    let pieces ← spec { b with text := inner, base := base }
    return (some (.joinedStr (merge pieces)), stop)
  else return (none, index)

/-- The pieces of a field in its parts, and the index behind its closing brace. -/
def fieldEnd? (top : Nat) (b : Body) (shown : Option Piece) (value : Expr)
    (conversion : Option Char) (formatSpec : Option Expr) (index : Nat) :
    Option (Except SyntaxError (List Piece × Nat)) := do
  if b.isAt index '}' then
    let conversion := if shown.isSome && conversion.isNone && formatSpec.isNone
      then some 'r' else conversion
    return .ok (shown.toList ++ [.value (.formattedValue value conversion formatSpec)],
      ← fits? top (index + 1))
  else return .error (← b.fault? top (min index (bytes b.text).length) .fieldUnclosed)

/-- A field, from just behind its opening brace: its pieces, and the index behind its closing
brace. -/
def field (top : Nat) (rule : Rule → Parser Expr) (spec : Body → Parser (List Piece)) (b : Body)
    (start : Nat) : Parser (List Piece × Nat) := do
  let stop ← Parser.ofExcept (← inRange (expressionEnd? top b.text b.base start))
  let source ← inRange (slice? b.text start stop)
  if source.all Unicode.isWhiteSpace then reject (← inRange (b.fault? top start .fieldEmpty))
  else
    let base ← inRange (fits? top (b.base + start))
    let value ← embedded top rule source base
    let (shown, index) ← inRange (fieldShown? top b start stop)
    let (conversion, index) ← Parser.ofExcept (← inRange (fieldConversion? top b index))
    let (formatSpec, index) ← fieldSpec top spec b index
    Parser.ofExcept (← inRange (fieldEnd? top b shown value conversion formatSpec index))

/-- The pieces of a body from an index on, in at most `fuel` chunks.  Behind the end of a chunk, two
more indices fit. -/
def piecesUpTo (top : Nat) (b : Body) (hole : Nat → Parser (List Piece × Nat)) :
    Nat → Nat → Parser (List Piece)
  | 0, _ => fail .outOfFuel
  | fuel + 1, start => do
    let stop ← inRange (chunkEnd? top b.isRaw b.text start)
    let chunk ← inRange (slice? b.text (min start (bytes b.text).length) stop)
    if b.isAt stop '{' && b.isAt (stop + 1) '{' then
      let before ← textPiece b chunk
      let after ← piecesUpTo top b hole fuel (stop + 2)
      return before ++ .text (Text.ofString "\x7b") :: after
    else if b.isAt stop '}' && b.isAt (stop + 1) '}' then
      let before ← textPiece b chunk
      let after ← piecesUpTo top b hole fuel (stop + 2)
      return before ++ .text (Text.ofString "\x7d") :: after
    else if b.isAt stop '{' then
      let before ← textPiece b chunk
      let (pieces, index) ← hole (stop + 1)
      let after ← piecesUpTo top b hole fuel index
      return before ++ pieces ++ after
    else if b.isAt stop '}' then reject (← inRange (b.fault? top stop .loneBrace))
    else textPiece b chunk

/-- The pieces of a body in which fields may nest `levels` deep. -/
def pieces (top : Nat) (rule : Rule → Parser Expr) : Nat → Body → Parser (List Piece)
  | 0, b =>
    piecesUpTo top b (fun start => do reject (← inRange (b.fault? top start .fieldTooDeep)))
      (b.text.length + 1) 0
  | levels + 1, b =>
    piecesUpTo top b (field top rule (pieces top rule levels) b) (b.text.length + 1) 0

/-- The pieces of one literal of a run that has a formatted one. -/
def literalPieces (top : Nat) (rule : Rule → Parser Expr) (t : Token) : Parser (List Piece) := do
  let q ← inRange (split? t.text.toList)
  if q.isFormatted then
    let base ← inRange (fits? top (t.span.start + q.bodyStart))
    pieces top rule fieldLevels ⟨q.body, base, q.isRaw, t.span⟩
  else
    match ← inRange (decode? q) with
    | .ok text => return [.text text]
    | .error fault => failAt t.span (.string fault)

/-- The value of a literal of a run that has no formatted one. -/
def literalText (t : Token) : Parser Text := do
  let q ← inRange (split? t.text.toList)
  match ← inRange (decode? q) with
  | .ok text => return text
  | .error fault => failAt t.span (.string fault)

/-- The expression of a run of string tokens, of which there must be at least one. -/
def strings (top : Nat) (rule : Rule → Parser Expr) (tokens : List Token) : Parser Expr := do
  match tokens with
  | [] => unexpected
  | first :: _ =>
    let parts ← inRange (tokens.mapM fun t => split? t.text.toList)
    let part ← inRange parts[0]?
    if parts.any (·.isBytes != part.isBytes) then
      failAt (tokens.foldl (fun s t => s.union t.span) first.span) .mixedBytes
    else if parts.any (·.isFormatted) then
      let pieces ← tokens.mapM (literalPieces top rule)
      return .joinedStr (merge pieces.flatten)
    else
      let texts ← tokens.mapM literalText
      let value := texts.flatten
      if part.isBytes then return .constant (.bytes (← inRange (Stored.ofText value).lossy?))
      else return .constant (.str value)

/-! ## The rest of a body -/

/-- The rest of a body from an index on, and where it stands in the source; two more offsets behind
the body fit. -/
structure Leaves (top : Nat) (b : Body) (index : Nat) (rest : List Char) (offset : Nat) : Prop where
  suffix : ∃ before, b.text = before ++ rest ∧ byteLength before = index
  offset : offset = b.base + index
  room : b.base + byteLength b.text + 2 ≤ top

namespace Leaves

variable {b : Body} {index offset : Nat} {rest a r : List Char} {c d : Char}

theorem start (h : b.base + byteLength b.text + 2 ≤ top) : Leaves top b 0 b.text b.base :=
  ⟨⟨[], rfl, rfl⟩, rfl, h⟩

theorem append (h : Leaves top b index (a ++ r) offset) :
    Leaves top b (index + byteLength a) r (offset + byteLength a) := by
  obtain ⟨⟨before, htext, rfl⟩, rfl, hroom⟩ := h
  exact ⟨⟨before ++ a, by rw [htext, List.append_assoc], byteLength_append _ _⟩, Nat.add_assoc _ _ _,
    hroom⟩

theorem tail (h : Leaves top b index (c :: r) offset) (hc : c.utf8Size = 1) :
    Leaves top b (index + 1) r (offset + 1) := by
  have hright := append (a := [c]) h
  rwa [byteLength_cons, byteLength_nil, hc] at hright

/-- The offset behind an index and its rest is that behind the body. -/
theorem room_rest (h : Leaves top b index rest offset) :
    b.base + index + byteLength rest + 2 ≤ top := by
  obtain ⟨⟨before, htext, rfl⟩, -, hroom⟩ := h
  rw [htext, byteLength_append] at hroom
  omega

theorem fault?_eq (h : Leaves top b index rest offset) (cause : Cause) :
    b.fault? top index cause = some (errorAt offset cause) := by
  have hroom := h.room_rest
  rw [Body.fault?, fits?_eq (by omega), h.offset]
  rfl

theorem slice?_eq (h : Leaves top b index (a ++ r) offset) :
    slice? b.text index (index + byteLength a) = some a := by
  obtain ⟨⟨before, htext, rfl⟩, -⟩ := h
  rw [htext]
  exact slice?_middle before a r

theorem after?_eq (h : Leaves top b index rest offset) : after? b.text index = some rest := by
  obtain ⟨⟨before, htext, rfl⟩, -⟩ := h
  rw [htext]
  exact after?_append before rest

theorem length_bytes (h : Leaves top b index rest offset) :
    (bytes b.text).length = index + byteLength rest := by
  obtain ⟨⟨before, htext, rfl⟩, -⟩ := h
  rw [htext]
  exact length_bytes_append before rest

theorem isAt_eq (h : Leaves top b index rest offset) (hd : d.toNat < 128) :
    b.isAt index d = (rest.head? == some d) := by
  obtain ⟨⟨before, htext, rfl⟩, -⟩ := h
  rw [Body.isAt, htext, Bool.eq_iff_iff, beq_iff_eq, beq_iff_eq]
  exact getElem?_bytes_eq_code hd

theorem isAt_false (h : Leaves top b index rest offset) (hd : d.toNat < 128)
    (hne : ∀ r, rest ≠ d :: r) :
    b.isAt index d = false := by
  rw [h.isAt_eq hd, beq_eq_false_iff_ne]
  intro hhead
  obtain ⟨r, hr⟩ := List.head?_eq_some_iff.mp hhead
  exact hne r hr

theorem expressionEnd?_eq (h : Leaves top b index rest offset) :
    expressionEnd? top b.text b.base index =
      some ((splitField offset ⟨0, none, 0⟩ offset rest).map fun cut => index + byteLength cut.1) := by
  obtain ⟨⟨before, htext, rfl⟩, rfl, hroom⟩ := h
  rw [htext] at hroom ⊢
  exact Indexed.expressionEnd?_eq (by omega)

theorem specEnd?_eq (h : Leaves top b index rest offset) :
    specEnd? top (bytes b.text) index = some (index + byteLength (splitSpec 0 rest).1) := by
  obtain ⟨⟨before, htext, rfl⟩, -, hroom⟩ := h
  rw [htext] at hroom ⊢
  exact Indexed.specEnd?_eq (by omega)

theorem chunkEnd?_eq (h : Leaves top b index rest offset) :
    chunkEnd? top b.isRaw b.text index =
      some (index + byteLength (splitLiteral b.isRaw false rest).1) := by
  obtain ⟨⟨before, htext, rfl⟩, -, hroom⟩ := h
  rw [htext] at hroom ⊢
  exact Indexed.chunkEnd?_eq b.isRaw (by omega)

end Leaves

/-! ## The same runs -/

/-- Two runs on the same tokens at the same nesting, with the same errors. -/
def same : TokenLikeness where
  token := Eq
  nesting := Eq
  error := Eq
  excused cause := cause = .outOfFuel
  kind h := congrArg Token.kind h
  text h := .inl (congrArg Token.text h)
  place _ h := by rw [h]
  fuel := rfl
  deeper := deeper_of_eq
  deepest := deepest_of_eq

/-- Two parsers that do the same, unless the first one runs out of fuel. -/
def Same (p q : Parser α) : Prop := same.Relates Eq p q fun a b ts us => a = b ∧ ts = us

/-- Two parsers that do the same, and leave the same rest of a body. -/
def SameRest (top : Nat) (b : Body) (p : Parser (α × List Char × Nat)) (q : Parser (α × Nat)) :
    Prop :=
  same.Relates Eq p q fun x y ts us => (x.1 = y.1 ∧ Leaves top b y.2 x.2.1 x.2.2) ∧ ts = us

theorem Same.refl (p : Parser α) : Same p p := by
  rintro ts _ n _ rfl rfl
  cases outcome p n ts with
  | ok r => exact .ok ⟨rfl, rfl⟩
  | error e => exact .error rfl

theorem relates_reject {T : α → β → Streams} (e : SyntaxError) :
    same.Relates Eq (reject e) (reject e) T :=
  fun _ _ _ _ _ _ => .error rfl

/-- A result, and what is made of it. -/
theorem results_map {r : Except SyntaxError α} {f : α → β} {Q : α → β → Prop}
    (h : ∀ a, r = .ok a → Q a (f a)) : same.Results Q r (r.map f) := by
  cases r with
  | ok a => exact .ok (h a rfl)
  | error e => exact .error rfl

/-! ## Fields -/

section

variable {b : Body} {rule : Rule → Parser Expr} {index offset : Nat} {text rest : List Char}

theorem textPiece_eq (b : Body) (chunk : List Char) :
    textPiece b chunk = Parser.textPiece b.literal chunk := by
  unfold textPiece Parser.textPiece Body.literal
  dsimp only
  split
  · rfl
  · rw [decodeUpTo?_eq]
    rfl

theorem embedded_eq (rule : Rule → Parser Expr) {base : Nat} (htop : base + byteLength text ≤ top) :
    embedded top rule text base = Parser.embedded rule text base := by
  unfold embedded
  simp only [tokenizeEmbedded?_eq htop, inRange_bind]
  rfl

theorem blank_lead (c : Char) :
    ([' ', '\t', '\n', '\x0c', '\r'].any fun d => lead c == code d) = isFieldBlank c := by
  have hcode : ∀ d : Char, d.toNat < 128 → (lead c == code d) = (c == d) := fun d hd =>
    decide_eq_decide.mpr (lead_eq_code hd)
  simp (disch := decide) only [List.any_cons, List.any_nil, hcode, isFieldBlank, Bool.or_assoc,
    Bool.or_false]

/-- Blanks are passed over byte by byte. -/
theorem Leaves.blanksEnd?_eq (h : Leaves top b index rest offset) :
    blanksEnd? top (bytes b.text) index = some (index + (rest.takeWhile isFieldBlank).length) := by
  have hrun : ∀ r : List Char, ((bytes r).takeWhile fun x =>
      [' ', '\t', '\n', '\x0c', '\r'].any (x == code ·)).length = (r.takeWhile isFieldBlank).length := by
    intro r
    induction r with
    | nil => rfl
    | cons c r ih =>
      have hlead := blank_lead c
      rw [bytes_cons, List.takeWhile_cons]
      cases hc : isFieldBlank c with
      | true =>
        have hascii : c.toNat < 128 := by
          simp only [isFieldBlank, Bool.or_eq_true, beq_iff_eq] at hc
          rcases hc with (((rfl | rfl) | rfl) | rfl) | rfl <;> decide
        have hcode : lead c = code c := by
          rw [lead, encode_ascii hascii]
          rfl
        rw [hcode, hc] at hlead
        rw [encode_ascii hascii, List.singleton_append, List.takeWhile_cons, hlead, if_pos rfl,
          if_pos rfl, List.length_cons, List.length_cons, ih]
      | false =>
        obtain ⟨bs, hbs⟩ := exists_encode c
        rw [hc] at hlead
        rw [hbs, List.cons_append, List.takeWhile_cons, if_neg (Bool.eq_false_iff.mp hlead)]
        rfl
  have hle := (List.takeWhile_prefix isFieldBlank (l := rest)).length_le
  have hbytes := length_le_byteLength rest
  have hroom := h.room_rest
  obtain ⟨⟨before, htext, rfl⟩, -⟩ := h
  rw [blanksEnd?, htext, bytes_append, ← Indexed.length_bytes before, List.drop_left, hrun,
    Indexed.length_bytes]
  exact fits?_eq (by omega)

theorem fieldShown?_eq {expr : List Char} (h : Leaves top b index (expr ++ rest) offset) :
    ∃ stop, fieldShown? top b index (index + byteLength expr) =
        some ((fieldShown id expr rest (offset + byteLength expr)).1, stop) ∧
      Leaves top b stop (fieldShown id expr rest (offset + byteLength expr)).2.1
        (fieldShown id expr rest (offset + byteLength expr)).2.2 := by
  have hrest := h.append
  unfold fieldShown?
  rw [hrest.isAt_eq (by decide)]
  cases rest with
  | nil => exact ⟨_, rfl, hrest⟩
  | cons c r =>
    by_cases hc : c = '='
    · subst hc
      have hafter := hrest.tail rfl
      have hblanks : r.takeWhile isFieldBlank ++ r.drop (r.takeWhile isFieldBlank).length = r :=
        List.prefix_iff_eq_append.mp (List.takeWhile_prefix _)
      have hall : expr ++ '=' :: r = (expr ++ '=' :: r.takeWhile isFieldBlank) ++
          r.drop (r.takeWhile isFieldBlank).length := by
        rw [List.append_assoc, List.cons_append, hblanks]
      have hlength : index + byteLength (expr ++ '=' :: r.takeWhile isFieldBlank) =
          index + byteLength expr + 1 + (r.takeWhile isFieldBlank).length := by
        rw [byteLength_append, byteLength_cons, byteLength_blanks, show '='.utf8Size = 1 from rfl]
        omega
      have hslice := Leaves.slice?_eq (hall ▸ h)
      rw [hlength] at hslice
      refine ⟨index + byteLength expr + 1 + (r.takeWhile isFieldBlank).length, ?_, ?_⟩
      · rw [List.head?_cons, if_pos (beq_self_eq_true _), hafter.blanksEnd?_eq, Option.bind_eq_bind,
          Option.bind_some, hslice]
        rfl
      · rw [← hblanks] at hafter
        have hlast := hafter.append
        rw [byteLength_blanks] at hlast
        exact hlast
    · have hshown : fieldShown id expr (c :: r) (offset + byteLength expr) =
          (none, c :: r, offset + byteLength expr) := by
        unfold fieldShown
        split
        · next heq => exact absurd (List.cons.inj heq).1 hc
        · rfl
      rw [hshown]
      exact ⟨_, if_neg (by simpa using hc), hrest⟩

theorem fieldConversion?_eq (h : Leaves top b index rest offset) :
    ∃ r, fieldConversion? top b index = some r ∧
      same.Results (fun x y => x.1 = y.1 ∧ Leaves top b y.2 x.2.1 x.2.2) (fieldConversion rest offset)
        r := by
  unfold fieldConversion?
  rw [h.isAt_eq (by decide)]
  by_cases hmark : rest.head? = some '!'
  · obtain ⟨r, rfl⟩ : ∃ r, rest = '!' :: r := List.head?_eq_some_iff.mp hmark
    have hr := h.tail rfl
    rw [if_pos (beq_iff_eq.mpr hmark), hr.after?_eq, Option.bind_eq_bind, Option.bind_some]
    cases r with
    | nil =>
      dsimp only
      rw [h.fault?_eq]
      exact ⟨_, rfl, .error rfl⟩
    | cons c r =>
      have hlook : fieldConversion ('!' :: c :: r) offset = if isConversion c then
          .ok (some c, r, offset + 2) else .error (errorAt (offset + 1) .fieldConversion) := rfl
      rw [hlook]
      dsimp only
      cases hc : isConversion c with
      | false =>
        rw [if_neg Bool.false_ne_true, hr.fault?_eq]
        exact ⟨_, rfl, .error rfl⟩
      | true =>
        have hc' := hr.tail (utf8Size_of_isConversion hc)
        have hroom := hc'.room_rest
        rw [if_pos rfl, utf8Size_of_isConversion hc, fits?_eq (by omega)]
        exact ⟨.ok (some c, index + 1 + 1), rfl, .ok ⟨rfl, hc'⟩⟩
  · refine ⟨_, if_neg (mt beq_iff_eq.mp hmark), ?_⟩
    unfold fieldConversion
    split
    · exact absurd rfl hmark
    · exact absurd rfl hmark
    · exact .ok ⟨rfl, h⟩

theorem fieldEnd?_eq (h : Leaves top b index rest offset) (shown : Option Piece) (value : Expr)
    (conversion : Option Char) (formatSpec : Option Expr) :
    ∃ r, fieldEnd? top b shown value conversion formatSpec index = some r ∧
      same.Results (fun x y => x.1 = y.1 ∧ Leaves top b y.2 x.2.1 x.2.2)
        (Parser.fieldEnd shown value conversion formatSpec rest offset) r := by
  have hmin : min index (bytes b.text).length = index := by
    rw [h.length_bytes]
    omega
  have hroom := h.room_rest
  rw [fieldEnd?, hmin, h.fault?_eq, fits?_eq (by omega)]
  by_cases hclose : ∃ r, rest = '}' :: r
  · obtain ⟨r, rfl⟩ := hclose
    rw [h.isAt_eq (d := '}') (by decide)]
    exact ⟨_, rfl, .ok ⟨rfl, h.tail rfl⟩⟩
  · have hnot := not_exists.mp hclose
    rw [h.isAt_false (d := '}') (by decide) hnot]
    refine ⟨_, rfl, ?_⟩
    unfold Parser.fieldEnd
    split
    · exact absurd rfl (hnot _)
    · exact .error rfl

theorem sameRest_fieldSpec {spec : List Char → Nat → Parser (List Piece)}
    {spec' : Body → Parser (List Piece)}
    (hspec : ∀ inner base, base + byteLength inner + 2 ≤ top →
      Same (spec inner base) (spec' { b with text := inner, base := base }))
    (h : Leaves top b index rest offset) :
    SameRest top b (Parser.fieldSpec spec rest offset) (fieldSpec top spec' b index) := by
  unfold Parser.fieldSpec fieldSpec
  split
  · next r =>
    have hr := h.tail rfl
    have hinner := hr
    rw [← splitSpec_append 0 r] at hinner
    have hroom := hinner.room_rest
    rw [byteLength_append] at hroom
    rw [h.isAt_eq (by decide), List.head?_cons, if_pos (beq_self_eq_true _), hr.specEnd?_eq,
      inRange_bind, hinner.slice?_eq, inRange_bind, fits?_eq (by omega), inRange_bind, ← hr.offset]
    rw [← hr.offset] at hroom
    refine Relates.bind_eq (hspec _ _ (by omega)) fun pieces => Relates.pure ?_
    exact fun _ _ hs => ⟨⟨rfl, hinner.append⟩, hs⟩
  · next hnot =>
    rw [h.isAt_false (by decide) hnot]
    exact Relates.pure fun _ _ hs => ⟨⟨rfl, h⟩, hs⟩

theorem sameRest_field {spec : List Char → Nat → Parser (List Piece)}
    {spec' : Body → Parser (List Piece)}
    (hspec : ∀ inner base, base + byteLength inner + 2 ≤ top →
      Same (spec inner base) (spec' { b with text := inner, base := base }))
    (h : Leaves top b index text offset) :
    SameRest top b (Parser.field id rule spec text offset) (field top rule spec' b index) := by
  unfold Parser.field field
  rw [h.expressionEnd?_eq, inRange_bind, h.offset.symm]
  refine Relates.bind_of (Q := fun cut stop => cut.1 ++ cut.2 = text ∧ stop = index + byteLength cut.1)
    (Relates.ofExcept (results_map fun cut hcut => ⟨splitField_append hcut, rfl⟩)) ?_
  rintro ⟨expr, rest⟩ _ ⟨heq, rfl⟩
  dsimp only at heq ⊢
  subst heq
  have hroom := h.room_rest
  rw [byteLength_append, ← h.offset] at hroom
  rw [h.slice?_eq, inRange_bind, h.fault?_eq, inRange_bind, fits?_eq (by omega), inRange_bind]
  refine Relates.ite (relates_reject _) ?_
  rw [embedded_eq rule (by omega)]
  refine Relates.bind_eq (Same.refl _) fun value => ?_
  obtain ⟨stop, hshown, h₁⟩ := fieldShown?_eq h
  rw [hshown, inRange_bind]
  generalize fieldShown id expr rest (offset + byteLength expr) = r at h₁ ⊢
  obtain ⟨shown, rest₁, offset₁⟩ := r
  obtain ⟨conversion', hconversion, hresults⟩ := fieldConversion?_eq h₁
  dsimp only at hconversion hresults ⊢
  rw [hconversion, inRange_bind]
  refine Relates.bind_of (Relates.ofExcept hresults) ?_
  rintro ⟨conversion, rest₂, offset₂⟩ ⟨_, index₂⟩ ⟨rfl, h₂⟩
  refine Relates.bind_of (sameRest_fieldSpec hspec h₂) ?_
  rintro ⟨formatSpec, rest₃, offset₃⟩ ⟨_, index₃⟩ ⟨rfl, h₃⟩
  obtain ⟨ending, hending, hresults⟩ := fieldEnd?_eq h₃ shown value conversion formatSpec
  dsimp only
  rw [hending, inRange_bind]
  exact Relates.ofExcept hresults

theorem same_piecesUpTo {hole : List Char → Nat → Parser (List Piece × List Char × Nat)}
    {hole' : Nat → Parser (List Piece × Nat)}
    (hhole : ∀ index rest offset, Leaves top b index rest offset →
      SameRest top b (hole rest offset) (hole' index))
    (fuel : Nat) (h : Leaves top b index rest offset) :
    Same (Parser.piecesUpTo b.literal hole fuel rest offset) (piecesUpTo top b hole' fuel index) := by
  induction fuel generalizing index rest offset with
  | zero => exact fun _ _ _ _ _ _ => .excused rfl
  | succ fuel ih =>
    have hcut := h
    rw [← splitLiteral_append b.isRaw false rest] at hcut
    have hmin : min index (bytes b.text).length = index := by
      rw [h.length_bytes]
      omega
    unfold Parser.piecesUpTo piecesUpTo
    rw [h.chunkEnd?_eq, inRange_bind, hmin, hcut.slice?_eq, inRange_bind]
    have hrest := hcut.append
    have hbrace := splitLiteral_rest b.isRaw false rest
    have hraw : b.literal.isRaw = b.isRaw := rfl
    rw [textPiece_eq, hraw]
    dsimp only
    generalize splitLiteral b.isRaw false rest = cut at hrest hbrace ⊢
    obtain ⟨chunk, rest'⟩ := cut
    dsimp only at hrest hbrace ⊢
    have hhere : ∀ d : Char, d.toNat < 128 →
        b.isAt (index + byteLength chunk) d = (rest'.head? == some d) := fun d => hrest.isAt_eq
    simp (disch := decide) only [hhere]
    -- a doubled brace and what follows it
    have hdoubled : ∀ (r : List Char) (brace : Piece),
        Leaves top b (index + byteLength chunk + 2) r (offset + byteLength chunk + 2) → Same (do
          let before ← Parser.textPiece b.literal chunk
          let after ← Parser.piecesUpTo b.literal hole fuel r (offset + byteLength chunk + 2)
          return before ++ brace :: after) (do
          let before ← Parser.textPiece b.literal chunk
          let after ← piecesUpTo top b hole' fuel (index + byteLength chunk + 2)
          return before ++ brace :: after) := by
      intro r brace hr
      refine Relates.bind_eq (Same.refl _) fun before => Relates.bind_eq (ih hr) fun after => ?_
      exact Relates.pure fun _ _ hs => ⟨rfl, hs⟩
    split
    · exact Same.refl _
    · next r =>
      rw [(hrest.tail rfl).isAt_eq (by decide)]
      exact hdoubled r _ ((hrest.tail rfl).tail rfl)
    · next r =>
      rw [(hrest.tail rfl).isAt_eq (d := '}') (by decide)]
      exact hdoubled r _ ((hrest.tail rfl).tail rfl)
    · next r hsingle =>
      rw [(hrest.tail rfl).isAt_false (by decide) fun r' heq => hsingle r' (heq ▸ rfl)]
      refine Relates.bind_eq (Same.refl _) fun before => ?_
      refine Relates.bind_of (hhole _ _ _ (hrest.tail rfl)) ?_
      rintro ⟨pieces, r', offset'⟩ ⟨_, index'⟩ ⟨rfl, h'⟩
      exact Relates.bind_eq (ih h') fun after => Relates.pure fun _ _ hs => ⟨rfl, hs⟩
    · next hnil _ hdoubled hopening =>
      obtain ⟨c, r, rfl, rfl | rfl⟩ : ∃ c r, rest' = c :: r ∧ (c = '{' ∨ c = '}') :=
        hbrace.resolve_left hnil
      · exact absurd rfl (hopening r)
      · rw [(hrest.tail rfl).isAt_false (d := '}') (by decide) fun r' heq => hdoubled r' (heq ▸ rfl),
          hrest.fault?_eq, inRange_bind]
        exact relates_reject _

theorem same_pieces (rule : Rule → Parser Expr) (levels : Nat)
    (hroom : b.base + byteLength b.text + 2 ≤ top) :
    Same (Parser.pieces id rule b.literal levels b.text b.base) (pieces top rule levels b) := by
  induction levels generalizing b with
  | zero =>
    refine same_piecesUpTo (fun index rest offset h => ?_) _ (.start hroom)
    rw [h.fault?_eq, inRange_bind]
    exact relates_reject _
  | succ levels ih =>
    refine same_piecesUpTo (fun index rest offset h => ?_) _ (.start hroom)
    exact sameRest_field (fun inner base => ih (b := { b with text := inner, base := base })) h

/-! ## Runs of literals -/

/-- A token has the form of a literal, and two more offsets behind it fit. -/
structure Shaped (top : Nat) (t : Token) : Prop where
  literal : ∃ marks q triple body, IsLiteral t.text.toList marks q triple body
  room : t.span.start + byteLength t.text.toList + 2 ≤ top

theorem Shaped.split?_eq {t : Token} (h : Shaped top t) :
    split? t.text.toList = some (Quoted.split t.text.toList) := by
  obtain ⟨marks, q, triple, body, hliteral⟩ := h.literal
  exact Indexed.split?_eq hliteral

/-- The body of a literal is a part of it. -/
theorem Shaped.room_body {t : Token} (h : Shaped top t) :
    t.span.start + (Quoted.split t.text.toList).bodyStart +
      byteLength (Quoted.split t.text.toList).body + 2 ≤ top := by
  obtain ⟨marks, q, triple, body, hliteral⟩ := h.literal
  have hroom := h.room
  rw [hliteral.eq, byteLength_append, byteLength_append, byteLength_append,
    byteLength_quotes hliteral.quote] at hroom
  rw [hliteral.split_eq]
  dsimp only
  omega

theorem mapM_split? {ts : List Token} (h : ∀ t ∈ ts, Shaped top t) :
    ts.mapM (fun t => split? t.text.toList) = some (ts.map fun t => Quoted.split t.text.toList) := by
  induction ts with
  | nil => rfl
  | cons t ts ih =>
    rw [List.forall_mem_cons] at h
    rw [List.mapM_cons, h.1.split?_eq, ih h.2]
    rfl

theorem same_literalPieces {t : Token} (h : Shaped top t) (rule : Rule → Parser Expr) :
    Same (Parser.literalPieces id rule t) (literalPieces top rule t) := by
  have hroom := h.room_body
  unfold Parser.literalPieces literalPieces
  rw [h.split?_eq, inRange_bind, fits?_eq (by omega), inRange_bind]
  dsimp only
  split
  · exact same_pieces (b := ⟨_, _, _, _⟩) rule fieldLevels hroom
  · rw [decode?_eq, inRange_bind]
    exact Same.refl _

theorem same_literalText {t : Token} (h : Shaped top t) : Same (Parser.literalText t) (literalText t) := by
  unfold Parser.literalText literalText
  rw [h.split?_eq, inRange_bind, decode?_eq, inRange_bind]
  exact Same.refl _

/-- Runs of literals are read alike with indices and without them. -/
theorem same_strings (rule : Rule → Parser Expr) {ts : List Token} (h : ∀ t ∈ ts, Shaped top t) :
    Same (Parser.strings id rule ts) (strings top rule ts) := by
  cases ts with
  | nil => exact Same.refl _
  | cons first ts =>
    have hself : List.Forall₂ (fun t u => t = u ∧ Shaped top t) (first :: ts) (first :: ts) :=
      forall₂_self fun t ht => ⟨rfl, h t ht⟩
    have hpieces : Same ((first :: ts).mapM (Parser.literalPieces id rule))
        ((first :: ts).mapM (literalPieces top rule)) := by
      refine Relates.mapM_eq hself ?_
      rintro t _ ⟨rfl, ht⟩
      exact same_literalPieces ht rule
    have htexts : Same ((first :: ts).mapM Parser.literalText) ((first :: ts).mapM literalText) := by
      refine Relates.mapM_eq hself ?_
      rintro t _ ⟨rfl, ht⟩
      exact same_literalText ht
    unfold Parser.strings strings
    dsimp only
    rw [mapM_split? h, inRange_bind, List.map_cons, List.getElem?_cons_zero, inRange_bind]
    refine Relates.ite (Same.refl _) (Relates.ite ?_ ?_)
    · exact Relates.bind_eq hpieces fun _ => Relates.pure fun _ _ hs => ⟨rfl, hs⟩
    · refine Relates.bind_eq htexts fun texts => ?_
      rw [Stored.lossy?_ofText, inRange_bind]
      cases (Quoted.split first.text.toList).isBytes with
      | true => exact Relates.pure fun _ _ hs => ⟨rfl, hs⟩
      | false => exact Relates.pure fun _ _ hs => ⟨rfl, hs⟩

end

end PythonSyntax.Indexed
