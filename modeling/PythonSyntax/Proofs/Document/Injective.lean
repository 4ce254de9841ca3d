import PythonSyntax.Proofs.Document.Decode
import PythonSyntax.Proofs.Document.Keyed
import PythonSyntax.Proofs.Tree.Node

/-
Documents determine their trees.

If every float of a tree is read back from its text, the tree is decoded from its document.  Two
trees with one compact text have one document, so they are equal: the floats of both are read back
by one reader as soon as different floats have different texts.
-/

namespace PythonSyntax

open JsonValue

/-! ## Decoded fields -/

namespace Fields

variable {α : Type} {f g : Fields} {k key : String} {p : Decoded} {make : α → Decoded}
  {reader : Decoded → Option α}

@[simp] theorem find_nil : find [] key = none := rfl

@[simp] theorem find_cons :
    find ((Text.ofString k, p) :: f) key = if k = key then some p else find f key := by
  by_cases h : k = key
  · subst h
    simp [find]
  · have hne : (Text.ofString key == Text.ofString k) = false := by
      rw [beq_eq_false_iff_ne]
      exact fun heq => h (Text.ofString_injective heq).symm
    simp [find, List.lookup_cons, hne, h]

@[simp] theorem find_append : find (f ++ g) key = (find f key).or (find g key) := by
  rw [find, List.lookup_append]
  rfl

/-- A field that may be left out. -/
def slot (key : String) (p? : Option Decoded) : Fields :=
  (p?.map fun p => (Text.ofString key, p)).toList

@[simp] theorem find_slot {p? : Option Decoded} :
    find (slot k p?) key = if k = key then p? else none := by
  cases p? with
  | none => simp [slot, find]
  | some p => exact find_cons

/-- A list of parts that is left out when it is empty. -/
def listDecoded (make : α → Decoded) (as : List α) : Option Decoded :=
  if as.isEmpty then none else some (.list (as.map make))

/-- What a part was made of is read from it. -/
class Made (make : α → Decoded) (reader : Decoded → Option α) : Prop where
  read_make : ∀ a, reader (make a) = some a

/-- A list of parts is read as what its parts were made of. -/
@[simp] theorem readItems_list [Made make reader] (as : List α) :
    readItems reader (some (.list (as.map make))) = some as := by
  have h : ∀ a, reader (make a) = some a := Made.read_make
  show (as.map make).mapM reader = some as
  induction as with
  | nil => rfl
  | cons a as ih => rw [List.map_cons, List.mapM_cons, h, ih]; rfl

@[simp] theorem readItems_listDecoded [Made make reader] (as : List α) :
    readItems reader (listDecoded make as) = some as := by
  cases as with
  | nil => rfl
  | cons a as => exact readItems_list (a :: as)

@[simp] theorem readMaybe_map [Made make reader] (a? : Option α) :
    readMaybe reader (a?.map make) = some a? := by
  have h : ∀ a, reader (make a) = some a := Made.read_make
  cases a? with
  | none => rfl
  | some a => rw [Option.map_some, readMaybe, h]; rfl

end Fields

namespace Decoded

/-- The part of a string. -/
def ofString (s : String) : Decoded := .text (Text.ofString s)

/-- The part of an expression, null if it is absent. -/
def ofKey : Option Expr → Decoded
  | none => .null
  | some e => .expr e

/-- The part of a character. -/
def ofChar (c : Char) : Decoded := ofString (String.singleton c)

theorem toString?_ofString (s : String) : (Text.ofString s).toString? = some s := by
  have hmap : ∀ cs : List Char, (Text.ofChars cs).mapM CodePoint.toChar? = some cs := by
    intro cs
    induction cs with
    | nil => rfl
    | cons c cs ih =>
      have hrest : (cs.map CodePoint.scalar).mapM CodePoint.toChar? = some cs := ih
      rw [Text.ofChars, List.map_cons, List.mapM_cons, hrest]
      rfl
  rw [Text.toString?, Text.ofString, hmap, Option.map_some, String.ofList_toList]

@[simp] theorem string?_ofString (s : String) : (ofString s).string? = some s :=
  toString?_ofString s

@[simp] theorem key?_ofKey (e? : Option Expr) : (ofKey e?).key? = some e? := by
  cases e? <;> rfl

@[simp] theorem char?_ofChar (c : Char) : (ofChar c).char? = some c := by
  rw [char?, ofChar, string?_ofString, Option.map_some, String.toList_singleton]

attribute [simp] bool? usage? boolOp? operator? unary? expr? arguments?

instance : Fields.Made ofString string? := ⟨string?_ofString⟩
instance : Fields.Made ofKey key? := ⟨key?_ofKey⟩
instance : Fields.Made ofChar char? := ⟨char?_ofChar⟩
instance : Fields.Made comparison comparison? := ⟨fun _ => rfl⟩
instance : Fields.Made expr expr? := ⟨fun _ => rfl⟩
instance : Fields.Made arg arg? := ⟨fun _ => rfl⟩
instance : Fields.Made keyword keyword? := ⟨fun _ => rfl⟩
instance : Fields.Made comprehension comprehension? := ⟨fun _ => rfl⟩
instance : Fields.Made imported imported? := ⟨fun _ => rfl⟩
instance : Fields.Made withItem withItem? := ⟨fun _ => rfl⟩
instance : Fields.Made stmt stmt? := ⟨fun _ => rfl⟩
instance : Fields.Made handler handler? := ⟨fun _ => rfl⟩

end Decoded

open Fields

namespace Json

variable {α : Type} {readFloat : List Char → Option Binary64} {k type : String} {j : Json}
  {js : List Json} {p : Decoded} {ps : List Decoded} {fields others : List (String × Json)}
  {f g : Fields}

/-- Fields are decoded to parts under the same keys. -/
def Decodes (readFloat : List Char → Option Binary64) (fields : List (String × Json)) (f : Fields) :
    Prop :=
  decodeMembers readFloat (valueFields fields) = some f

theorem Decodes.nil : Decodes readFloat [] [] := rfl

theorem Decodes.cons (hj : decode readFloat j.value = some p) (h : Decodes readFloat fields f) :
    Decodes readFloat ((k, j) :: fields) ((Text.ofString k, p) :: f) := by
  rw [Decodes, valueFields, decodeMembers, hj, h]
  rfl

theorem Decodes.one (hj : decode readFloat j.value = some p) :
    Decodes readFloat [(k, j)] [(Text.ofString k, p)] :=
  .cons hj .nil

theorem Decodes.append (h : Decodes readFloat fields f) (h' : Decodes readFloat others g) :
    Decodes readFloat (fields ++ others) (f ++ g) := by
  induction fields generalizing f with
  | nil =>
    cases h
    exact h'
  | cons field fields ih =>
    rw [Decodes, valueFields, decodeMembers] at h
    obtain ⟨p, hp, h⟩ := Option.bind_eq_some_iff.mp h
    obtain ⟨f', hf', h⟩ := Option.bind_eq_some_iff.mp h
    cases h
    exact .cons hp (ih hf')

/-- The items of a list are decoded to the parts made of some things. -/
def DecodesItems (readFloat : List Char → Option Binary64) (js : List Json) (make : α → Decoded)
    (as : List α) : Prop :=
  decodeItems readFloat (valueItems js) = some (as.map make)

theorem DecodesItems.cons {make : α → Decoded} {a : α} {as : List α}
    (hj : decode readFloat j.value = some (make a)) (h : DecodesItems readFloat js make as) :
    DecodesItems readFloat (j :: js) make (a :: as) := by
  rw [DecodesItems, valueItems, decodeItems, hj, h]
  rfl

theorem DecodesItems.map {make : α → Decoded} {toJson : α → Json} {as : List α}
    (h : ∀ a ∈ as, decode readFloat (toJson a).value = some (make a)) :
    DecodesItems readFloat (as.map toJson) make as := by
  induction as with
  | nil => rfl
  | cons a as ih =>
    rw [List.forall_mem_cons] at h
    exact .cons h.1 (ih h.2)

theorem decode_arr {make : α → Decoded} {as : List α} (h : DecodesItems readFloat js make as) :
    decode readFloat (arr js).value = some (.list (as.map make)) := by
  rw [value, decode, h]
  rfl

theorem Decodes.many {make : α → Decoded} {as : List α} (h : DecodesItems readFloat js make as) :
    Decodes readFloat (many k js) (slot k (listDecoded make as)) := by
  have hlength : ∀ (js : List Json) ps, decodeItems readFloat (valueItems js) = some ps →
      js.isEmpty = ps.isEmpty := by
    intro js ps h
    cases js with
    | nil => cases h; rfl
    | cons j js =>
      rw [valueItems, decodeItems] at h
      obtain ⟨p, -, h⟩ := Option.bind_eq_some_iff.mp h
      obtain ⟨ps, -, h⟩ := Option.bind_eq_some_iff.mp h
      cases h
      rfl
  have hempty := hlength js _ h
  rw [List.isEmpty_map] at hempty
  rw [Json.many, listDecoded, hempty]
  split
  · exact .nil
  · exact .one (decode_arr h)

/-- A part that may be absent is decoded if it is there. -/
inductive DecodesMaybe (readFloat : List Char → Option Binary64) :
    Option Json → Option Decoded → Prop where
  | absent : DecodesMaybe readFloat none none
  | present {j : Json} {p : Decoded} :
    decode readFloat j.value = some p → DecodesMaybe readFloat (some j) (some p)

theorem DecodesMaybe.map {make : α → Decoded} {toJson : α → Json} {a? : Option α}
    (h : ∀ a ∈ a?, decode readFloat (toJson a).value = some (make a)) :
    DecodesMaybe readFloat (a?.map toJson) (a?.map make) := by
  cases a? with
  | none => exact .absent
  | some a => exact .present (h a rfl)

theorem Decodes.maybe {j? : Option Json} {p? : Option Decoded} (h : DecodesMaybe readFloat j? p?) :
    Decodes readFloat (maybe k j?) (slot k p?) := by
  cases h with
  | absent => exact .nil
  | present h => exact .one h

theorem decode_ofString (s : String) :
    decode readFloat (ofString s).value = some (Decoded.ofString s) := rfl

/-- The digits of a number are read back. -/
theorem natOfDigits?_toString (n : Nat) : natOfDigits? 10 (toString n).toList = some n := by
  rw [show toString n = n.repr from rfl, Nat.toList_repr, natOfDigits?_toDigits]

theorem decode_nat (n : Nat) :
    decode readFloat (nat n).value = some (.number (toString n).toList) := rfl

theorem decodes_strings (names : List String) :
    DecodesItems readFloat (names.map ofString) Decoded.ofString names :=
  .map fun s _ => decode_ofString s

theorem decodes_string? (s? : Option String) :
    DecodesMaybe readFloat (s?.map ofString) (s?.map Decoded.ofString) :=
  .map fun s _ => decode_ofString s

/-- A node is put together from its fields. -/
theorem decode_node (h : Decodes readFloat fields f) :
    decode readFloat (node type fields).value = node? readFloat f type := by
  have hall : Decodes readFloat (("type", ofString type) :: fields)
      ((Text.ofString "type", Decoded.ofString type) :: f) := .cons (decode_ofString type) h
  rw [node, value, decode, hall]
  show ((Text.ofString type).toString? >>= _) = _
  rw [Decoded.toString?_ofString]
  rfl

theorem decode_expr {e : Expr} (h : Decodes readFloat fields f)
    (he : Fields.expr? readFloat f type = some e) :
    decode readFloat (node type fields).value = some (.expr e) := by
  rw [decode_node h, node?, he]
  rfl

theorem decode_stmt {s : Stmt} (h : Decodes readFloat fields f)
    (hexpr : Fields.expr? readFloat f type = none) (hs : Fields.stmt? f type = some s) :
    decode readFloat (node type fields).value = some (.stmt s) := by
  rw [decode_node h, node?, hexpr, hs]
  rfl

theorem decode_other (h : Decodes readFloat fields f)
    (hexpr : Fields.expr? readFloat f type = none) (hstmt : Fields.stmt? f type = none)
    (hp : Fields.other? f type = some p) :
    decode readFloat (node type fields).value = some p := by
  rw [decode_node h, node?, hexpr, hstmt, hp]
  rfl

end Json

open Json

/-! ## Tags and constants -/

section

variable {readFloat : List Char → Option Binary64}

theorem Usage.decodes (u : Usage) : decode readFloat u.toJson.value = some (.usage u) := by
  cases u <;> exact decode_node .nil

theorem BoolOperator.decodes (op : BoolOperator) :
    decode readFloat op.toJson.value = some (.boolOp op) := by
  cases op <;> exact decode_node .nil

theorem Operator.decodes (op : Operator) :
    decode readFloat op.toJson.value = some (.operator op) := by
  cases op <;> exact decode_node .nil

theorem UnaryOperator.decodes (op : UnaryOperator) :
    decode readFloat op.toJson.value = some (.unary op) := by
  cases op <;> exact decode_node .nil

theorem Comparison.decodes (op : Comparison) :
    decode readFloat op.toJson.value = some (.comparison op) := by
  cases op <;> exact decode_node .nil

theorem decode_ofChar (c : Char) :
    decode readFloat (Json.ofChar c).value = some (Decoded.ofChar c) := decode_ofString _

/-- A float is read back from its value in a document. -/
def ReadsFloat (readFloat : List Char → Option Binary64) (x : Binary64) : Prop :=
  ∃ p, decode readFloat (ofBinary64 x).value = some p ∧ p.float? readFloat = some x

/-- All floats in a node are read back. -/
def Legible (readFloat : List Char → Option Binary64) (x : Node) : Prop :=
  ∃ u, x.Every (fun _ y => ∀ f, y = .expr (.constant (.float f)) ∨
    y = .expr (.constant (.complex f)) → ReadsFloat readFloat f) u

/-- All floats in some parts of a node are read back. -/
def AllLegible (readFloat : List Char → Option Binary64) (ps : List (Role × Node)) : Prop :=
  ∀ p ∈ ps, Legible readFloat p.2

theorem Legible.parts {x : Node} (h : Legible readFloat x) : AllLegible readFloat x.parts := by
  obtain ⟨u, h⟩ := h
  exact fun p hp => ⟨_, h.part hp⟩

theorem allLegible_cons {p : Role × Node} {ps : List (Role × Node)} :
    AllLegible readFloat (p :: ps) ↔ Legible readFloat p.2 ∧ AllLegible readFloat ps :=
  List.forall_mem_cons

theorem allLegible_append {ps qs : List (Role × Node)} :
    AllLegible readFloat (ps ++ qs) ↔ AllLegible readFloat ps ∧ AllLegible readFloat qs :=
  List.forall_mem_append

theorem allLegible_map {α : Type} {f : α → Role × Node} {as bs : List α} :
    AllLegible readFloat ((as ++ bs).map f) ↔
      AllLegible readFloat (as.map f) ∧ AllLegible readFloat (bs.map f) := by
  rw [List.map_append, allLegible_append]

theorem allLegible_exprs {r : Role} {e : Expr} {es : List Expr} :
    AllLegible readFloat (Node.exprs r (e :: es)) ↔
      Legible readFloat (.expr e) ∧ AllLegible readFloat (Node.exprs r es) :=
  allLegible_cons

theorem decode_constant {c : Constant} (h : Legible readFloat (.expr (.constant c))) :
    ∃ p, decode readFloat c.toJson.value = some p ∧ p.constant? readFloat c.kind = some c := by
  obtain ⟨u, h⟩ := h
  have hfloat := h.root
  cases c with
  | none | ellipsis => exact ⟨_, rfl, rfl⟩
  | bool b => exact ⟨_, rfl, rfl⟩
  | int n =>
    refine ⟨_, decode_nat _, ?_⟩
    show ((natOfDigits? 10 (toString n.toNat).toList).map _) = _
    rw [natOfDigits?_toString, Option.map_some, UInt64.ofNat_toNat]
  | bigInt text =>
    refine ⟨_, rfl, ?_⟩
    show ((Decoded.ofString text).string?.map _) = _
    rw [Decoded.string?_ofString, Option.map_some]
  | float x =>
    obtain ⟨p, hp, hx⟩ := hfloat x (.inl rfl)
    refine ⟨p, hp, ?_⟩
    show (p.float? readFloat).map _ = _
    rw [hx, Option.map_some]
  | complex x =>
    obtain ⟨p, hp, hx⟩ := hfloat x (.inr rfl)
    refine ⟨p, hp, ?_⟩
    show (p.float? readFloat).map _ = _
    rw [hx, Option.map_some]
  | str t => exact ⟨_, rfl, rfl⟩
  | bytes cs =>
    refine ⟨_, rfl, ?_⟩
    show some (Constant.bytes (Text.lossy (Text.ofChars cs))) = _
    rw [Text.lossy_ofChars]

end

/-! ## Expressions -/

section

variable {readFloat : List Char → Option Binary64}

open Node

mutual

theorem Expr.decodes : ∀ e : Expr, Legible readFloat (.expr e) →
    decode readFloat e.toJson.value = some (.expr e)
  | .boolOp op values, h => by
    refine decode_expr (.cons op.decodes (.one (decode_arr (decodes_exprs values h.parts)))) ?_
    simp [Fields.expr?]
  | .namedExpr target value, h => by
    obtain ⟨htarget, h⟩ := allLegible_cons.mp h.parts
    obtain ⟨hvalue, -⟩ := allLegible_cons.mp h
    refine decode_expr (.cons (target.decodes htarget) (.one (value.decodes hvalue))) ?_
    simp [Fields.expr?]
  | .binOp left op right, h => by
    obtain ⟨hleft, h⟩ := allLegible_exprs.mp h.parts
    obtain ⟨hright, -⟩ := allLegible_exprs.mp h
    refine decode_expr (.cons (left.decodes hleft) (.cons op.decodes (.one (right.decodes
      hright)))) ?_
    simp [Fields.expr?]
  | .unaryOp op operand, h => by
    obtain ⟨hoperand, -⟩ := allLegible_exprs.mp h.parts
    refine decode_expr (.cons op.decodes (.one (operand.decodes hoperand))) ?_
    simp [Fields.expr?]
  | .lambda args body, h => by
    obtain ⟨hargs, h⟩ := allLegible_cons.mp h.parts
    obtain ⟨hbody, -⟩ := allLegible_cons.mp h
    refine decode_expr (.cons (args.decodes hargs) (.one (body.decodes hbody))) ?_
    simp [Fields.expr?]
  | .ifExp test body orelse, h => by
    obtain ⟨htest, h⟩ := allLegible_exprs.mp h.parts
    obtain ⟨hbody, h⟩ := allLegible_exprs.mp h
    obtain ⟨horelse, -⟩ := allLegible_exprs.mp h
    refine decode_expr (.cons (test.decodes htest) (.cons (body.decodes hbody) (.one
      (orelse.decodes horelse)))) ?_
    simp [Fields.expr?]
  | .dict keys values, h => by
    obtain ⟨hkeys, hvalues⟩ := allLegible_append.mp h.parts
    refine decode_expr ((Decodes.many (decodes_keys keys hkeys)).append (.many (decodes_exprs
      values hvalues))) ?_
    simp [Fields.expr?]
  | .set elts, h => by
    refine decode_expr (.one (decode_arr (decodes_exprs elts h.parts))) ?_
    simp [Fields.expr?]
  | .listComp elt gens, h => by
    obtain ⟨h, hgens⟩ := allLegible_append.mp h.parts
    obtain ⟨helt, -⟩ := allLegible_exprs.mp h
    refine decode_expr (.cons (elt.decodes helt) (.one (decode_arr (decodes_comprehensions gens
      hgens)))) ?_
    simp [Fields.expr?]
  | .setComp elt gens, h => by
    obtain ⟨h, hgens⟩ := allLegible_append.mp h.parts
    obtain ⟨helt, -⟩ := allLegible_exprs.mp h
    refine decode_expr (.cons (elt.decodes helt) (.one (decode_arr (decodes_comprehensions gens
      hgens)))) ?_
    simp [Fields.expr?]
  | .dictComp key value gens, h => by
    obtain ⟨h, hgens⟩ := allLegible_append.mp h.parts
    obtain ⟨hkey, h⟩ := allLegible_exprs.mp h
    obtain ⟨hvalue, -⟩ := allLegible_exprs.mp h
    refine decode_expr (.cons (key.decodes hkey) (.cons (value.decodes hvalue) (.one (decode_arr
      (decodes_comprehensions gens hgens))))) ?_
    simp [Fields.expr?]
  | .generatorExp elt gens, h => by
    obtain ⟨h, hgens⟩ := allLegible_append.mp h.parts
    obtain ⟨helt, -⟩ := allLegible_exprs.mp h
    refine decode_expr (.cons (elt.decodes helt) (.one (decode_arr (decodes_comprehensions gens
      hgens)))) ?_
    simp [Fields.expr?]
  | .await value, h => by
    obtain ⟨hvalue, -⟩ := allLegible_exprs.mp h.parts
    refine decode_expr (.one (value.decodes hvalue)) ?_
    simp [Fields.expr?]
  | .yield value, h => by
    refine decode_expr (.maybe (decodes_expr? value h.parts)) ?_
    simp [Fields.expr?]
  | .yieldFrom value, h => by
    obtain ⟨hvalue, -⟩ := allLegible_exprs.mp h.parts
    refine decode_expr (.one (value.decodes hvalue)) ?_
    simp [Fields.expr?]
  | .compare left ops comparators, h => by
    obtain ⟨hleft, hcomparators⟩ := allLegible_exprs.mp h.parts
    refine decode_expr (.cons (left.decodes hleft) (.cons (decode_arr (.map fun op _ =>
      op.decodes)) (.one (decode_arr (decodes_exprs comparators hcomparators))))) ?_
    simp [Fields.expr?]
  | .call func args keywords, h => by
    obtain ⟨h, hkeywords⟩ := allLegible_append.mp h.parts
    obtain ⟨hfunc, hargs⟩ := allLegible_exprs.mp h
    refine decode_expr (((Decodes.one (func.decodes hfunc)).append (.many (decodes_exprs args
      hargs))).append (.many (decodes_keywords keywords hkeywords))) ?_
    simp [Fields.expr?]
  | .formattedValue value conversion formatSpec, h => by
    obtain ⟨hvalue, hspec⟩ := allLegible_exprs.mp h.parts
    refine decode_expr (((Decodes.one (value.decodes hvalue)).append (.maybe (.map fun c _ =>
      decode_ofChar c))).append (.maybe (decodes_expr? formatSpec hspec))) ?_
    simp [Fields.expr?]
  | .joinedStr values, h => by
    refine decode_expr (.many (decodes_exprs values h.parts)) ?_
    simp [Fields.expr?]
  | .constant c, h => by
    obtain ⟨p, hp, hc⟩ := decode_constant h
    refine decode_expr (.cons hp (.one (decode_ofString _))) ?_
    simp [Fields.expr?, hc]
  | .attr value _ usage, h => by
    obtain ⟨hvalue, -⟩ := allLegible_exprs.mp h.parts
    refine decode_expr (.cons (value.decodes hvalue) (.cons (decode_ofString _) (.one
      usage.decodes))) ?_
    simp [Fields.expr?]
  | .subscript value slice usage, h => by
    obtain ⟨hvalue, h⟩ := allLegible_cons.mp h.parts
    obtain ⟨hslice, -⟩ := allLegible_cons.mp h
    refine decode_expr (.cons (value.decodes hvalue) (.cons (slice.decodes hslice) (.one
      usage.decodes))) ?_
    simp [Fields.expr?]
  | .starred value usage, h => by
    obtain ⟨hvalue, -⟩ := allLegible_exprs.mp h.parts
    refine decode_expr (.cons (value.decodes hvalue) (.one usage.decodes)) ?_
    simp [Fields.expr?]
  | .name _ usage, _ => by
    refine decode_expr (.cons (decode_ofString _) (.one usage.decodes)) ?_
    simp [Fields.expr?]
  | .list elts usage, h => by
    refine decode_expr ((Decodes.many (decodes_exprs elts h.parts)).append (.one usage.decodes)) ?_
    simp [Fields.expr?]
  | .tuple elts usage, h => by
    refine decode_expr ((Decodes.many (decodes_exprs elts h.parts)).append (.one usage.decodes)) ?_
    simp [Fields.expr?]
  | .slice lower upper step, h => by
    obtain ⟨h, hstep⟩ := allLegible_map.mp h.parts
    obtain ⟨hlower, hupper⟩ := allLegible_map.mp h
    refine decode_expr (((Decodes.maybe (decodes_expr? lower hlower)).append (.maybe (decodes_expr?
      upper hupper))).append (.maybe (decodes_expr? step hstep))) ?_
    simp [Fields.expr?]

theorem Arguments.decodes : ∀ a : Arguments, Legible readFloat (.arguments a) →
    decode readFloat a.toJson.value = some (.arguments a)
  | ⟨posOnly, args, vararg, kwOnly, kwDefaults, kwarg, defaults⟩, h => by
    obtain ⟨h, hvalues⟩ := allLegible_append.mp h.parts
    obtain ⟨hdefaults, hkwDefaults⟩ := allLegible_map.mp hvalues
    obtain ⟨h, hkwarg⟩ := allLegible_map.mp h
    obtain ⟨h, hkwOnly⟩ := allLegible_map.mp h
    obtain ⟨h, hvararg⟩ := allLegible_map.mp h
    obtain ⟨hposOnly, hargs⟩ := allLegible_map.mp h
    refine decode_other (((((((Decodes.many (decodes_args posOnly hposOnly)).append
      (.many (decodes_args args hargs))).append (.maybe (decodes_arg? vararg hvararg))).append
      (.many (decodes_args kwOnly hkwOnly))).append
      (.many (decodes_keys kwDefaults hkwDefaults))).append
      (.maybe (decodes_arg? kwarg hkwarg))).append (.many (decodes_exprs defaults hdefaults)))
      rfl rfl ?_
    simp [Fields.other?]

theorem Arg.decodes : ∀ a : Arg, Legible readFloat (.arg a) →
    decode readFloat a.toJson.value = some (.arg a)
  | ⟨name, note⟩, h => by
    refine decode_other ((Decodes.one (decode_ofString name)).append
      (.maybe (decodes_expr? note h.parts))) rfl rfl ?_
    simp [Fields.other?]

theorem Keyword.decodes : ∀ k : Keyword, Legible readFloat (.keyword k) →
    decode readFloat k.toJson.value = some (.keyword k)
  | ⟨name, value⟩, h => by
    have hvalue := h.parts _ List.mem_cons_self
    refine decode_other ((Decodes.maybe (decodes_string? name)).append
      (.one (value.decodes hvalue))) rfl rfl ?_
    simp [Fields.other?]

theorem Comprehension.decodes : ∀ c : Comprehension, Legible readFloat (.comprehension c) →
    decode readFloat c.toJson.value = some (.comprehension c)
  | ⟨target, iter, ifs, isAsync⟩, h => by
    obtain ⟨htarget, h⟩ := allLegible_cons.mp h.parts
    obtain ⟨hiter, hifs⟩ := allLegible_cons.mp h
    have hasync : Decodes readFloat (if isAsync then [("is_async", .bool true)] else [])
        (slot "is_async" (if isAsync then some (.bool true) else none)) := by
      cases isAsync
      · exact .nil
      · exact .one rfl
    refine decode_other (((Decodes.cons (target.decodes htarget)
      (.one (iter.decodes hiter))).append (.many (decodes_exprs ifs hifs))).append hasync) rfl rfl
      ?_
    cases isAsync <;> simp [Fields.other?]

theorem decodes_exprs {r : Role} : ∀ es : List Expr, AllLegible readFloat (exprs r es) →
    DecodesItems readFloat (exprsToJson es) Decoded.expr es
  | [], _ => rfl
  | e :: es, h => by
    rw [allLegible_exprs] at h
    exact .cons (e.decodes h.1) (decodes_exprs es h.2)

theorem decodes_expr? {r : Role} : ∀ e? : Option Expr, AllLegible readFloat (exprs r e?.toList) →
    DecodesMaybe readFloat (exprToJson? e?) (e?.map Decoded.expr)
  | none, _ => .absent
  | some e, h => .present (e.decodes (allLegible_exprs.mp h).1)

theorem decodes_keys {r : Role} : ∀ es : List (Option Expr),
    AllLegible readFloat (exprs r (es.filterMap id)) →
    DecodesItems readFloat (keysToJson es) Decoded.ofKey es
  | [], _ => rfl
  | none :: es, h => .cons (a := none) rfl (decodes_keys es h)
  | some e :: es, h => by
    have h := allLegible_exprs.mp h
    exact .cons (a := some e) (e.decodes h.1) (decodes_keys es h.2)

theorem decodes_comprehensions {r : Role} : ∀ cs : List Comprehension,
    AllLegible readFloat (cs.map fun c => (r, .comprehension c)) →
    DecodesItems readFloat (comprehensionsToJson cs) Decoded.comprehension cs
  | [], _ => rfl
  | c :: cs, h => by
    rw [List.map_cons, allLegible_cons] at h
    exact .cons (c.decodes h.1) (decodes_comprehensions cs h.2)

theorem decodes_keywords {r : Role} : ∀ ks : List Keyword,
    AllLegible readFloat (ks.map fun k => (r, .keyword k)) →
    DecodesItems readFloat (keywordsToJson ks) Decoded.keyword ks
  | [], _ => rfl
  | k :: ks, h => by
    rw [List.map_cons, allLegible_cons] at h
    exact .cons (k.decodes h.1) (decodes_keywords ks h.2)

theorem decodes_args {r : Role} : ∀ as : List Arg,
    AllLegible readFloat (as.map fun a => (r, .arg a)) →
    DecodesItems readFloat (argsToJson as) Decoded.arg as
  | [], _ => rfl
  | a :: as, h => by
    rw [List.map_cons, allLegible_cons] at h
    exact .cons (a.decodes h.1) (decodes_args as h.2)

theorem decodes_arg? {r : Role} : ∀ a? : Option Arg,
    AllLegible readFloat (a?.toList.map fun a => (r, .arg a)) →
    DecodesMaybe readFloat (argToJson? a?) (a?.map Decoded.arg)
  | none, _ => .absent
  | some a, h => .present (a.decodes (allLegible_cons.mp h).1)

end

/-! ## Statements -/

theorem Alias.decodes (a : Alias) : decode readFloat a.toJson.value = some (.imported a) := by
  refine decode_other ((Decodes.one (decode_ofString a.name)).append
    (.maybe (decodes_string? a.asName))) rfl rfl ?_
  simp [Fields.other?]

/-- The nodes of expressions that stand in a statement. -/
theorem decodes_map_expr {r : Role} {es : List Expr} (h : AllLegible readFloat (exprs r es)) :
    DecodesItems readFloat (es.map Expr.toJson) Decoded.expr es :=
  .map fun e he => e.decodes (h _ (List.mem_map_of_mem he))

theorem decodes_map_expr? {r : Role} {e? : Option Expr}
    (h : AllLegible readFloat (exprs r e?.toList)) :
    DecodesMaybe readFloat (e?.map Expr.toJson) (e?.map Decoded.expr) :=
  .map fun e he => e.decodes (h _ (List.mem_map_of_mem (Option.mem_toList.mpr he)))

theorem WithItem.decodes (i : WithItem) (h : Legible readFloat (.withItem i)) :
    decode readFloat i.toJson.value = some (.withItem i) := by
  obtain ⟨hcontext, hvars⟩ := allLegible_cons.mp h.parts
  refine decode_other ((Decodes.one (i.context.decodes hcontext)).append
    (.maybe (decodes_map_expr? hvars))) rfl rfl ?_
  simp [Fields.other?]

mutual

theorem Stmt.decodes : ∀ s : Stmt, Legible readFloat (.stmt s) →
    decode readFloat s.toJson.value = some (.stmt s)
  | .functionDef isAsync name args body decorators returns, h => by
    obtain ⟨hargs, h⟩ := allLegible_cons.mp h.parts
    obtain ⟨h, hbody⟩ := allLegible_append.mp h
    obtain ⟨hdecorators, hreturns⟩ := allLegible_append.mp h
    have hfields := ((Decodes.cons (k := "name") (decode_ofString name)
      (.cons (k := "args") (args.decodes hargs)
        (.one (k := "body") (decode_arr (decodes_stmts body hbody))))).append
      (.many (k := "decorator_list") (decodes_map_expr hdecorators))).append
      (.maybe (k := "returns") (decodes_map_expr? hreturns))
    cases isAsync
    all_goals
      refine decode_stmt hfields rfl ?_
      simp [Fields.stmt?, Fields.functionDef?]
  | .classDef name bases keywords body decorators, h => by
    obtain ⟨h, hbody⟩ := allLegible_append.mp h.parts
    obtain ⟨h, hdecorators⟩ := allLegible_append.mp h
    obtain ⟨hbases, hkeywords⟩ := allLegible_append.mp h
    refine decode_stmt (((((Decodes.one (decode_ofString name)).append
      (.many (decodes_map_expr hbases))).append
      (.many (.map fun k hk => k.decodes (hkeywords _ (List.mem_map_of_mem hk))))).append
      (.one (decode_arr (decodes_stmts body hbody)))).append
      (.many (decodes_map_expr hdecorators))) rfl ?_
    simp [Fields.stmt?]
  | .returning value, h => by
    refine decode_stmt (.maybe (decodes_map_expr? h.parts)) rfl ?_
    simp [Fields.stmt?]
  | .delete targets, h => by
    refine decode_stmt (.one (decode_arr (decodes_map_expr h.parts))) rfl ?_
    simp [Fields.stmt?]
  | .assign targets value, h => by
    obtain ⟨hvalue, htargets⟩ := allLegible_cons.mp h.parts
    refine decode_stmt (.cons (decode_arr (decodes_map_expr htargets))
      (.one (value.decodes hvalue))) rfl ?_
    simp [Fields.stmt?]
  | .augAssign target op value, h => by
    obtain ⟨htarget, h⟩ := allLegible_cons.mp h.parts
    obtain ⟨hvalue, -⟩ := allLegible_cons.mp h
    refine decode_stmt (.cons (target.decodes htarget) (.cons op.decodes
      (.one (value.decodes hvalue)))) rfl ?_
    simp [Fields.stmt?]
  | .annAssign target note value simple, h => by
    obtain ⟨htarget, h⟩ := allLegible_cons.mp h.parts
    obtain ⟨hnote, hvalue⟩ := allLegible_cons.mp h
    have hsimple : decode readFloat (Json.bool simple).value = some (.bool simple) := rfl
    refine decode_stmt (((Decodes.cons (target.decodes htarget)
      (.one (note.decodes hnote))).append (.maybe (decodes_map_expr? hvalue))).append
      (.one hsimple)) rfl ?_
    simp [Fields.stmt?]
  | .forLoop isAsync target iter body orelse, h => by
    obtain ⟨htarget, h⟩ := allLegible_cons.mp h.parts
    obtain ⟨hiter, h⟩ := allLegible_cons.mp h
    obtain ⟨hbody, horelse⟩ := allLegible_append.mp h
    have hfields := (Decodes.cons (k := "target") (target.decodes htarget)
      (.cons (k := "iter") (iter.decodes hiter)
        (.one (k := "body") (decode_arr (decodes_stmts body hbody))))).append
      (.many (k := "orelse") (decodes_stmts orelse horelse))
    cases isAsync
    all_goals
      refine decode_stmt hfields rfl ?_
      simp [Fields.stmt?, Fields.forLoop?]
  | .whileLoop test body orelse, h => by
    obtain ⟨htest, h⟩ := allLegible_cons.mp h.parts
    obtain ⟨hbody, horelse⟩ := allLegible_append.mp h
    refine decode_stmt ((Decodes.cons (test.decodes htest)
      (.one (decode_arr (decodes_stmts body hbody)))).append
      (.many (decodes_stmts orelse horelse))) rfl ?_
    simp [Fields.stmt?]
  | .ifElse test body orelse, h => by
    obtain ⟨htest, h⟩ := allLegible_cons.mp h.parts
    obtain ⟨hbody, horelse⟩ := allLegible_append.mp h
    refine decode_stmt ((Decodes.cons (test.decodes htest)
      (.one (decode_arr (decodes_stmts body hbody)))).append
      (.many (decodes_stmts orelse horelse))) rfl ?_
    simp [Fields.stmt?]
  | .withBlock isAsync items body, h => by
    obtain ⟨hitems, hbody⟩ := allLegible_append.mp h.parts
    have hfields := Decodes.cons (k := "items")
      (decode_arr (.map fun (i : WithItem) hi => i.decodes (hitems _ (List.mem_map_of_mem hi))))
      (.one (k := "body") (decode_arr (decodes_stmts body hbody)))
    cases isAsync
    all_goals
      refine decode_stmt hfields rfl ?_
      simp [Fields.stmt?, Fields.withBlock?]
  | .raising exc cause, h => by
    obtain ⟨hexc, hcause⟩ := allLegible_append.mp h.parts
    refine decode_stmt ((Decodes.maybe (decodes_map_expr? hexc)).append
      (.maybe (decodes_map_expr? hcause))) rfl ?_
    simp [Fields.stmt?]
  | .tryBlock body handlers orelse finalbody, h => by
    obtain ⟨h, hfinalbody⟩ := allLegible_append.mp h.parts
    obtain ⟨h, horelse⟩ := allLegible_append.mp h
    obtain ⟨hbody, hhandlers⟩ := allLegible_append.mp h
    refine decode_stmt ((((Decodes.one (decode_arr (decodes_stmts body hbody))).append
      (.many (decodes_handlers handlers hhandlers))).append
      (.many (decodes_stmts orelse horelse))).append
      (.many (decodes_stmts finalbody hfinalbody))) rfl ?_
    simp [Fields.stmt?]
  | .asserting test msg, h => by
    obtain ⟨htest, hmsg⟩ := allLegible_cons.mp h.parts
    refine decode_stmt ((Decodes.one (test.decodes htest)).append
      (.maybe (decodes_map_expr? hmsg))) rfl ?_
    simp [Fields.stmt?]
  | .importing names, _ => by
    refine decode_stmt (.one (decode_arr (.map fun a _ => a.decodes))) rfl ?_
    simp [Fields.stmt?]
  | .importFrom module? names level, _ => by
    refine decode_stmt ((Decodes.maybe (decodes_string? module?)).append
      (.cons (decode_arr (.map fun a _ => a.decodes)) (.one (decode_nat level)))) rfl ?_
    simp [Fields.stmt?, Decoded.nat?, natOfDigits?_toDigits]
  | .globals names, _ => by
    refine decode_stmt (.one (decode_arr (decodes_strings names))) rfl ?_
    simp [Fields.stmt?]
  | .nonlocals names, _ => by
    refine decode_stmt (.one (decode_arr (decodes_strings names))) rfl ?_
    simp [Fields.stmt?]
  | .expr value, h => by
    obtain ⟨hvalue, -⟩ := allLegible_cons.mp h.parts
    refine decode_stmt (.one (value.decodes hvalue)) rfl ?_
    simp [Fields.stmt?]
  | .pass, _ => decode_node .nil
  | .breaking, _ => decode_node .nil
  | .continuing, _ => decode_node .nil

theorem ExceptHandler.decodes : ∀ x : ExceptHandler, Legible readFloat (.handler x) →
    decode readFloat x.toJson.value = some (.handler x)
  | ⟨exception, name, body⟩, h => by
    obtain ⟨hexception, hbody⟩ := allLegible_append.mp h.parts
    refine decode_other (((Decodes.maybe (decodes_map_expr? hexception)).append
      (.maybe (decodes_string? name))).append
      (.one (decode_arr (decodes_stmts body hbody)))) rfl rfl ?_
    simp [Fields.other?]

theorem decodes_stmts : ∀ ss : List Stmt, AllLegible readFloat (block ss) →
    DecodesItems readFloat (stmtsToJson ss) Decoded.stmt ss
  | [], _ => rfl
  | s :: ss, h => by
    rw [block, List.map_cons, allLegible_cons] at h
    exact .cons (s.decodes h.1) (decodes_stmts ss h.2)

theorem decodes_handlers {r : Role} : ∀ hs : List ExceptHandler,
    AllLegible readFloat (hs.map fun x => (r, .handler x)) →
    DecodesItems readFloat (handlersToJson hs) Decoded.handler hs
  | [], _ => rfl
  | x :: hs, h => by
    rw [List.map_cons, allLegible_cons] at h
    exact .cons (x.decodes h.1) (decodes_handlers hs h.2)

end

/-! ## Documents -/

theorem Module.decodes {m : Module} (h : Legible readFloat (.module m)) :
    decode readFloat m.toJson.value = some (.module m) := by
  refine decode_other (.many (decodes_stmts m.body h.parts)) rfl rfl ?_
  simp [Fields.other?]

theorem document?_value {m : Module} (h : Legible readFloat (.module m)) :
    document? readFloat m.document.value = some m := by
  have hitems : DecodesItems readFloat [m.toJson] Decoded.module [m] := .cons (Module.decodes h) rfl
  have harray : decode readFloat m.document.value = some (.list [.module m]) := decode_arr hitems
  rw [document?, harray]
  rfl

end

/-- A float constant of a program. -/
def Module.HasFloat (m : Module) (x : Binary64) : Prop :=
  ∃ u c, Node.Occurs .load (.module m) u (.expr (.constant c)) ∧ (c = .float x ∨ c = .complex x)

theorem Binary64.eq_infinity {x : Binary64} (h : x.isInfinite = true) :
    x = infinity x.isNegative := by
  obtain ⟨bits⟩ := x
  simp only [isInfinite, field, fraction, Bool.and_eq_true, beq_iff_eq] at h
  have hbound : bits.toNat < 18446744073709551616 := bits.toNat_lt
  have hfields : bits.toNat / 4503599627370496 % 2048 = 2047 ∧ bits.toNat % 4503599627370496 = 0 :=
    h
  have hnegative : (Binary64.mk bits).isNegative =
      (bits.toNat / 9223372036854775808 % 2 == 1) := rfl
  have htoNat : (infinity (Binary64.mk bits).isNegative).bits.toNat = bits.toNat := by
    rw [hnegative]
    by_cases hsign : bits.toNat / 9223372036854775808 % 2 = 1
    · rw [beq_iff_eq.mpr hsign]
      show (9223372036854775808 + 9218868437227405312) = _
      omega
    · rw [beq_eq_false_iff_ne.mpr hsign]
      show (9218868437227405312) = _
      omega
  exact congrArg Binary64.mk (UInt64.toNat_inj.mp htoNat.symm)

/-- A finite float is read back if its token is, and an infinity always is. -/
theorem readsFloat {readFloat : List Char → Option Binary64} {x : Binary64}
    (hnan : x.isNaN = false)
    (hfinite : x.isInfinite = false → readFloat x.render = some x) : ReadsFloat readFloat x := by
  cases hinfinite : x.isInfinite with
  | false =>
    refine ⟨.number x.render, ?_, hfinite hinfinite⟩
    simp [ofBinary64, hnan, hinfinite, value, decode]
  | true =>
    have hx := Binary64.eq_infinity hinfinite
    refine ⟨Decoded.ofString (if x.isNegative then "-inf" else "inf"), ?_, ?_⟩
    · simp only [ofBinary64, hnan, hinfinite]
      exact decode_ofString _
    · rw [hx]
      cases x.isNegative <;> rfl

/-- A finite float that satisfies `P` and is written as a token. -/
structure WrittenAs (P : Binary64 → Prop) (token : List Char) (x : Binary64) : Prop where
  known : P x
  finite : x.isInfinite = false
  render_eq : x.render = token

/-- The reader that takes the tokens of floats that satisfy `P` back. -/
noncomputable def readBack (P : Binary64 → Prop) (token : List Char) : Option Binary64 := by
  classical
  exact if h : ∃ x, WrittenAs P token x then some h.choose else none

/-- If floats that satisfy `P` differ in their tokens, each is read back from its own. -/
theorem readBack_render {P : Binary64 → Prop}
    (hrender : ∀ x y, P x → P y → x.isInfinite = false → y.isInfinite = false →
      x.render = y.render → x = y)
    {x : Binary64} (hx : P x) (hfinite : x.isInfinite = false) :
    readBack P x.render = some x := by
  have hwritten : ∃ y, WrittenAs P x.render y := ⟨x, hx, hfinite, rfl⟩
  obtain ⟨hy, hyfinite, hyrender⟩ := hwritten.choose_spec
  have hchosen : readBack P x.render = some hwritten.choose := dif_pos hwritten
  rw [hchosen, hrender _ _ hy hx hyfinite hfinite hyrender]

/-- A program is legible if none of its floats is NaN and the finite ones are read back. -/
theorem Module.legible {readFloat : List Char → Option Binary64} {m : Module}
    (hnan : ∀ x, m.HasFloat x → x.isNaN = false)
    (hread : ∀ x, m.HasFloat x → x.isInfinite = false → readFloat x.render = some x) :
    Legible readFloat (.module m) := by
  refine ⟨.load, fun u y hy x hyx => ?_⟩
  have hx : m.HasFloat x := by
    rcases hyx with rfl | rfl
    · exact ⟨u, _, hy, .inl rfl⟩
    · exact ⟨u, _, hy, .inr rfl⟩
  exact readsFloat (hnan x hx) (hread x hx)

/-- Programs with the same compact text are the same, if no float of them is NaN and different
floats of them have different texts. -/
theorem Module.compact_injective {m₁ m₂ : Module} (hnan₁ : ∀ x, m₁.HasFloat x → x.isNaN = false)
    (hnan₂ : ∀ x, m₂.HasFloat x → x.isNaN = false)
    (hrender : ∀ x y, m₁.HasFloat x ∨ m₂.HasFloat x → m₁.HasFloat y ∨ m₂.HasFloat y →
      x.isInfinite = false → y.isInfinite = false → x.render = y.render → x = y)
    (h : m₁.document.compact = m₂.document.compact) : m₁ = m₂ := by
  -- one reader takes the tokens of the floats of both programs back
  have hread : ∀ x, m₁.HasFloat x ∨ m₂.HasFloat x → x.isInfinite = false →
      readBack (fun x => m₁.HasFloat x ∨ m₂.HasFloat x) x.render = some x :=
    fun x hx => readBack_render hrender hx
  have h₁ := document?_value (Module.legible hnan₁ fun x hx => hread x (.inl hx))
  have h₂ := document?_value (Module.legible hnan₂ fun x hx => hread x (.inr hx))
  have hvalue : m₁.document.value = m₂.document.value :=
    Option.some.inj (by rw [← read_compact, ← read_compact, h])
  rw [hvalue, h₂] at h₁
  exact (Option.some.inj h₁).symm

/-- The program `1.5, 1e999j`. -/
def floatPair : Module :=
  ⟨[.expr (.tuple [.constant (.float ⟨0x3FF8000000000000⟩),
    .constant (.complex (.infinity false))] .load)]⟩

theorem float_of_floatPair {x : Binary64} (h : floatPair.HasFloat x) :
    x = ⟨0x3FF8000000000000⟩ ∨ x = .infinity false := by
  have hevery : Node.Every (fun _ y => ∀ c, y = .expr (.constant c) →
      c = .float ⟨0x3FF8000000000000⟩ ∨ c = .complex (.infinity false))
      .load (.module floatPair) := by
    refine Node.every_intro (by simp) (List.forall_mem_singleton.mpr ?_)
    refine Node.every_intro (by simp) (List.forall_mem_singleton.mpr ?_)
    refine Node.every_intro (by simp) (List.forall_mem_cons.mpr
      ⟨?_, List.forall_mem_singleton.mpr ?_⟩)
    · exact Node.every_intro (by simp) nofun
    · exact Node.every_intro (by simp) nofun
  obtain ⟨u, c, hc, rfl | rfl⟩ := h
  · exact .inl (by simpa using hevery _ _ hc)
  · exact .inr (by simpa using hevery _ _ hc)

theorem Module.compact_injective_floatPair :
    (∀ x, floatPair.HasFloat x → x.isNaN = false) ∧
      (∀ x, floatPair.HasFloat x → x.isInfinite = false → x = ⟨0x3FF8000000000000⟩) ∧
      (⟨floatPair.body ++ []⟩ : Module) = floatPair := by
  have hnan : ∀ x, floatPair.HasFloat x → x.isNaN = false := by
    intro x hx
    obtain rfl | rfl := float_of_floatPair hx
    · decide
    · decide
  have hfinite : ∀ x, floatPair.HasFloat x → x.isInfinite = false → x = ⟨0x3FF8000000000000⟩ := by
    intro x hx hx'
    obtain rfl | rfl := float_of_floatPair hx
    · rfl
    · exact absurd hx' (by decide)
  refine ⟨hnan, hfinite, Module.compact_injective hnan hnan ?_ rfl⟩
  intro x y hx hy hx' hy' _
  rw [hfinite x (or_self_iff.mp hx) hx', hfinite y (or_self_iff.mp hy) hy']

end PythonSyntax
