import Mathlib.Data.List.Infix
import PythonSyntax.Proofs.Formatted.Framed
import PythonSyntax.Proofs.Formatted.Search
import PythonSyntax.Proofs.Literal.Decode

/-
Format specs with fields.

A spec is put together from texts and fields.  Two searches take it apart: one counts braces, and finds
the end of the spec; the other one passes over literals and brackets, and finds the ends of its fields.
They agree if the braces of the spec match, and then the spec is read back; otherwise the spec is cut
within a field, or goes on past its end, and the program is refused.
-/

namespace PythonSyntax

open PythonSyntax.Parser PythonSyntax.Lexeme

/-! ## Braces -/

/-- The braces of a text match, where `depth` of them are open before it: as many are closed as are
opened, and none before it is open. -/
structure BracesMatch (depth : Nat) (text : List Char) : Prop where
  within : ∀ front ∈ text.inits, front.count '}' ≤ depth + front.count '{'
  total : text.count '}' = depth + text.count '{'

theorem bracesMatch_nil {depth : Nat} : BracesMatch depth [] ↔ depth = 0 := by
  constructor
  · intro h
    exact h.total.symm
  · rintro rfl
    exact ⟨by decide, rfl⟩

/-- A character opens `a` braces and closes `b`. -/
theorem bracesMatch_of_count {depth a b : Nat} {c : Char} {r : List Char}
    (hopen : ∀ f : List Char, (c :: f).count '{' = f.count '{' + a)
    (hclose : ∀ f : List Char, (c :: f).count '}' = f.count '}' + b) :
    BracesMatch depth (c :: r) ↔ b ≤ depth + a ∧ BracesMatch (depth + a - b) r := by
  have hmem : ∀ front, front ∈ (c :: r).inits ↔ front = [] ∨ ∃ f, front = c :: f ∧ f ∈ r.inits := by
    intro front
    simp only [List.mem_inits, List.prefix_cons_iff]
  constructor
  · rintro ⟨hwithin, htotal⟩
    have hwithin : ∀ f ∈ r.inits, (c :: f).count '}' ≤ depth + (c :: f).count '{' :=
      fun f hf => hwithin _ ((hmem _).mpr (.inr ⟨f, rfl, hf⟩))
    have hfirst := hwithin [] ((List.mem_inits _ _).mpr List.nil_prefix)
    rw [hopen, hclose, List.count_nil, List.count_nil] at hfirst
    rw [hopen, hclose] at htotal
    refine ⟨by omega, fun f hf => ?_, by omega⟩
    have hf := hwithin f hf
    rw [hopen, hclose] at hf
    omega
  · rintro ⟨hle, hwithin, htotal⟩
    refine ⟨fun front hfront => ?_, ?_⟩
    · obtain rfl | ⟨f, rfl, hf⟩ := (hmem front).mp hfront
      · exact Nat.zero_le _
      · have hf := hwithin f hf
        rw [hopen, hclose]
        omega
    · rw [hopen, hclose]
      omega

/-- Braces match after an opening brace, a closing one, and any other character. -/
theorem bracesMatch_cons {depth : Nat} {c : Char} {r : List Char} : BracesMatch depth (c :: r) ↔
    ¬ (c = '}' ∧ depth = 0) ∧
      BracesMatch (if c = '{' then depth + 1 else if c = '}' then depth - 1 else depth) r := by
  by_cases hopen : c = '{'
  · subst hopen
    rw [bracesMatch_of_count (a := 1) (b := 0) (fun f => by simp) fun f => by simp]
    simp
  by_cases hclose : c = '}'
  · subst hclose
    rw [bracesMatch_of_count (a := 0) (b := 1) (fun f => by simp) fun f => by simp]
    simp [Nat.one_le_iff_ne_zero]
  · rw [bracesMatch_of_count (a := 0) (b := 0) (fun f => by simp [hopen]) fun f => by simp [hclose]]
    simp [hopen, hclose]

/-- The search for the end of a spec counts braces: it finds the end of a text if its braces match. -/
theorem splitSpec_eq_iff {depth : Nat} {text r : List Char} :
    splitSpec depth (text ++ '}' :: r) = (text, '}' :: r) ↔ BracesMatch depth text := by
  induction text generalizing depth with
  | nil =>
    rw [bracesMatch_nil, List.nil_append, splitSpec]
    by_cases hdepth : depth = 0
    · rw [if_pos ⟨rfl, hdepth⟩]
      exact iff_of_true rfl hdepth
    · rw [if_neg fun h => hdepth h.2]
      exact iff_of_false nofun hdepth
  | cons c text ih =>
    rw [bracesMatch_cons, ← ih, List.cons_append, splitSpec]
    by_cases hend : c = '}' ∧ depth = 0
    · rw [if_pos hend]
      exact iff_of_false nofun fun h => h.1 hend
    · rw [if_neg hend, and_iff_right hend]
      simp only [Prod.ext_iff, List.cons.injEq, true_and]

/-! ## Plain texts -/

/-- No brace, backslash or line break stands in a text. -/
def IsPlainText (cs : List Char) : Prop := ∀ c ∈ cs, c ∉ ['{', '}', '\\', '\n', '\r']

theorem isPlainText_nil : IsPlainText [] := nofun

namespace IsPlainText

variable {cs ds rest : List Char}

theorem ne (h : IsPlainText cs) {d : Char} (hd : d ∈ ['{', '}', '\\', '\n', '\r']) : d ∉ cs :=
  fun hmem => h d hmem hd

theorem append (hcs : IsPlainText cs) (hds : IsPlainText ds) : IsPlainText (cs ++ ds) :=
  List.forall_mem_append.mpr ⟨hcs, hds⟩

/-- A body is cut at the brace after a plain text. -/
theorem splitLiteral_eq (h : IsPlainText cs) (hrest : Part.AtBrace rest) (isRaw : Bool) :
    splitLiteral isRaw false (cs ++ rest) = (cs, rest) := by
  induction cs with
  | nil =>
    cases rest with
    | nil => rfl
    | cons c r => rw [List.nil_append, splitLiteral, if_neg Bool.false_ne_true, if_pos (hrest c rfl)]
  | cons c cs ih =>
    obtain ⟨hc, hcs⟩ := List.forall_mem_cons.mp h
    have hbrace : ¬ (c = '{' ∨ c = '}') := by
      rintro (rfl | rfl) <;> exact hc (by decide)
    have hslash : (c == '\\') = false := beq_false_of_ne (by rintro rfl; exact hc (by decide))
    rw [List.cons_append, splitLiteral, if_neg Bool.false_ne_true, if_neg hbrace, hslash, Bool.false_and,
      Bool.false_and]
    dsimp only
    rw [ih hcs]

/-- A plain text denotes itself. -/
theorem decodes (h : IsPlainText cs) (isRaw : Bool) : Decodes isRaw cs (Text.ofChars cs) := by
  cases isRaw with
  | true =>
    have hraw : Escape.decodeRaw false cs = .ok cs := by
      induction cs with
      | nil => rfl
      | cons c cs ih =>
        obtain ⟨hc, hcs⟩ := List.forall_mem_cons.mp h
        have hreturn : c ≠ '\r' := by rintro rfl; exact hc (by decide)
        unfold Escape.decodeRaw
        rw [Bool.false_and, if_neg Bool.false_ne_true, if_neg hreturn, ih hcs]
        rfl
    show (Escape.decodeRaw false cs).map Text.ofChars = _
    rw [hraw]
    rfl
  | false =>
    have hspells : List.Forall₂ (Escape.Spells false) (Text.ofChars cs) (cs.map fun c => [c]) := by
      refine List.forall₂_map_left_iff.mpr (List.forall₂_map_right_iff.mpr (List.forall₂_same.mpr ?_))
      exact fun c hc => .itself (by rintro rfl; exact h _ hc (by decide))
        (by rintro rfl; exact h _ hc (by decide)) fun h => absurd h Bool.false_ne_true
    have hdecode := Escape.decodeUpTo_flatten hspells (Nat.le_refl _)
    rwa [← List.flatMap_def, List.flatMap_singleton'] at hdecode

end IsPlainText

/-! ## Fields that hold an expression -/

section

variable {w : Frame} {limit levels : Nat} {e : List Char} {v : Expr} {n : Nesting} {isRaw : Bool}

/-- A text may be the expression of a field in literals in this frame: it fills its field, none of the
quotes and no hidden brace is in it, and the literal with only this field is accepted, with the value `v`. -/
structure Frame.Holds (w : Frame) (limit : Nat) (e : List Char) (v : Expr) : Prop where
  unquoted : w.quote ∉ e
  line : w.triple = false → ∀ c ∈ e, c ≠ '\n' ∧ c ≠ '\r'
  head : e.head? ≠ some '{'
  fills : FillsField e
  accepted : parseModule (w.literal ('{' :: (e ++ ['}']))) limit = .ok (fieldProgram v)

/-- A field that its expression fills, and a brace after it. -/
theorem Parser.FillsField.isField_brace (h : FillsField e) {spell : List Char → List Char}
    {embeds : List Char → Expr → Prop} {spec : List Char → List Piece → Prop} {r rest : List Char}
    {ps : List Piece} :
    IsField spell embeds spec (e ++ '}' :: r) ps rest ↔ e.all Unicode.isWhiteSpace = false ∧
      ∃ v, embeds e v ∧ rest = r ∧ ps = [.value (.formattedValue v none none)] := by
  rw [isField_iff (h.splitField_eq (.inl rfl) 0 0)]
  refine and_congr_right fun _ => exists_congr fun v => and_congr_right fun _ => ?_
  exact readsEnd_brace

/-- A field that its expression fills, and a colon after it. -/
theorem Parser.FillsField.isField_colon (h : FillsField e) {spell : List Char → List Char}
    {embeds : List Char → Expr → Prop} {spec : List Char → List Piece → Prop} {r rest : List Char}
    {ps : List Piece} :
    IsField spell embeds spec (e ++ ':' :: r) ps rest ↔ e.all Unicode.isWhiteSpace = false ∧
      ∃ v, embeds e v ∧ ∃ inner qs, splitSpec 0 r = (inner, '}' :: rest) ∧ spec inner qs ∧
        ps = [.value (.formattedValue v none (some (.joinedStr (merge qs))))] := by
  rw [isField_iff (h.splitField_eq (.inr (.inl rfl)) 0 0)]
  exact and_congr_right fun _ => exists_congr fun v => and_congr_right fun _ => readsEnd_colon

theorem splitLiteral_brace (isRaw : Bool) (r : List Char) :
    splitLiteral isRaw false ('{' :: r) = ([], '{' :: r) := rfl

theorem head?_append_brace (h : e.head? ≠ some '{') {c : Char} (hc : c ≠ '{') (r : List Char) :
    (e ++ c :: r).head? ≠ some '{' := by
  cases e with
  | nil => exact fun heq => hc (Option.some.inj heq)
  | cons d e => exact h

namespace Frame.Holds

theorem inside (h : w.Holds limit e v) : w.Inside e := by
  refine ⟨fun c hc => ⟨h.fills.ne_slash c hc, ?_⟩, h.line⟩
  rintro rfl
  exact h.unquoted hc

/-- Such an expression is read, and to this value. -/
theorem embeds (h : w.Holds limit e v) :
    e.all Unicode.isWhiteSpace = false ∧ Embeds id ⟨limit, 0⟩ e v := by
  have hinside : w.Inside ('{' :: (e ++ ['}'])) :=
    .cons (by decide) (h.inside.append (.cons (by decide) inside_nil))
  have hlexemes := w.lexemes_plain (.inr ⟨_, rfl⟩) hinside
  obtain ⟨ps, hvalues, hps⟩ := (w.parseSpelled_values id (.inr ⟨_, rfl⟩) hlexemes limit).mp h.accepted
  rw [reading_field_iff (splitLiteral_brace _ _) (head?_append_brace h.head (by decide) [])] at hps
  obtain ⟨t, qs, rest, us, -, hfield, -, rfl⟩ := hps
  rw [readsField_iff, h.fills.isField_brace] at hfield
  obtain ⟨hvisible, v', hv', -, rfl⟩ := hfield
  replace hvalues : textValue t ++ .formattedValue v' none none :: merge us =
      textValue [] ++ [.formattedValue v none none] := hvalues
  obtain ⟨-, heq, -⟩ := textValue_append_cons (ne_text_of_isField rfl) (ne_text_of_isField rfl) hvalues
  injection heq with heq
  exact ⟨hvisible, heq ▸ hv'⟩

end Frame.Holds

end

/-! ## Specs -/

/-- A part of a format spec: a text, or a field with the text of its expression and the value of it. -/
inductive SpecPart where
  | text (chars : List Char)
  | field (source : List Char) (value : Expr)

namespace SpecPart

/-- How a part is written. -/
def write : SpecPart → List Char
  | text cs => cs
  | field e _ => '{' :: (e ++ ['}'])

/-- A spec. -/
def spec (ps : List SpecPart) : List Char := ps.flatMap write

/-- The values of a spec: neighbouring texts are one constant, and empty ones leave no trace. -/
def values : List SpecPart → List Expr
  | [] => []
  | text cs :: ps => Part.prepend (Text.ofChars cs) (values ps)
  | field _ v :: ps => .formattedValue v none none :: values ps

/-- Which parts a literal in a frame may have. -/
def Fits (w : Frame) (limit : Nat) : SpecPart → Prop
  | text cs => IsPlainText cs ∧ w.quote ∉ cs
  | field e v => w.Holds limit e v

section

variable {w : Frame} {limit levels : Nat} {p : SpecPart} {ps : List SpecPart} {isRaw : Bool}
  {cs inner rest : List Char}

theorem spec_text (cs : List Char) (ps : List SpecPart) : spec (text cs :: ps) = cs ++ spec ps := rfl

theorem spec_field (e : List Char) (v : Expr) (ps : List SpecPart) :
    spec (field e v :: ps) = '{' :: (e ++ '}' :: spec ps) := by
  show '{' :: (e ++ ['}']) ++ spec ps = _
  rw [List.cons_append, List.append_assoc, List.singleton_append]

theorem Fits.inside (h : p.Fits w limit) : w.Inside p.write := by
  cases p with
  | text cs =>
    obtain ⟨hplain, hquote⟩ := h
    refine ⟨fun c hc => ⟨?_, ?_⟩, fun _ c hc => ⟨?_, ?_⟩⟩
    · rintro rfl
      exact hplain.ne (by decide) hc
    · rintro rfl
      exact hquote hc
    · rintro rfl
      exact hplain.ne (by decide) hc
    · rintro rfl
      exact hplain.ne (by decide) hc
  | field e v =>
    exact .cons (by decide) (Frame.Holds.inside h |>.append (.cons (by decide) Frame.inside_nil))

theorem inside_spec (h : ∀ p ∈ ps, p.Fits w limit) : w.Inside (spec ps) := by
  induction ps with
  | nil => exact Frame.inside_nil
  | cons p ps ih =>
    rw [List.forall_mem_cons] at h
    exact h.1.inside.append (ih h.2)

theorem atBrace_open (r : List Char) : Part.AtBrace ('{' :: r) := by
  rintro _ ⟨⟩
  exact .inl rfl

/-- A spec is read back, also if a plain text stands before it. -/
theorem reading_spec (h : ∀ p ∈ ps, p.Fits w limit) (hcs : IsPlainText cs) :
    ∃ qs, Reading isRaw (ReadsField id ⟨limit, 0⟩ isRaw levels) (cs ++ spec ps) qs ∧
      merge qs = Part.prepend (Text.ofChars cs) (values ps) := by
  induction ps generalizing cs with
  | nil =>
    have hcut : ∀ isRaw, splitLiteral isRaw false (cs ++ []) = (cs, []) :=
      hcs.splitLiteral_eq (by rintro _ ⟨⟩)
    refine ⟨[.text (Text.ofChars cs)], .last (hcut isRaw) (hcs.decodes isRaw), ?_⟩
    exact ((Part.prepend_apart _ [] nofun).trans (List.append_nil _)).symm
  | cons p ps ih =>
    rw [List.forall_mem_cons] at h
    cases p with
    | text ds =>
      obtain ⟨qs, hqs, hvalues⟩ := ih h.2 (hcs.append h.1.1)
      rw [spec_text, ← List.append_assoc]
      refine ⟨qs, hqs, hvalues.trans ?_⟩
      rw [Text.ofChars_append, Part.prepend_append, values]
    | field e v =>
      obtain ⟨hp, hps⟩ := h
      have hholds : w.Holds limit e v := hp
      obtain ⟨qs, hqs, hvalues⟩ := ih hps isPlainText_nil
      replace hvalues : merge qs = values ps := hvalues.trans (Part.prepend_nil _)
      have hfield : ReadsField id ⟨limit, 0⟩ isRaw levels (e ++ '}' :: spec ps)
          [.value (.formattedValue v none none)] (spec ps) :=
        readsField_iff.mpr (hholds.fills.isField_brace.mpr
          ⟨hholds.embeds.1, v, hholds.embeds.2, rfl, rfl⟩)
      rw [spec_field]
      refine ⟨.text (Text.ofChars cs) :: .value (.formattedValue v none none) :: qs, ?_, ?_⟩
      · exact .field (hcs.splitLiteral_eq (atBrace_open _) isRaw)
          (head?_append_brace hholds.head (by decide) _) (hcs.decodes isRaw) hfield hqs
      · rw [merge_text_value, hvalues, values]
        exact (Part.prepend_apart _ (.formattedValue v none none :: values ps) nofun).symm

/-- A spec that is cut at one of its closing braces is not read. -/
theorem not_reading_cut (h : ∀ p ∈ ps, p.Fits w limit) (hcs : IsPlainText cs)
    (hcut : spec ps = inner ++ '}' :: rest) (qs : List Piece) :
    ¬ Reading isRaw (ReadsField id ⟨limit, 0⟩ isRaw levels) (cs ++ inner) qs := by
  induction ps generalizing cs inner qs with
  | nil => exact absurd (List.append_eq_nil_iff.mp hcut.symm).2 (List.cons_ne_nil _ _)
  | cons p ps ih =>
    rw [List.forall_mem_cons] at h
    cases p with
    | text ds =>
      rw [spec_text] at hcut
      have hds : '}' ∉ ds := h.1.1.ne (by decide)
      obtain ⟨a, rfl, ha⟩ : ∃ a, inner = ds ++ a ∧ spec ps = a ++ '}' :: rest := by
        rcases List.append_eq_append_iff.mp hcut with ⟨a, rfl, ha⟩ | ⟨a, rfl, ha⟩
        · exact ⟨a, rfl, ha⟩
        · cases a with
          | nil => exact ⟨[], by simp, by simpa using ha.symm⟩
          | cons c a =>
            obtain ⟨rfl, -⟩ := List.cons.inj ha
            exact absurd (List.mem_append_right _ List.mem_cons_self) hds
      rw [← List.append_assoc]
      exact ih h.2 (hcs.append h.1.1) ha qs
    | field e v =>
      have hholds : w.Holds limit e v := h.1
      rw [spec_field] at hcut
      obtain ⟨inner, rfl⟩ : ∃ r, inner = '{' :: r := by
        cases inner with
        | nil => cases hcut
        | cons c inner =>
          obtain ⟨rfl, -⟩ := List.cons.inj hcut
          exact ⟨inner, rfl⟩
      replace hcut : e ++ '}' :: spec ps = inner ++ '}' :: rest := (List.cons.inj hcut).2
      intro hread
      have hhead : inner.head? ≠ some '{' := by
        intro hhead
        obtain ⟨r, rfl⟩ := List.head?_eq_some_iff.mp hhead
        have hcopy := head?_append_brace hholds.head (c := '}') (by decide) (spec ps)
        rw [hcut] at hcopy
        exact hcopy rfl
      rw [reading_field_iff (hcs.splitLiteral_eq (atBrace_open _) isRaw) hhead] at hread
      obtain ⟨t, qs', rest', us, -, hfield, hus, -⟩ := hread
      rw [readsField_iff] at hfield
      rcases Nat.lt_or_ge e.length inner.length with hlt | hle
      · -- the field is read to its end, and the cut is behind it
        obtain ⟨a, rfl, ha⟩ : ∃ a, inner = e ++ '}' :: a ∧ spec ps = a ++ '}' :: rest := by
          rcases List.append_eq_append_iff.mp hcut with ⟨a, rfl, ha⟩ | ⟨a, rfl, ha⟩
          · cases a with
            | nil => simp at hlt
            | cons c a =>
              obtain ⟨rfl, htail⟩ := List.cons.inj ha
              exact ⟨a, rfl, htail⟩
          · rw [List.length_append] at hlt
            omega
        obtain ⟨-, v', -, rfl, -⟩ := hholds.fills.isField_brace.mp hfield
        exact ih h.2 isPlainText_nil ha us hus
      · cases hfield with | mk hsplit
        exact hholds.fills.splitField_ne_ok hcut hle hsplit

end

end SpecPart

/-! ## Programs -/

/-- A program that is a literal with one field, which has a spec that is put together from parts, is
accepted if and only if the braces of the spec match, and then its values are those of the parts. -/
theorem parseModule_fieldSpec (w : Frame) {limit : Nat} {x : List Char} {v : Expr} {ps : List SpecPart}
    (hx : w.Holds limit x v) (hps : ∀ p ∈ ps, p.Fits w limit) {program : Module} :
    parseModule (w.literal ('{' :: (x ++ ':' :: (SpecPart.spec ps ++ ['}'])))) limit = .ok program ↔
      BracesMatch 0 (SpecPart.spec ps) ∧ program = ⟨[.expr (.joinedStr
        [.formattedValue v none (some (.joinedStr (SpecPart.values ps)))])]⟩ := by
  have hinside : w.Inside ('{' :: (x ++ ':' :: (SpecPart.spec ps ++ ['}']))) :=
    .cons (by decide) (hx.inside.append (.cons (by decide)
      ((SpecPart.inside_spec hps).append (.cons (by decide) Frame.inside_nil))))
  have hlexemes := w.lexemes_plain (.inr ⟨_, rfl⟩) hinside
  have hhead := head?_append_brace hx.head (c := ':') (by decide) (SpecPart.spec ps ++ ['}'])
  obtain ⟨hvisible, hembeds⟩ := hx.embeds
  have hprogram := fun program => @Frame.parseSpelled_literal w _ id (.inr ⟨_, rfl⟩) hlexemes limit program
  simp only [show fieldLevels = 1 + 1 from rfl, readsPieces_succ,
    reading_field_iff (splitLiteral_brace _ _) hhead, readsField_iff, hx.fills.isField_colon] at hprogram
  have hread : BracesMatch 0 (SpecPart.spec ps) → parseModule
      (w.literal ('{' :: (x ++ ':' :: (SpecPart.spec ps ++ ['}'])))) limit = .ok ⟨[.expr (.joinedStr
        [.formattedValue v none (some (.joinedStr (SpecPart.values ps)))])]⟩ := by
    intro hbraces
    obtain ⟨qs, hqs, hvalues⟩ : ∃ qs, Reading w.isRaw (ReadsField id ⟨limit, 0⟩ w.isRaw 0)
        ([] ++ SpecPart.spec ps) qs ∧ merge qs = Part.prepend (Text.ofChars []) (SpecPart.values ps) :=
      SpecPart.reading_spec hps isPlainText_nil
    replace hvalues : merge qs = SpecPart.values ps := hvalues.trans (Part.prepend_nil _)
    have hempty : Decodes w.isRaw [] [] := isPlainText_nil.decodes _
    refine (hprogram _).mpr ⟨_, ?_, [], _, [], _, hempty,
      ⟨hvisible, v, hembeds, _, qs, splitSpec_eq_iff.mpr hbraces, hqs, rfl⟩,
      .last rfl hempty, rfl⟩
    rw [← hvalues]
    rfl
  refine ⟨fun h => ?_, fun h => h.2 ▸ hread h.1⟩
  obtain ⟨_, -, -, -, rest, -, -, ⟨-, -, -, inner, qs, hcut, hspec, -⟩, -⟩ := (hprogram program).mp h
  have hbraces : BracesMatch 0 (SpecPart.spec ps) := by
    have happend : inner ++ '}' :: rest = SpecPart.spec ps ++ ['}'] := by
      rw [← splitSpec_append 0 (SpecPart.spec ps ++ ['}']), hcut]
    rcases List.eq_nil_or_concat rest with rfl | ⟨r, b, rfl⟩
    · obtain rfl : SpecPart.spec ps = inner := List.append_cancel_right happend.symm
      exact splitSpec_eq_iff.mp hcut
    · -- the spec would have been cut at one of its closing braces
      rw [List.concat_eq_append, ← List.cons_append, ← List.append_assoc] at happend
      obtain ⟨hfront, -⟩ := List.append_inj' happend.symm rfl
      exact absurd hspec (SpecPart.not_reading_cut hps isPlainText_nil hfront qs)
  exact ⟨hbraces, Except.ok.inj (h.symm.trans (hread hbraces))⟩

/-- Whether a program is a literal with nothing but a field, and that with nothing but an expression. -/
def isFieldProgram (m : Module) : Bool :=
  match m.body with
  | [.expr (.joinedStr [.formattedValue _ none none])] => true
  | _ => false

/-- A text that is seen to be the expression of a field. -/
theorem Frame.exists_holds {w : Frame} {limit : Nat} {e : List Char} (hquote : w.quote ∉ e)
    (hline : w.triple = false → ∀ c ∈ e, c ≠ '\n' ∧ c ≠ '\r') (hhead : e.head? ≠ some '{')
    (hfills : FillsField e)
    (h : (parseModule (w.literal ('{' :: (e ++ ['}']))) limit).toOption.any isFieldProgram = true) :
    ∃ v, w.Holds limit e v := by
  obtain ⟨⟨stmts⟩, hm, hfield⟩ := exists_of_any h
  unfold isFieldProgram at hfield
  dsimp only at hfield
  split at hfield
  · exact ⟨_, hquote, hline, hhead, hfills, hm⟩
  · cases hfield

/-- The frame of a literal between double quotes. -/
def Frame.double : Frame := ⟨['f'], '"', false, by decide, rfl⟩

/-- A width that is a field: the braces of the spec match. -/
theorem parseModule_fieldSpec_width : ∃ x n,
    let ps : List SpecPart := [.text ['>'], .field ['n'] n, .text [], .text ['.']]
    Frame.double.Holds 0 ['x'] x ∧ (∀ p ∈ ps, p.Fits .double 0) ∧ BracesMatch 0 (SpecPart.spec ps) ∧
      parseModule (Frame.double.literal ('{' :: (['x'] ++ ':' :: (SpecPart.spec ps ++ ['}'])))) 0 =
        .ok ⟨[.expr (.joinedStr [.formattedValue x none (some (.joinedStr
          [.constant (.str (Text.ofString ">")), .formattedValue n none none,
            .constant (.str (Text.ofString "."))]))])]⟩ := by
  obtain ⟨x, hx⟩ : ∃ x, Frame.double.Holds 0 ['x'] x :=
    Frame.exists_holds (by decide) (by simp) (by decide) rfl (by decide +kernel)
  obtain ⟨n, hn⟩ : ∃ n, Frame.double.Holds 0 ['n'] n :=
    Frame.exists_holds (by decide) (by simp) (by decide) rfl (by decide +kernel)
  have hps : ∀ p ∈ [.text ['>'], .field ['n'] n, .text [], .text ['.']], SpecPart.Fits .double 0 p := by
    simp only [List.forall_mem_cons]
    refine ⟨?_, hn, ?_, ?_, nofun⟩
    · exact ⟨by simp [IsPlainText], by decide⟩
    · exact ⟨isPlainText_nil, nofun⟩
    · exact ⟨by simp [IsPlainText], by decide⟩
  have hbraces : BracesMatch 0 ['>', '{', 'n', '}', '.'] := ⟨by decide, by decide⟩
  exact ⟨x, n, hx, hps, hbraces, (parseModule_fieldSpec .double hx hps).mpr ⟨hbraces, rfl⟩⟩

/-- A brace in a literal is counted like the others: it closes the field of the spec, and the brace of that
field closes the spec. -/
theorem parseModule_fieldSpec_quoted : ∃ x v,
    let ps : List SpecPart := [.field ['\'', '}', '\''] v]
    Frame.double.Holds 0 ['x'] x ∧ (∀ p ∈ ps, p.Fits .double 0) ∧
      Frame.double.literal ('{' :: (['x'] ++ ':' :: (SpecPart.spec ps ++ ['}']))) =
        "f\"\x7bx:\x7b'\x7d'\x7d\x7d\"".toList ∧
      (parseModule (Frame.double.literal ('{' :: (['x'] ++ ':' :: (SpecPart.spec ps ++ ['}'])))) 0).isOk =
        false := by
  obtain ⟨x, hx⟩ : ∃ x, Frame.double.Holds 0 ['x'] x :=
    Frame.exists_holds (by decide) (by simp) (by decide) rfl (by decide +kernel)
  obtain ⟨v, hv⟩ : ∃ v, Frame.double.Holds 0 ['\'', '}', '\''] v :=
    Frame.exists_holds (by decide) (by simp) (by decide) rfl (by decide +kernel)
  have hps : ∀ p ∈ [.field ['\'', '}', '\''] v], SpecPart.Fits .double 0 p :=
    List.forall_mem_singleton.mpr hv
  have hrefused : (parseModule "f\"\x7bx:\x7b'\x7d'\x7d\x7d\"".toList 0).isOk = false := by decide +kernel
  exact ⟨x, v, hx, hps, rfl, hrefused⟩

end PythonSyntax
