import PythonSyntax.Proofs.Parser.Statement
import PythonSyntax.Proofs.Tree.WellFormed

/-
Derived trees are well formed.

By induction on derivations, every node of a derived tree is sound: well formed, and of the usage
that its place asks for.  As programs are derived, `parseModule_wellFormed` and
`parseModule_usage` say so of every node of every program.
-/

namespace PythonSyntax.Node

open PythonSyntax.Parser

variable {u : Usage}

/-! ## The values of formatted strings -/

/-- No two neighbours are both texts. -/
abbrev NoNeighbours (es : List Expr) : Prop :=
  es.IsChain fun e e' => ¬ (e.isText = true ∧ e'.isText = true)

theorem noNeighbours_cons {e : Expr} {es : List Expr} (he : e.isText = false)
    (hes : NoNeighbours es) : NoNeighbours (e :: es) := by
  cases es with
  | nil => exact .singleton e
  | cons e' es => exact .cons_cons (fun h => by simp [he] at h) hes

theorem isText_of_isField {e : Expr} (h : e.isField = true) : e.isText = false := by
  cases e <;> first | rfl | exact nomatch h

/-- Whether the values among some pieces are replacement fields. -/
def AreFields (ps : List Piece) : Prop := ∀ e, .value e ∈ ps → e.isField = true

theorem noNeighbours_mergeAfter {t : Text} {ps : List Piece} (h : AreFields ps) :
    NoNeighbours (mergeAfter t ps) := by
  induction ps generalizing t with
  | nil =>
    unfold mergeAfter textValue
    split
    · exact .nil
    · exact .singleton _
  | cons p ps ih =>
    have htail : AreFields ps := fun e he => h e (List.mem_cons_of_mem p he)
    cases p with
    | text v => exact ih htail
    | value e =>
      have he := isText_of_isField (h e List.mem_cons_self)
      have hrest := noNeighbours_cons he (ih htail (t := []))
      unfold mergeAfter textValue
      split
      · exact hrest
      · exact .cons_cons (fun h => by simp [he] at h) hrest

/-- A merged value is a text that is not empty, or one of the pieces. -/
theorem mem_mergeAfter {t : Text} {ps : List Piece} {e : Expr} (h : e ∈ mergeAfter t ps) :
    (∃ v, e = .constant (.str v) ∧ v.isEmpty = false) ∨ .value e ∈ ps := by
  have htext : ∀ {v : Text}, e ∈ textValue v → ∃ v, e = .constant (.str v) ∧ v.isEmpty = false := by
    intro v hv
    unfold textValue at hv
    split at hv
    · exact nomatch hv
    · next hne => exact ⟨v, List.mem_singleton.mp hv, by simpa using hne⟩
  induction ps generalizing t with
  | nil => exact .inl (htext h)
  | cons p ps ih =>
    cases p with
    | text v => exact (ih h).imp_right (List.mem_cons_of_mem _)
    | value e' =>
      rcases List.mem_append.mp h with h | h
      · exact .inl (htext h)
      · rcases List.mem_cons.mp h with rfl | h
        · exact .inr List.mem_cons_self
        · exact (ih h).imp_right (List.mem_cons_of_mem _)

theorem shape_merge {ps : List Piece} (h : AreFields ps) : (expr (.joinedStr (merge ps))).Shape := by
  refine ⟨fun e he => ?_, noNeighbours_mergeAfter h⟩
  rcases mem_mergeAfter he with ⟨v, rfl, hv⟩ | hp
  · exact .inl (by simp [Expr.isText, hv])
  · exact .inr (h e hp)

/-! ## Good expressions -/

/-- An expression with the right shape and good parts is good. -/
theorem good_expr {e : Expr} (hfree : (e.isSlice || e.hasSlice || e.isField) = false)
    (hshape : (expr e).Shape) (husage : ∀ v, (expr e).usage? = some v → v = u)
    (hparts : ∀ p ∈ ofExpr e, Good (p.1.usage u) p.2) : Good u (expr e) := by
  simp only [Bool.or_eq_false_iff] at hfree
  refine good_intro ?_ hshape husage hparts
  rintro _ ⟨⟩
  exact ⟨hfree.1.1, hfree.1.2, hfree.2⟩

/-- The part of a node with one expression below it. -/
theorem good_single {r : Role} {e : Expr} (h : Good (r.usage u) (expr e)) :
    ∀ p ∈ exprs r [e], Good (p.1.usage u) p.2 :=
  forall_exprs.mpr (List.forall_mem_singleton.mpr h)

theorem good_pair {e₁ e₂ : Expr} (h₁ : Good u (expr e₁)) (h₂ : Good u (expr e₂)) :
    ∀ e ∈ [e₁, e₂], Good u (expr e) :=
  List.forall_mem_cons.mpr ⟨h₁, List.forall_mem_singleton.mpr h₂⟩

theorem good_constant {c : Constant} (h : (expr (.constant c)).Shape) :
    Good .load (expr (.constant c)) := good_expr rfl h nofun nofun

theorem good_comprehensions {elts : List Expr} {generators : List Comprehension}
    (helts : ∀ e ∈ elts, Good .load (expr e))
    (hgenerators : ∀ c ∈ generators, Good .load (comprehension c)) :
    ∀ p ∈ comprehensions elts generators, Good (p.1.usage u) p.2 :=
  forall_comprehensions.mpr ⟨helts, hgenerators⟩

/-! ## Expressions -/

/-- What a derivation of a phrase says of its nodes. -/
def Holds : Phrase → Prop
  | .expr r e => Every Sound .load (expr e) ∧ e.isField = false ∧
      (r ≠ .subscripts → e.hasSlice = false ∧ (r ≠ .subscript → e.isSlice = false))
  | .trailed e | .arg e => Good .load (expr e)
  | .clause c => Good .load (comprehension c)
  | .param _ p => Good .load (arg p)
  | .params _ a => Good .load (arguments a)
  | .keyword k => Good .load (keyword k)
  | .piece p => ∀ e, p = .value e → Every Sound .load (expr e) ∧ e.isField = true

/-- All rules but those of subscripts yield trees that may stand anywhere. -/
theorem good_of_holds {r : Rule} {e : Expr} (h : Holds (.expr r e)) (hr : r ≠ .subscripts)
    (hr' : r ≠ .subscript) : Good .load (expr e) := by
  refine ⟨h.1, ?_⟩
  rintro _ ⟨⟩
  exact ⟨(h.2.2 hr).2 hr', (h.2.2 hr).1, h.2.1⟩

theorem holds_of_good {r : Rule} {e : Expr} (h : Good .load (expr e)) : Holds (.expr r e) := by
  obtain ⟨hslice, hslices, hfield⟩ := h.2 e rfl
  exact ⟨h.1, hfield, fun _ => ⟨hslices, fun _ => hslice⟩⟩

theorem units_ne {r s : Rule} (h : s ∈ r.units) :
    (r ≠ .subscripts → s ≠ .subscripts) ∧
      (r ≠ .subscripts → r ≠ .subscript → s ≠ .subscript) := by
  cases r <;> simp only [Rule.units, List.mem_cons, List.not_mem_nil, or_false] at h <;>
    rcases h with rfl | rfl | rfl <;> exact ⟨nofun, nofun⟩

theorem element_ne {r s : Rule} (h : r.element? = some s) :
    s ≠ .subscripts ∧ (r ≠ .subscripts → s ≠ .subscript) := by
  cases r <;> cases h <;> simp

theorem every_joined {ps : List Piece} (h : ∀ p ∈ ps, Holds (.piece p)) :
    Good .load (expr (.joinedStr (merge ps))) := by
  have hfields : AreFields ps := fun e he => (h _ he e rfl).2
  have hmem : ∀ e ∈ merge ps, Every Sound .load (expr e) ∧ e.isSlice = false ∧
      e.hasSlice = false := by
    intro e he
    rcases mem_mergeAfter he with ⟨v, rfl, -⟩ | hp
    · exact ⟨(good_constant (c := .str v) trivial).1, rfl, rfl⟩
    · obtain ⟨hevery, hfield⟩ := h _ hp e rfl
      refine ⟨hevery, ?_⟩
      cases e <;> first | exact ⟨rfl, rfl⟩ | exact nomatch hfield
  have hpart : ∀ r e, (r, expr e) ∈ (expr (.joinedStr (merge ps))).parts → e ∈ merge ps := by
    intro r e he
    obtain ⟨e', he', heq⟩ := List.mem_map.mp he
    cases heq
    exact he'
  refine ⟨every_intro ⟨⟨shape_merge hfields, ?_, ?_, ?_⟩, nofun⟩ (forall_exprs.mpr ?_), ?_⟩
  · intro r e he hs
    rw [(hmem e (hpart r e he)).2.1] at hs
    exact nomatch hs
  · intro r e he hs
    rw [(hmem e (hpart r e he)).2.2] at hs
    exact nomatch hs
  · exact fun r e _ _ => ⟨_, rfl⟩
  · exact fun e he => (hmem e he).1
  · rintro _ ⟨⟩
    exact ⟨rfl, rfl, rfl⟩

theorem wordConstant_shape {w : String} {c : Constant} (h : wordConstant? w = some c) :
    (expr (.constant c)).Shape := by
  unfold wordConstant? at h
  split at h <;> cases h <;> exact trivial

theorem number_shape {text : List Char} {c : Constant} (h : Number.parse text = .ok c) :
    (expr (.constant c)).Shape := by
  have hof : ∀ n? s, (expr (.constant (.ofNat? n? s))).Shape := by
    intro n? s
    unfold Constant.ofNat?
    split
    · split <;> exact trivial
    · exact trivial
  unfold Number.parse at h
  dsimp only at h
  split at h
  · obtain ⟨x, -, rfl⟩ := map_ok h
    exact trivial
  · split at h
    · cases h
      exact hof _ _
    · split at h
      · obtain ⟨x, -, rfl⟩ := map_ok h
        exact trivial
      · split at h
        · exact nomatch h
        · cases h
          exact hof _ _

/-! ## What stands below an expression -/

theorem lambdaBody_ne {r s : Rule} (h : r.lambdaBody? = some s) :
    s ≠ .subscripts ∧ s ≠ .subscript := by
  cases r <;> cases h <;> exact ⟨nofun, nofun⟩

theorem joiner_ne {r s : Rule} {word : String} {op : BoolOperator}
    (h : r.joiner? = some (word, op, s)) : s ≠ .subscripts ∧ s ≠ .subscript := by
  cases r <;> cases h <;> exact ⟨nofun, nofun⟩

theorem level_ne {r s : Rule} {operators : List String} (h : r.level? = some (operators, s)) :
    (r ≠ .subscripts ∧ r ≠ .subscript) ∧ s ≠ .subscripts ∧ s ≠ .subscript := by
  cases r <;> cases h <;> exact ⟨⟨nofun, nofun⟩, nofun, nofun⟩

/-- Only a tuple of subscripts has slices in it. -/
theorem holds_tuple {r s : Rule} {elts : List Expr} (hr : r.element? = some s)
    (h : ∀ e ∈ elts, Holds (.expr s e)) : Holds (.expr r (.tuple elts .load)) := by
  obtain ⟨h₁, h₂⟩ := element_ne hr
  have hpart : ∀ r e, (r, expr e) ∈ (expr (.tuple elts .load)).parts → e ∈ elts := by
    intro r e he
    obtain ⟨e', he', heq⟩ := List.mem_map.mp he
    cases heq
    exact he'
  have hwell : (expr (.tuple elts .load)).WellFormed := by
    refine ⟨trivial, fun _ _ _ _ => .inr ⟨_, _, rfl⟩, ?_, ?_⟩
    · intro r e he hs
      rw [((h e (hpart r e he)).2.2 h₁).1] at hs
      exact nomatch hs
    · intro r e he hs
      rw [(h e (hpart r e he)).2.1] at hs
      exact nomatch hs
  refine ⟨every_intro ⟨hwell, fun _ hv => (Option.some.inj hv).symm⟩
    (forall_exprs.mpr fun e he => (h e he).1), rfl, fun hsub => ⟨?_, fun _ => rfl⟩⟩
  refine List.any_eq_false.mpr fun e he hs => ?_
  rw [((h e he).2.2 h₁).2 (h₂ hsub)] at hs
  exact nomatch hs

/-- What is subscripted is good, and what it is subscripted with may be a slice. -/
theorem good_subscript {e slice : Expr} (he : Good .load (expr e))
    (hslice : Holds (.expr .subscripts slice)) :
    Good .load (expr (.subscript e slice .load)) := by
  obtain ⟨h₁, h₂, h₃⟩ := he.2 e rfl
  -- what only some places admit may stand behind the brackets alone, so parts are told apart first
  have hpart : ∀ {r e'}, (r, expr e') ∈ (expr (.subscript e slice .load)).parts →
      e' = e ∨ (r = .slice ∧ e' = slice) := by
    intro r e' h
    rcases List.mem_cons.mp h with heq | h
    · cases heq
      exact .inl rfl
    · cases List.mem_singleton.mp h
      exact .inr ⟨rfl, rfl⟩
  have hwell : (expr (.subscript e slice .load)).WellFormed := by
    refine ⟨trivial, fun r e' h hs => ?_, fun r e' h hs => ?_, fun r e' h hs => ?_⟩
    · rcases hpart h with rfl | ⟨hr, -⟩
      · exact nomatch h₁.symm.trans hs
      · exact .inl hr
    · rcases hpart h with rfl | ⟨hr, -⟩
      · exact nomatch h₂.symm.trans hs
      · exact hr
    · rcases hpart h with rfl | ⟨-, rfl⟩
      · exact nomatch h₃.symm.trans hs
      · exact nomatch hslice.2.1.symm.trans hs
  refine ⟨every_intro ⟨hwell, fun _ hv => (Option.some.inj hv).symm⟩
    (List.forall_mem_cons.mpr ⟨he.1, List.forall_mem_singleton.mpr hslice.1⟩), ?_⟩
  rintro _ ⟨⟩
  exact ⟨rfl, rfl, rfl⟩

theorem holds_slice {lower upper step : Option Expr} (h₁ : ∀ e ∈ lower, Good .load (expr e))
    (h₂ : ∀ e ∈ upper, Good .load (expr e)) (h₃ : ∀ e ∈ step, Good .load (expr e)) :
    Holds (.expr .subscript (.slice lower upper step)) := by
  refine ⟨every_of_parts trivial nofun (forall_exprs.mpr ?_), rfl, fun _ => ⟨rfl, (absurd rfl ·)⟩⟩
  simp only [List.forall_mem_append, Option.mem_toList]
  exact ⟨⟨h₁, h₂⟩, h₃⟩

theorem good_dict {entries : List (Option Expr × Expr)}
    (hkeys : ∀ entry ∈ entries, ∀ e ∈ entry.1, Good .load (expr e))
    (hvalues : ∀ entry ∈ entries, Good .load (expr entry.2)) :
    Good .load (expr (.dict (entries.map Prod.fst) (entries.map Prod.snd))) := by
  refine good_expr rfl (by simp [Shape]) nofun (List.forall_mem_append.mpr
    ⟨forall_exprs.mpr fun e he => ?_, forall_exprs.mpr (List.forall_mem_map.mpr hvalues)⟩)
  obtain ⟨o, ho, rfl⟩ := List.mem_filterMap.mp he
  obtain ⟨entry, hentry, ho⟩ := List.mem_map.mp ho
  exact hkeys entry hentry e ho

theorem good_generator {elt : Expr} {generators : List Comprehension}
    (hne : generators ≠ []) (helt : Good .load (expr elt))
    (hgenerators : ∀ c ∈ generators, Good .load (comprehension c)) :
    Good .load (expr (.generatorExp elt generators)) :=
  good_expr rfl hne nofun (good_comprehensions (List.forall_mem_singleton.mpr helt) hgenerators)

theorem good_clause {target iter : Expr} {ifs : List Expr} {isAsync : Bool}
    (htarget : Good .store (expr target)) (hiter : Good .load (expr iter))
    (hifs : ∀ e ∈ ifs, Good .load (expr e)) :
    Good .load (comprehension ⟨target, iter, ifs, isAsync⟩) :=
  good_intro nofun trivial nofun
    (List.forall_mem_cons.mpr ⟨htarget, List.forall_mem_cons.mpr ⟨hiter, forall_exprs.mpr hifs⟩⟩)

theorem good_arguments {a : Arguments} (hshape : (arguments a).Shape)
    (hparams : ∀ p ∈ a.posOnly ++ a.args ++ a.vararg.toList ++ a.kwOnly ++ a.kwarg.toList,
      Good .load (arg p))
    (hdefaults : ∀ e ∈ a.defaults, Good .load (expr e))
    (hkwDefaults : ∀ default? ∈ a.kwDefaults, ∀ e ∈ default?, Good .load (expr e)) :
    Good .load (arguments a) := by
  refine good_intro nofun hshape nofun (List.forall_mem_append.mpr
    ⟨List.forall_mem_map.mpr hparams, forall_exprs.mpr (List.forall_mem_append.mpr
      ⟨hdefaults, fun e he => ?_⟩)⟩)
  obtain ⟨o, ho, rfl⟩ := List.mem_filterMap.mp he
  exact hkwDefaults _ ho e rfl

theorem holds_field {e : Expr} {conversion : Option Char} {spec : Option (List Piece)}
    (he : Good .load (expr e)) (hconversion : ∀ c ∈ conversion, isConversion c = true)
    (hspec : ∀ ps ∈ spec, ∀ p ∈ ps, Holds (.piece p)) :
    Holds (.piece (.value
      (.formattedValue e conversion (spec.map fun ps => .joinedStr (merge ps))))) := by
  rintro _ ⟨⟩
  have hjoined : ∀ e' ∈ spec.map fun ps => Expr.joinedStr (merge ps),
      ∃ values, e' = .joinedStr values := fun e' he' => by
    obtain ⟨ps, -, rfl⟩ := Option.map_eq_some_iff.mp he'
    exact ⟨_, rfl⟩
  refine ⟨every_of_parts ⟨hconversion, hjoined⟩ nofun
    (forall_exprs.mpr (List.forall_mem_cons.mpr ⟨he, ?_⟩)), rfl⟩
  · intro e' he'
    obtain ⟨ps, hps, rfl⟩ := Option.map_eq_some_iff.mp (Option.mem_toList.mp he')
    exact every_joined (hspec ps hps)

/-! ## Derivations -/

/-- Every node of what the grammar derives is sound. -/
theorem holds_of_derives {p : Phrase} (h : Derives p) : Holds p := by
  have husage : ∀ {v : Usage}, some .load = some v → v = .load :=
    fun h => (Option.some.inj h).symm
  induction h with
  -- lists, starred items, names that take a value
  | unit hs _ ih =>
    obtain ⟨h₁, h₂⟩ := units_ne hs
    exact ⟨ih.1, ih.2.1, fun hr => ⟨(ih.2.2 (h₁ hr)).1, fun hr' =>
      (ih.2.2 (h₁ hr)).2 (h₂ hr hr')⟩⟩
  | tuple hr _ ih => exact holds_tuple hr ih
  | star _ ih =>
    exact holds_of_good (good_expr rfl trivial (fun _ => husage)
      (good_single (good_of_holds ih nofun nofun)))
  | @named id usage e _ _ _ ih =>
    have htarget : Good .store (expr (.name id .store)) :=
      good_expr rfl trivial (fun _ h => (Option.some.inj h).symm) nofun
    exact holds_of_good (good_expr rfl rfl nofun (List.forall_mem_cons.mpr
      ⟨htarget, List.forall_mem_singleton.mpr (good_of_holds ih nofun nofun)⟩))
  -- conditions, lambdas, boolean operators, comparisons
  | condition _ _ _ ih₁ ih₂ ih₃ =>
    have h₁ := good_of_holds ih₁ nofun nofun
    have h₂ := good_of_holds ih₂ nofun nofun
    have h₃ := good_of_holds ih₃ nofun nofun
    exact holds_of_good (good_expr rfl trivial nofun
      (forall_exprs.mpr (List.forall_mem_cons.mpr ⟨h₁, good_pair h₂ h₃⟩)))
  | lambda hr _ _ ih₁ ih₂ =>
    obtain ⟨h₁, h₂⟩ := lambdaBody_ne hr
    exact holds_of_good (good_expr rfl trivial nofun (List.forall_mem_cons.mpr
      ⟨ih₁, List.forall_mem_singleton.mpr (good_of_holds ih₂ h₁ h₂)⟩))
  | joined hr hlen _ ih =>
    obtain ⟨h₁, h₂⟩ := joiner_ne hr
    exact holds_of_good (good_expr rfl hlen nofun
      (forall_exprs.mpr fun e he => good_of_holds (ih e he) h₁ h₂))
  | negation _ ih =>
    exact holds_of_good (good_expr rfl trivial nofun (good_single (good_of_holds ih nofun nofun)))
  | comparison _ hne hlen _ ih₁ ih₂ =>
    refine holds_of_good (good_expr rfl ⟨hlen, List.length_pos_iff.mpr hne⟩ nofun
      (forall_exprs.mpr (List.forall_mem_cons.mpr ⟨good_of_holds ih₁ nofun nofun, ?_⟩)))
    exact fun e he => good_of_holds (ih₂ e he) nofun nofun
  -- arithmetic
  | chain hr _ _ _ _ ih₁ ih₂ =>
    obtain ⟨⟨h₁, h₂⟩, h₃, h₄⟩ := level_ne hr
    exact holds_of_good (good_expr rfl trivial nofun
      (forall_exprs.mpr (good_pair (good_of_holds ih₁ h₁ h₂) (good_of_holds ih₂ h₃ h₄))))
  | sign _ _ ih =>
    exact holds_of_good (good_expr rfl trivial nofun (good_single (good_of_holds ih nofun nofun)))
  | power _ _ ih₁ ih₂ =>
    have h₁ := good_of_holds ih₁ nofun nofun
    have h₂ := good_of_holds ih₂ nofun nofun
    exact holds_of_good (good_expr rfl trivial nofun (forall_exprs.mpr (good_pair h₁ h₂)))
  -- primaries
  | trailed _ ih => exact holds_of_good ih
  | awaited _ ih => exact holds_of_good (good_expr rfl trivial nofun (good_single ih))
  | atom _ ih => exact good_of_holds ih nofun nofun
  | call _ _ _ ih₁ ih₂ ih₃ =>
    refine good_expr rfl trivial nofun (List.forall_mem_append.mpr ⟨?_, ?_⟩)
    · exact forall_exprs.mpr (List.forall_mem_cons.mpr ⟨ih₁, ih₂⟩)
    · exact List.forall_mem_map.mpr ih₃
  | subscript _ _ ih₁ ih₂ => exact good_subscript ih₁ ih₂
  | attr _ _ ih => exact good_expr rfl trivial (fun _ => husage) (good_single ih)
  -- calls and subscripts
  | argNamed _ ih => exact good_of_holds ih nofun nofun
  | argStarred _ ih =>
    exact good_expr rfl trivial (fun _ => husage) (good_single (good_of_holds ih nofun nofun))
  | argGenerator _ hne _ ih₁ ih₂ =>
    exact good_generator hne (good_of_holds ih₁ nofun nofun) ih₂
  | keyword _ _ _ ih =>
    exact good_intro nofun trivial nofun
      (List.forall_mem_singleton.mpr (good_of_holds ih nofun nofun))
  | doubleStar _ ih =>
    exact good_intro nofun trivial nofun
      (List.forall_mem_singleton.mpr (good_of_holds ih nofun nofun))
  | slice _ _ _ ih₁ ih₂ ih₃ =>
    exact holds_slice (fun e he => good_of_holds (ih₁ e he) nofun nofun)
      (fun e he => good_of_holds (ih₂ e he) nofun nofun)
      (fun e he => good_of_holds (ih₃ e he) nofun nofun)
  -- atoms
  | ellipsis => exact holds_of_good (good_constant trivial)
  | number h => exact holds_of_good (good_constant (number_shape h))
  | word h => exact holds_of_good (good_constant (wordConstant_shape h))
  | name _ => exact holds_of_good (good_expr rfl trivial (fun _ => husage) nofun)
  | str => exact holds_of_good (good_constant trivial)
  | bytes h => exact holds_of_good (good_constant h)
  | formatted _ ih => exact holds_of_good (every_joined ih)
  | text => exact nofun
  | field hr _ hconversion _ ih₁ ih₂ =>
    refine holds_field (good_of_holds ih₁ ?_ ?_) hconversion ih₂ <;> rcases hr with rfl | rfl <;> exact nofun
  -- brackets
  | list _ ih =>
    exact holds_of_good (good_expr rfl trivial (fun _ => husage)
      (forall_exprs.mpr fun e he => good_of_holds (ih e he) nofun nofun))
  | listComp _ hne _ ih₁ ih₂ =>
    exact holds_of_good (good_expr rfl hne nofun
      (good_comprehensions (List.forall_mem_singleton.mpr (good_of_holds ih₁ nofun nofun)) ih₂))
  | generator _ hne _ ih₁ ih₂ =>
    exact holds_of_good (good_generator hne (good_of_holds ih₁ nofun nofun) ih₂)
  | dict _ _ _ ih₁ ih₂ ih₃ =>
    refine holds_of_good (good_dict
      (fun entry h e he => good_of_holds (ih₁ entry h e he) nofun nofun) fun entry h => ?_)
    by_cases hkey : entry.1 = none
    · exact good_of_holds (ih₂ entry h hkey) nofun nofun
    · exact good_of_holds (ih₃ entry h hkey) nofun nofun
  | dictComp _ _ hne _ ih₁ ih₂ ih₃ =>
    have h₁ := good_of_holds ih₁ nofun nofun
    have h₂ := good_of_holds ih₂ nofun nofun
    exact holds_of_good (good_expr rfl hne nofun (good_comprehensions (good_pair h₁ h₂) ih₃))
  | set hne _ ih =>
    exact holds_of_good (good_expr rfl hne nofun
      (forall_exprs.mpr fun e he => good_of_holds (ih e he) nofun nofun))
  | setComp _ hne _ ih₁ ih₂ =>
    exact holds_of_good (good_expr rfl hne nofun
      (good_comprehensions (List.forall_mem_singleton.mpr (good_of_holds ih₁ nofun nofun)) ih₂))
  | yieldFrom _ ih =>
    exact holds_of_good (good_expr rfl trivial nofun (good_single (good_of_holds ih nofun nofun)))
  | yield _ ih =>
    exact holds_of_good (good_expr rfl trivial nofun (forall_exprs.mpr fun e he =>
      good_of_holds (ih e (Option.mem_toList.mp he)) nofun nofun))
  | clause _ ht _ _ ih₁ ih₂ ih₃ =>
    exact good_clause (good_of_retargets ht (good_of_holds ih₁ nofun nofun))
      (good_of_holds ih₂ nofun nofun) fun e he => good_of_holds (ih₃ e he) nofun nofun
  -- parameters
  | param _ _ _ ih =>
    exact good_intro nofun trivial nofun (forall_exprs.mpr fun e he =>
      good_of_holds (ih e (Option.mem_toList.mp he)) nofun nofun)
  | params _ _ _ hle heq ih₁ ih₂ ih₃ =>
    exact good_arguments ⟨heq, hle⟩ ih₁ (fun e he => good_of_holds (ih₂ e he) nofun nofun)
      fun o ho e he => good_of_holds (ih₃ o ho e he) nofun nofun

/-! ## Statements -/

theorem good_of_derives {r : Rule} {e : Expr} (h : Derives (.expr r e)) (hr : r ≠ .subscripts)
    (hr' : r ≠ .subscript) : Good .load (expr e) := good_of_holds (holds_of_derives h) hr hr'

theorem good_of_yieldOr {r : Rule} {e : Expr} (h : YieldOr r e) (hr : r ≠ .subscripts)
    (hr' : r ≠ .subscript) : Good .load (expr e) := by
  rcases h with h | h
  · exact good_of_derives h hr hr'
  · exact good_of_derives h nofun nofun

theorem good_handler {h : ExceptHandler} (hexc : ∀ e ∈ h.exception, Derives (.expr .test e))
    (hne : h.body ≠ []) (hbody : ∀ s ∈ h.body, Good .load (stmt s)) : Good .load (handler h) := by
  refine good_intro nofun hne nofun (List.forall_mem_append.mpr
    ⟨forall_exprs.mpr fun e he => ?_, forall_block.mpr hbody⟩)
  exact good_of_derives (hexc e (Option.mem_toList.mp he)) nofun nofun

theorem good_withItem {i : WithItem} (hcontext : Derives (.expr .test i.context))
    (hvars : ∀ t ∈ i.vars, ∃ e, Derives (.expr .bitOr e) ∧ Retargets .store e t) :
    Good .load (withItem i) := by
  refine good_intro nofun trivial nofun (List.forall_mem_cons.mpr
    ⟨good_of_derives hcontext nofun nofun, forall_exprs.mpr fun t ht => ?_⟩)
  obtain ⟨e, he, ht⟩ := hvars t (Option.mem_toList.mp ht)
  exact good_of_retargets ht (good_of_derives he nofun nofun)

theorem good_optional {r : Rule} {o : Option Expr} (h : ∀ e ∈ o, Derives (.expr r e))
    (hr : r ≠ .subscripts) (hr' : r ≠ .subscript) :
    ∀ p ∈ exprs .value o.toList, Good (p.1.usage .load) p.2 :=
  forall_exprs.mpr fun e he => good_of_derives (h e (Option.mem_toList.mp he)) hr hr'

/-- The parts of a loop or a condition: its test, its block and its `else`. -/
theorem good_branches {e : Expr} {body orelse : List Stmt} (he : Good .load (expr e))
    (hbody : ∀ s ∈ body, Good .load (stmt s)) (horelse : ∀ s ∈ orelse, Good .load (stmt s)) :
    ∀ p ∈ (Role.value, expr e) :: (block body ++ block orelse), Good (p.1.usage .load) p.2 :=
  List.forall_mem_cons.mpr
    ⟨he, List.forall_mem_append.mpr ⟨forall_block.mpr hbody, forall_block.mpr horelse⟩⟩

theorem ne_nil_of_retargetsAll {v : Usage} {es ts : List Expr} (h : RetargetsAll v es ts)
    (hne : es ≠ []) : ts ≠ [] := by
  rintro rfl
  exact hne (List.eq_nil_of_length_eq_zero h.1)

theorem isSingleTarget_of_annotationRefusal? {e : Expr} (h : annotationRefusal? e = none) :
    e.isSingleTarget = true := by
  unfold annotationRefusal? at h
  split at h <;> first | rfl | exact nomatch h

/-- Every node of a derived statement is sound. -/
theorem good_of_derivesStmt {s : Stmt} (h : DerivesStmt s) : Good .load (stmt s) := by
  induction h with
  | functionDef _ hargs hne _ hd hreturns ih =>
    refine good_intro nofun hne nofun (List.forall_mem_cons.mpr ⟨holds_of_derives hargs,
      List.forall_mem_append.mpr ⟨List.forall_mem_append.mpr ⟨forall_exprs.mpr fun e he => ?_,
        good_optional hreturns nofun nofun⟩, forall_block.mpr ih⟩⟩)
    exact holds_of_derives (hd e he)
  | classDef _ hbases hkeywords hne _ hd ih =>
    refine good_intro nofun hne nofun ?_
    simp only [parts, ofStmt, List.forall_mem_append, List.forall_mem_map, forall_exprs,
      forall_block]
    exact ⟨⟨⟨fun e he => holds_of_derives (hbases e he), fun k hk => holds_of_derives
      (hkeywords k hk)⟩, fun e he => holds_of_derives (hd e he)⟩, ih⟩
  | returning h => exact good_intro nofun trivial nofun (good_optional h nofun nofun)
  | delete hne hes ht =>
    exact good_intro nofun (ne_nil_of_retargetsAll ht hne) nofun (forall_exprs.mpr
      (good_of_retargetsAll ht fun e he => good_of_derives (hes e he) nofun nofun))
  | assign hne hes ht hvalue =>
    exact good_intro nofun (ne_nil_of_retargetsAll ht hne) nofun (List.forall_mem_cons.mpr
      ⟨good_of_yieldOr hvalue nofun nofun, forall_exprs.mpr
        (good_of_retargetsAll ht fun e he => good_of_yieldOr (hes e he) nofun nofun)⟩)
  | augAssign he hsingle ht hvalue =>
    exact good_intro nofun (isSingleTarget_of_retargets ht hsingle) nofun
      (List.forall_mem_cons.mpr ⟨good_of_retargets ht (good_of_yieldOr he nofun nofun),
        List.forall_mem_singleton.mpr (good_of_yieldOr hvalue nofun nofun)⟩)
  | annAssign he hnone ht hsimple hann hvalue =>
    have hsingle := isSingleTarget_of_annotationRefusal? hnone
    refine good_intro nofun ⟨isSingleTarget_of_retargets ht hsingle,
      fun hs => isName_of_retargets ht (hsimple hs)⟩ nofun (List.forall_mem_cons.mpr
      ⟨good_of_retargets ht (good_of_yieldOr he nofun nofun), List.forall_mem_cons.mpr
        ⟨good_of_derives hann nofun nofun, forall_exprs.mpr fun v hv => ?_⟩⟩)
    exact good_of_yieldOr (hvalue v (Option.mem_toList.mp hv)) nofun nofun
  | forLoop he ht hiter hne _ _ ih₁ ih₂ =>
    exact good_intro nofun hne nofun (List.forall_mem_cons.mpr
      ⟨good_of_retargets ht (good_of_derives he nofun nofun),
        good_branches (good_of_derives hiter nofun nofun) ih₁ ih₂⟩)
  | whileLoop hc hne _ _ ih₁ ih₂ =>
    exact good_intro nofun hne nofun (good_branches (good_of_derives hc nofun nofun) ih₁ ih₂)
  | ifElse hc hne _ _ ih₁ ih₂ =>
    exact good_intro nofun hne nofun (good_branches (good_of_derives hc nofun nofun) ih₁ ih₂)
  | withBlock hne hcontext hvars hbody _ ih =>
    exact good_intro nofun ⟨hne, hbody⟩ nofun (List.forall_mem_append.mpr
      ⟨List.forall_mem_map.mpr fun i hi => good_withItem (hcontext i hi) (hvars i hi),
        forall_block.mpr ih⟩)
  | raising hexc hcause h =>
    exact good_intro nofun (fun hc hexc => hc (h hexc)) nofun (List.forall_mem_append.mpr
      ⟨good_optional hexc nofun nofun, good_optional hcause nofun nofun⟩)
  | tryBlock hne _ hexc _ hbody _ hbare horelse _ _ hfinal ih₁ ih₂ ih₃ ih₄ =>
    refine good_intro nofun ⟨hne, ?_, fun ho hh => ho (horelse hh), hbare⟩ nofun ?_
    · rw [← not_and_or]
      exact fun h => hfinal h.1 h.2
    · simp only [parts, ofStmt, List.forall_mem_append, List.forall_mem_map, forall_block]
      exact ⟨⟨⟨ih₁, fun h hh => good_handler (hexc h hh) (hbody h hh) (ih₂ h hh)⟩, ih₃⟩, ih₄⟩
  | asserting hc hmsg =>
    exact good_intro nofun trivial nofun (List.forall_mem_cons.mpr
      ⟨good_of_derives hc nofun nofun, good_optional hmsg nofun nofun⟩)
  | importing hne _ _ => exact good_intro nofun hne nofun nofun
  | importFrom _ hne _ _ hlevel => exact good_intro nofun ⟨hne, hlevel⟩ nofun nofun
  | globals hne _ => exact good_intro nofun hne nofun nofun
  | nonlocals hne _ => exact good_intro nofun hne nofun nofun
  | expr h =>
    exact good_intro nofun trivial nofun
      (List.forall_mem_singleton.mpr (good_of_yieldOr h nofun nofun))
  | pass => exact good_intro nofun trivial nofun nofun
  | breaking => exact good_intro nofun trivial nofun nofun
  | continuing => exact good_intro nofun trivial nofun nofun

/-! ## Programs -/

theorem every_of_parseModule {source : List Char} {maxNesting : Nat} {m : Module}
    (h : parseModule source maxNesting = .ok m) : Every Sound .load (module m) := by
  refine every_of_parts trivial nofun (forall_block.mpr fun s hs => ?_)
  exact good_of_derivesStmt ((parseSpelled_spec id source maxNesting).2 m h s hs)

/-- Every node of the tree of a program is well formed. -/
theorem parseModule_wellFormed (source : List Char) (maxNesting : Nat) (m : Module)
    (h : parseModule source maxNesting = .ok m) (u : Usage) (x : Node)
    (hx : Occurs .load (module m) u x) : x.WellFormed :=
  (every_of_parseModule h u x hx).1

/-- `for a, *b in c[1:, x]: pass` -/
def loopSource : List Char :=
  ['f', 'o', 'r', ' ', 'a', ',', ' ', '*', 'b', ' ', 'i', 'n', ' ', 'c', '[', '1', ':', ',', ' ',
    'x', ']', ':', ' ', 'p', 'a', 's', 's', '\n']

/-- The target of a single loop and what it runs over. -/
def loop? (m : Module) : Option (Expr × Expr) :=
  match m.body with
  | [.forLoop _ target iter _ _] => some (target, iter)
  | _ => none

theorem mem_of_loop? {m : Module} {target iter : Expr} (h : loop? m = some (target, iter)) :
    Occurs .load (module m) .store (expr target) ∧ Occurs .load (module m) .load (expr iter) := by
  unfold loop? at h
  split at h
  · next hbody =>
    cases h
    have hstmt := List.mem_map_of_mem (f := fun s => (Role.value, stmt s))
      (hbody ▸ List.mem_singleton.mpr rfl)
    exact ⟨.part hstmt (.part (.head _) .self), .part hstmt (.part (.tail _ (.head _)) .self)⟩
  · exact nomatch h

/-- Whether a single loop runs over a subscript with a tuple that has a slice. -/
def loopsOverSlice (m : Module) : Bool :=
  match loop? m with
  | some (_, .subscript _ (.tuple [.slice .., _] .load) .load) => true
  | _ => false

/-- Whether a single loop binds a tuple with a starred item. -/
def bindsStarred (m : Module) : Bool :=
  match loop? m with
  | some (.tuple [_, .starred _ _] _, _) => true
  | _ => false

/-- The loop runs over a subscript with a slice and binds a starred item. -/
theorem parses_loopSource : ∃ m, parseModule loopSource 2 = .ok m ∧
    loopsOverSlice m = true ∧ bindsStarred m = true := by
  obtain ⟨m, hm, hloop⟩ := exists_of_any (x := parseModule loopSource 2)
    (p := fun m => loopsOverSlice m && bindsStarred m) (by decide +kernel)
  exact ⟨m, hm, (Bool.and_eq_true _ _).mp hloop⟩

/-- The iterable of the loop is a subscript with a tuple that has a slice. -/
theorem parseModule_wellFormed_loop :
    ∃ m target c elts, parseModule loopSource 2 = .ok m ∧
      loop? m = some (target, .subscript c (.tuple elts .load) .load) ∧
      (expr (.subscript c (.tuple elts .load) .load)).WellFormed := by
  obtain ⟨m, hm, hloop, -⟩ := parses_loopSource
  unfold loopsOverSlice at hloop
  split at hloop
  · next target c lower upper step e hsome =>
    exact ⟨m, target, c, _, hm, hsome,
      parseModule_wellFormed loopSource 2 m hm .load _ (mem_of_loop? hsome).2⟩
  · cases hloop

/-- Every node of the tree of a program says the usage that its place asks for.  What is on the
spine of a target is stored or deleted as the target is, and what is on the spine of anything else
is read. -/
theorem parseModule_usage (source : List Char) (maxNesting : Nat) (m : Module)
    (h : parseModule source maxNesting = .ok m) (u : Usage) (x : Node)
    (hx : Occurs .load (module m) u x) :
    (∀ v, x.usage? = some v → v = u) ∧
      ∀ r e, (r, expr e) ∈ x.parts → r ≠ .element → ∀ s, Spine e s →
        ∀ v, (expr s).usage? = some v → v = r.usage .load := by
  have hevery := every_of_parseModule h
  refine ⟨(hevery u x hx).2, fun r e he hr s hs v hv => ?_⟩
  have hrole : r.usage u = r.usage .load := by
    cases r with
    | element => exact absurd rfl hr
    | _ => rfl
  rw [← hrole]
  exact (hevery _ _ (hx.trans (.part he (occurs_of_spine hs)))).2 v hv

/-- The target of the loop is a tuple that is stored, with a starred item in it. -/
theorem parseModule_usage_loop :
    ∃ m a e v w iter, parseModule loopSource 2 = .ok m ∧
      loop? m = some (.tuple [a, .starred e v] w, iter) ∧ w = .store ∧ v = .store := by
  obtain ⟨m, hm, -, hloop⟩ := parses_loopSource
  unfold bindsStarred at hloop
  split at hloop
  · next a e v w iter hsome =>
    have hocc := (mem_of_loop? hsome).1
    have hstar := hocc.trans (occurs_of_spine (.tuple .self (.tail a (.head []))))
    exact ⟨m, a, e, v, w, iter, hm, hsome,
      (parseModule_usage loopSource 2 m hm .store _ hocc).1 w rfl,
      (parseModule_usage loopSource 2 m hm .store _ hstar).1 v rfl⟩
  · cases hloop

end PythonSyntax.Node
