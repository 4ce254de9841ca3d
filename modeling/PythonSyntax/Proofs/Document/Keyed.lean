import PythonSyntax.Proofs.Json.Spaced
import PythonSyntax.Tree.Json

/-
The objects of documents.

Every object of a document is a node.  It names its type first, and no two of its fields have the
same key.  A part that may be left out has one key of its own, so the keys of a node are some of
those of its description, in their order.
-/

namespace PythonSyntax

open JsonValue

namespace JsonValue

/-- The value `w` stands somewhere in the value `v`. -/
inductive Occurs : JsonValue → JsonValue → Prop where
  | self {v} : Occurs v v
  | item {items v w} : v ∈ items → Occurs v w → Occurs (array items) w
  | member {members m w} : m ∈ members → Occurs m.2 w → Occurs (object members) w

/-- The members of an object have different keys, and the first one is a type with a name. -/
structure IsNode (members : List (Text × JsonValue)) : Prop where
  type_first : ∃ type rest, members = (Text.ofString "type", string type) :: rest ∧ type ≠ []
  nodup : (members.map Prod.fst).Nodup

/-- Every object in a value, at every depth, is a node. -/
def Keyed (v : JsonValue) : Prop := ∀ members, Occurs v (object members) → IsNode members

theorem keyed_null : Keyed null := nofun

theorem keyed_bool (b : Bool) : Keyed (bool b) := nofun

theorem keyed_number (token : List Char) : Keyed (number token) := nofun

theorem keyed_string (t : Text) : Keyed (string t) := nofun

theorem keyed_array {items : List JsonValue} (h : ∀ v ∈ items, Keyed v) : Keyed (array items) := by
  intro members hoccurs
  cases hoccurs with
  | item hv hoccurs => exact h _ hv members hoccurs

theorem keyed_object {members : List (Text × JsonValue)} (hnode : IsNode members)
    (h : ∀ m ∈ members, Keyed m.2) : Keyed (object members) := by
  intro others hoccurs
  cases hoccurs with
  | self => exact hnode
  | member hm hoccurs => exact h _ hm others hoccurs

end JsonValue

theorem Text.ofString_injective {s t : String} (h : Text.ofString s = Text.ofString t) : s = t := by
  have hlossy := congrArg Text.lossy h
  rw [Text.ofString, Text.ofString, Text.lossy_ofChars, Text.lossy_ofChars] at hlossy
  exact String.toList_inj.mp hlossy

/-! ## Nodes and fields -/

namespace Json

/-- The fields have some of the given keys, in their order, and all objects in their values are
nodes. -/
structure Keys (ks : List String) (fields : List (String × Json)) : Prop where
  sublist : (fields.map Prod.fst).Sublist ks
  keyed : ∀ f ∈ fields, Keyed f.2.value

theorem Keys.nil : Keys [] [] := ⟨.slnil, nofun⟩

theorem Keys.cons {k : String} {ks : List String} {v : Json} {fields : List (String × Json)}
    (hv : Keyed v.value) (h : Keys ks fields) : Keys (k :: ks) ((k, v) :: fields) :=
  ⟨h.sublist.cons_cons k, List.forall_mem_cons.mpr ⟨hv, h.keyed⟩⟩

theorem Keys.one {k : String} {v : Json} (hv : Keyed v.value) : Keys [k] [(k, v)] := .cons hv .nil

theorem Keys.append {ks ls : List String} {xs ys : List (String × Json)} (h : Keys ks xs)
    (h' : Keys ls ys) : Keys (ks ++ ls) (xs ++ ys) := by
  refine ⟨?_, List.forall_mem_append.mpr ⟨h.keyed, h'.keyed⟩⟩
  rw [List.map_append]
  exact h.sublist.append h'.sublist

theorem keyed_arr {items : List Json} (h : ∀ j ∈ items, Keyed j.value) :
    Keyed (arr items).value := by
  rw [value, valueItems_eq]
  exact keyed_array (List.forall_mem_map.mpr h)

theorem Keys.many {k : String} {items : List Json} (h : ∀ j ∈ items, Keyed j.value) :
    Keys [k] (many k items) := by
  unfold Json.many
  split
  · exact ⟨List.nil_sublist _, nofun⟩
  · exact .one (keyed_arr h)

theorem Keys.maybe {k : String} {value? : Option Json} (h : ∀ j ∈ value?, Keyed j.value) :
    Keys [k] (maybe k value?) := by
  cases value? with
  | none => exact ⟨List.nil_sublist _, nofun⟩
  | some j => exact .one (h j rfl)

/-- A node is one if its type has a name and the keys of its description are different. -/
theorem keyed_node {type : String} {ks : List String} {fields : List (String × Json)}
    (h : Keys ks fields) (hks : ("type" :: ks).Nodup) (htype : type ≠ "") :
    Keyed (node type fields).value := by
  rw [node, value, valueFields, valueFields_eq]
  refine keyed_object ⟨⟨_, _, rfl, ?_⟩, ?_⟩ (List.forall_mem_cons.mpr ⟨keyed_string _, ?_⟩)
  · intro hnil
    refine htype (Text.ofString_injective (hnil.trans ?_))
    rfl
  · have hkeys : ((Text.ofString "type", (ofString type).value) ::
        fields.map fun f => (Text.ofString f.1, f.2.value)).map Prod.fst =
          ("type" :: fields.map Prod.fst).map Text.ofString := by
      simp [Function.comp_def]
    rw [hkeys]
    exact List.Pairwise.map Text.ofString (fun _ _ hne heq => hne (Text.ofString_injective heq))
      (hks.sublist (h.sublist.cons_cons "type"))
  · exact List.forall_mem_map.mpr h.keyed

theorem keyed_tag {type : String} (h : type ≠ "") : Keyed (tag type).value :=
  keyed_node .nil (by decide) h

theorem keyed_ofString (s : String) : Keyed (ofString s).value := keyed_string _

theorem keyed_ofStrings (names : List String) : ∀ j ∈ names.map ofString, Keyed j.value :=
  List.forall_mem_map.mpr fun _ _ => keyed_ofString _

theorem keyed_ofString? (s? : Option String) : ∀ j ∈ s?.map ofString, Keyed j.value := by
  rintro j hj
  obtain ⟨s, -, rfl⟩ := Option.map_eq_some_iff.mp hj
  exact keyed_ofString s

end Json

open Json

/-! ## Tags and constants -/

theorem Usage.keyed (u : Usage) : Keyed u.toJson.value := by
  cases u <;> exact keyed_tag (by decide)

theorem BoolOperator.keyed (op : BoolOperator) : Keyed op.toJson.value := by
  cases op <;> exact keyed_tag (by decide)

theorem Operator.keyed (op : Operator) : Keyed op.toJson.value := by
  cases op <;> exact keyed_tag (by decide)

theorem UnaryOperator.keyed (op : UnaryOperator) : Keyed op.toJson.value := by
  cases op <;> exact keyed_tag (by decide)

theorem Comparison.keyed (op : Comparison) : Keyed op.toJson.value := by
  cases op <;> exact keyed_tag (by decide)

theorem Json.keyed_ofBinary64 (x : Binary64) : Keyed (ofBinary64 x).value := by
  unfold ofBinary64
  split
  · exact keyed_ofString _
  split
  · exact keyed_ofString _
  · exact keyed_number _

theorem Constant.keyed (c : Constant) : Keyed c.toJson.value := by
  cases c with
  | none | ellipsis => exact keyed_null
  | bool b => exact keyed_bool b
  | int n => exact keyed_number _
  | bigInt text => exact keyed_ofString text
  | float x | complex x => exact keyed_ofBinary64 x
  | str t => exact keyed_string t
  | bytes cs => exact keyed_string _

/-! ## Expressions -/

mutual

theorem Expr.keyed : ∀ e : Expr, Keyed e.toJson.value
  | .boolOp op values =>
    keyed_node (.cons op.keyed (.one (keyed_arr (keyed_exprs values)))) (by decide) (by decide)
  | .namedExpr target value =>
    keyed_node (.cons target.keyed (.one value.keyed)) (by decide) (by decide)
  | .binOp left op right =>
    keyed_node (.cons left.keyed (.cons op.keyed (.one right.keyed))) (by decide) (by decide)
  | .unaryOp op operand =>
    keyed_node (.cons op.keyed (.one operand.keyed)) (by decide) (by decide)
  | .lambda args body => keyed_node (.cons args.keyed (.one body.keyed)) (by decide) (by decide)
  | .ifExp test body orelse =>
    keyed_node (.cons test.keyed (.cons body.keyed (.one orelse.keyed))) (by decide) (by decide)
  | .dict keys values =>
    keyed_node ((Keys.many (keyed_keys keys)).append (.many (keyed_exprs values))) (by decide)
      (by decide)
  | .set elts => keyed_node (.one (keyed_arr (keyed_exprs elts))) (by decide) (by decide)
  | .listComp elt gens | .setComp elt gens | .generatorExp elt gens =>
    keyed_node (.cons elt.keyed (.one (keyed_arr (keyed_comprehensions gens)))) (by decide)
      (by decide)
  | .dictComp key value gens =>
    keyed_node (.cons key.keyed (.cons value.keyed (.one (keyed_arr (keyed_comprehensions gens)))))
      (by decide) (by decide)
  | .await value | .yieldFrom value => keyed_node (.one value.keyed) (by decide) (by decide)
  | .yield value => keyed_node (.maybe (keyed_expr? value)) (by decide) (by decide)
  | .compare left ops comparators =>
    keyed_node (.cons left.keyed (.cons
      (keyed_arr (List.forall_mem_map.mpr fun op _ => op.keyed))
      (.one (keyed_arr (keyed_exprs comparators))))) (by decide) (by decide)
  | .call func args keywords =>
    keyed_node (((Keys.one func.keyed).append (.many (keyed_exprs args))).append
      (.many (keyed_keywords keywords))) (by decide) (by decide)
  | .formattedValue value conversion formatSpec =>
    have hconversion : ∀ j ∈ conversion.map Json.ofChar, Keyed j.value := by
      intro j hj
      obtain ⟨c, -, rfl⟩ := Option.map_eq_some_iff.mp hj
      exact keyed_ofString _
    keyed_node (((Keys.one value.keyed).append (.maybe hconversion)).append
      (.maybe (keyed_expr? formatSpec))) (by decide) (by decide)
  | .joinedStr values => keyed_node (.many (keyed_exprs values)) (by decide) (by decide)
  | .constant c => keyed_node (.cons c.keyed (.one (keyed_ofString _))) (by decide) (by decide)
  | .attr value _ usage =>
    keyed_node (.cons value.keyed (.cons (keyed_ofString _) (.one usage.keyed))) (by decide)
      (by decide)
  | .subscript value slice usage =>
    keyed_node (.cons value.keyed (.cons slice.keyed (.one usage.keyed))) (by decide) (by decide)
  | .starred value usage =>
    keyed_node (.cons value.keyed (.one usage.keyed)) (by decide) (by decide)
  | .name _ usage =>
    keyed_node (.cons (keyed_ofString _) (.one usage.keyed)) (by decide) (by decide)
  | .list elts usage | .tuple elts usage =>
    keyed_node ((Keys.many (keyed_exprs elts)).append (.one usage.keyed)) (by decide) (by decide)
  | .slice lower upper step =>
    keyed_node (((Keys.maybe (keyed_expr? lower)).append (.maybe (keyed_expr? upper))).append
      (.maybe (keyed_expr? step))) (by decide) (by decide)

theorem Arguments.keyed : ∀ a : Arguments, Keyed a.toJson.value
  | ⟨posOnly, args, vararg, kwOnly, kwDefaults, kwarg, defaults⟩ =>
    keyed_node (((((((Keys.many (keyed_args posOnly)).append (.many (keyed_args args))).append
      (.maybe (keyed_arg? vararg))).append (.many (keyed_args kwOnly))).append
      (.many (keyed_keys kwDefaults))).append (.maybe (keyed_arg? kwarg))).append
      (.many (keyed_exprs defaults))) (by decide) (by decide)

theorem Arg.keyed : ∀ a : Arg, Keyed a.toJson.value
  | ⟨name, annotation⟩ =>
    keyed_node ((Keys.one (keyed_ofString name)).append (.maybe (keyed_expr? annotation)))
      (by decide) (by decide)

theorem Keyword.keyed : ∀ k : Keyword, Keyed k.toJson.value
  | ⟨name, value⟩ =>
    keyed_node ((Keys.maybe (keyed_ofString? name)).append (.one value.keyed)) (by decide)
      (by decide)

theorem Comprehension.keyed : ∀ c : Comprehension, Keyed c.toJson.value
  | ⟨target, iter, ifs, isAsync⟩ =>
    have hasync : Keys ["is_async"] (if isAsync then [("is_async", .bool true)] else []) := by
      cases isAsync
      · exact ⟨List.nil_sublist _, nofun⟩
      · exact .one (keyed_bool true)
    keyed_node (((Keys.cons target.keyed (.one iter.keyed)).append
      (.many (keyed_exprs ifs))).append hasync) (by decide) (by decide)

theorem keyed_exprs : ∀ es : List Expr, ∀ j ∈ exprsToJson es, Keyed j.value
  | [] => nofun
  | e :: es => List.forall_mem_cons.mpr ⟨e.keyed, keyed_exprs es⟩

theorem keyed_expr? : ∀ e? : Option Expr, ∀ j ∈ exprToJson? e?, Keyed j.value
  | none => nofun
  | some e => fun _ hj => Option.some.inj hj ▸ e.keyed

theorem keyed_keys : ∀ es : List (Option Expr), ∀ j ∈ keysToJson es, Keyed j.value
  | [] => nofun
  | none :: es => List.forall_mem_cons.mpr ⟨keyed_null, keyed_keys es⟩
  | some e :: es => List.forall_mem_cons.mpr ⟨e.keyed, keyed_keys es⟩

theorem keyed_comprehensions : ∀ cs : List Comprehension,
    ∀ j ∈ comprehensionsToJson cs, Keyed j.value
  | [] => nofun
  | c :: cs => List.forall_mem_cons.mpr ⟨c.keyed, keyed_comprehensions cs⟩

theorem keyed_keywords : ∀ ks : List Keyword, ∀ j ∈ keywordsToJson ks, Keyed j.value
  | [] => nofun
  | k :: ks => List.forall_mem_cons.mpr ⟨k.keyed, keyed_keywords ks⟩

theorem keyed_args : ∀ as : List Arg, ∀ j ∈ argsToJson as, Keyed j.value
  | [] => nofun
  | a :: as => List.forall_mem_cons.mpr ⟨a.keyed, keyed_args as⟩

theorem keyed_arg? : ∀ a? : Option Arg, ∀ j ∈ argToJson? a?, Keyed j.value
  | none => nofun
  | some a => fun _ hj => Option.some.inj hj ▸ a.keyed

end

/-! ## Statements -/

theorem Alias.keyed (a : Alias) : Keyed a.toJson.value :=
  keyed_node ((Keys.one (keyed_ofString _)).append (.maybe (keyed_ofString? _))) (by decide)
    (by decide)

/-- The nodes of expressions that stand in a statement. -/
theorem keyed_map_expr (es : List Expr) : ∀ j ∈ es.map Expr.toJson, Keyed j.value :=
  List.forall_mem_map.mpr fun e _ => e.keyed

theorem keyed_map_expr? (e? : Option Expr) : ∀ j ∈ e?.map Expr.toJson, Keyed j.value := by
  intro j hj
  obtain ⟨e, -, rfl⟩ := Option.map_eq_some_iff.mp hj
  exact e.keyed

theorem WithItem.keyed (w : WithItem) : Keyed w.toJson.value :=
  keyed_node ((Keys.one w.context.keyed).append (.maybe (keyed_map_expr? _))) (by decide)
    (by decide)

mutual

theorem Stmt.keyed : ∀ s : Stmt, Keyed s.toJson.value
  | .functionDef isAsync name args body decorators returns =>
    keyed_node (((Keys.cons (keyed_ofString name) (.cons args.keyed
      (.one (keyed_arr (keyed_stmts body))))).append (.many (keyed_map_expr decorators))).append
      (.maybe (keyed_map_expr? returns))) (by decide) (by cases isAsync <;> decide)
  | .classDef name bases keywords body decorators =>
    keyed_node (((((Keys.one (keyed_ofString name)).append (.many (keyed_map_expr bases))).append
      (.many (List.forall_mem_map.mpr fun k _ => k.keyed))).append
      (.one (keyed_arr (keyed_stmts body)))).append (.many (keyed_map_expr decorators)))
      (by decide) (by decide)
  | .returning value => keyed_node (.maybe (keyed_map_expr? value)) (by decide) (by decide)
  | .delete targets =>
    keyed_node (.one (keyed_arr (keyed_map_expr targets))) (by decide) (by decide)
  | .assign targets value =>
    keyed_node (.cons (keyed_arr (keyed_map_expr targets)) (.one value.keyed)) (by decide)
      (by decide)
  | .augAssign target op value =>
    keyed_node (.cons target.keyed (.cons op.keyed (.one value.keyed))) (by decide) (by decide)
  | .annAssign target annotation value simple =>
    keyed_node (((Keys.cons target.keyed (.one annotation.keyed)).append
      (.maybe (keyed_map_expr? value))).append (.one (keyed_bool simple))) (by decide) (by decide)
  | .forLoop isAsync target iter body orelse =>
    keyed_node ((Keys.cons target.keyed (.cons iter.keyed
      (.one (keyed_arr (keyed_stmts body))))).append (.many (keyed_stmts orelse))) (by decide)
      (by cases isAsync <;> decide)
  | .whileLoop test body orelse | .ifElse test body orelse =>
    keyed_node ((Keys.cons test.keyed (.one (keyed_arr (keyed_stmts body)))).append
      (.many (keyed_stmts orelse))) (by decide) (by decide)
  | .withBlock isAsync items body =>
    keyed_node (.cons (keyed_arr (List.forall_mem_map.mpr fun i _ => i.keyed))
      (.one (keyed_arr (keyed_stmts body)))) (by decide) (by cases isAsync <;> decide)
  | .raising exc cause =>
    keyed_node ((Keys.maybe (keyed_map_expr? exc)).append (.maybe (keyed_map_expr? cause)))
      (by decide) (by decide)
  | .tryBlock body handlers orelse finalbody =>
    keyed_node ((((Keys.one (keyed_arr (keyed_stmts body))).append
      (.many (keyed_handlers handlers))).append (.many (keyed_stmts orelse))).append
      (.many (keyed_stmts finalbody))) (by decide) (by decide)
  | .asserting test msg =>
    keyed_node ((Keys.one test.keyed).append (.maybe (keyed_map_expr? msg))) (by decide) (by decide)
  | .importing names =>
    keyed_node (.one (keyed_arr (List.forall_mem_map.mpr fun a _ => a.keyed))) (by decide)
      (by decide)
  | .importFrom module? names level =>
    keyed_node ((Keys.maybe (keyed_ofString? module?)).append (.cons
      (keyed_arr (List.forall_mem_map.mpr fun a _ => a.keyed)) (.one (keyed_number _))))
      (by decide) (by decide)
  | .globals names | .nonlocals names =>
    keyed_node (.one (keyed_arr (keyed_ofStrings names))) (by decide) (by decide)
  | .expr value => keyed_node (.one value.keyed) (by decide) (by decide)
  | .pass | .breaking | .continuing => keyed_tag (by decide)

theorem ExceptHandler.keyed : ∀ h : ExceptHandler, Keyed h.toJson.value
  | ⟨exception, name, body⟩ =>
    keyed_node (((Keys.maybe (keyed_map_expr? exception)).append
      (.maybe (keyed_ofString? name))).append (.one (keyed_arr (keyed_stmts body)))) (by decide)
      (by decide)

theorem keyed_stmts : ∀ ss : List Stmt, ∀ j ∈ stmtsToJson ss, Keyed j.value
  | [] => nofun
  | s :: ss => List.forall_mem_cons.mpr ⟨s.keyed, keyed_stmts ss⟩

theorem keyed_handlers : ∀ hs : List ExceptHandler, ∀ j ∈ handlersToJson hs, Keyed j.value
  | [] => nofun
  | h :: hs => List.forall_mem_cons.mpr ⟨h.keyed, keyed_handlers hs⟩

end

/-! ## Documents -/

theorem Module.keyed (m : Module) : Keyed m.document.value :=
  keyed_arr (List.forall_mem_singleton.mpr
    (keyed_node (.many (keyed_stmts m.body)) (by decide) (by decide)))

/-- The texts of a document agree: the compact and the indented one are JSON and say the same, they
differ only by white space outside of strings, with U+FFFD for each lone surrogate they say what the
document without surrogates says, and every object in them has different keys and its type first. -/
theorem Module.documents_agree (m : Module) : ∃ v,
    read m.document.compact.toList = some v ∧ read m.document.pretty.toList = some v ∧
    squeeze false m.document.pretty.toList = m.document.compact.toList ∧
    v.lossy = .array [m.toJson.lossy.value] ∧ Keyed v := by
  refine ⟨_, read_compact _, read_pretty _, squeeze_pretty _, ?_, m.keyed⟩
  rw [← value_lossy]
  rfl

end PythonSyntax
