import PythonSyntax.Proofs.Spelling.Line
import PythonSyntax.Proofs.Spelling.Program
import PythonSyntax.Proofs.Spelling.Render

/-
Operator trees are read back from their spelling.

The words of an operator tree are plain and their brackets match, so a line of them has their
tokens; they spell the tree, so the parser reads the tree from these tokens.
-/

namespace PythonSyntax

variable {r : Rule} {ws vs : List Word} {e : Expr}

/-! ## Brackets -/

namespace Word.Balanced

/-- An operator that is no bracket. -/
theorem op {text : String} (h : (Layout.isOpening text || Layout.isClosing text) = false)
    (hws : Balanced ws) : Balanced (.op text :: ws) :=
  .cons (fun _ => h) hws

theorem reserved (text : String) (hws : Balanced ws) : Balanced (.reserved text :: ws) :=
  .cons (fun hkind => nomatch hkind) hws

/-- Phrases with commas between them. -/
theorem commas {wss : List (List Word)} (h : ∀ ws ∈ wss, Balanced ws) :
    Balanced ([.op ","].intercalate wss) := by
  cases wss with
  | nil => exact nil
  | cons ws wss =>
    rw [List.forall_mem_cons] at h
    rw [Word.intercalate_cons]
    exact h.1.append (flatten (List.forall_mem_map.mpr fun ws hws => .op rfl (h.2 ws hws)))

end Word.Balanced

theorem Comparison.words_balanced (c : Comparison) : Word.Balanced c.words := by
  cases c <;> repeat first
    | exact .nil
    | refine .cons (by decide) ?_

/-- The brackets of a phrase match. -/
theorem Spells.balanced (h : Spells r ws e) : Word.Balanced ws := by
  induction h with
  | tighter _ _ ih => exact ih
  | name => exact .reserved _ .nil
  | number => exact .plain (fun hkind => nomatch hkind)
  | group _ ih => exact .bracketed rfl rfl rfl ih
  | attr _ _ ih => exact ih.append (.op rfl (.reserved _ .nil))
  | subscript _ _ ih ih' => exact ih.append (.bracketed rfl rfl rfl ih')
  | call _ _ ih ihargs =>
    exact ih.append (.bracketed rfl rfl rfl (.commas (List.forall_mem_map.mpr ihargs)))
  | power _ _ ih ih' => exact ih.append (.op rfl ih')
  | sign hsign _ ih =>
    have hnone : ∀ x ∈ Rule.signs, (Layout.isOpening x.1 || Layout.isClosing x.1) = false := by
      decide
    exact .op (hnone _ hsign) ih
  | operator hr hmem _ _ _ ih ih' =>
    have hnone : ∀ r ∈ Rule.ladder, ∀ x ∈ r.level?, ∀ text ∈ x.1,
        (Layout.isOpening text || Layout.isClosing text) = false := by
      decide
    exact ih.append (.op (hnone _ (Rule.level_facts id hr).1 _ hr _ hmem) ih')
  | compare _ _ _ ih ihrest =>
    exact ih.append (.flatten (List.forall_mem_map.mpr fun x hx =>
      x.1.words_balanced.append (ihrest x hx)))
  | negation _ ih => exact .reserved _ ih
  | boolean _ _ _ _ ih ihvalues =>
    exact ih.append (.flatten (List.forall_mem_map.mpr fun v hv => .reserved _ (ihvalues v hv)))
  | condition _ _ _ ih ih' ih'' =>
    exact ih.append (.reserved _ (ih'.append (.reserved _ ih'')))

/-! ## Plain words -/

/-- Whether all of some words are plain. -/
def Word.AllPlain (ws : List Word) : Prop := ∀ w ∈ ws, w.Plain

namespace Word.AllPlain

theorem append (h : AllPlain ws) (h' : AllPlain vs) : AllPlain (ws ++ vs) :=
  List.forall_mem_append.mpr ⟨h, h'⟩

theorem op {text : String} (h : text.toList ∈ Lexeme.operators) (hws : AllPlain ws) :
    AllPlain (.op text :: ws) :=
  List.forall_mem_cons.mpr ⟨.op h, hws⟩

theorem name {text : String} (h : Lexeme.isAsciiName text.toList = true) (hws : AllPlain ws) :
    AllPlain (⟨.name, text⟩ :: ws) :=
  List.forall_mem_cons.mpr ⟨.name h, hws⟩

theorem nil : AllPlain [] := List.forall_mem_nil _

theorem flatten {wss : List (List Word)} (h : ∀ ws ∈ wss, AllPlain ws) : AllPlain wss.flatten :=
  List.forall_mem_flatten.mpr h

/-- Phrases with a word between them. -/
theorem intercalate {w : Word} (hw : w.Plain) {wss : List (List Word)}
    (h : ∀ ws ∈ wss, AllPlain ws) : AllPlain ([w].intercalate wss) := by
  cases wss with
  | nil => exact nil
  | cons ws wss =>
    rw [List.forall_mem_cons] at h
    rw [Word.intercalate_cons]
    exact h.1.append (flatten (List.forall_mem_map.mpr fun ws hws =>
      List.forall_mem_cons.mpr ⟨hw, h.2 ws hws⟩))

/-- A phrase, in parentheses or not. -/
theorem enclose {own : Rule} (h : AllPlain ws) : AllPlain (enclose r own ws) := by
  unfold PythonSyntax.enclose
  split
  · exact h
  · exact op (by decide) (h.append (op (by decide) nil))

end Word.AllPlain

theorem Comparison.words_plain (c : Comparison) : Word.AllPlain c.words := by
  cases c <;> repeat first
    | exact .nil
    | refine .op (by decide) ?_
    | refine .name (by decide) ?_

/-- The words of an operator tree are ASCII. -/
theorem OperatorTree.plain (h : OperatorTree e) : Word.AllPlain e.words := by
  induction h with
  | name h => exact .name (isAsciiName_of_isPlainName h) .nil
  | @int value =>
    refine List.forall_mem_singleton.mpr (.number ?_ ?_)
    · rw [Nat.toList_repr]
      exact Nat.toDigits_ne_nil
    · rw [Nat.toList_repr]
      exact fun c hc => Nat.isDigit_of_mem_toDigits (by decide) (by decide) hc
  | attr h _ ih =>
    exact ih.enclose.append (.op (by decide) (.name (isAsciiName_of_isPlainName h) .nil))
  | subscript _ _ ih ih' =>
    exact ih.enclose.append (.op (by decide) (ih'.enclose.append (.op (by decide) .nil)))
  | call _ _ ih ihargs =>
    rw [Expr.words, exprsWords_eq]
    exact ih.enclose.append (.op (by decide) (.append (.intercalate (.op (by decide))
      (List.forall_mem_map.mpr fun a ha => (ihargs a ha).enclose)) (.op (by decide) .nil)))
  | @binOp _ op _ _ _ ih ih' =>
    exact ih.enclose.append (.op (by cases op <;> decide) ih'.enclose)
  | @unaryOp op _ _ ih =>
    have hword : op.word.Plain := by
      cases op with
      | not => exact .name (by decide)
      | _ => exact .op (by decide)
    exact List.forall_mem_cons.mpr ⟨hword, ih.enclose⟩
  | @compare left ops comparators _ hlen _ _ ih ihrest =>
    rw [Expr.words, ← (comparisonPhrases_spec hlen).2.2]
    refine ih.enclose.append (.flatten (List.forall_mem_map.mpr fun x hx => ?_))
    obtain ⟨e, he, heq⟩ := List.mem_map.mp (List.of_mem_zip hx).2
    rw [← heq]
    exact x.1.words_plain.append (ihrest e he).enclose
  | @boolOp op values _ _ ih =>
    have hword : op.word.Plain := by cases op <;> exact .name (by decide)
    rw [Expr.words, exprsWords_eq]
    exact .intercalate hword (List.forall_mem_map.mpr fun v hv => (ih v hv).enclose)
  | ifExp _ _ _ ih ih' ih'' =>
    exact ih'.enclose.append (.name (by decide) (ih.enclose.append
      (.name (by decide) ih''.enclose)))

/-! ## Programs -/

/-- A tree of names, integers and operators is read back from its spelling. -/
theorem parseModule_words (h : OperatorTree e) {limit : Nat} (hlimit : e.words.length ≤ limit) :
    parseModule (Word.line e.words) limit = .ok ⟨[.expr e]⟩ := by
  have hspells : Spells .test e.words e := h.spells.loosen e.rule_mem_ladder (Nat.zero_le _)
  have hne : e.words ≠ [] := by
    obtain ⟨w, vs, hws, -⟩ := hspells.begins
    rw [hws]
    exact List.cons_ne_nil _ _
  obtain ⟨ts, newline, eof, htokens, hts, hnewline, heof⟩ :=
    Word.tokenize_line hne h.plain (hspells.balanced limit [] (by simpa using hlimit))
  have hreads := (hspells.readsBack id).reads
  exact parseSpelled_of_eventually htokens
    (file_expr hnewline heof hts hspells.begins hreads (by simpa using hlimit))

/-- A power under a sign, and a boolean operator as an operand. -/
theorem parseModule_words_product :
    let e : Expr := .binOp (.unaryOp .minus (.binOp (.load "a") .pow (.unaryOp .minus (.load "b"))))
      .mult (.boolOp .or [.load "c", .constant (.int 2)])
    OperatorTree e ∧ e.words.length ≤ 11 ∧
      Word.line e.words = "- a ** - b * ( c or 2 )".toList ∧
      parseModule (Word.line e.words) 11 = .ok ⟨[.expr e]⟩ := by
  have htree : OperatorTree (.binOp
      (.unaryOp .minus (.binOp (.load "a") .pow (.unaryOp .minus (.load "b"))))
      .mult (.boolOp .or [.load "c", .constant (.int 2)])) := by
    refine .binOp (.unaryOp (.binOp (.name (by decide)) (.unaryOp (.name (by decide)))))
      (.boolOp (by decide) ?_)
    rw [List.forall_mem_cons, List.forall_mem_singleton]
    exact ⟨.name (by decide), .int⟩
  exact ⟨htree, by decide, by decide, parseModule_words htree (by decide)⟩

end PythonSyntax
