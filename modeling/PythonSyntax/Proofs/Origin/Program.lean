import PythonSyntax.Proofs.Origin.Statement

/-
Programs whose names and stars come from tokens.

A name in the tree of an accepted program is the normal form of a word of it that is not reserved.  The test
for reserved words is one of the text as it stands, so a word that is not all ASCII may have a reserved word
as its normal form.  A comprehension of starred items is accepted where the items stand in brackets; no rule
refuses it, so it is in the tree only if it is in the text.
-/

namespace PythonSyntax

open PythonSyntax.Parser Node

variable {source : List Char} {maxNesting : Nat} {m : Module} {tokens : List Token}

/-- The tree of a program is shown by its streams. -/
theorem shown_of_parseModule (h : parseModule source maxNesting = .ok m) :
    ∃ tokens, tokenize source maxNesting = .ok tokens ∧ Shown tokens (.module m) := by
  rw [parseModule, parseSpelled_eq] at h
  obtain ⟨tokens, htokens, h⟩ := bind_ok h
  obtain ⟨r, hr, rfl⟩ := map_ok h
  have hahead : Ahead tokens tokens := ⟨readable_of_tokenize htokens, tokens, .self, List.suffix_rfl⟩
  exact ⟨tokens, htokens, (ensures_file _ hahead _ r.1 r.2 hr).2⟩

/-! ## Identifiers -/

/-- A name is its own normal form, and that of a word of the program that is not reserved.  If the name
reads as a reserved word, the word has a character outside ASCII. -/
def IsKnown (tokens : List Token) (name : String) : Prop :=
  normalizeIdentifier name = name ∧
    ∃ t, IsWordOf tokens t ∧ name = normalizeIdentifier t.text ∧
      (isKeyword name = true → ∃ c ∈ t.text.toList, 0x80 ≤ c.toNat)

theorem isKnown_of_isSpelled {name : String}
    (hnormal : ∀ t, IsWordOf tokens t →
      normalizeIdentifier (normalizeIdentifier t.text) = normalizeIdentifier t.text)
    (h : IsSpelled tokens name) : IsKnown tokens name := by
  obtain ⟨t, ht, rfl⟩ := h
  refine ⟨hnormal t ht, t, ht, rfl, fun hkeyword => ?_⟩
  by_contra hascii
  have hascii : (t.text.toList.all fun c => c.toNat < 0x80) = true := by
    refine List.all_eq_true.mpr fun c hc => decide_eq_true (Nat.lt_of_not_le fun hle => ?_)
    exact hascii ⟨c, hc, hle⟩
  rw [normalizeIdentifier, if_pos hascii] at hkeyword
  have hword := ht.1
  rw [Token.isIdentifier, hkeyword, Bool.not_true, Bool.and_false] at hword
  cases hword

/-- If normal forms of words are their own normal forms, so is every identifier in the tree of a program
and every component of the name of a module, and it comes from a word of the program. -/
theorem parseModule_identifiers (htokens : tokenize source maxNesting = .ok tokens)
    (h : parseModule source maxNesting = .ok m)
    (hnormal : ∀ t, IsWordOf tokens t →
      normalizeIdentifier (normalizeIdentifier t.text) = normalizeIdentifier t.text)
    {u : Usage} {x : Node} (hx : Occurs .load (.module m) u x) :
    (∀ name ∈ x.identifiers, IsKnown tokens name) ∧
      ∀ name ∈ x.moduleNames, ∃ parts, parts ≠ [] ∧ (∀ part ∈ parts, IsKnown tokens part) ∧
        name = ".".intercalate parts := by
  obtain ⟨_, htokens', hshown⟩ := shown_of_parseModule h
  cases htokens.symm.trans htokens'
  have hx := hshown .load u x hx
  refine ⟨fun name hname => isKnown_of_isSpelled hnormal (hx.identifiers name hname), fun name hname => ?_⟩
  obtain ⟨parts, hne, hparts, rfl⟩ := hx.moduleNames name hname
  exact ⟨parts, hne, fun part hpart => isKnown_of_isSpelled hnormal (hparts part hpart), rfl⟩

/-- An assignment to a name that is not reserved, but reads so in its normal form: its first character is
the feminine ordinal indicator. -/
def ordinalSource : List Char := "ªs = 1\n".toList

/-- Whether a program is an assignment to a name of this spelling. -/
def assignsTo (name : String) (m : Module) : Bool :=
  match m.body with
  | [.assign [.name id _] _] => id == name
  | _ => false

theorem occurs_of_assignsTo {name : String} (h : assignsTo name m = true) :
    ∃ u x, Occurs .load (.module m) u x ∧ x.identifiers = [name] := by
  obtain ⟨body⟩ := m
  unfold assignsTo at h
  split at h
  · next id u value hbody =>
    have hbody : body = [.assign [.name id u] value] := hbody
    subst hbody
    refine ⟨_, _, .part (r := .value) List.mem_cons_self (.part (r := .target .store) (y := .expr (.name id u))
      (List.mem_cons_of_mem _ List.mem_cons_self) .self), ?_⟩
    exact congrArg ([·]) (beq_iff_eq.mp h)
  · cases h

theorem exists_ordinal : ∃ tokens m u x, tokenize ordinalSource defaultMaxNesting = .ok tokens ∧
    (∀ t ∈ tokens, t.kind ≠ .string ∧
      normalizeIdentifier (normalizeIdentifier t.text) = normalizeIdentifier t.text) ∧
    parseModule ordinalSource defaultMaxNesting = .ok m ∧ Occurs .load (.module m) u x ∧
    x.identifiers = ["as"] := by
  have hruns : ((tokenize ordinalSource defaultMaxNesting).toOption.any fun ts =>
        ts.all fun t => t.kind != .string &&
          normalizeIdentifier (normalizeIdentifier t.text) == normalizeIdentifier t.text) = true ∧
      ((parseModule ordinalSource defaultMaxNesting).toOption.any (assignsTo "as")) = true := by
    decide +kernel
  obtain ⟨tokens, htokens, hall⟩ := exists_of_any hruns.1
  obtain ⟨m, hm, hname⟩ := exists_of_any hruns.2
  obtain ⟨u, x, hx, hidentifiers⟩ := occurs_of_assignsTo hname
  have hall := List.all_eq_true.mp hall
  simp only [Bool.and_eq_true, bne_iff_ne, beq_iff_eq] at hall
  exact ⟨tokens, m, u, x, htokens, hall, hm, hx, hidentifiers⟩

theorem parseModule_identifiers_ordinal :
    ∃ tokens m u x, tokenize ordinalSource defaultMaxNesting = .ok tokens ∧
      parseModule ordinalSource defaultMaxNesting = .ok m ∧ Occurs .load (.module m) u x ∧
      x.identifiers = ["as"] ∧ IsKnown tokens "as" := by
  obtain ⟨tokens, m, u, x, htokens, hall, hm, hx, hidentifiers⟩ := exists_ordinal
  refine ⟨tokens, m, u, x, htokens, hm, hx, hidentifiers, ?_⟩
  refine (parseModule_identifiers htokens hm (fun t ht => ?_) hx).1 "as" ?_
  · obtain ⟨-, src, hsrc, hmem⟩ := ht
    rw [hsrc.eq_root fun t ht => (hall t ht).1] at hmem
    exact (hall t hmem).2
  · rw [hidentifiers]
    exact List.mem_cons_self

/-- A name in a tree may read as a reserved word. -/
theorem exists_reserved_identifier : ∃ m u x name, parseModule ordinalSource defaultMaxNesting = .ok m ∧
    Occurs .load (.module m) u x ∧ name ∈ x.identifiers ∧ isKeyword name = true := by
  obtain ⟨-, m, u, x, -, -, hm, hx, hidentifiers⟩ := exists_ordinal
  refine ⟨m, u, x, "as", hm, hx, ?_, by decide⟩
  rw [hidentifiers]
  exact List.mem_cons_self

/-! ## Starred items in comprehensions -/

/-- A comprehension of starred items is in the tree of a program only if, in one of its streams, a clause
follows a starred item that stands right behind an opening bracket. -/
theorem parseModule_starred (h : parseModule source maxNesting = .ok m) {u : Usage} {x : Node}
    (hx : Occurs .load (.module m) u x) (hstarred : x.isStarredComprehension = true) :
    ∃ tokens src, tokenize source maxNesting = .ok tokens ∧ IsStreamOf tokens src ∧ Unpacks src := by
  obtain ⟨tokens, htokens, hshown⟩ := shown_of_parseModule h
  obtain ⟨src, hsrc, hunpacks⟩ := (hshown .load u x hx).starred hstarred
  exact ⟨tokens, src, htokens, hsrc, hunpacks⟩

/-- A list comprehension that unpacks its items. -/
def unpackingSource : List Char := "[*a for a in b]\n".toList

/-- Whether a program is a comprehension of starred items. -/
def isUnpacking (m : Module) : Bool :=
  match m.body with
  | [.expr e] => (Node.expr e).isStarredComprehension
  | _ => false

theorem occurs_of_isUnpacking (h : isUnpacking m = true) :
    ∃ u x, Occurs .load (.module m) u x ∧ x.isStarredComprehension = true := by
  obtain ⟨body⟩ := m
  unfold isUnpacking at h
  split at h
  · next e hbody =>
    have hbody : body = [.expr e] := hbody
    subst hbody
    exact ⟨_, .expr e, .part (r := .value) List.mem_cons_self (.part (r := .value) List.mem_cons_self .self), h⟩
  · cases h

theorem exists_unpacking : ∃ m u x, parseModule unpackingSource defaultMaxNesting = .ok m ∧
    Occurs .load (.module m) u x ∧ x.isStarredComprehension = true := by
  obtain ⟨m, hm, hunpacking⟩ := exists_of_any (x := parseModule unpackingSource defaultMaxNesting)
    (p := isUnpacking) (by decide +kernel)
  obtain ⟨u, x, hx, hstarred⟩ := occurs_of_isUnpacking hunpacking
  exact ⟨m, u, x, hm, hx, hstarred⟩

theorem parseModule_starred_unpacking :
    ∃ m u x tokens src, parseModule unpackingSource defaultMaxNesting = .ok m ∧
      Occurs .load (.module m) u x ∧ x.isStarredComprehension = true ∧
      tokenize unpackingSource defaultMaxNesting = .ok tokens ∧ IsStreamOf tokens src ∧ Unpacks src := by
  obtain ⟨m, u, x, hm, hx, hstarred⟩ := exists_unpacking
  obtain ⟨tokens, src, htokens, hsrc, hunpacks⟩ := parseModule_starred hm hx hstarred
  exact ⟨m, u, x, tokens, src, hm, hx, hstarred, htokens, hsrc, hunpacks⟩

/-- Not every comprehension in the tree of a program is without starred items. -/
theorem not_plain_comprehensions :
    ¬ ∀ m u x, parseModule unpackingSource defaultMaxNesting = .ok m → Occurs .load (.module m) u x →
      x.isStarredComprehension = false := by
  intro h
  obtain ⟨m, u, x, hm, hx, hstarred⟩ := exists_unpacking
  rw [h m u x hm hx] at hstarred
  cases hstarred

end PythonSyntax
