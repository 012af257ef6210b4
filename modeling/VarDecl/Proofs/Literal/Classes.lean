import VarDecl.Lexeme
import VarDecl.Proofs.Literal.Kind

/-!
# Classes of literals

No text is a literal of two kinds, so it does not matter in which order the kinds are tried.

* `eq_of_isLiteral`, `find?_isLiteral`: a text has at most one kind, which every order finds;
* `eq_boolean_of_isIdentifier`: of the literals only the truth values are identifiers. No literal is
  the name of a type or an equals sign (`kind?_name`);
* `classify_eq_value_iff`: the tokens that are values are the literals, truth values apart, whatever
  stands before them.
-/

namespace VarDecl.Literal

open Text Name

variable {t : Text} {k k' : LiteralKind}

/-- A text is a literal of one kind at most. -/
theorem eq_of_isLiteral (h : isLiteral k t = true) (h' : isLiteral k' t = true) : k = k' := by
  rw [← kind?_eq_some_iff] at h h'
  exact Option.some.inj (h.symm.trans h')

/-- In whatever order all kinds are tried, the same one is found. -/
theorem find?_isLiteral {ks : List LiteralKind} (hks : ∀ k, k ∈ ks) :
    ks.find? (isLiteral · t) = kind? t := by
  cases hfind : ks.find? (isLiteral · t) with
  | some k =>
    have hl := List.find?_some hfind
    exact (kind?_eq_some_iff.2 hl).symm
  | none =>
    refine (Option.eq_none_iff_forall_ne_some.2 fun k hk => ?_).symm
    exact List.find?_eq_none.1 hfind k (hks k) (kind?_eq_some_iff.1 hk)

/-! ### Literals and names -/

theorem isIdentifier_of_isBoolean (h : isBoolean t = true) : isIdentifier t = true := by
  obtain ⟨r, hr, ht⟩ := isBoolean_iff.1 h
  rcases atEnd_iff.1 hr with rfl | rfl
  · rcases ht with rfl | rfl <;> decide
  · rcases ht with rfl | rfl <;> decide

/-- Of the literals only the truth values are identifiers. -/
theorem eq_boolean_of_isIdentifier (h : isLiteral k t = true) (hname : isIdentifier t = true) :
    k = .boolean := by
  cases t with
  | nil => simp at hname
  | cons c r =>
    simp only [isIdentifier, Bool.and_eq_true] at hname
    rw [← kind?_eq_some_iff, kind?_of_isNameStart hname.1] at h
    split at h
    case isTrue => exact (Option.some.inj h).symm
    case isFalse => cases h

/-- The name of a type is no literal. -/
@[simp] theorem kind?_name (p : Primitive) : kind? p.name = none := by
  rw [kind?_of_isName (isName_name p)]
  cases p <;> decide

/-! ### Values -/

theorem isLiteral_eq_false (h : kind? t = none) (k : LiteralKind) : isLiteral k t = false := by
  refine Bool.eq_false_iff.2 fun hl => ?_
  rw [kind?_eq_some_iff.2 hl] at h
  cases h

/-- The tokens that are values are the literals that are no truth values. -/
theorem classify_eq_value_iff {ctx : Lexeme.Context} :
    Lexeme.classify ctx t = .value ↔ ∃ k, kind? t = some k ∧ k ≠ .boolean := by
  constructor
  · intro h
    unfold Lexeme.classify at h
    split_ifs at h with _ _ _ hnumber hquoted
    · rcases Bool.or_eq_true_iff.1 hnumber with hl | hl
      · exact ⟨.integer, kind?_of_isInteger hl, by decide⟩
      · exact ⟨.floating, kind?_of_isFloating hl, by decide⟩
    · rcases Bool.or_eq_true_iff.1 hquoted with hl | hl
      · exact ⟨.string, kind?_of_isString hl, by decide⟩
      · exact ⟨.char, kind?_of_isChar hl, by decide⟩
  · rintro ⟨k, hk, hne⟩
    have hl := kind?_eq_some_iff.1 hk
    -- The tests that come before those for literals fail.
    have hname : ¬(ctx = .afterType ∧ isIdentifier t = true) := fun h =>
      hne (eq_boolean_of_isIdentifier hl h.2)
    have htype : ¬(Primitive.ofName? t).isSome = true := fun h => by
      obtain ⟨p, hp⟩ := Option.isSome_iff_exists.1 h
      rw [Primitive.ofName?_eq_some_iff.1 hp, kind?_name] at hk
      cases hk
    have hequals : t ≠ ['='] := by
      rintro rfl
      exact absurd hk (by rw [show kind? ['='] = none by decide]; simp)
    rw [Lexeme.classify, if_neg hname, if_neg htype, if_neg hequals]
    cases k with
    | string => simp [show isString t = true from hl]
    | char => simp [show isChar t = true from hl]
    | boolean => exact absurd rfl hne
    | integer => simp [show isInteger t = true from hl]
    | floating => simp [show isFloating t = true from hl]

/-- A text is a literal of one kind at most, and every order of the kinds finds it. The literals
that are identifiers are the truth values; a token is a value exactly if it is another literal; the
name of a type and the equals sign are no literals. -/
theorem classes_disjoint (t : Text) :
    (∀ k k', isLiteral k t = true → isLiteral k' t = true → k = k') ∧
      (∀ ks : List LiteralKind, (∀ k, k ∈ ks) → ks.find? (isLiteral · t) = kind? t) ∧
      (∀ k, isLiteral k t = true ∧ isIdentifier t = true ↔ k = .boolean ∧ isBoolean t = true) ∧
      (∀ ctx, Lexeme.classify ctx t = .value ↔
        kind? t ∈ [some .string, some .char, some .integer, some .floating]) ∧
      ((∃ p : Primitive, t = p.name) ∨ t = ['='] → ∀ k, isLiteral k t = false) := by
  refine ⟨fun k k' => eq_of_isLiteral, fun ks => find?_isLiteral, fun k => ⟨?_, ?_⟩, fun ctx => ?_,
    ?_⟩
  · rintro ⟨hl, hname⟩
    obtain rfl := eq_boolean_of_isIdentifier hl hname
    exact ⟨rfl, hl⟩
  · rintro ⟨rfl, hl⟩
    exact ⟨hl, isIdentifier_of_isBoolean hl⟩
  · rw [classify_eq_value_iff]
    cases kind? t with
    | none => simp
    | some k => cases k <;> simp
  · rintro (⟨p, rfl⟩ | rfl) k
    · exact isLiteral_eq_false (kind?_name p) k
    · exact isLiteral_eq_false (by decide) k

/-- A number with an exponent, digits of another script and a newline behind it is of one kind, in
whatever order the kinds are tried; a type is of none. -/
theorem classes_disjoint_exponent :
    isLiteral .floating "-٣e+1\n".toList = true ∧
      isLiteral .integer "-٣e+1\n".toList = false ∧
      [LiteralKind.floating, .integer, .boolean, .char, .string].find?
        (isLiteral · "-٣e+1\n".toList) = some .floating ∧
      Lexeme.classify .afterType "-٣e+1\n".toList = .value ∧
      isLiteral .boolean "boolean".toList = false := by
  have hl : isLiteral .floating "-٣e+1\n".toList = true := by decide +kernel
  have hkind : kind? "-٣e+1\n".toList = some .floating := by decide +kernel
  obtain ⟨hunique, horder, -, hvalue, -⟩ := classes_disjoint "-٣e+1\n".toList
  refine ⟨hl, ?_, ?_, ?_, ?_⟩
  · refine Bool.eq_false_iff.2 fun h => ?_
    exact absurd (hunique .integer .floating h hl) (by decide)
  · rw [horder _ fun k => by cases k <;> decide, hkind]
  · rw [hvalue, hkind]
    decide
  · exact (classes_disjoint _).2.2.2.2 (Or.inl ⟨.boolean, rfl⟩) .boolean

end VarDecl.Literal
