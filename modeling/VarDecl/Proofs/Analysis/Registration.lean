import VarDecl.Proofs.Analysis.Semantic
import VarDecl.Proofs.Expression.Inference

/-!
# What the semantic stage registers

* `IsSound δs δ`: a declaration has a new name, a primitive type, and an initializer that fits after
  the declarations before it. All declarations of a source are sound, whatever is reported between
  them (`isSound_of_declarations`);
* `FragmentsFit`: what a sound initializer says about its fragments, type by type
  (`fragmentsFit_of_fits`);
* `registered` puts both together with the symbol table.
-/

namespace VarDecl.Analysis.Semantic

open Text Literal Expression Declaration

variable {δs δs' : List Declaration} {δ : Declaration} {f v e : Text} {c : Category} {p : Primitive}

/-! ### Sound declarations -/

/-- A declaration that can be made after some others. -/
structure IsSound (δs : List Declaration) (δ : Declaration) : Prop where
  isName : Name.IsName δ.name
  fresh : δ.name ∉ δs.map Declaration.name
  primitive : ∃ p : Primitive, δ.typeName = p.name
  noNewline : ∀ v, δ.initializer = some v → '\n' ∉ v
  fits : ∀ p v, δ.typeName = p.name → δ.initializer = some v → v ≠ [] →
    Fits (tableOf δs) p (expression v)

/-- A list of declarations each of which is sound after the ones before it. -/
def AllSound (δs : List Declaration) : Prop :=
  ∀ before δ rest, δs = before ++ δ :: rest → IsSound before δ

theorem AllSound.of_append (h : AllSound (δs ++ δs')) : AllSound δs := by
  rintro before δ rest rfl
  exact h before δ (rest ++ δs') (by simp only [List.append_assoc, List.cons_append])

theorem AllSound.isSound_of_mem (h : AllSound δs) (hδ : δ ∈ δs) : ∃ before, IsSound before δ := by
  obtain ⟨before, rest, rfl⟩ := List.append_of_mem hδ
  exact ⟨before, h before δ rest rfl⟩

/-- Names that are new one after the other are distinct. -/
theorem AllSound.nodup (h : AllSound δs) : (δs.map Declaration.name).Nodup := by
  -- Each declaration knows about the ones before it, so the last one is taken off.
  induction δs using List.reverseRecOn with
  | nil => exact List.nodup_nil
  | append_singleton δs δ ih =>
    rw [List.map_append, List.map_singleton, List.nodup_append]
    refine ⟨ih h.of_append, by simp, fun x hx y hy hxy => ?_⟩
    rw [List.mem_singleton] at hy
    exact (h δs δ [] rfl).fresh (hy ▸ hxy ▸ hx)

theorem isSound_of_check {θ : Float} {d : Declarator} (hnl : '\n' ∉ d.text)
    (h : check θ (tableOf δs) d = .ok δ) : IsSound δs δ := by
  obtain ⟨rfl, hname, hfresh, hfits⟩ := of_check_eq_ok h
  refine ⟨?_, ?_, ⟨d.type, rfl⟩, fun v hv hm => ?_, fun p v hp hv hne => ?_⟩
  · exact (Name.isIdentifier_iff_isName fun hm => hnl (mem_text_of_mem_name hm)).1 hname
  · rwa [find?_eq_none_iff, names_tableOf] at hfresh
  · exact hnl (mem_text_of_mem_initializer hv hm)
  · -- The type of the declaration is the type that its name stands for.
    obtain rfl : d.type = p := by
      have hof : Primitive.ofName? d.type.name = some p := Primitive.ofName?_eq_some_iff.2 hp
      rw [Primitive.ofName?_name] at hof
      exact Option.some.inj hof
    exact hfits v hv hne

/-- All declarations of a source are sound. -/
theorem isSound_of_declarations (settings : Settings) (source : Text) :
    AllSound (analyze settings source).findings.declarations := by
  intro before δ rest h
  obtain ⟨d, hnl, hd⟩ := exists_of_declarations h
  exact isSound_of_check hnl hd

/-! ### What fragments stand for -/

/-- The category of a fragment after some declarations: that of a literal, or of the type of an
earlier variable. A variable cannot be used if its name is a truth value. -/
def Denotes (δs : List Declaration) (f : Text) (c : Category) : Prop :=
  (∃ k, kind? f = some k ∧ k.category = c) ∨
    ∃ δ ∈ δs, δ.name = f ∧ f ≠ "true".toList ∧ f ≠ "false".toList ∧
      Category.ofTypeName δ.typeName = c

theorem find?_tableOf (h : (δs.map Declaration.name).Nodup) (hδ : δ ∈ δs) :
    (tableOf δs).find? δ.name = some δ.typeName := by
  induction δs with
  | nil => exact absurd hδ List.not_mem_nil
  | cons ε δs ih =>
    rw [List.map_cons, List.nodup_cons] at h
    rw [SymbolTable.find?, tableOf, List.map_cons, List.lookup_cons]
    rcases List.mem_cons.1 hδ with rfl | hδ
    · rw [beq_self_eq_true]
    · have hne : (δ.name == ε.name) = false := by
        rw [beq_eq_false_iff_ne]
        intro heq
        exact h.1 (heq ▸ List.mem_map_of_mem hδ)
      rw [hne]
      exact ih h.2 hδ

theorem exists_of_find?_tableOf {x τ : Text} (h : (tableOf δs).find? x = some τ) :
    ∃ δ ∈ δs, δ.name = x ∧ δ.typeName = τ := by
  obtain ⟨l, r, hl, -⟩ := List.lookup_eq_some_iff.1 h
  have hmem : (x, τ) ∈ δs.map fun δ => (δ.name, δ.typeName) := by
    rw [show (δs.map fun δ => (δ.name, δ.typeName)) = l ++ (x, τ) :: r from hl]
    exact List.mem_append_right _ List.mem_cons_self
  obtain ⟨δ, hδ, heq⟩ := List.mem_map.1 hmem
  obtain ⟨rfl, rfl⟩ := Prod.mk.inj heq
  exact ⟨δ, hδ, rfl, rfl⟩

/-- A fragment stands for what the inference takes it for. -/
theorem fragmentCategory_eq_some_iff (h : AllSound δs) :
    fragmentCategory (tableOf δs) f = .ok (some c) ↔ Denotes δs f c := by
  constructor
  · intro hf
    cases hk : kind? f with
    | some k =>
      rw [fragmentCategory_of_kind? hk] at hf
      exact Or.inl ⟨k, hk, Option.some.inj (Except.ok.inj hf)⟩
    | none =>
      simp only [fragmentCategory, hk] at hf
      split at hf
      case isFalse => cases hf
      case isTrue hi =>
        split at hf
        case h_2 => cases hf
        case h_1 τ hτ =>
          obtain ⟨δ, hδ, hname, htype⟩ := exists_of_find?_tableOf hτ
          refine Or.inr ⟨δ, hδ, hname, ?_, ?_, ?_⟩
          · rintro rfl
            exact absurd hk (by decide)
          · rintro rfl
            exact absurd hk (by decide)
          · rw [htype]
            exact Option.some.inj (Except.ok.inj hf)
  · rintro (⟨k, hk, rfl⟩ | ⟨δ, hδ, rfl, htrue, hfalse, rfl⟩)
    · exact fragmentCategory_of_kind? hk
    · obtain ⟨before, hsound⟩ := h.isSound_of_mem hδ
      have hk : kind? δ.name = none := by
        rw [kind?_of_isName hsound.isName, if_neg (not_or.2 ⟨htrue, hfalse⟩)]
      rw [fragmentCategory_of_isReference ⟨hk, hsound.isName.isIdentifier⟩,
        find?_tableOf h.nodup hδ]

/-- Nothing stands for an unknown category. -/
theorem ne_unknown_of_denotes (h : AllSound δs) (hf : Denotes δs f c) : c ≠ .unknown := by
  rcases hf with ⟨k, -, rfl⟩ | ⟨δ, hδ, -, -, -, rfl⟩
  · cases k <;> decide
  · obtain ⟨before, hsound⟩ := h.isSound_of_mem hδ
    obtain ⟨p, hp⟩ := hsound.primitive
    rw [hp, Category.ofTypeName_name]
    cases p <;> decide

/-! ### Initializers that fit -/

/-- What the fragments of an initializer stand for when it fits a type. -/
structure FragmentsFit (δs : List Declaration) (p : Primitive) (fs : List Text) : Prop where
  integral : p.isIntegral = true → ∀ f ∈ fs, ¬Denotes δs f .string ∧ ¬Denotes δs f .floating
  floating : p.isFloating = true → ∀ f ∈ fs, ¬Denotes δs f .string
  boolean : p = .boolean → ∀ f ∈ fs, ∀ c, Denotes δs f c → c = .boolean
  string : p = .string → ∃ f ∈ fs, Denotes δs f .string

/-- An expression that fits has a category, which is at most that of the type. -/
theorem exists_infer_of_fits {Γ : SymbolTable} (h : Fits Γ p e) :
    ∃ c, infer Γ e = .ok c ∧ c.rank ≤ p.category.rank ∧ (p = .string → c = .string) := by
  rcases h with ⟨k, hk, hfits⟩ | ⟨c, hc, hfits⟩
  · obtain ⟨c, hc, hle, hstring⟩ := exists_infer_of_kind? hk Γ
    refine ⟨c, hc, Nat.le_trans hle ?_, fun hp => hstring ?_⟩
    · revert hfits
      cases k <;> cases p <;> decide
    · subst hp
      revert hfits
      cases k <;> decide
  · refine ⟨c, hc, ?_, fun hp => ?_⟩
    · revert hfits
      cases c <;> cases p <;> decide
    · subst hp
      revert hfits
      cases c <;> decide

theorem fragmentsFit_of_fits (h : AllSound δs) (hfits : Fits (tableOf δs) p e) :
    FragmentsFit δs p (fragments e) := by
  obtain ⟨c, hc, hle, hstring⟩ := exists_infer_of_fits hfits
  have rank_le : ∀ f ∈ fragments e, ∀ c', Denotes δs f c' → c'.rank ≤ p.category.rank := by
    intro f hf c' hf'
    obtain ⟨o, ho, hole⟩ := rank_le_of_inferAll hc hf
    rw [(fragmentCategory_eq_some_iff h).2 hf'] at ho
    obtain rfl := Except.ok.inj ho
    exact Nat.le_trans hole hle
  have excluded : ∀ {c'}, p.category.rank < c'.rank → ∀ f ∈ fragments e, ¬Denotes δs f c' :=
    fun hlt f hf hd => absurd (rank_le f hf _ hd) (Nat.not_le.2 hlt)
  refine ⟨fun hp f hf => ⟨excluded ?_ f hf, excluded ?_ f hf⟩, fun hp f hf => excluded ?_ f hf,
    ?_, fun hp => ?_⟩
  · revert hp
    cases p <;> decide
  · revert hp
    cases p <;> decide
  · revert hp
    cases p <;> decide
  · -- A fragment that says something is not unknown, so its category is the boolean one.
    rintro rfl f hf c' hd
    have hrank := rank_le f hf c' hd
    have hne := ne_unknown_of_denotes h hd
    revert hrank hne
    cases c' <;> decide
  · obtain ⟨f, hf, hfc⟩ := exists_of_inferAll hc (by rw [hstring hp]; decide)
    rw [hstring hp] at hfc
    exact ⟨f, hf, (fragmentCategory_eq_some_iff h).1 hfc⟩

/-- Removing semicolons, blanks and enclosing parentheses keeps the fragments. -/
theorem fragments_expression (v : Text) : fragments (expression v) = fragments v := by
  obtain ⟨u, hu, hsemi⟩ := exists_eq_dropTrailing_append (· == ';') v
  have hu' : ∀ c ∈ u, c = ';' := fun c hc => beq_iff_eq.1 (hsemi c hc)
  conv_rhs => rw [hu]
  rw [expression, fragments_stripParens, fragments_trim, fragments_append_of_inert_right]
  · intro c hc
    rw [hu' c hc]
    decide
  · intro c hc
    rw [hu' c (List.mem_of_mem_head? hc)]
    decide

/-! ### The result of the stage -/

/-- The symbol table of a source is the list of its declarations, which are sound one after the
other, and their initializers have no fragments that their types exclude. -/
theorem registered (settings : Settings) (source : Text) :
    (analyze settings source).findings.symbols
        = tableOf (analyze settings source).findings.declarations ∧
      ((analyze settings source).findings.declarations.map Declaration.name).Nodup ∧
      ∀ before δ rest,
        (analyze settings source).findings.declarations = before ++ δ :: rest →
          Name.IsName δ.name ∧ ∃ p : Primitive, δ.typeName = p.name ∧
            ∀ v, δ.initializer = some v → v ≠ [] →
              Fits (tableOf before) p (expression v) ∧
                fragments (expression v) = fragments v ∧ FragmentsFit before p (fragments v) := by
  have hall := isSound_of_declarations settings source
  refine ⟨?_, hall.nodup, fun before δ rest h => ?_⟩
  · rw [findings_analyze]
    exact tableAfter_eq _ _
  · have hbefore : AllSound before := by
      rw [h] at hall
      exact hall.of_append
    obtain ⟨p, hp⟩ := (hall before δ rest h).primitive
    refine ⟨(hall before δ rest h).isName, p, hp, fun v hv hne => ?_⟩
    have hfits := (hall before δ rest h).fits p v hp hv hne
    refine ⟨hfits, fragments_expression v, ?_⟩
    rw [← fragments_expression]
    exact fragmentsFit_of_fits hbefore hfits

/-- The initializer of the second declaration has no fragment of a string or a fraction. -/
theorem registered_second :
    FragmentsFit [⟨"char".toList, "a".toList, some "'x'".toList, 1⟩] .int
      (fragments "a + 2".toList) := by
  obtain ⟨-, p, hp, h⟩ := (registered .default "char a = 'x';\nint b = a + 2;".toList).2.2
    [⟨"char".toList, "a".toList, some "'x'".toList, 1⟩]
    ⟨"int".toList, "b".toList, some "a + 2".toList, 2⟩ [] (by decide +kernel)
  obtain rfl : Primitive.int = p := by
    revert hp
    cases p <;> decide
  exact (h "a + 2".toList rfl (by decide)).2.2

/-- A variable that is named like a truth value is not used by its name: the fragment stays a
literal, whatever the type of the variable. -/
theorem exists_fragment_of_truth_value :
    ∃ before δ rest,
      (analyze .default "String true;\nint y = true + 1;".toList).findings.declarations
          = before ++ δ :: rest ∧
        δ.typeName = Primitive.int.name ∧ δ.initializer = some "true + 1".toList ∧
        ∃ δ' ∈ before, δ'.typeName = Primitive.string.name ∧
          δ'.name ∈ fragments "true + 1".toList :=
  ⟨[⟨"String".toList, "true".toList, none, 1⟩],
    ⟨"int".toList, "y".toList, some "true + 1".toList, 2⟩, [], by decide +kernel, rfl, rfl,
    ⟨"String".toList, "true".toList, none, 1⟩, List.mem_singleton_self _, rfl, by decide +kernel⟩

end VarDecl.Analysis.Semantic
