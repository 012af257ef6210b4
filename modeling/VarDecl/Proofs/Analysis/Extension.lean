import VarDecl.Proofs.Analysis.Registration

/-!
# More variables in scope

A symbol table is extended by names that it does not have (`Extends`). Nothing that was accepted
before is lost: neither the category of an expression (`inferAll_of_extends`), nor a declarator with
another name (`check_of_extends`), nor a row of items that declares no such name
(`outcomes_of_extends`). Nor is anything lost when the further names are taken away again, as long
as no initializer uses them (`Declaration.Uses`, `outcomes_of_unused`).

* `outcomes_of_step`: two tables that stay related under each accepted item have the same outcomes;
* `extends_tableOf_append`: declarations of new names extend the table.
-/

namespace VarDecl

open Text Literal Expression

variable {xs fs : List Text} {Γ Δ : SymbolTable} {x f e τ : Text} {c : Category}

/-- The table `Δ` is `Γ` with the further names `xs`. -/
structure SymbolTable.Extends (xs : List Text) (Γ Δ : SymbolTable) : Prop where
  find?_eq : ∀ x, x ∉ xs → Δ.find? x = Γ.find? x
  fresh : ∀ x ∈ xs, Γ.find? x = none

namespace SymbolTable.Extends

/-- Every table extends the empty one. -/
theorem empty (Δ : SymbolTable) : Extends Δ.names .empty Δ :=
  ⟨fun _ hx => Analysis.Semantic.find?_eq_none_iff.2 hx, fun _ _ => rfl⟩

theorem find?_eq_some (h : Extends xs Γ Δ) (hx : Γ.find? x = some τ) : Δ.find? x = some τ := by
  rw [h.find?_eq x fun hmem => ?_, hx]
  rw [h.fresh x hmem] at hx
  cases hx

/-- Both tables may be given one more name. -/
theorem insert (h : Extends xs Γ Δ) (hx : x ∉ xs) (τ : Text) :
    Extends xs (Γ.insert x τ) (Δ.insert x τ) := by
  refine ⟨fun y hy => ?_, fun y hy => ?_⟩
  · rw [find?_insert, find?_insert, h.find?_eq y hy]
  · rw [find?_insert, if_neg, h.fresh y hy]
    rintro rfl
    exact hx hy

end SymbolTable.Extends

namespace Expression

open SymbolTable

theorem fragmentCategory_of_extends {o : Option Category} (hext : Extends xs Γ Δ)
    (h : fragmentCategory Γ f = .ok o) : fragmentCategory Δ f = .ok o := by
  cases hk : kind? f with
  | some k => rwa [fragmentCategory_of_kind? hk] at h ⊢
  | none =>
    by_cases hi : Name.isIdentifier f = true
    · rw [fragmentCategory_of_isReference ⟨hk, hi⟩] at h ⊢
      -- The fragment is a variable of the smaller table, for else it would be undefined.
      split at h
      case h_1 τ hτ => rwa [hext.find?_eq_some hτ]
      case h_2 => cases h
    · simp only [fragmentCategory, hk, if_neg hi] at h ⊢
      exact h

theorem inferAll_of_extends (hext : Extends xs Γ Δ) (h : inferAll Γ fs = .ok c) :
    inferAll Δ fs = .ok c := by
  induction fs generalizing c with
  | nil => exact h
  | cons f fs ih =>
    obtain ⟨o, b, ho, hb, rfl⟩ := inferAll_cons_eq_ok_iff.1 h
    exact inferAll_cons_eq_ok_iff.2 ⟨o, b, fragmentCategory_of_extends hext ho, ih hb, rfl⟩

end Expression

namespace Analysis.Semantic

open SymbolTable

variable {θ : Float} {d : Declarator} {δ : Declaration} {i : Item} {is : List Item}

theorem initializerFault?_of_extends {type : Primitive} {target v : Text}
    (hext : Extends xs Γ Δ) (h : initializerFault? θ Γ type target v = none) :
    initializerFault? θ Δ type target v = none := by
  simp only [initializerFault?] at h ⊢
  split
  case h_1 k hk => simpa only [hk] using h
  case h_2 hk =>
    simp only [hk] at h
    split at h
    case h_1 => cases h
    case h_2 c hc =>
      have hinfer : infer Δ (expression v) = .ok c := inferAll_of_extends hext hc
      simpa only [hinfer] using h

theorem fault?_of_extends (hext : Extends xs Γ Δ) (h : fault? θ Γ d = none) (hd : d.name ∉ xs) :
    fault? θ Δ d = none := by
  unfold fault? at h ⊢
  rw [hext.find?_eq d.name hd]
  split_ifs at h ⊢
  split at h
  case h_1 | h_2 => rfl
  case h_3 v _ _ => exact initializerFault?_of_extends hext h

/-- A declarator that is accepted stays so, unless its name is one of the further ones. -/
theorem check_of_extends (hext : Extends xs Γ Δ) (h : check θ Γ d = .ok δ) (hδ : δ.name ∉ xs) :
    check θ Δ d = .ok δ := by
  obtain ⟨hfault, rfl⟩ := check_eq_ok_iff.1 h
  exact check_eq_ok_iff.2 ⟨fault?_of_extends hext hfault hδ, rfl⟩

/-- Declarations of new names extend a table. -/
theorem extends_tableOf_append {δs εs : List Declaration}
    (h : ((δs ++ εs).map Declaration.name).Nodup) :
    Extends (εs.map Declaration.name) (tableOf δs) (tableOf (δs ++ εs)) := by
  rw [List.map_append, List.nodup_append] at h
  refine ⟨fun x hx => ?_, fun x hx => ?_⟩
  · have hnone : (tableOf εs).find? x = none := by
      rwa [find?_eq_none_iff, names_tableOf]
    rw [tableOf_append, SymbolTable.find?, List.lookup_append]
    rw [SymbolTable.find?] at hnone
    rw [hnone, Option.or_none]
    rfl
  · rw [find?_eq_none_iff, names_tableOf]
    exact fun hmem => h.2.2 x hmem x hx rfl

/-- One item: the same outcome, and tables that extend each other again. -/
theorem outcome_of_extends (hext : Extends xs Γ Δ) (h : outcome θ Γ i = .ok δ) (hδ : δ.name ∉ xs) :
    outcome θ Δ i = .ok δ ∧ Extends xs (after Γ (.ok δ)) (after Δ (.ok δ)) := by
  refine ⟨?_, hext.insert hδ δ.typeName⟩
  cases i with
  | stray line text => cases h
  | declarator d => exact check_of_extends hext h hδ

/-- If related tables accept the same declarations and stay related, a row of items of which none is
reported has the same outcomes in both. -/
theorem outcomes_of_step {R : SymbolTable → SymbolTable → Prop} {P : Declaration → Prop}
    (step : ∀ {Γ Δ i δ}, R Γ Δ → P δ → outcome θ Γ i = .ok δ →
      outcome θ Δ i = .ok δ ∧ R (after Γ (.ok δ)) (after Δ (.ok δ)))
    (hR : R Γ Δ) (h : rejected (outcomes θ Γ is) = [])
    (hP : ∀ δ ∈ accepted (outcomes θ Γ is), P δ) : outcomes θ Δ is = outcomes θ Γ is := by
  induction is generalizing Γ Δ with
  | nil => rfl
  | cons i is ih =>
    rw [outcomes] at h hP ⊢
    cases ho : outcome θ Γ i with
    | error ε =>
      rw [ho, rejected_error] at h
      cases h
    | ok δ =>
      rw [ho, rejected_ok] at h
      rw [ho, accepted_ok] at hP
      obtain ⟨hδ, hrest⟩ := List.forall_mem_cons.1 hP
      obtain ⟨hsame, hR'⟩ := step hR hδ ho
      rw [outcomes, ho, hsame, ih hR' h hrest]

/-- A row of items of which none is reported. -/
theorem outcomes_of_extends (hext : Extends xs Γ Δ) (h : rejected (outcomes θ Γ is) = [])
    (hxs : ∀ δ ∈ accepted (outcomes θ Γ is), δ.name ∉ xs) :
    outcomes θ Δ is = outcomes θ Γ is :=
  outcomes_of_step (fun hext hδ ho => outcome_of_extends hext ho hδ) hext h hxs

end Analysis.Semantic

/-! ### Names that are not used -/

/-- A declaration has a name among the fragments of its initializer. -/
def Declaration.Uses (δ : Declaration) (x : Text) : Prop := ∃ v ∈ δ.initializer, x ∈ fragments v

instance (δ : Declaration) (x : Text) : Decidable (δ.Uses x) :=
  inferInstanceAs (Decidable (∃ v ∈ δ.initializer, x ∈ fragments v))

/-- Names that are no fragments do not matter. -/
theorem Expression.inferAll_of_unused (hext : SymbolTable.Extends xs Γ Δ)
    (hfs : ∀ f ∈ fs, f ∉ xs) : inferAll Γ fs = inferAll Δ fs := by
  induction fs with
  | nil => rfl
  | cons f fs ih =>
    obtain ⟨hf, hrest⟩ := List.forall_mem_cons.1 hfs
    have hcategory : fragmentCategory Γ f = fragmentCategory Δ f := by
      rw [fragmentCategory, fragmentCategory, hext.find?_eq f hf]
    rw [inferAll, inferAll, hcategory, ih hrest]

namespace Analysis.Semantic

open SymbolTable

variable {θ : Float} {d : Declarator} {δ : Declaration} {i : Item} {is : List Item}

theorem initializerFault?_of_unused {type : Primitive} {target v : Text}
    (hext : Extends xs Γ Δ) (hv : ∀ f ∈ fragments v, f ∉ xs)
    (h : initializerFault? θ Δ type target v = none) :
    initializerFault? θ Γ type target v = none := by
  have hinfer : infer Γ (expression v) = infer Δ (expression v) := by
    apply inferAll_of_unused hext
    rwa [fragments_expression]
  simp only [initializerFault?] at h ⊢
  rw [hinfer]
  split
  case h_1 k hk => simpa only [hk] using h
  case h_2 hk =>
    simp only [hk] at h
    split at h
    case h_1 => cases h
    case h_2 c hc => exact h

/-- A declarator that is accepted and neither has nor uses one of the further names is accepted
without them. -/
theorem check_of_unused (hext : Extends xs Γ Δ) (h : check θ Δ d = .ok δ) (hδ : δ.name ∉ xs)
    (huse : ∀ x ∈ xs, ¬δ.Uses x) : check θ Γ d = .ok δ := by
  obtain ⟨hfault, rfl⟩ := check_eq_ok_iff.1 h
  refine check_eq_ok_iff.2 ⟨?_, rfl⟩
  unfold fault? at hfault ⊢
  rw [← hext.find?_eq d.name hδ]
  split_ifs at hfault ⊢
  split at hfault
  case h_1 | h_2 => rfl
  case h_3 v _ hv =>
    exact initializerFault?_of_unused hext (fun f hf hmem => huse f hmem ⟨v, hv, hf⟩) hfault

theorem outcome_of_unused (hext : Extends xs Γ Δ) (h : outcome θ Δ i = .ok δ) (hδ : δ.name ∉ xs)
    (huse : ∀ x ∈ xs, ¬δ.Uses x) :
    outcome θ Γ i = .ok δ ∧ Extends xs (after Γ (.ok δ)) (after Δ (.ok δ)) := by
  refine ⟨?_, hext.insert hδ δ.typeName⟩
  cases i with
  | stray line text => cases h
  | declarator d => exact check_of_unused hext h hδ huse

/-- A row of items of which none is reported and none uses the further names. -/
theorem outcomes_of_unused (hext : Extends xs Γ Δ) (h : rejected (outcomes θ Δ is) = [])
    (hxs : ∀ δ ∈ accepted (outcomes θ Δ is), δ.name ∉ xs ∧ ∀ x ∈ xs, ¬δ.Uses x) :
    outcomes θ Γ is = outcomes θ Δ is :=
  outcomes_of_step (R := fun Δ Γ => Extends xs Γ Δ)
    (fun hext hδ ho => outcome_of_unused hext ho hδ.1 hδ.2) hext h hxs

end Analysis.Semantic

end VarDecl
