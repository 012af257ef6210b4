import VarDecl.Analysis.Semantic
import VarDecl.Proofs.Analysis.Outcomes
import VarDecl.Proofs.Declaration.Header
import VarDecl.Proofs.Declaration.Suffix
import VarDecl.Proofs.Expression.TopLevel

/-!
# Steps and runs of the semantic stage

* `of_check_eq_ok` and `of_check_eq_error` say what holds of a declarator that is accepted and of
  one that uses an undeclared variable;
* `tableAfter_eq`: the table is that of the declarations made so far (`tableOf`), whatever has been
  reported between them;
* `exists_of_declarations`: each declaration of a source was accepted against the table of the
  declarations before it.
-/

namespace VarDecl.Analysis.Semantic

open Text Literal Expression Declaration

variable {θ : Float} {Γ : SymbolTable} {d : Declarator} {δ : Declaration} {c : Char}

/-! ### One declarator -/

/-- An expression may initialise a variable: as a single literal of a compatible kind, or by its
category. -/
def Fits (Γ : SymbolTable) (type : Primitive) (e : Text) : Prop :=
  (∃ k, kind? e = some k ∧ k.fits type = true) ∨ ∃ c, infer Γ e = .ok c ∧ c.fits type = true

theorem fits_of_initializerFault? {type : Primitive} {target v : Text}
    (h : initializerFault? θ Γ type target v = none) : Fits Γ type (expression v) := by
  simp only [initializerFault?] at h
  split at h
  case h_1 k hk =>
    split at h
    case isTrue hfits => exact Or.inl ⟨k, hk, hfits⟩
    case isFalse => cases h
  case h_2 =>
    split at h
    case h_1 => cases h
    case h_2 c hc =>
      split at h
      case isTrue hfits => exact Or.inr ⟨c, hc, hfits⟩
      case isFalse => cases h

theorem infer_of_initializerFault? {type : Primitive} {target u x v : Text} {o : Option Text}
    (h : initializerFault? θ Γ type target v = some (.undefined u x, o)) :
    x = target ∧ infer Γ (expression v) = .error ⟨u⟩ := by
  simp only [initializerFault?] at h
  split at h
  case h_1 => split at h <;> cases h
  case h_2 =>
    split at h
    case h_1 w hw =>
      cases h
      exact ⟨rfl, hw⟩
    case h_2 => split at h <;> cases h

theorem check_eq_ok_iff : check θ Γ d = .ok δ ↔ fault? θ Γ d = none ∧ δ = d.declaration := by
  unfold check
  cases fault? θ Γ d with
  | some f => simp
  | none => simp [eq_comm]

/-- A declarator that is accepted has a new name and an initializer that fits, if it has one. -/
theorem of_check_eq_ok (h : check θ Γ d = .ok δ) :
    δ = d.declaration ∧ Name.isIdentifier d.name = true ∧ Γ.find? d.name = none ∧
      ∀ v, d.initializer = some v → v ≠ [] → Fits Γ d.type (expression v) := by
  obtain ⟨hfault, rfl⟩ := check_eq_ok_iff.1 h
  unfold fault? at hfault
  split_ifs at hfault with h₁ h₂ h₃
  refine ⟨rfl, by simpa using h₂, by simpa using h₃, fun v hv hne => ?_⟩
  rw [hv] at hfault
  cases v with
  | nil => exact absurd rfl hne
  | cons c v => exact fits_of_initializerFault? hfault

/-- The use of an undeclared variable is reported where the inference fails. -/
theorem of_check_eq_error {ε : Diagnostic} {u target : Text} (h : check θ Γ d = .error ε)
    (hε : ε.fault = .undefined u target) :
    target = d.name ∧ ∃ v, d.initializer = some v ∧ infer Γ (expression v) = .error ⟨u⟩ := by
  unfold check at h
  split at h
  case h_2 => cases h
  case h_1 fault suggestion hfault =>
    obtain rfl := Except.error.inj h
    obtain rfl : fault = .undefined u target := hε
    unfold fault? at hfault
    split_ifs at hfault
    · cases hfault
    · cases hfault
    · cases hfault
    · split at hfault
      case h_1 | h_2 => cases hfault
      case h_3 v _ hv =>
        obtain ⟨hx, hu⟩ := infer_of_initializerFault? hfault
        exact ⟨hx, v, hv, hu⟩

/-! ### Runs -/

/-- The symbol table of a list of declarations. -/
def tableOf (δs : List Declaration) : SymbolTable := ⟨δs.map fun δ => (δ.name, δ.typeName)⟩

@[simp] theorem names_tableOf (δs : List Declaration) :
    (tableOf δs).names = δs.map Declaration.name := by
  rw [SymbolTable.names, tableOf, List.map_map]
  rfl

theorem tableOf_append (δs δs' : List Declaration) :
    tableOf (δs ++ δs') = ⟨(tableOf δs).entries ++ (tableOf δs').entries⟩ := by
  rw [tableOf, List.map_append]
  rfl

theorem find?_eq_none_iff {x : Text} : Γ.find? x = none ↔ x ∉ Γ.names := by
  simp only [SymbolTable.find?, SymbolTable.names, List.lookup_eq_none_iff, bne_iff_ne,
    List.mem_map, not_exists, not_and, ne_eq]
  exact forall₂_congr fun e _ => not_congr eq_comm

/-- A new declaration goes to the end of the table. -/
theorem declare_tableOf {δs : List Declaration} (h : (tableOf δs).find? δ.name = none) :
    declare (tableOf δs) δ = tableOf (δs ++ [δ]) := by
  rw [declare, SymbolTable.insert_of_find?_eq_none h]
  simp [tableOf]

theorem items_append (strict : Bool) (ls ms : List SourceLine) :
    items strict (ls ++ ms) = items strict ls ++ items strict ms := by
  rw [items, List.flatMap_append, List.filter_append]
  rfl

theorem outcomes_append (θ : Float) (Γ : SymbolTable) (is js : List Item) :
    outcomes θ Γ (is ++ js) = outcomes θ Γ is ++ outcomes θ (tableAfter θ Γ is) js := by
  induction is generalizing Γ with
  | nil => rfl
  | cons i is ih => rw [List.cons_append, outcomes, ih, outcomes, tableAfter, List.cons_append]

/-- The outcomes before an outcome are those of the items before its item. -/
theorem exists_of_outcomes_eq_append {is : List Item}
    {os₁ os₂ : List (Except Diagnostic Declaration)} {o : Except Diagnostic Declaration}
    (h : outcomes θ Γ is = os₁ ++ o :: os₂) :
    ∃ is₁ i is₂, is = is₁ ++ i :: is₂ ∧ outcomes θ Γ is₁ = os₁ ∧
      outcome θ (tableAfter θ Γ is₁) i = o := by
  induction is generalizing Γ os₁ with
  | nil => simp [outcomes] at h
  | cons i is ih =>
    rw [outcomes] at h
    cases os₁ with
    | nil =>
      obtain ⟨ho, -⟩ := List.cons.inj h
      exact ⟨[], i, is, rfl, rfl, ho⟩
    | cons o' os₁ =>
      obtain ⟨ho', h⟩ := List.cons.inj h
      obtain ⟨is₁, j, is₂, rfl, hos₁, ho⟩ := ih h
      exact ⟨i :: is₁, j, is₂, rfl, by rw [outcomes, hos₁, ho'], ho⟩

/-- One item leaves the table of the declarations made so far. -/
theorem after_tableOf {δs : List Declaration} (i : Item) :
    after (tableOf δs) (outcome θ (tableOf δs) i)
      = tableOf (δs ++ accepted [outcome θ (tableOf δs) i]) := by
  cases ho : outcome θ (tableOf δs) i with
  | error ε => rw [after, accepted_error, accepted_nil, List.append_nil]
  | ok δ =>
    cases i with
    | stray line text => cases ho
    | declarator d =>
      obtain ⟨rfl, -, hnew, -⟩ := of_check_eq_ok ho
      exact declare_tableOf hnew

theorem tableAfter_tableOf (δs : List Declaration) (is : List Item) :
    tableAfter θ (tableOf δs) is = tableOf (δs ++ accepted (outcomes θ (tableOf δs) is)) := by
  induction is generalizing δs with
  | nil => simp [tableAfter, outcomes, accepted]
  | cons i is ih =>
    rw [tableAfter, outcomes, after_tableOf, ih, List.append_assoc, ← accepted_append,
      List.singleton_append]

/-- The table after some items is that of the declarations made, in order. -/
theorem tableAfter_eq (θ : Float) (is : List Item) :
    tableAfter θ .empty is = tableOf (accepted (outcomes θ .empty is)) :=
  tableAfter_tableOf [] is

/-! ### The texts of declarators -/

theorem sublist_cut (d : Declarator) : (d.cut.1 ++ d.cut.2.getD []).Sublist d.text := by
  refine List.Sublist.trans ?_ (trim_sublist d.text)
  unfold Declarator.cut
  split
  case h_1 before after hcut => exact sublist_of_cut? hcut
  case h_2 => rw [Option.getD_none, List.append_nil]

/-- The name and the initializer of a declarator stand one after the other. -/
theorem sublist_declarator (d : Declarator) :
    (d.name ++ d.initializer.getD []).Sublist d.text := by
  have hname : d.name.Sublist d.cut.1 :=
    (trim_sublist _).trans ((eraseSuffixes_sublist _).trans (trim_sublist _))
  have hvalue : (d.initializer.getD []).Sublist (d.cut.2.getD []) := by
    unfold Declarator.initializer
    cases d.cut.2 with
    | none => exact List.Sublist.refl _
    | some v => exact trim_sublist v
  exact (hname.append hvalue).trans (sublist_cut d)

theorem mem_text_of_mem_name (h : c ∈ d.name) : c ∈ d.text :=
  (sublist_declarator d).subset (List.mem_append_left _ h)

theorem mem_text_of_mem_initializer {v : Text} (hv : d.initializer = some v) (h : c ∈ v) :
    c ∈ d.text := by
  refine (sublist_declarator d).subset (List.mem_append_right _ ?_)
  rw [hv]
  exact h

/-- The declarators of a source have no newline. -/
theorem notMem_text_of_mem_items {strict : Bool} {ls : List SourceLine}
    (h : .declarator d ∈ items strict ls) : '\n' ∉ d.text := by
  obtain ⟨l, -, hl⟩ := List.mem_flatMap.1 (List.mem_filter.1 h).1
  unfold itemsOfLine at hl
  split at hl
  case h_1 hd hhd =>
    obtain ⟨part, hpart, heq⟩ := List.mem_map.1 hl
    obtain rfl := Item.declarator.inj heq
    exact fun hm => Header.notMem_of_ofLine? hhd ((sublist_of_mem_split hpart).subset hm)
  case h_2 => exact absurd (List.mem_singleton.1 hl) (fun h => Item.noConfusion h)

/-! ### Sources -/

section Source

variable {settings : Settings} {source : Text} {δs δs' : List Declaration}

/-- What a source holds, when it holds anything. -/
def itemsOf (settings : Settings) (source : Text) : List Item :=
  if Source.isEmpty source then []
  else items settings.strict (Source.nonblankLines settings.stripComments source)

theorem notMem_text_of_mem_itemsOf (h : .declarator d ∈ itemsOf settings source) :
    '\n' ∉ d.text := by
  unfold itemsOf at h
  split at h
  case isTrue => exact absurd h List.not_mem_nil
  case isFalse => exact notMem_text_of_mem_items h

theorem findings_analyze (settings : Settings) (source : Text) :
    (analyze settings source).findings =
      .semantic (accepted (outcomes settings.threshold .empty (itemsOf settings source)))
        (tableAfter settings.threshold .empty (itemsOf settings source)) := by
  unfold analyze itemsOf
  split <;> rfl

/-- Each declaration of a source is that of one of its declarators, which was accepted against the
table of the declarations before it. -/
theorem exists_items_of_declarations
    (h : (analyze settings source).findings.declarations = δs ++ δ :: δs') :
    ∃ is d js, itemsOf settings source = is ++ .declarator d :: js ∧
      accepted (outcomes settings.threshold .empty is) = δs ∧
      check settings.threshold (tableOf δs) d = .ok δ := by
  rw [findings_analyze] at h
  -- The declaration is an outcome, and the declarations before it are those of the outcomes before.
  obtain ⟨os₁, os₂, hos, rfl, hrest⟩ := List.filterMap_eq_append_iff.1 h
  obtain ⟨os₃, o, os₄, rfl, hnone, ho, -⟩ := List.filterMap_eq_cons_iff.1 hrest
  rw [← List.append_assoc] at hos
  obtain ⟨is, i, js, his, hos₁, hi⟩ := exists_of_outcomes_eq_append hos
  have haccepted : accepted (outcomes settings.threshold .empty is) = accepted os₁ := by
    rw [hos₁, accepted_append, accepted, accepted, List.filterMap_eq_nil_iff.2 hnone,
      List.append_nil]
  cases o with
  | error ε => cases ho
  | ok δ' =>
    obtain rfl := Option.some.inj ho
    cases i with
    | stray line text => cases hi
    | declarator d =>
      rw [tableAfter_eq, haccepted] at hi
      exact ⟨is, d, js, his, haccepted, hi⟩

/-- Each declaration of a source was accepted against the table of the ones before it. -/
theorem exists_of_declarations
    (h : (analyze settings source).findings.declarations = δs ++ δ :: δs') :
    ∃ d : Declarator, '\n' ∉ d.text ∧ check settings.threshold (tableOf δs) d = .ok δ := by
  obtain ⟨is, d, js, his, -, hd⟩ := exists_items_of_declarations h
  have hmem : .declarator d ∈ itemsOf settings source := by
    rw [his]
    exact List.mem_append_right _ List.mem_cons_self
  exact ⟨d, notMem_text_of_mem_itemsOf hmem, hd⟩

end Source

end VarDecl.Analysis.Semantic
