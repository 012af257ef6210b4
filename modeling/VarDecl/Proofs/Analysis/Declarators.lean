import VarDecl.Proofs.Analysis.Semantic
import VarDecl.Proofs.Name

/-!
# Declarators that start with a name

* `name_of_trim_eq`, `assignment_of_trim_eq`: the name and the initializer of a declarator that is a
  name, or a name, blanks, an equals sign and a value;
* `accepted_outcomes_eq`: where nothing is reported, the declarations are those of the declarators,
  one for each.
-/

namespace VarDecl.Analysis.Semantic

open Text Expression Declaration Name

variable {p : Char → Bool} {d : Declarator} {x gap t w : Text} {θ : Float} {Γ : SymbolTable}

/-! ### Names -/

theorem trim_of_isName (hx : IsName x) : trim x = x :=
  trim_eq_self (fun _ hc => hx.isBlank (List.mem_of_mem_head? hc))
    fun _ hc => hx.isBlank (List.mem_of_getLast? hc)

/-- Blanks are cut nowhere, unless at blanks. -/
theorem isClosed_of_blank (hgap : ∀ c ∈ gap, isBlank c = true)
    (hp : ∀ c, p c = true → isBlank c = false) : IsClosed p gap := by
  refine isClosed_of_forall fun c hc => ?_
  have hb := hgap c hc
  refine ⟨⟨isBlank_ne hb (by decide), isBlank_ne hb (by decide), isBlank_ne hb (by decide),
    isBlank_ne hb (by decide)⟩, Bool.eq_false_iff.2 fun h => ?_⟩
  rw [hp c h] at hb
  cases hb

/-- A name and blanks are cut nowhere, unless at the characters of names or at blanks. -/
theorem isClosed_of_isName (hx : IsName x) (hgap : ∀ c ∈ gap, isBlank c = true)
    (hp : ∀ c, p c = true → isWordChar c = false ∧ isBlank c = false) : IsClosed p (x ++ gap) := by
  have hname : IsClosed p x := isClosed_of_forall fun c hc => by
    have hw := hx.isWordChar hc
    refine ⟨⟨ne_of_isWordChar hw rfl, ne_of_isWordChar hw rfl, ne_of_isWordChar hw rfl,
      ne_of_isWordChar hw rfl⟩, Bool.eq_false_iff.2 fun h => ?_⟩
    rw [(hp c h).1] at hw
    cases hw
  exact hname.append (isClosed_of_blank hgap fun c hc => (hp c hc).2)

/-! ### One declarator -/

/-- A declarator that is a name has no initializer. -/
theorem name_of_trim_eq (hx : IsName x) (h : trim d.text = x) :
    d.name = x ∧ d.initializer = none := by
  have hclosed : IsClosed (· == '=') (x ++ []) :=
    isClosed_of_isName hx (List.forall_mem_nil _) fun c hc => by
      rw [beq_iff_eq.1 hc]
      decide
  rw [List.append_nil] at hclosed
  have hcut : d.cut = (x, none) := by rw [Declarator.cut, h, cut?_eq_none hclosed.passes]
  refine ⟨?_, by rw [Declarator.initializer, hcut]; rfl⟩
  rw [Declarator.name, hcut, trim_of_isName hx, eraseSuffixes_eq_self (hx.notMem (by decide)),
    trim_of_isName hx]

/-- A declarator with a value is cut at the equals sign behind its name. -/
theorem assignment_of_trim_eq (hx : IsName x) (hgap : ∀ c ∈ gap, isBlank c = true)
    (h : trim d.text = x ++ gap ++ '=' :: w) : d.name = x ∧ d.initializer = some (trim w) := by
  have hclosed : IsClosed (· == '=') (x ++ gap) :=
    isClosed_of_isName hx hgap fun c hc => by
      rw [beq_iff_eq.1 hc]
      decide
  have htop : (Scan.start.run (x ++ gap)).isTop '=' = true := by
    rw [hclosed.run]
    rfl
  have hcut : d.cut = (x ++ gap, some w) := by
    rw [Declarator.cut, h, cut?_append hclosed.passes htop (by decide)]
  refine ⟨?_, by rw [Declarator.initializer, hcut]; rfl⟩
  rw [Declarator.name, hcut, trim_append_of_blank hgap, trim_of_isName hx,
    eraseSuffixes_eq_self (hx.notMem (by decide)), trim_of_isName hx]

/-- Trimming a declarator that starts with a name and has a value leaves its start. -/
theorem trim_assignment (hx : IsName x) :
    trim (x ++ gap ++ '=' :: w) = x ++ gap ++ '=' :: trimRight w := by
  obtain ⟨r, hw, hr⟩ := exists_eq_dropTrailing_append isBlank w
  have htext : x ++ gap ++ '=' :: w = x ++ gap ++ '=' :: trimRight w ++ r := by
    conv_lhs => rw [hw]
    simp only [List.append_assoc, List.cons_append, trimRight]
  rw [htext, trim_append_of_blank hr]
  refine trim_eq_self (fun c hc => ?_) fun c hc => ?_
  · rw [List.append_assoc, List.head?_append_of_ne_nil _ hx.ne_nil] at hc
    exact hx.isBlank (List.mem_of_mem_head? hc)
  · rw [List.getLast?_append_of_ne_nil _ (List.cons_ne_nil _ _)] at hc
    by_cases hne : trimRight w = []
    · rw [hne] at hc
      obtain rfl := Option.some.inj hc
      decide
    · rw [List.getLast?_cons_of_ne_nil hne] at hc
      exact getLast?_dropTrailing hc

/-- Such a declarator, blanks around it and its value or not. -/
theorem assignment_of_text_eq (hx : IsName x) (hgap : ∀ c ∈ gap, isBlank c = true)
    (h : d.text = x ++ gap ++ '=' :: w) : d.name = x ∧ d.initializer = some (trim w) := by
  obtain ⟨r, hw, hr⟩ := exists_eq_dropTrailing_append isBlank w
  have hvalue : trim (trimRight w) = trim w := by
    conv_rhs => rw [hw]
    exact (trim_append_of_blank hr).symm
  rw [← hvalue]
  exact assignment_of_trim_eq hx hgap (by rw [h, trim_assignment hx])

/-! ### All declarators -/

/-- The declaration that an item makes if it is accepted. -/
def Item.declaration? : Item → Option Declaration
  | .declarator d => some d.declaration
  | .stray _ _ => none

theorem declaration?_of_outcome_eq_ok {i : Item} {δ : Declaration} (h : outcome θ Γ i = .ok δ) :
    i.declaration? = some δ := by
  cases i with
  | stray line text => cases h
  | declarator d =>
    obtain ⟨rfl, -⟩ := of_check_eq_ok h
    rfl

/-- Where nothing is reported, each item makes its declaration. -/
theorem accepted_outcomes_eq {is : List Item} (h : rejected (outcomes θ Γ is) = []) :
    accepted (outcomes θ Γ is) = is.filterMap Item.declaration? := by
  induction is generalizing Γ with
  | nil => rfl
  | cons i is ih =>
    rw [outcomes] at h ⊢
    cases ho : outcome θ Γ i with
    | error ε =>
      rw [ho, rejected_error] at h
      cases h
    | ok δ =>
      rw [ho, rejected_ok] at h
      rw [accepted_ok, List.filterMap_cons_some (declaration?_of_outcome_eq_ok ho), ih h]

end VarDecl.Analysis.Semantic
