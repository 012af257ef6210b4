import VarDecl.Proofs.Analysis.Registration
import VarDecl.Proofs.Expression.Runs

/-!
# Uses of variables

No use of an undeclared variable gets past the semantic stage, and the first one is named.

* `mem_names_of_isRun`: a name that stands outside the literals of a registered initializer is
  declared before;
* `isFirstUndeclared_of_check`: the name that a report quotes is the first use of an undeclared
  variable in the expression;
* `references_declared` puts both together for a source.
-/

namespace VarDecl.Analysis.Semantic

open Text Literal Expression Declaration

variable {θ : Float} {δs : List Declaration} {δ : Declaration} {d : Declarator}
  {ε : Diagnostic} {f u x v : Text}

/-- A fragment that uses a variable: a name that is no truth value. -/
def IsUse (f : Text) : Prop := Name.IsName f ∧ f ≠ "true".toList ∧ f ≠ "false".toList

theorem IsUse.isReference (h : IsUse f) : IsReference f := by
  obtain ⟨hname, htrue, hfalse⟩ := h
  refine ⟨?_, hname.isIdentifier⟩
  rw [kind?_of_isName hname, if_neg (not_or.2 ⟨htrue, hfalse⟩)]

theorem isUse_of_isReference (h : IsReference f) (hnl : '\n' ∉ f) : IsUse f := by
  obtain ⟨hkind, hname⟩ := h
  refine ⟨(Name.isIdentifier_iff_isName hnl).1 hname, ?_, ?_⟩
  · rintro rfl
    exact absurd hkind (by decide)
  · rintro rfl
    exact absurd hkind (by decide)

/-! ### Registered initializers -/

/-- A use of a variable that stands outside the literals of a sound initializer is declared. -/
theorem mem_names_of_isRun {before after : Text} (hδ : IsSound δs δ) (hv : δ.initializer = some v)
    (hend : (Scan.start.run v).quote = none) (hrun : IsRun v before u after)
    (hdigit : ∀ c ∈ before.getLast?, isDigit c = true → c.isDigit = true) (hu : IsUse u) :
    u ∈ δs.map Declaration.name := by
  have hne : v ≠ [] := by
    rintro rfl
    have := hrun.eq
    simp [hu.1.ne_nil] at this
  obtain ⟨p, hp⟩ := hδ.primitive
  obtain ⟨c, hc, -⟩ := exists_infer_of_fits (hδ.fits p v hp hv hne)
  have hmem : u ∈ fragments (expression v) := by
    rw [fragments_expression]
    exact mem_fragments_of_isRun hrun hu.1 hdigit (hδ.noNewline v hv) hend
  have hsome := isSome_find?_of_infer hc hmem hu.isReference
  by_contra hnot
  rw [← names_tableOf, ← find?_eq_none_iff] at hnot
  rw [hnot] at hsome
  cases hsome

/-! ### Reports -/

/-- The first fragment that uses a variable which is not among some names. -/
def IsFirstUndeclared (names : List Text) (u : Text) (fs : List Text) : Prop :=
  ∃ before rest, fs = before ++ u :: rest ∧ IsUse u ∧ u ∉ names ∧
    ∀ f ∈ before, IsUse f → f ∈ names

/-- A report of an undeclared variable names the first one of the expression. -/
theorem isFirstUndeclared_of_check {Γ : SymbolTable} (hnl : '\n' ∉ d.text)
    (h : check θ Γ d = .error ε) (hε : ε.fault = .undefined u x) :
    x = d.name ∧ ∃ v, d.initializer = some v ∧
      IsFirstUndeclared Γ.names u (fragments (expression v)) := by
  obtain ⟨hx, v, hv, hinfer⟩ := of_check_eq_error h hε
  obtain ⟨before, rest, hfs, href, hnone, hbefore⟩ := inferAll_eq_error hinfer
  refine ⟨hx, v, hv, before, rest, hfs, ?_, find?_eq_none_iff.1 hnone, fun f hf hu => ?_⟩
  · refine isUse_of_isReference href fun hm => hnl (mem_text_of_mem_initializer hv ?_)
    have hu : u ∈ fragments (expression v) := by
      rw [hfs]
      exact List.mem_append_right _ List.mem_cons_self
    rw [fragments_expression] at hu
    exact mem_of_mem_fragments hu hm
  · by_contra hnot
    have hsome := hbefore f hf hu.isReference
    rw [find?_eq_none_iff.2 hnot] at hsome
    cases hsome

/-- A diagnostic about an undeclared variable is that of a declarator. -/
theorem exists_of_mem_diagnostics {settings : Settings} {source : Text}
    (h : ε ∈ (analyze settings source).diagnostics) (hε : ε.fault = .undefined u x) :
    ∃ is₁ d is₂, itemsOf settings source = is₁ ++ .declarator d :: is₂ ∧
      check settings.threshold (tableAfter settings.threshold .empty is₁) d = .error ε := by
  have hmem : .error ε ∈ outcomes settings.threshold .empty (itemsOf settings source) := by
    unfold analyze at h
    unfold itemsOf
    -- The diagnostics of a whole source are about other faults.
    split at h
    case isTrue he =>
      rw [List.mem_singleton.1 h] at hε
      cases hε
    case isFalse he =>
      rw [if_neg he, ← mem_rejected]
      rcases List.mem_append.1 h with h | h
      · exact h
      · unfold noDeclarationsIf at h
        split at h
        · rw [List.mem_singleton.1 h] at hε
          cases hε
        · cases h
  obtain ⟨os₁, os₂, hos⟩ := List.append_of_mem hmem
  obtain ⟨is₁, i, is₂, his, -, hi⟩ := exists_of_outcomes_eq_append hos
  cases i with
  | stray line text =>
    obtain rfl := Except.error.inj hi
    cases hε
  | declarator d => exact ⟨is₁, d, is₂, his, hi⟩

/-! ### Sources -/

/-- Each use of a variable in a registered initializer is of one that is declared before, and a
report of an undeclared variable names the first one that the expression uses. -/
theorem references_declared (settings : Settings) (source : Text) :
    (∀ δs δ δs' v before run after,
      (analyze settings source).findings.declarations = δs ++ δ :: δs' →
      δ.initializer = some v → (Scan.start.run v).quote = none → IsRun v before run after →
      (∀ c ∈ before.getLast?, isDigit c = true → c.isDigit = true) → IsUse run →
        run ∈ δs.map Declaration.name) ∧
    (∀ is₁ d is₂ ε u x, itemsOf settings source = is₁ ++ .declarator d :: is₂ →
      check settings.threshold (tableAfter settings.threshold .empty is₁) d = .error ε →
      ε.fault = .undefined u x →
        x = d.name ∧ ∃ v, d.initializer = some v ∧
          IsFirstUndeclared
            ((accepted (outcomes settings.threshold .empty is₁)).map Declaration.name) u
            (fragments (expression v))) ∧
    ∀ ε ∈ (analyze settings source).diagnostics, ∀ u x, ε.fault = .undefined u x →
      ∃ is₁ d is₂, itemsOf settings source = is₁ ++ .declarator d :: is₂ ∧
        check settings.threshold (tableAfter settings.threshold .empty is₁) d = .error ε := by
  refine ⟨?_, ?_, fun ε h u x hε => exists_of_mem_diagnostics h hε⟩
  · intro δs δ δs' v before run after h hv hend hrun hdigit hu
    have hδ := isSound_of_declarations settings source δs δ δs' h
    exact mem_names_of_isRun hδ hv hend hrun hdigit hu
  · intro is₁ d is₂ ε u x his h hε
    have hmem : .declarator d ∈ itemsOf settings source := by
      rw [his]
      exact List.mem_append_right _ List.mem_cons_self
    rw [← names_tableOf, ← tableAfter_eq]
    exact isFirstUndeclared_of_check (notMem_text_of_mem_itemsOf hmem) h hε

/-- The second declaration of a source uses the first, and a use of nothing is reported. -/
theorem references_declared_second :
    "a".toList ∈ ["a".toList] ∧ IsFirstUndeclared [] "c".toList (fragments "1 + c + e".toList) := by
  constructor
  · have ha : IsUse "a".toList :=
      ⟨⟨'a', [], rfl, by decide, List.forall_mem_nil _⟩, by decide, by decide⟩
    have hspace : ∀ c ∈ "2 - ".toList.getLast?, isFragmentChar c = false ∧ isDigit c = false := by
      intro c hc
      obtain rfl : ' ' = c := Option.some.inj hc
      decide
    have hrun : IsRun "2 - a".toList "2 - ".toList "a".toList [] :=
      ⟨rfl, List.forall_mem_singleton.2 (by decide), fun c hc => (hspace c hc).1,
        (fun c hc => by cases hc), by decide⟩
    obtain ⟨huse, -, -⟩ := references_declared .default "int a = 1, b = 2 - a;".toList
    exact huse [⟨"int".toList, "a".toList, some "1".toList, 1⟩]
      ⟨"int".toList, "b".toList, some "2 - a".toList, 1⟩ [] _ "2 - ".toList "a".toList []
      (by decide +kernel) rfl (by decide) hrun
      (fun c hc hd => Bool.noConfusion ((hspace c hc).2.symm.trans hd)) ha
  · obtain ⟨-, hreport, -⟩ := references_declared .default "int d = 1 + c + e;".toList
    obtain ⟨-, v, hv, hfirst⟩ := hreport [] ⟨1, .int, "d = 1 + c + e".toList⟩ []
      ⟨some 1, .undefined "c".toList "d".toList, none⟩ _ _ (by decide +kernel) (by decide +kernel)
      rfl
    have hv' : v = "1 + c + e".toList := Option.some.inj (hv.symm.trans (by decide +kernel))
    rw [hv', show expression "1 + c + e".toList = "1 + c + e".toList by decide +kernel] at hfirst
    exact hfirst

end VarDecl.Analysis.Semantic
