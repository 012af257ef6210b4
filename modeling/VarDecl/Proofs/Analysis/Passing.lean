import VarDecl.Gate
import VarDecl.Proofs.Analysis.Outcomes
import VarDecl.Proofs.Analysis.Semantic
import VarDecl.Proofs.Source.Numbering

/-!
# Stages that pass

When a stage passes: the source is not empty, no outcome is rejected, and the stage has found what
it asks for (`Lexical.passed_iff`, `Grammatical.passed_iff`, `Semantic.passed_iff`). The analysis is
then what the outcomes accept, without diagnostics.
-/

namespace VarDecl.Analysis

variable {σ : Settings} {source : Text}

theorem noDeclarationsIf_eq_nil_iff {b : Bool} : noDeclarationsIf b = [] ↔ b = false := by
  cases b <;> simp [noDeclarationsIf]

theorem passed_iff {a : Analysis} : a.passed = true ↔ a.diagnostics = [] := List.isEmpty_iff

/-- A source of blanks has the same diagnostic in each stage. -/
theorem analyze_of_isEmpty (s : Stage) (h : Source.isEmpty source = true) :
    s.analyze σ source = ofEmptySource s := by
  cases s with
  | lexical => exact if_pos h
  | grammatical => exact if_pos h
  | semantic => exact if_pos h

/-! ### The lexical stage -/

/-- A source that is not empty is judged by its outcomes. -/
theorem Lexical.analyze_eq (h : Source.isEmpty source = false) :
    Lexical.analyze σ source = ⟨.lexical (accepted (Lexical.outcomes σ source)),
      rejected (Lexical.outcomes σ source)
        ++ noDeclarationsIf (accepted (Lexical.outcomes σ source)).isEmpty⟩ := by
  rw [Lexical.analyze, h, if_neg Bool.false_ne_true]

theorem Lexical.passed_iff : (Lexical.analyze σ source).passed = true ↔
    Source.isEmpty source = false ∧ rejected (Lexical.outcomes σ source) = [] ∧
      accepted (Lexical.outcomes σ source) ≠ [] := by
  rw [Analysis.passed_iff, Lexical.analyze]
  cases Source.isEmpty source with
  | true => simp [ofEmptySource]
  | false => simp [noDeclarationsIf_eq_nil_iff]

theorem Lexical.analyze_of_passed (h : (Lexical.analyze σ source).passed = true) :
    Lexical.analyze σ source = ⟨.lexical (accepted (Lexical.outcomes σ source)), []⟩ := by
  obtain ⟨he, hr, ha⟩ := Lexical.passed_iff.1 h
  simp [Lexical.analyze, he, hr, ha, noDeclarationsIf_eq_nil_iff]

/-! ### The grammatical stage -/

theorem Grammatical.analyze_eq (h : Source.isEmpty source = false) :
    Grammatical.analyze σ source = ⟨.grammatical (accepted (Grammatical.outcomes σ source)),
      rejected (Grammatical.outcomes σ source)
        ++ noDeclarationsIf (Grammatical.outcomes σ source).isEmpty⟩ := by
  rw [Grammatical.analyze, h, if_neg Bool.false_ne_true]

theorem Grammatical.passed_iff : (Grammatical.analyze σ source).passed = true ↔
    Source.isEmpty source = false ∧ rejected (Grammatical.outcomes σ source) = [] ∧
      Grammatical.outcomes σ source ≠ [] := by
  rw [Analysis.passed_iff, Grammatical.analyze]
  cases Source.isEmpty source with
  | true => simp [ofEmptySource]
  | false => simp [noDeclarationsIf_eq_nil_iff]

theorem Grammatical.analyze_of_passed (h : (Grammatical.analyze σ source).passed = true) :
    Grammatical.analyze σ source
      = ⟨.grammatical (accepted (Grammatical.outcomes σ source)), []⟩ := by
  obtain ⟨he, hr, ho⟩ := Grammatical.passed_iff.1 h
  simp [Grammatical.analyze, he, hr, ho, noDeclarationsIf_eq_nil_iff]

/-! ### The semantic stage -/

/-- The outcomes of what a source holds. -/
def Semantic.outcomesOf (σ : Settings) (source : Text) : List (Except Diagnostic Declaration) :=
  outcomes σ.threshold .empty (items σ.strict (Source.nonblankLines σ.stripComments source))

theorem Semantic.analyze_eq (h : Source.isEmpty source = false) :
    Semantic.analyze σ source = ⟨.semantic (accepted (Semantic.outcomesOf σ source))
      (Semantic.tableOf (accepted (Semantic.outcomesOf σ source))),
        rejected (Semantic.outcomesOf σ source) ++ noDeclarationsIf (σ.strict &&
          !(Source.nonblankLines σ.stripComments source).any Semantic.isDeclarationLine)⟩ := by
  rw [Semantic.analyze, h, if_neg Bool.false_ne_true]
  simp only [Semantic.tableAfter_eq]
  rfl

/-- Without the strict policy, nothing is wrong but what the outcomes reject. -/
theorem Semantic.analyze_lenient (h : Source.isEmpty source = false) (hstrict : σ.strict = false) :
    Semantic.analyze σ source = ⟨.semantic (accepted (Semantic.outcomesOf σ source))
      (Semantic.tableOf (accepted (Semantic.outcomesOf σ source))),
        rejected (Semantic.outcomesOf σ source)⟩ := by
  rw [Semantic.analyze_eq h, hstrict, Bool.false_and, noDeclarationsIf,
    if_neg Bool.false_ne_true, List.append_nil]

/-- A source with a declaration line has nothing wrong but what the outcomes reject. -/
theorem Semantic.analyze_of_isDeclarationLine {l : SourceLine}
    (hl : l ∈ Source.nonblankLines σ.stripComments source)
    (hdecl : Semantic.isDeclarationLine l = true) :
    Semantic.analyze σ source = ⟨.semantic (accepted (Semantic.outcomesOf σ source))
      (Semantic.tableOf (accepted (Semantic.outcomesOf σ source))),
        rejected (Semantic.outcomesOf σ source)⟩ := by
  have hany : (Source.nonblankLines σ.stripComments source).any Semantic.isDeclarationLine = true :=
    List.any_eq_true.2 ⟨l, hl, hdecl⟩
  rw [Semantic.analyze_eq (Source.isEmpty_eq_false_of_mem_nonblankLines hl), hany, Bool.not_true,
    Bool.and_false, noDeclarationsIf, if_neg Bool.false_ne_true, List.append_nil]

theorem Semantic.passed_iff : (Semantic.analyze σ source).passed = true ↔
    Source.isEmpty source = false ∧ rejected (Semantic.outcomesOf σ source) = [] ∧
      (σ.strict = true → ∃ l ∈ Source.nonblankLines σ.stripComments source,
        Semantic.isDeclarationLine l = true) := by
  rw [Analysis.passed_iff, Semantic.analyze, Semantic.outcomesOf]
  cases Source.isEmpty source with
  | true => simp [ofEmptySource]
  | false => simp [noDeclarationsIf_eq_nil_iff]

theorem Semantic.analyze_of_passed (h : (Semantic.analyze σ source).passed = true) :
    Semantic.analyze σ source = ⟨.semantic (accepted (Semantic.outcomesOf σ source))
      (Semantic.tableOf (accepted (Semantic.outcomesOf σ source))), []⟩ := by
  have hd := Analysis.passed_iff.1 h
  rw [Semantic.analyze_eq (Semantic.passed_iff.1 h).1] at hd ⊢
  rw [show rejected _ ++ _ = [] from hd]

end VarDecl.Analysis
