import VarDecl.Gate
import VarDecl.Proofs.Comment.Lines
import VarDecl.Proofs.Text.Classes

/-!
# Sources without comments

A stage reads a source through its lines that are not blank (`analyze_congr`). Since stripping
twice is stripping once, it makes no difference whether comments are removed by the stage, before
the stage, or both (`analyze_strip`), as long as something is left.
-/

namespace VarDecl.Analysis

open Text

variable {σ τ : Settings} {source t u : Text}

/-- Sources with the same lines have the same analysis, under settings that differ in nothing
else than the removal of comments. -/
theorem analyze_congr (s : Stage) (hstrict : σ.strict = τ.strict)
    (hthreshold : σ.threshold = τ.threshold) (hempty : Source.isEmpty t = Source.isEmpty u)
    (hlines : Source.nonblankLines σ.stripComments t = Source.nonblankLines τ.stripComments u) :
    s.analyze σ t = s.analyze τ u := by
  cases s with
  | lexical =>
    simp only [Stage.analyze, Lexical.analyze, Lexical.outcomes, hthreshold, hempty, hlines]
  | grammatical =>
    simp only [Stage.analyze, Grammatical.analyze, Grammatical.outcomes, hthreshold, hempty, hlines]
  | semantic =>
    simp only [Stage.analyze, Semantic.analyze, hstrict, hthreshold, hempty, hlines]

/-- A source of blanks has no comments. -/
theorem strip_of_isEmpty (h : Source.isEmpty source = true) : Comment.strip source = source := by
  refine (Comment.transparent_of_forall fun c hc => ?_).strip
  have hb : isBlank c = true := List.all_eq_true.1 h c hc
  exact ⟨isBlank_ne hb (by decide), isBlank_ne hb (by decide), isBlank_ne hb (by decide)⟩

/-- Stripping is idempotent, and a source can be stripped before its analysis if something but
blanks is left. -/
theorem analyze_strip (source : Text) :
    Comment.strip (Comment.strip source) = Comment.strip source ∧
    ∀ (s : Stage) (strict : Bool) (θ : Float), Source.isEmpty (Comment.strip source) = false →
      s.analyze ⟨true, strict, θ⟩ source
          = s.analyze ⟨true, strict, θ⟩ (Comment.strip source) ∧
        s.analyze ⟨true, strict, θ⟩ (Comment.strip source)
          = s.analyze ⟨false, strict, θ⟩ (Comment.strip source) := by
  refine ⟨Comment.strip_strip source, fun s strict θ h => ⟨?_, ?_⟩⟩
  · refine analyze_congr s rfl rfl ?_ ?_
    · rw [h]
      refine Bool.eq_false_iff.2 fun he => ?_
      rw [strip_of_isEmpty he, he] at h
      cases h
    · simp only [Source.nonblankLines, Source.lines, if_true, Comment.strip_strip]
  · refine analyze_congr s rfl rfl rfl ?_
    simp only [Source.nonblankLines, Source.lines, if_true, Comment.strip_strip,
      Bool.false_eq_true, if_false]

/-- A quotient stays, the comments around it do not. -/
theorem analyze_strip_quotient :
    Stage.semantic.analyze .default "int a = 4 /**// 2; // a".toList
      = Stage.semantic.analyze ⟨false, false, Suggestion.defaultThreshold⟩
          (Comment.strip "int a = 4 /**// 2; // a".toList) := by
  obtain ⟨-, h⟩ := analyze_strip "int a = 4 /**// 2; // a".toList
  obtain ⟨h₁, h₂⟩ := h .semantic false Suggestion.defaultThreshold (by decide)
  exact h₁.trans h₂

end VarDecl.Analysis
