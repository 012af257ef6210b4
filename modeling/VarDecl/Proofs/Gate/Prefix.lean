import VarDecl.Proofs.Analysis.Quotation
import VarDecl.Proofs.Gate.Agreement

/-!
# Lines behind a source

What a stage says about a line depends on that line and the lines before it. So an analysis is the
start of the analysis of the same source with more lines behind it (`IsStartOf`), and a run on the
first lines of a source passes if the run on all of them does.

* `Lexical.analyze_isStartOf`, `Grammatical.analyze_isStartOf`, `Semantic.analyze_isStartOf`: the
  first lines have the first outcomes (`Semantic.outcomesOf_start` for the symbol table);
* `passed_of_nonblankLines`: the stages that pass all lines pass the first of them.
-/

namespace VarDecl

variable {σ : Settings} {p s t : Text}

namespace Analysis

/-! ### The start of an analysis -/

/-- The diagnostics about lines. -/
def lineDiagnostics (a : Analysis) : List Diagnostic := a.diagnostics.filter (·.line.isSome)

/-- What one analysis says about lines and names is the first of what another one says. -/
structure IsStartOf (a b : Analysis) : Prop where
  diagnostics : a.lineDiagnostics <+: b.lineDiagnostics
  lines : a.findings.lines <+: b.findings.lines
  declarations : a.findings.declarations <+: b.findings.declarations
  symbols : a.findings.symbols.entries <+: b.findings.symbols.entries

/-- A source of blanks has nothing to say about its lines. -/
theorem ofEmptySource_isStartOf (stage : Stage) (a : Analysis) :
    IsStartOf (ofEmptySource stage) a := by
  constructor
  · exact List.nil_prefix
  all_goals cases stage <;> exact List.nil_prefix

section Outcomes

variable {α : Type} {R : SourceLine → α → Prop} {ls ls' : List SourceLine}
  {os os' : List (Except Diagnostic α)} {f f' : Findings}

/-- The diagnostics about lines are those of the outcomes. -/
theorem lineDiagnostics_eq (h : ∀ x ∈ os, ∃ l ∈ ls, IsFromLine R l x) (b : Bool) :
    lineDiagnostics ⟨f, rejected os ++ noDeclarationsIf b⟩ = rejected os := by
  have hline : ∀ d ∈ rejected os, d.line.isSome = true := by
    intro d hd
    obtain ⟨l, -, habout⟩ := h _ (mem_rejected.1 hd)
    have habout : d.IsAbout l := habout
    rw [habout.line, Option.isSome_some]
  have hsource : (noDeclarationsIf b).filter (·.line.isSome) = [] := by cases b <;> rfl
  rw [lineDiagnostics, List.filter_append, List.filter_eq_self.2 hline, hsource, List.append_nil]

/-- The first outcomes report the first diagnostics. -/
theorem isStartOf_of_outcomes (h : ∀ x ∈ os, ∃ l ∈ ls, IsFromLine R l x)
    (h' : ∀ x ∈ os', ∃ l ∈ ls', IsFromLine R l x) (hos : os <+: os') (b b' : Bool)
    (hlines : f.lines <+: f'.lines) (hdeclarations : f.declarations <+: f'.declarations)
    (hsymbols : f.symbols.entries <+: f'.symbols.entries) :
    IsStartOf ⟨f, rejected os ++ noDeclarationsIf b⟩ ⟨f', rejected os' ++ noDeclarationsIf b'⟩ := by
  refine ⟨?_, hlines, hdeclarations, hsymbols⟩
  rw [lineDiagnostics_eq h, lineDiagnostics_eq h']
  exact hos.filterMap _

end Outcomes

/-! ### One stage -/

theorem Lexical.analyze_isStartOf (σ : Settings) (s t : Text) :
    IsStartOf (Lexical.analyze σ s) (Lexical.analyze σ (s ++ '\n' :: t)) := by
  unfold Lexical.analyze
  cases hs : Source.isEmpty s with
  | true => exact ofEmptySource_isStartOf .lexical _
  | false =>
    rw [Source.isEmpty_append hs]
    have hos : Lexical.outcomes σ s <+: Lexical.outcomes σ (s ++ '\n' :: t) :=
      (Source.nonblankLines_start σ.stripComments s t).map _
    exact isStartOf_of_outcomes (Lexical.outcomes_isFrom σ s) (Lexical.outcomes_isFrom σ _) hos _ _
      (hos.filterMap _) List.nil_prefix List.nil_prefix

theorem Grammatical.analyze_isStartOf (σ : Settings) (s t : Text) :
    IsStartOf (Grammatical.analyze σ s) (Grammatical.analyze σ (s ++ '\n' :: t)) := by
  unfold Grammatical.analyze
  cases hs : Source.isEmpty s with
  | true => exact ofEmptySource_isStartOf .grammatical _
  | false =>
    rw [Source.isEmpty_append hs]
    have hos : Grammatical.outcomes σ s <+: Grammatical.outcomes σ (s ++ '\n' :: t) :=
      (Source.nonblankLines_start σ.stripComments s t).map _
    exact isStartOf_of_outcomes (Grammatical.outcomes_isFrom σ s) (Grammatical.outcomes_isFrom σ _)
      hos _ _ List.nil_prefix (hos.filterMap _) List.nil_prefix

namespace Semantic

/-- The declarators of the first lines have the outcomes that they have in the whole source, since
the table that they meet is that of the lines before them. -/
theorem outcomesOf_start
    (h : Source.nonblankLines σ.stripComments p <+: Source.nonblankLines σ.stripComments s) :
    outcomesOf σ p <+: outcomesOf σ s := by
  obtain ⟨ms, hms⟩ := h
  rw [outcomesOf, outcomesOf, ← hms, items_append, outcomes_append]
  exact List.prefix_append _ _

theorem analyze_isStartOf (σ : Settings) (s t : Text) :
    IsStartOf (Semantic.analyze σ s) (Semantic.analyze σ (s ++ '\n' :: t)) := by
  unfold Semantic.analyze
  cases hs : Source.isEmpty s with
  | true => exact ofEmptySource_isStartOf .semantic _
  | false =>
    rw [Source.isEmpty_append hs]
    have hos : outcomesOf σ s <+: outcomesOf σ (s ++ '\n' :: t) :=
      outcomesOf_start (Source.nonblankLines_start σ.stripComments s t)
    refine isStartOf_of_outcomes (outcomes_isFrom _ _ _ _) (outcomes_isFrom _ _ _ _) hos _ _
      List.nil_prefix (hos.filterMap _) ?_
    -- The table lists the declarations, so it grows as they do.
    simp only [Findings.symbols, tableAfter_eq]
    exact (hos.filterMap _).map _

end Semantic

end Analysis

/-! ### The gated run -/

namespace GatedRun

open Analysis

/-- The first lines of a source that passes pass, if they are not all blank. -/
theorem passed_of_nonblankLines
    (hlines : Source.nonblankLines σ.stripComments p <+: Source.nonblankLines σ.stripComments s)
    (hne : Source.nonblankLines σ.stripComments p ≠ []) (h : (ofSource σ s).passed = true) :
    (ofSource σ p).passed = true := by
  obtain ⟨l, hl⟩ := List.exists_mem_of_ne_nil _ hne
  have hempty := Source.isEmpty_eq_false_of_mem_nonblankLines hl
  have hs := passed_of_ofStages h
  -- A check of each line accepts the first lines, since it accepts all.
  have haccepted : ∀ {α : Type} {check : SourceLine → Except Diagnostic α},
      rejected ((Source.nonblankLines σ.stripComments s).map check) = [] →
        rejected ((Source.nonblankLines σ.stripComments p).map check) = [] := by
    intro α check hcheck
    rw [rejected_eq_nil_iff] at hcheck ⊢
    exact fun o ho => hcheck o ((hlines.map check).subset ho)
  refine ofStages_passed_iff.2 fun stage hstage => ?_
  cases stage with
  | lexical =>
    obtain ⟨-, hrejected, -⟩ := Lexical.passed_iff.1 (hs _ hstage)
    have hrejected : rejected (Lexical.outcomes σ p) = [] := haccepted hrejected
    refine Lexical.passed_iff.2 ⟨hempty, hrejected, ?_⟩
    obtain ⟨τ, hτ⟩ := rejected_eq_nil_iff.1 hrejected _ (List.mem_map_of_mem hl)
    apply List.ne_nil_of_mem (a := τ)
    rw [mem_accepted, ← hτ]
    exact List.mem_map_of_mem hl
  | grammatical =>
    obtain ⟨-, hrejected, -⟩ := Grammatical.passed_iff.1 (hs _ hstage)
    refine Grammatical.passed_iff.2 ⟨hempty, haccepted hrejected, ?_⟩
    exact List.ne_nil_of_mem (List.mem_map_of_mem hl)
  | semantic =>
    obtain ⟨-, hrejected, -⟩ := Semantic.passed_iff.1 (hs _ hstage)
    refine Semantic.passed_iff.2 ⟨hempty, ?_, fun _ => ⟨l, hl, ?_⟩⟩
    · rw [rejected_eq_nil_iff] at hrejected ⊢
      exact fun o ho => hrejected o ((Semantic.outcomesOf_start hlines).subset ho)
    · obtain ⟨-, hd, -, -, -, hhd, -⟩ := exists_lineDeclarations_of_passed h (hlines.subset hl)
      exact Option.isSome_iff_exists.2 ⟨hd, hhd⟩

/-- Lines behind a source change nothing of what each stage says about it, also if it ends inside a
literal or a comment. So the first lines of a source that passes pass too, if they are not all
blank. -/
theorem lines_behind (σ : Settings) (s : Text) :
    (∀ (stage : Stage) (t : Text),
      (stage.analyze σ s).IsStartOf (stage.analyze σ (s ++ '\n' :: t))) ∧
    ∀ p : Text, p.lines <+: s.lines → Source.nonblankLines σ.stripComments p ≠ [] →
      (ofSource σ s).passed = true →
        (ofSource σ p).passed = true ∧ (ofSource σ (p ++ ['\n'])).passed = true := by
  refine ⟨fun stage t => ?_, fun p hp hne hs => ?_⟩
  · cases stage with
    | lexical => exact Lexical.analyze_isStartOf σ s t
    | grammatical => exact Grammatical.analyze_isStartOf σ s t
    | semantic => exact Semantic.analyze_isStartOf σ s t
  · have hlines : Source.nonblankLines σ.stripComments p
        <+: Source.nonblankLines σ.stripComments s := by
      obtain rfl | ⟨t, rfl⟩ := Text.eq_or_exists_of_lines_start hp
      · exact List.prefix_rfl
      · exact Source.nonblankLines_start σ.stripComments p t
    refine ⟨passed_of_nonblankLines hlines hne hs, passed_of_nonblankLines ?_ ?_ hs⟩
    · rwa [Source.nonblankLines_append_singleton]
    · rwa [Source.nonblankLines_append_singleton]

/-- The first line of a source passes, though a comment is open at its end. -/
theorem lines_behind_comment :
    (ofSource .default "int a = 1; /* x".toList).passed = true := by
  obtain ⟨-, h⟩ := lines_behind .default "int a = 1; /* x\n*/ int b = a;".toList
  exact (h "int a = 1; /* x".toList ⟨["*/ int b = a;".toList], by decide +kernel⟩
    (by decide +kernel) (by decide +kernel)).1

end GatedRun

end VarDecl
