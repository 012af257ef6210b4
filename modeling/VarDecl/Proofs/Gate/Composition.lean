import VarDecl.Proofs.Analysis.Extension
import VarDecl.Proofs.Analysis.Shift
import VarDecl.Proofs.Gate

/-!
# One source behind another

Two sources that pass can be put one behind the other: the first two stages go line by line, and the
third checks the second source with more variables in scope. If the sources declare different names,
the whole passes, and its findings are those of both (`ofSource_append_newline`).

* `Lexical.outcomes_append_newline`, `Grammatical.outcomes_append_newline`: this holds of the
  outcomes of the first two stages, whether they pass or not;
* `Semantic.outcomesOf_append_newline`: it holds of those of the third, if it passes.
-/

namespace VarDecl

variable {σ : Settings} {s t : Text}

namespace Analysis

/-! ### The first two stages -/

/-- A check that does not look at the number of a line finds the same in the second source. -/
theorem map_nonblankLines_append_newline {α : Type} {f : α → α} {strip : Bool}
    {check : SourceLine → Except Diagnostic α}
    (hcheck : ∀ l, check (l.shift s.lines.length) = shiftOutcome f s.lines.length (check l))
    (h : strip = true → Comment.modeAfter s ≠ .block) :
    (Source.nonblankLines strip (s ++ '\n' :: t)).map check
      = (Source.nonblankLines strip s).map check
        ++ ((Source.nonblankLines strip t).map check).map (shiftOutcome f s.lines.length) := by
  rw [Source.nonblankLines_append_newline h, List.map_append, List.map_map, List.map_map]
  exact congrArg _ (List.map_congr_left fun l _ => hcheck l)

theorem Lexical.outcomes_append_newline
    (h : σ.stripComments = true → Comment.modeAfter s ≠ .block) :
    Lexical.outcomes σ (s ++ '\n' :: t) = Lexical.outcomes σ s
      ++ (Lexical.outcomes σ t).map (shiftOutcome (·.shift s.lines.length) s.lines.length) :=
  map_nonblankLines_append_newline (Lexical.checkLine_shift σ.threshold s.lines.length) h

theorem Lexical.passed_append_newline (h : σ.stripComments = true → Comment.modeAfter s ≠ .block)
    (hs : (Lexical.analyze σ s).passed = true) (ht : (Lexical.analyze σ t).passed = true) :
    (Lexical.analyze σ (s ++ '\n' :: t)).passed = true := by
  obtain ⟨hempty, hs, hsome⟩ := Lexical.passed_iff.1 hs
  obtain ⟨-, ht, -⟩ := Lexical.passed_iff.1 ht
  rw [Lexical.passed_iff, Lexical.outcomes_append_newline h, accepted_append_shiftOutcome]
  exact ⟨Source.isEmpty_append hempty _, rejected_append_shiftOutcome hs ht,
    List.append_ne_nil_of_left_ne_nil hsome _⟩

theorem Grammatical.outcomes_append_newline
    (h : σ.stripComments = true → Comment.modeAfter s ≠ .block) :
    Grammatical.outcomes σ (s ++ '\n' :: t) = Grammatical.outcomes σ s
      ++ (Grammatical.outcomes σ t).map (shiftOutcome (·.shift s.lines.length) s.lines.length) :=
  map_nonblankLines_append_newline (Grammatical.checkLine_shift σ.threshold s.lines.length) h

theorem Grammatical.passed_append_newline
    (h : σ.stripComments = true → Comment.modeAfter s ≠ .block)
    (hs : (Grammatical.analyze σ s).passed = true)
    (ht : (Grammatical.analyze σ t).passed = true) :
    (Grammatical.analyze σ (s ++ '\n' :: t)).passed = true := by
  obtain ⟨hempty, hs, hsome⟩ := Grammatical.passed_iff.1 hs
  obtain ⟨-, ht, -⟩ := Grammatical.passed_iff.1 ht
  rw [Grammatical.passed_iff, Grammatical.outcomes_append_newline h]
  exact ⟨Source.isEmpty_append hempty _, rejected_append_shiftOutcome hs ht,
    List.append_ne_nil_of_left_ne_nil hsome _⟩

/-! ### The third stage -/

namespace Semantic

/-- The names of the first source are in scope in the second one and change nothing there. -/
theorem outcomesOf_append_newline (h : σ.stripComments = true → Comment.modeAfter s ≠ .block)
    (ht : rejected (outcomesOf σ t) = [])
    (hnames : (tableOf (accepted (outcomesOf σ s))).names.Disjoint
      (tableOf (accepted (outcomesOf σ t))).names) :
    outcomesOf σ (s ++ '\n' :: t) = outcomesOf σ s
      ++ (outcomesOf σ t).map (shiftOutcome (·.shift s.lines.length) s.lines.length) := by
  have hscope := outcomes_of_extends (SymbolTable.Extends.empty _) ht
    fun δ hδ hmem => hnames hmem (by
      rw [names_tableOf]
      exact List.mem_map_of_mem hδ)
  rw [outcomesOf, Source.nonblankLines_append_newline h, items_append, items_shift, outcomes_append,
    outcomes_shift, tableAfter_eq]
  show outcomesOf σ s ++ (outcomes σ.threshold (tableOf (accepted (outcomesOf σ s))) _).map _ = _
  rw [hscope]
  rfl

theorem passed_append_newline (h : σ.stripComments = true → Comment.modeAfter s ≠ .block)
    (hs : (Semantic.analyze σ s).passed = true) (ht : (Semantic.analyze σ t).passed = true)
    (hnames : (tableOf (accepted (outcomesOf σ s))).names.Disjoint
      (tableOf (accepted (outcomesOf σ t))).names) :
    (Semantic.analyze σ (s ++ '\n' :: t)).passed = true := by
  obtain ⟨hempty, hs, hsome⟩ := Semantic.passed_iff.1 hs
  obtain ⟨-, ht, -⟩ := Semantic.passed_iff.1 ht
  rw [Semantic.passed_iff, outcomesOf_append_newline h ht hnames]
  refine ⟨Source.isEmpty_append hempty _, rejected_append_shiftOutcome hs ht, fun hstrict => ?_⟩
  obtain ⟨l, hl, hdecl⟩ := hsome hstrict
  rw [Source.nonblankLines_append_newline h]
  exact ⟨l, List.mem_append_left _ hl, hdecl⟩

end Semantic

end Analysis

/-! ### The gated run -/

namespace GatedRun

open Analysis

/-- A run on one source behind another passes if both runs do and share no name, unless the first
source ends in a comment. It has found what both have found, the second source further down by the
lines of the first. -/
theorem ofSource_append_newline (hs : (ofSource σ s).passed = true)
    (ht : (ofSource σ t).passed = true)
    (hblock : σ.stripComments = true → Comment.modeAfter s ≠ .block) :
    ∃ ts δs εs Γ ts' δs' εs' Γ',
      ofSource σ s = ⟨[⟨.lexical ts, []⟩, ⟨.grammatical δs, []⟩, ⟨.semantic εs Γ, []⟩], []⟩ ∧
      ofSource σ t = ⟨[⟨.lexical ts', []⟩, ⟨.grammatical δs', []⟩, ⟨.semantic εs' Γ', []⟩], []⟩ ∧
      (Γ.names.Disjoint Γ'.names →
        (ofSource σ (s ++ '\n' :: t)).passed = true ∧
        ofSource σ (s ++ '\n' :: t) =
          ⟨[⟨.lexical (ts ++ ts'.map (·.shift s.lines.length)), []⟩,
            ⟨.grammatical (δs ++ δs'.map (·.shift s.lines.length)), []⟩,
            ⟨.semantic (εs ++ εs'.map (·.shift s.lines.length)) ⟨Γ.entries ++ Γ'.entries⟩, []⟩],
            []⟩ ∧
        (Findings.lexical (ts ++ ts'.map (·.shift s.lines.length))).tokenCount
          = (Findings.lexical ts).tokenCount + (Findings.lexical ts').tokenCount) := by
  refine ⟨_, _, _, _, _, _, _, _, ofSource_of_passed hs, ofSource_of_passed ht, fun hnames => ?_⟩
  have hs := passed_of_ofStages hs
  have ht := passed_of_ofStages ht
  have hpassed : (ofSource σ (s ++ '\n' :: t)).passed = true := by
    refine ofStages_passed_iff.2 fun stage hstage => ?_
    cases stage with
    | lexical => exact Lexical.passed_append_newline hblock (hs _ hstage) (ht _ hstage)
    | grammatical => exact Grammatical.passed_append_newline hblock (hs _ hstage) (ht _ hstage)
    | semantic => exact Semantic.passed_append_newline hblock (hs _ hstage) (ht _ hstage) hnames
  obtain ⟨-, hsem, -⟩ := Semantic.passed_iff.1 (ht .semantic (by decide))
  refine ⟨hpassed, ?_, ?_⟩
  · rw [ofSource_of_passed hpassed, Lexical.outcomes_append_newline hblock,
      Grammatical.outcomes_append_newline hblock,
      Semantic.outcomesOf_append_newline hblock hsem hnames]
    simp only [accepted_append_shiftOutcome, Semantic.tableOf_append, Semantic.tableOf_map_shift]
  · simp only [Findings.tokenCount, Findings.lines, List.flatMap_append, List.flatMap_map,
      List.length_append]
    rfl

/-- A source that ends in a line comment, and another one behind it. -/
theorem ofSource_append_newline_comment :
    ∃ ts δs εs,
      ofSource .default ("int a = 1; // one".toList ++ '\n' :: "double b = 2;".toList) =
        ⟨[⟨.lexical ts, []⟩, ⟨.grammatical δs, []⟩, ⟨.semantic εs
          ⟨[("a".toList, "int".toList), ("b".toList, "double".toList)]⟩, []⟩], []⟩ := by
  obtain ⟨ts, δs, εs, Γ, ts', δs', εs', Γ', hs, ht, h⟩ :=
    @ofSource_append_newline .default "int a = 1; // one".toList "double b = 2;".toList
      (by decide +kernel) (by decide +kernel) (by decide +kernel)
  have hΓ : (ofSource .default "int a = 1; // one".toList).analyses.getLast?.map
      (fun a => a.findings.symbols) = some ⟨[("a".toList, "int".toList)]⟩ := by decide +kernel
  have hΓ' : (ofSource .default "double b = 2;".toList).analyses.getLast?.map
      (fun a => a.findings.symbols) = some ⟨[("b".toList, "double".toList)]⟩ := by decide +kernel
  rw [hs] at hΓ
  rw [ht] at hΓ'
  obtain rfl : Γ = ⟨[("a".toList, "int".toList)]⟩ := Option.some.inj hΓ
  obtain rfl : Γ' = ⟨[("b".toList, "double".toList)]⟩ := Option.some.inj hΓ'
  exact ⟨_, _, _, (h (by simp [SymbolTable.names])).2.1⟩

end GatedRun

end VarDecl
