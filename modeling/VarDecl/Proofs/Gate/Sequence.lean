import Mathlib.Data.List.Nodup
import VarDecl.Proofs.Gate

/-!
# What a gated run leaves out

A gated run stops early, but its verdict is the one that all stages together would give.

* `ofStages_cases`: a run makes all analyses, or those up to the first that fails;
* `Accounts`: each requested stage is analysed as on its own, or skipped behind a failure;
* `ofNames_accounts`: a run of different stages accounts for all of them, and whether it passes does
  not depend on their order.
-/

namespace VarDecl

variable {σ : Settings} {source : Text} {stages others : List Stage}

@[simp] theorem Stage.stage_analyze (s : Stage) (σ : Settings) (source : Text) :
    (s.analyze σ source).stage = s := by
  cases s with
  | lexical =>
    rw [analyze, Analysis.Lexical.analyze]
    split <;> rfl
  | grammatical =>
    rw [analyze, Analysis.Grammatical.analyze]
    split <;> rfl
  | semantic =>
    rw [analyze, Analysis.Semantic.analyze]
    split <;> rfl

namespace GatedRun

/-- All that a run of stages can do: each of them passes, or the list is cut behind the first that
does not. -/
theorem ofStages_cases (σ : Settings) (source : Text) (stages : List Stage) :
    ((∀ s ∈ stages, (s.analyze σ source).passed = true) ∧
      ofStages σ source stages = ⟨stages.map fun s => s.analyze σ source, []⟩) ∨
    ∃ before s rest, stages = before ++ s :: rest ∧
      (∀ r ∈ before, (r.analyze σ source).passed = true) ∧ (s.analyze σ source).passed = false ∧
      ofStages σ source stages
        = ⟨(before ++ [s]).map fun s => s.analyze σ source, rest.map Stage.name⟩ := by
  induction stages with
  | nil => exact Or.inl ⟨List.forall_mem_nil _, rfl⟩
  | cons s rest ih =>
    cases hs : (s.analyze σ source).passed with
    | false =>
      refine Or.inr ⟨[], s, rest, rfl, List.forall_mem_nil _, hs, ?_⟩
      rw [ofStages, hs]
      rfl
    | true =>
      obtain ⟨hrest, heq⟩ | ⟨before, t, rest', rfl, hbefore, ht, heq⟩ := ih
      · refine Or.inl ⟨List.forall_mem_cons.2 ⟨hs, hrest⟩, ?_⟩
        rw [ofStages, hs, heq]
        rfl
      · refine Or.inr ⟨s :: before, t, rest', rfl, List.forall_mem_cons.2 ⟨hs, hbefore⟩, ht, ?_⟩
        rw [ofStages, hs, heq]
        rfl

/-- A run accounts for a list of stages. -/
structure Accounts (σ : Settings) (source : Text) (stages : List Stage) (r : GatedRun) : Prop where
  /-- The analyses are those that the first stages make on their own. -/
  analyses : ∃ ran, ran <+: stages ∧ r.analyses = ran.map fun s => s.analyze σ source
  /-- At most the last of them fails. -/
  passed_init : ∀ a ∈ r.analyses.dropLast, a.passed = true
  /-- No stage is lost. -/
  names : (r.analyses.map fun a => a.stage.name) ++ r.skipped = stages.map Stage.name
  /-- A stage is skipped only behind a failure. -/
  skipped : r.skipped = [] ∨ ∃ a, r.analyses.getLast? = some a ∧ a.passed = false
  /-- The failure is the first that the stages have on their own. -/
  failed : r.failedStage? = stages.find? fun s => !(s.analyze σ source).passed

theorem accounts_of_passed (h : ∀ s ∈ stages, (s.analyze σ source).passed = true) :
    Accounts σ source stages ⟨stages.map fun s => s.analyze σ source, []⟩ where
  analyses := ⟨stages, List.prefix_rfl, rfl⟩
  passed_init a ha := by
    obtain ⟨s, hs, rfl⟩ := List.mem_map.1 ((List.dropLast_sublist _).mem ha)
    exact h s hs
  names := by simp
  skipped := Or.inl rfl
  failed := by
    have hnone : stages.find? (fun s => !(s.analyze σ source).passed) = none :=
      List.find?_eq_none.2 fun s hs => by simp [h s hs]
    rw [GatedRun.failedStage?, List.find?_map, hnone]
    exact congrArg _ (congrArg _ hnone)

theorem accounts_of_failed {before rest : List Stage} {s : Stage}
    (hbefore : ∀ r ∈ before, (r.analyze σ source).passed = true)
    (hs : (s.analyze σ source).passed = false) :
    Accounts σ source (before ++ s :: rest)
      ⟨(before ++ [s]).map fun s => s.analyze σ source, rest.map Stage.name⟩ where
  analyses := ⟨before ++ [s], ⟨rest, by simp⟩, rfl⟩
  passed_init a ha := by
    simp only [List.map_append, List.map_cons, List.map_nil, List.dropLast_concat] at ha
    obtain ⟨r, hr, rfl⟩ := List.mem_map.1 ha
    exact hbefore r hr
  names := by simp
  skipped := Or.inr ⟨s.analyze σ source, by simp, hs⟩
  failed := by
    have hnone : before.find? (fun s => !(s.analyze σ source).passed) = none :=
      List.find?_eq_none.2 fun r hr => by simp [hbefore r hr]
    rw [GatedRun.failedStage?, List.find?_map, List.find?_append, List.find?_append]
    simp only [Function.comp_def, hnone, Option.none_or, List.find?_cons, hs, Bool.not_false,
      Option.map_some, Stage.stage_analyze]

theorem ofStages_accounts (σ : Settings) (source : Text) (stages : List Stage) :
    Accounts σ source stages (ofStages σ source stages) := by
  obtain ⟨hpassed, heq⟩ | ⟨before, s, rest, rfl, hbefore, hs, heq⟩ :=
    ofStages_cases σ source stages
  · rw [heq]
    exact accounts_of_passed hpassed
  · rw [heq]
    exact accounts_of_failed hbefore hs

/-- Stages that differ have names that differ. -/
theorem ofNames_of_nodup (h : stages.Nodup) :
    ofNames σ source (stages.map Stage.name) = .ok (ofStages σ source stages) := by
  have hinj : Function.Injective Stage.name := fun s t hst =>
    Option.some.inj (by rw [← Stage.ofName?_name s, ← Stage.ofName?_name t, hst])
  rw [ofNames, if_pos (h.map hinj), ofReached_map_name]

/-- A run of different stages loses nothing: it accounts for each of them, passes exactly if each of
them passes on its own, and has the same verdict in every other order. -/
theorem ofNames_accounts (σ : Settings) (source : Text) (h : stages.Nodup) :
    ∃ r, ofNames σ source (stages.map Stage.name) = .ok r ∧ Accounts σ source stages r ∧
      (r.passed = true ↔ ∀ s ∈ stages, (s.analyze σ source).passed = true) ∧
      ∀ others : List Stage, others.Perm stages →
        ∃ r', ofNames σ source (others.map Stage.name) = .ok r' ∧ r'.passed = r.passed := by
  refine ⟨_, ofNames_of_nodup h, ofStages_accounts σ source stages, ofStages_passed_iff,
    fun others hperm => ⟨_, ofNames_of_nodup (hperm.nodup_iff.2 h), ?_⟩⟩
  rw [Bool.eq_iff_iff, ofStages_passed_iff, ofStages_passed_iff]
  exact ⟨fun hall s hs => hall s (hperm.mem_iff.2 hs), fun hall s hs => hall s (hperm.mem_iff.1 hs)⟩

/-- The words of a line without a semicolon are in order, its grammar is not; the last stage is
skipped. -/
theorem ofNames_accounts_unfinished :
    [Stage.lexical, .grammatical, .semantic].Nodup ∧
    ∃ r, ofNames .default "int x = 5".toList
        ([Stage.lexical, .grammatical, .semantic].map Stage.name) = .ok r ∧
      r.failedStage? = some .grammatical ∧ r.skipped = ["semantic".toList] ∧
      ∃ r', ofNames .default "int x = 5".toList
        ([Stage.semantic, .grammatical, .lexical].map Stage.name) = .ok r' ∧ r'.passed = false := by
  have hnodup : [Stage.lexical, .grammatical, .semantic].Nodup := by decide
  obtain ⟨r, hr, haccounts, hpassed, hperm⟩ :=
    ofNames_accounts .default "int x = 5".toList hnodup
  have hfailed : r.failedStage? = some .grammatical := by
    rw [haccounts.failed]
    decide +kernel
  refine ⟨hnodup, r, hr, hfailed, ?_, ?_⟩
  · have hskipped : (ofNames .default "int x = 5".toList
        ([Stage.lexical, .grammatical, .semantic].map Stage.name)).toOption.map GatedRun.skipped
          = some ["semantic".toList] := by
      decide +kernel
    rw [hr] at hskipped
    exact Option.some.inj hskipped
  · obtain ⟨r', hr', heq⟩ := hperm [.semantic, .grammatical, .lexical] (by decide)
    refine ⟨r', hr', heq.trans (Bool.eq_false_iff.2 fun htrue => ?_)⟩
    have hgram : (Stage.grammatical.analyze .default "int x = 5".toList).passed = false := by
      decide +kernel
    rw [hpassed.1 htrue .grammatical (by decide)] at hgram
    cases hgram

end GatedRun

end VarDecl
