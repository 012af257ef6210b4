import VarDecl.Analysis.Grammatical
import VarDecl.Analysis.Lexical
import VarDecl.Analysis.Semantic

/-!
# Gated runs

A gated run analyses a source stage by stage and stops after the first stage that fails; the stages
that are left are skipped.

* `Stage.analyze` is one stage; `analyze?` checks the threshold first;
* `GatedRun.ofStages` runs a list of stages, `GatedRun.ofNames` a list of names, which must differ
  and of which an unknown one is an error only when its turn comes.
-/

namespace VarDecl

/-- A run that cannot start or go on. -/
inductive RequestError
  | threshold
  | repeatedStage
  | unknownStage (name : Text)
  deriving DecidableEq

/-- The wording of a request error. -/
def RequestError.message : RequestError → Text
  | threshold => "hint_threshold must be between 0.0 and 1.0.".toList
  | repeatedStage => "stages must not repeat".toList
  | unknownStage name => "Unsupported stage: ".toList ++ name

namespace Stage

/-- Analyse a source. -/
def analyze : Stage → Settings → Text → Analysis
  | lexical => Analysis.Lexical.analyze
  | grammatical => Analysis.Grammatical.analyze
  | semantic => Analysis.Semantic.analyze

/-- Analyse a source if the threshold lies between zero and one. -/
def analyze? (s : Stage) (settings : Settings) (source : Text) : Except RequestError Analysis :=
  if Suggestion.isThreshold settings.threshold then .ok (s.analyze settings source)
  else .error .threshold

end Stage

/-- The analyses that were made, and the names of the stages that were not. -/
structure GatedRun where
  analyses : List Analysis
  skipped : List Text
  deriving DecidableEq

namespace GatedRun

/-- A run passes when every analysis passes and none is skipped. -/
def passed (r : GatedRun) : Bool := r.skipped.isEmpty && r.analyses.all Analysis.passed

/-- The first stage that failed. -/
def failedStage? (r : GatedRun) : Option Stage := (r.analyses.find? (!·.passed)).map Analysis.stage

/-- Run stages in order, up to the first that fails. -/
def ofStages (settings : Settings) (source : Text) : List Stage → GatedRun
  | [] => ⟨[], []⟩
  | s :: rest =>
    let a := s.analyze settings source
    if a.passed then
      let r := ofStages settings source rest
      ⟨a :: r.analyses, r.skipped⟩
    else ⟨[a], rest.map Stage.name⟩

/-- Run all stages in their order. -/
def ofSource (settings : Settings) (source : Text) : GatedRun := ofStages settings source Stage.all

/-- Run stages by name, up to the first that fails or is unknown. -/
def ofReached (settings : Settings) (source : Text) : List Text → Except RequestError GatedRun
  | [] => .ok ⟨[], []⟩
  | n :: rest =>
    match Stage.ofName? n with
    | none => .error (.unknownStage n)
    | some s =>
      let a := s.analyze settings source
      if a.passed then
        (ofReached settings source rest).map fun r => ⟨a :: r.analyses, r.skipped⟩
      else .ok ⟨[a], rest⟩

/-- Run stages by name; the names must differ. -/
def ofNames (settings : Settings) (source : Text) (names : List Text) :
    Except RequestError GatedRun :=
  if names.Nodup then ofReached settings source names else .error .repeatedStage

/-- Naming stages changes nothing. -/
theorem ofReached_map_name (settings : Settings) (source : Text) (stages : List Stage) :
    ofReached settings source (stages.map Stage.name) = .ok (ofStages settings source stages) := by
  induction stages with
  | nil => rfl
  | cons s rest ih =>
    simp only [List.map_cons, ofReached, Stage.ofName?_name, ofStages, ih]
    split <;> rfl

end GatedRun

end VarDecl
