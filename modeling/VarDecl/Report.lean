import VarDecl.Gate
import VarDecl.Text.Upper

/-!
# Reports

The analyses of one source as plain text.

* `analysisLines` are the lines of a report: a title, then the errors of a failed analysis or, on
  request, the details of a passed one. `ofAnalysis` ends each line with a newline;
* `ofRun` puts the reports of a gated run one after the other, with an empty line between them, and
  names the stages that were skipped.
-/

namespace VarDecl.Report

open Text

/-- Lines as one text, each with its newline. -/
def unlines (ls : List Text) : Text := ls.flatMap (· ++ ['\n'])

@[simp] theorem unlines_nil : unlines [] = [] := rfl
@[simp] theorem unlines_cons (l : Text) (ls : List Text) :
    unlines (l :: ls) = l ++ '\n' :: unlines ls := by simp [unlines]

/-- The name of a stage in titles. -/
def title (s : Stage) : Text := upper s.name ++ " ANALYSIS".toList

/-- One entry of a symbol table. -/
def symbolLine (entry : Text × Text) : Text := entry.1 ++ " : ".toList ++ entry.2

/-- The details of an analysis that passed. -/
def detailLines : Findings → List Text
  | .lexical ls =>
    [] :: ("Total tokens: ".toList ++ ofNat (Findings.lexical ls).tokenCount)
      :: ls.map TokenizedLine.render
  | .grammatical _ => []
  | .semantic _ Γ =>
    if Γ.entries.isEmpty then []
    else [] :: "Symbol table:".toList :: Γ.entries.map symbolLine

/-- A diagnostic, with its suggestion if details are wanted. -/
def diagnosticLines (details : Bool) (d : Diagnostic) : List Text :=
  d.render :: (if details then d.hint.toList.map ("  hint: ".toList ++ ·) else [])

/-- The lines of the report on one analysis. -/
def analysisLines (details : Bool) (a : Analysis) : List Text :=
  if a.passed then
    (title a.stage ++ " PASSED".toList) :: (if details then detailLines a.findings else [])
  else
    (title a.stage ++ " FAILED".toList) :: [] :: "Errors:".toList
      :: a.diagnostics.flatMap (diagnosticLines details)

/-- The report on one analysis. -/
def ofAnalysis (details : Bool) (a : Analysis) : Text := unlines (analysisLines details a)

/-- The line that names the stages that were skipped. -/
def skippedLine (names : List Text) : Text :=
  "Skipped: ".toList ++ List.intercalate ", ".toList (names.map upper)

/-- The report on a gated run. -/
def ofRun (details : Bool) (r : GatedRun) : Text :=
  let skipped := if r.skipped.isEmpty then [] else [skippedLine r.skipped ++ ['\n']]
  List.intercalate ['\n'] (r.analyses.map (ofAnalysis details) ++ skipped)

end VarDecl.Report
