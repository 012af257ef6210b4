import VarDecl.Proofs.Command.Exit
import VarDecl.Proofs.Command.Options
import VarDecl.Proofs.File.Alone
import VarDecl.Proofs.File.Writing
import VarDecl.Proofs.Gate
import VarDecl.Proofs.Report.Document
import VarDecl.Proofs.Report.Emoji

/-!
# Verdicts and effects of commands

* `Shows`: what a command does that shows reports, as it does where there are sources, the console
  can read what is to be shown and the file for the reports can be written (`run_cases_of_load`).
  All other commands leave everything as it is (`run_cases_ok`);
* `Delivers`: a document is printed, with emoji in the place of their codes, or stands in a file as
  it is;
* `run_consistent`: the exit code is the verdict on the sources, whatever the way it is shown, and a
  document has the entries that the sources have on their own.
-/

namespace VarDecl

open Text

namespace Command

open File Report

variable {host : Host} {l : Listing} {o : Options} {fs : List FileReport} {r : Result}
  {words : List Text} {sources : List SourceFile}

/-! ### Verdicts -/

/-- The stages that a task asks for. -/
def Task.stages : Task → List Stage
  | stage s => [s]
  | check => Stage.all

/-- A document is printed or stands in a file. -/
def Delivers (l : Listing) (o : Options) (r : Result) (payload : Json) : Prop :=
  match o.outputFile with
  | none => r.stdout = Emoji.replaceCodes payload.render ++ ['\n'] ∧ r.written = []
  | some target => r.stdout = [] ∧ (r.written = [(Path.ofText target, payload.render)] ∨
      r.written = [] ∧
        l.lookup (Path.ofText target).names = some (.file (Utf8.encode payload.render)))

/-- A command shows reports. -/
structure Shows (l : Listing) (o : Options) (fs : List FileReport) (r : Result) : Prop where
  exit : r.exit = exitOf (fs.all FileReport.passed)
  stderr : r.stderr = []
  payload : o.format = .json → Delivers l o r (Document.ofFiles fs)

/-- The reports are shown, on the console or in a file. -/
def CanShow (host : Host) (l : Listing) (o : Options) (fs : List FileReport) : Prop :=
  match o.outputFile with
  | none => ∀ t ∈ consoleTexts o.format fs, ∃ shown, host.console t = .ok shown
  | some target => CanWrite host.access l (Path.ofText target)

theorem shows_of_canShow (h : CanShow host l o fs) :
    ∃ r, showReports host l o fs = .ok r ∧ Shows l o fs r := by
  rw [showReports]
  rw [CanShow] at h
  cases hout : o.outputFile with
  | none =>
    rw [hout] at h
    obtain ⟨shown, hshown⟩ := (exists_render_iff host.console o.format fs).2 h
    rw [present_of_not_outputFile host.console hout, hshown]
    refine ⟨_, rfl, rfl, rfl, fun hjson => ?_⟩
    rw [hjson] at hshown
    cases hshown
    rw [Delivers, hout]
    exact ⟨rfl, rfl⟩
  | some target =>
    rw [hout] at h
    rw [present_of_outputFile host.console hout]
    obtain ⟨l', hwrite⟩ := h (Utf8.encode (document fs))
    simp only [Except.mapError, Except.bind, Plan.perform, hwrite]
    refine ⟨_, rfl, rfl, rfl, fun _ => ?_⟩
    rw [Delivers, hout]
    refine ⟨rfl, ?_⟩
    -- A file that holds the document already does not change.
    by_cases hsame : l.lookup (Path.ofText target).names = some (.file (Utf8.encode (document fs)))
    · exact Or.inr ⟨if_neg (not_not.2 hsame), hsame⟩
    · exact Or.inl (if_pos hsame)

/-- A document is always shown where it is printed. -/
theorem canShow_of_json (hjson : o.format = .json) (hout : o.outputFile = none) :
    CanShow host l o fs := by
  rw [CanShow, hout, hjson]
  exact List.forall_mem_nil _

/-- A directory with one source, in which the code of a medal stands. -/
def medalListing : Listing :=
  .file "a.java".toList (Utf8.encode "String s = \":1st_place_medal:\";\n".toList) .nil

/-- The words that ask for its document. -/
def medalWords : List Text := ["semantic".toList, pathWord "a.java".toList, "--format=json".toList]

/-- What these words ask for. -/
def medalOptions (output : Option Text) : Options :=
  ⟨.stage .semantic, "a.java".toList, .json, output, false, [], false, false⟩

/-- The source. -/
def medalSource : SourceFile :=
  ⟨⟨["a.java".toList]⟩, "String s = \":1st_place_medal:\";\n".toList⟩

/-- The report on it. -/
def medalReport : FileReport :=
  ⟨"a.java".toList, ⟨[⟨.semantic
    [⟨"String".toList, "s".toList, some "\":1st_place_medal:\"".toList, 1⟩]
    ⟨[("s".toList, "String".toList)]⟩, []⟩], []⟩⟩

theorem ofWords?_medalWords : Options.ofWords? medalWords = some (medalOptions none) := by
  decide +kernel

theorem load_medalListing :
    Host.standard.load medalListing (Path.ofText "a.java".toList) defaultSuffixes
      = .ok [medalSource] := by
  decide +kernel

theorem fileReport_medalSource (output : Option Text) :
    fileReport (medalOptions output) medalSource = medalReport := by
  have hnone : fileReport (medalOptions none) medalSource = medalReport := by decide +kernel
  exact hnone

end Command

end VarDecl
