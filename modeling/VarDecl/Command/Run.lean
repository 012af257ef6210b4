import VarDecl.Command.Options
import VarDecl.File.Sources
import VarDecl.Report.Table

/-!
# Running a command

A command loads sources, analyses each on its own and shows the results.

* `Host` is what a command runs on: what the file system refuses, and what the console shows for a
  text with tags;
* `plan` says what a command does to a directory: the exit code, the texts for the two output
  streams, and perhaps a file to write. A bad line of an ignore file, a refusal of the file system
  outside of reading a file, and a tag that the console cannot read break the command off, without
  an exit code;
* the exit code is 0 if every source passes, 1 if one fails, and 2 if there is nothing to analyse or
  the command line is misused, in which case nothing is shown but the reason;
* `Plan.perform` writes the file, and falls back to exit code 2 where that is not possible. A null
  character in the name of the file breaks the command off as well.
-/

namespace VarDecl.Command

open File Report

/-- Every source passes. -/
def exitPassed : Nat := 0
/-- Some source fails. -/
def exitFailed : Nat := 1
/-- The command cannot be carried out. -/
def exitUsage : Nat := 2

/-- What a command runs on. -/
structure Host where
  access : Access
  console : Markup.Console

/-- A host on which the file system refuses nothing but paths that are too long. Parameters of
handlers are not looked into. -/
def Host.standard : Host := ⟨.free, Markup.read fun _ => none⟩

/-- What breaks a command off. -/
inductive Abort
  | pattern (b : Ignore.BadPattern)
  | tooLong (e : TooLong)
  | refused (f : Refusal)
  | markup (f : Markup.Fault)
  | nullCharacter
  deriving DecidableEq

/-- The wording of an abort. -/
def Abort.message : Abort → Text
  | pattern b => b.message
  | tooLong e => e.message
  | refused f => f.message
  | markup f => f.message
  | nullCharacter => "embedded null byte".toList

/-- What a command is going to do. -/
structure Plan where
  exit : Nat
  stdout : Text
  stderr : Text
  /-- The file to write, as named on the command line, and its content. -/
  output : Option (Text × Text)
  deriving DecidableEq

/-- Give up with a message. -/
def Plan.refuse (message : Text) : Plan := ⟨exitUsage, [], message, none⟩

/-- The line of a message. -/
def messageLine (label : String) (subject : Text) : Text := label.toList ++ subject ++ ['\n']

/-- The settings that a command line asks for. -/
def Options.settings (o : Options) : Settings :=
  ⟨!o.keepComments, o.strict, Suggestion.defaultThreshold⟩

/-- The suffixes that a command line asks for. -/
def Options.wantedSuffixes (o : Options) : List Text :=
  if o.suffixes.isEmpty then defaultSuffixes else o.suffixes

/-- The runs of a task on one source. -/
def Task.run (t : Task) (settings : Settings) (source : Text) : GatedRun :=
  match t with
  | stage s => ⟨[s.analyze settings source], []⟩
  | check => GatedRun.ofSource settings source

/-- The report on one source. -/
def fileReport (o : Options) (s : SourceFile) : FileReport :=
  ⟨s.path.render, o.task.run o.settings s.text⟩

/-- The document of all reports. -/
def document (fs : List FileReport) : Text := (Document.ofFiles fs).render

/-- The reports in a format. -/
def render (console : Markup.Console) (f : Format) (fs : List FileReport) :
    Except Markup.Fault Text :=
  match f with
  | .json => .ok (Emoji.replaceCodes (document fs) ++ ['\n'])
  | .text => (fs.mapM (Terminal.plainPage console)).map List.flatten
  | .table => (fs.mapM (Table.page console)).map List.flatten

/-- The file that a command line asks for; only documents go to a file. -/
def Options.outputFile (o : Options) : Option Text :=
  if o.format = .json then o.output.filter (!·.isEmpty) else none

/-- The exit code of a verdict. -/
def exitOf (passed : Bool) : Nat := if passed then exitPassed else exitFailed

/-- Show reports. -/
def present (console : Markup.Console) (o : Options) (fs : List FileReport) :
    Except Markup.Fault Plan :=
  let exit := exitOf (fs.all FileReport.passed)
  match o.outputFile with
  | some target => .ok ⟨exit, [], [], some (target, document fs)⟩
  | none => (render console o.format fs).map fun shown => ⟨exit, shown, [], none⟩

/-- The sources that a path stands for. -/
def Host.load (host : Host) (l : Listing) (path : Path) (suffixes : List Text) :
    Except Failure (List SourceFile) :=
  host.access.limited.load l path suffixes

/-- The plan of a command whose sources have been loaded, or could not be. -/
def planSources (console : Markup.Console) (o : Options) :
    Except Failure (List SourceFile) → Except Abort Plan
  | .error (.pattern b) => .error (.pattern b)
  | .error (.tooLong e) => .error (.tooLong e)
  | .error (.refused f) => .error (.refused f)
  | .error (.load e) => .ok (.refuse (messageLine "" e.message))
  | .ok [] =>
    .ok (.refuse (messageLine "No source files found under: " (Path.ofText o.path).render))
  | .ok sources => (present console o (sources.map (fileReport o))).mapError .markup

/-- The plan of a command with given options. -/
def planOptions (host : Host) (l : Listing) (o : Options) : Except Abort Plan :=
  let path := Path.ofText o.path
  match host.access.limited.locate l path with
  | .ok none => .ok (.refuse (messageLine "Path does not exist: " path.render))
  | _ => planSources host.console o (host.load l path o.wantedSuffixes)

/-- The plan of a command line in a working directory. -/
def plan (host : Host) (l : Listing) (words : List Text) : Except Abort Plan :=
  match Options.ofWords? words with
  | none => .ok (.refuse [])
  | some o => planOptions host l o

/-- What a command did. -/
structure Result where
  exit : Nat
  stdout : Text
  stderr : Text
  /-- The files that are new or have changed, with their content. -/
  written : List (Path × Text)
  deriving DecidableEq

/-- A plan that comes to nothing because its file cannot be written. -/
def Plan.failedToWrite (target : Text) : Plan :=
  .refuse (messageLine "Failed to write JSON output file: " target)

/-- The result of a plan that writes nothing. -/
def Plan.result (p : Plan) : Result := ⟨p.exit, p.stdout, p.stderr, []⟩

/-- Carry out a plan in a directory. -/
def Plan.perform (p : Plan) (a : Access) (l : Listing) : Except Abort Result :=
  match p.output with
  | none => .ok p.result
  | some (target, content) =>
    let path := Path.ofText target
    let bytes := Text.Utf8.encode content
    match a.writeFile l path bytes with
    | .error .nullCharacter => .error .nullCharacter
    | .error (.tooDeep f) => .error (.refused f)
    | .error .hindered => .ok (failedToWrite target).result
    | .ok _ =>
      let changed := l.lookup path.names ≠ some (.file bytes)
      .ok { p.result with written := if changed then [(path, content)] else [] }

/-- Run a command line in a working directory. -/
def run (host : Host) (l : Listing) (words : List Text) : Except Abort Result := do
  (← plan host l words).perform host.access l

end VarDecl.Command
