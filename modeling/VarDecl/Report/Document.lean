import VarDecl.Gate
import VarDecl.Json

/-!
# Reports as documents

The analyses of several files as one JSON document: whether all passed, and for each file its path,
whether it passed, the analyses made and the stages skipped.
-/

namespace VarDecl.Report

/-- The runs of the stages on one file. -/
structure FileReport where
  path : Text
  run : GatedRun
  deriving DecidableEq

/-- Whether a file passed. -/
def FileReport.passed (f : FileReport) : Bool := f.run.passed

namespace Document

open Json

/-- A key with a value. -/
def field (key : String) (value : Json) : Text × Json := (key.toList, value)

/-- A lexeme. -/
def ofLexeme (l : Lexeme) : Json :=
  object [field "text" (str l.text), field "category" (str l.kind.name)]

/-- A tokenized line. -/
def ofTokenizedLine (l : TokenizedLine) : Json :=
  object [field "line_number" (num l.line), field "lexemes" (arr (l.lexemes.map ofLexeme))]

/-- A declaration. -/
def ofDeclaration (d : Declaration) : Json :=
  object [field "type_name" (str d.typeName), field "name" (str d.name),
    field "initializer" (ofOption d.initializer), field "line_number" (num d.line)]

/-- A diagnostic. -/
def ofDiagnostic (d : Diagnostic) : Json :=
  object [field "line" ((d.line.map num).getD null), field "message" (str d.fault.message),
    field "kind" (str d.fault.kind.name), field "hint" (ofOption d.hint)]

/-- A symbol table; the order of its names is lost. -/
def ofSymbols (Γ : SymbolTable) : Json := object (Γ.entries.map fun e => (e.1, str e.2))

/-- An analysis. -/
def ofAnalysis (a : Analysis) : Json :=
  object [field "stage" (str a.stage.name), field "passed" (bool a.passed),
    field "diagnostics" (arr (a.diagnostics.map ofDiagnostic)),
    field "token_count" (num a.findings.tokenCount),
    field "lines" (arr (a.findings.lines.map ofTokenizedLine)),
    field "declarations" (arr (a.findings.declarations.map ofDeclaration)),
    field "symbol_table" (ofSymbols a.findings.symbols)]

/-- One file. -/
def ofFile (f : FileReport) : Json :=
  object [field "path" (str f.path), field "passed" (bool f.passed),
    field "skipped" (arr (f.run.skipped.map str)),
    field "results" (arr (f.run.analyses.map ofAnalysis))]

/-- All files. -/
def ofFiles (fs : List FileReport) : Json :=
  object [field "passed" (bool (fs.all FileReport.passed)), field "files" (arr (fs.map ofFile))]

end Document

end VarDecl.Report
