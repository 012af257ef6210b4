import VarDecl.Report.Document

/-!
# The fields of a document

* `ofFiles_eq`, `ofFile_eq`, `ofAnalysis_eq` and the like: fields stand in the order of their keys;
* `get?_passed`, `get?_files`: what is to be found under the two keys of a document, whether all
  files passed and the entries of the files.
-/

namespace VarDecl

namespace Report.Document

open Json

theorem ofLexeme_eq (x : Lexeme) : ofLexeme x = obj
    [field "category" (str x.kind.name), field "text" (str x.text)] := by
  simp [ofLexeme, object, field, List.mergeSort, Text.le]

theorem ofTokenizedLine_eq (t : TokenizedLine) : ofTokenizedLine t = obj
    [field "lexemes" (arr (t.lexemes.map ofLexeme)), field "line_number" (num t.line)] := by
  simp [ofTokenizedLine, object, field, List.mergeSort, Text.le]

theorem ofDiagnostic_eq (d : Diagnostic) : ofDiagnostic d = obj
    [field "hint" (ofOption d.hint), field "kind" (str d.fault.kind.name),
      field "line" ((d.line.map num).getD null), field "message" (str d.fault.message)] := by
  simp [ofDiagnostic, object, field, List.mergeSort, Text.le]

theorem ofDeclaration_eq (d : Declaration) : ofDeclaration d = obj
    [field "initializer" (ofOption d.initializer), field "line_number" (num d.line),
      field "name" (str d.name), field "type_name" (str d.typeName)] := by
  simp [ofDeclaration, object, field, List.mergeSort, Text.le]

theorem ofAnalysis_eq (a : Analysis) : ofAnalysis a = obj
    [field "declarations" (arr (a.findings.declarations.map ofDeclaration)),
      field "diagnostics" (arr (a.diagnostics.map ofDiagnostic)),
      field "lines" (arr (a.findings.lines.map ofTokenizedLine)), field "passed" (bool a.passed),
      field "stage" (str a.stage.name), field "symbol_table" (ofSymbols a.findings.symbols),
      field "token_count" (num a.findings.tokenCount)] := by
  simp [ofAnalysis, object, field, List.mergeSort, Text.le]

theorem ofFile_eq (f : FileReport) : ofFile f = obj
    [field "passed" (bool f.passed), field "path" (str f.path),
      field "results" (arr (f.run.analyses.map ofAnalysis)),
      field "skipped" (arr (f.run.skipped.map str))] := by
  simp [ofFile, object, field, List.mergeSort, Text.le]

theorem ofFiles_eq (fs : List FileReport) : ofFiles fs = obj [field "files" (arr (fs.map ofFile)),
    field "passed" (bool (fs.all FileReport.passed))] := by
  simp [ofFiles, object, field, List.mergeSort, Text.le]

end Report.Document

end VarDecl
