import VarDecl.Proofs.Analysis.Wording
import VarDecl.Proofs.Command.Verdict
import VarDecl.Proofs.Json

/-!
# Reading the documents of commands back

The document of a command determines what the command has found, as no two results have the same
entry.

* `ofLexeme_injective`, `ofTokenizedLine_injective`, `ofDeclaration_injective`: entries with all
  parts of what they are about;
* `ofDiagnostic_inj`: the message tells the fault, and the hint the suggestion;
* `ofAnalysis_inj`: a symbol table loses its order, but the declarations have kept it;
* `document_inj`, `document_lossless`: a document as it stands in a file, and as it is printed
  unless an emoji code stands in it. With such a code, different results can look the same
  (`exists_same_print`).
-/

namespace VarDecl

open Text

theorem LexemeKind.name_injective : Function.Injective LexemeKind.name := by
  intro k k' h
  cases k <;> cases k' <;> first | rfl | exact absurd h (by decide)

theorem Stage.name_injective : Function.Injective Stage.name := fun s s' h => by
  rw [← Option.some_inj, ← Stage.ofName?_name s, h, Stage.ofName?_name]

namespace Report.Document

open Json

variable {d e : Diagnostic} {a b : Analysis} {f g : FileReport}

/-! ### Entries -/

theorem ofOption_injective : Function.Injective ofOption := by
  intro t u h
  cases t <;> cases u <;> cases h <;> rfl

theorem eq_of_getD_map_num {m n : Option Nat}
    (h : (m.map num).getD null = (n.map num).getD null) : m = n := by
  cases m <;> cases n <;> cases h <;> rfl

theorem ofLexeme_injective : Function.Injective ofLexeme := by
  intro x y h
  simp only [ofLexeme_eq, field, obj.injEq, List.cons.injEq, Prod.mk.injEq, true_and, and_true,
    str.injEq] at h
  obtain ⟨text, kind⟩ := x
  obtain ⟨text', kind'⟩ := y
  obtain ⟨hkind, htext⟩ := h
  obtain rfl : text = text' := htext
  obtain rfl : kind = kind' := LexemeKind.name_injective hkind
  rfl

theorem ofTokenizedLine_injective : Function.Injective ofTokenizedLine := by
  intro t u h
  simp only [ofTokenizedLine_eq, field, obj.injEq, List.cons.injEq, Prod.mk.injEq, true_and,
    and_true, arr.injEq, num.injEq] at h
  obtain ⟨line, lexemes⟩ := t
  obtain ⟨line', lexemes'⟩ := u
  obtain ⟨hlexemes, hline⟩ := h
  obtain rfl : line = line' := hline
  obtain rfl : lexemes = lexemes' := List.map_injective_iff.2 ofLexeme_injective hlexemes
  rfl

theorem ofDeclaration_injective : Function.Injective ofDeclaration := by
  intro δ ε h
  simp only [ofDeclaration_eq, field, obj.injEq, List.cons.injEq, Prod.mk.injEq, true_and,
    and_true, str.injEq, num.injEq] at h
  obtain ⟨typeName, name, value, line⟩ := δ
  obtain ⟨typeName', name', value', line'⟩ := ε
  obtain ⟨hvalue, hline, hname, htype⟩ := h
  obtain rfl : line = line' := hline
  obtain rfl : name = name' := hname
  obtain rfl : typeName = typeName' := htype
  obtain rfl : value = value' := ofOption_injective hvalue
  rfl

/-- An entry tells the diagnostic, if its message can be read. -/
theorem ofDiagnostic_inj (hd : d.fault.IsClear) (he : e.fault.IsClear)
    (h : ofDiagnostic d = ofDiagnostic e) : d = e := by
  simp only [ofDiagnostic_eq, field, obj.injEq, List.cons.injEq, Prod.mk.injEq, true_and,
    and_true, str.injEq] at h
  obtain ⟨hhint, -, hline, hmessage⟩ := h
  obtain ⟨line, φ, o⟩ := d
  obtain ⟨line', ψ, o'⟩ := e
  obtain rfl : line = line' := eq_of_getD_map_num hline
  obtain rfl : φ = ψ := Fault.message_inj hd he hmessage
  obtain rfl : o = o' := Diagnostic.hint_inj (ofOption_injective hhint)
  rfl

theorem ofAnalysis_inj (ha : a.IsReadable) (hb : b.IsReadable)
    (h : ofAnalysis a = ofAnalysis b) : a = b := by
  simp only [ofAnalysis_eq, field, obj.injEq, List.cons.injEq, Prod.mk.injEq, true_and, and_true,
    str.injEq, arr.injEq] at h
  obtain ⟨hdeclarations, hdiagnostics, hlines, -, hstage, -, -⟩ := h
  have hfindings : a.findings = b.findings := by
    rw [ha.findings, hb.findings, Stage.name_injective hstage,
      List.map_injective_iff.2 ofTokenizedLine_injective hlines,
      List.map_injective_iff.2 ofDeclaration_injective hdeclarations]
  have hds : a.diagnostics = b.diagnostics :=
    map_inj_of_mem (fun d hd e he => ofDiagnostic_inj (ha.diagnostics d hd).clear
      (hb.diagnostics e he).clear) hdiagnostics
  obtain ⟨findings, ds⟩ := a
  obtain ⟨findings', ds'⟩ := b
  obtain rfl : findings = findings' := hfindings
  obtain rfl : ds = ds' := hds
  rfl

theorem ofFile_inj (hf : ∀ a ∈ f.run.analyses, a.IsReadable)
    (hg : ∀ a ∈ g.run.analyses, a.IsReadable) (h : ofFile f = ofFile g) : f = g := by
  simp only [ofFile_eq, field, obj.injEq, List.cons.injEq, Prod.mk.injEq, true_and, and_true,
    str.injEq, arr.injEq] at h
  obtain ⟨path, analyses, skipped⟩ := f
  obtain ⟨path', analyses', skipped'⟩ := g
  obtain ⟨-, hpath, hanalyses, hskipped⟩ := h
  obtain rfl : path = path' := hpath
  obtain rfl : analyses = analyses' :=
    map_inj_of_mem (fun a ha b hb => ofAnalysis_inj (hf a ha) (hg b hb)) hanalyses
  obtain rfl : skipped = skipped' :=
    List.map_injective_iff.2 (fun _ _ => Json.str.inj) hskipped
  rfl

end Report.Document

/-! ### Documents -/

namespace Command

open File Report

variable {fs gs : List FileReport}

/-- A document tells the reports in it, if their diagnostics can be read. -/
theorem document_inj (hf : ∀ f ∈ fs, ∀ a ∈ f.run.analyses, a.IsReadable)
    (hg : ∀ g ∈ gs, ∀ a ∈ g.run.analyses, a.IsReadable) (h : document fs = document gs) :
    fs = gs := by
  have hjson := Json.render_injective h
  simp only [Document.ofFiles_eq, Document.field, Json.obj.injEq, List.cons.injEq, Prod.mk.injEq,
    true_and, and_true, Json.arr.injEq] at hjson
  exact map_inj_of_mem (fun f hf' g hg' => Document.ofFile_inj (hf f hf') (hg g hg')) hjson.1

theorem isReadable_of_mem_ofStages {σ : Settings} {source : Text} {stages : List Stage}
    {a : Analysis} (h : a ∈ (GatedRun.ofStages σ source stages).analyses) : a.IsReadable := by
  obtain ⟨-, heq⟩ | ⟨before, s, rest, -, -, -, heq⟩ := GatedRun.ofStages_cases σ source stages <;>
    rw [heq] at h <;> obtain ⟨s, -, rfl⟩ := List.mem_map.1 h <;>
    exact Analysis.isReadable_analyze s σ source

theorem isReadable_of_mem_fileReports (o : Options) (sources : List SourceFile) :
    ∀ f ∈ sources.map (fileReport o), ∀ a ∈ f.run.analyses, a.IsReadable := by
  intro f hf a ha
  obtain ⟨s, -, rfl⟩ := List.mem_map.1 hf
  unfold fileReport at ha
  cases ht : o.task with
  | stage stage =>
    rw [ht] at ha
    rw [List.mem_singleton.1 ha]
    exact Analysis.isReadable_analyze stage o.settings s.text
  | check =>
    rw [ht] at ha
    exact isReadable_of_mem_ofStages ha

/-- The reports of two commands with the same document are the same. So are those of two commands
that print the same, if the console shows their documents as they are, as it does where no emoji
code stands in them (`Emoji.replaceCodes_eq_self`). -/
theorem document_lossless (console : Markup.Console) (o o' : Options)
    (sources sources' : List SourceFile) :
    (document (sources.map (fileReport o)) = document (sources'.map (fileReport o')) →
      sources.map (fileReport o) = sources'.map (fileReport o')) ∧
    (Emoji.replaceCodes (document (sources.map (fileReport o)))
        = document (sources.map (fileReport o)) →
      Emoji.replaceCodes (document (sources'.map (fileReport o')))
        = document (sources'.map (fileReport o')) →
      render console .json (sources.map (fileReport o))
          = render console .json (sources'.map (fileReport o')) →
      sources.map (fileReport o) = sources'.map (fileReport o')) := by
  have hinj := document_inj (isReadable_of_mem_fileReports o sources)
    (isReadable_of_mem_fileReports o' sources')
  refine ⟨hinj, fun hshown hshown' h => hinj ?_⟩
  rw [render, render, hshown, hshown'] at h
  exact List.append_cancel_right (Except.ok.inj h)

/-- The report on a source with one declaration. -/
def declaredReport (path : Text) (δ : Declaration) : FileReport :=
  ⟨path, ⟨[⟨.semantic [δ] (Analysis.Semantic.tableOf [δ]), []⟩], []⟩⟩

section DeclaredReport

open Json Document

/-- The document of such a report, its keys in their order. -/
theorem document_declaredReport (path : Text) (δ : Declaration) :
    document [declaredReport path δ] = Json.render (obj
      [field "files" (arr [obj [field "passed" (bool true), field "path" (str path),
          field "results" (arr [obj [
            field "declarations" (arr [obj [field "initializer" (ofOption δ.initializer),
              field "line_number" (num δ.line), field "name" (str δ.name),
              field "type_name" (str δ.typeName)]]),
            field "diagnostics" (arr []), field "lines" (arr []), field "passed" (bool true),
            field "stage" (str "semantic".toList),
            field "symbol_table" (obj [(δ.name, str δ.typeName)]), field "token_count" (num 0)]]),
          field "skipped" (arr [])]]),
        field "passed" (bool true)]) := by
  rw [document, ofFiles_eq, List.map_singleton, ofFile_eq]
  simp only [declaredReport, List.map_cons, List.map_nil, ofAnalysis_eq, Findings.declarations,
    ofDeclaration_eq, ofSymbols, Findings.symbols, Analysis.Semantic.tableOf, object,
    List.mergeSort_singleton]
  rfl

end DeclaredReport

/-- A source with a declaration. -/
def plainSource : SourceFile := ⟨⟨["a.java".toList]⟩, "int a;\n".toList⟩

/-- The same with a comment. -/
def commentedSource : SourceFile := ⟨⟨["a.java".toList]⟩, "int a; // none\n".toList⟩

/-- The report on them. -/
def plainReport : FileReport :=
  declaredReport "a.java".toList ⟨"int".toList, "a".toList, none, 1⟩

/-- The document does not tell the two sources apart, and neither do the reports. -/
theorem document_lossless_comment :
    [plainSource].map (fileReport (medalOptions none))
        = [commentedSource].map (fileReport (medalOptions none)) ∧
      Emoji.replaceCodes (document [plainReport]) = document [plainReport] := by
  have hplain : [plainSource].map (fileReport (medalOptions none)) = [plainReport] := by
    decide +kernel
  have hcommented : [commentedSource].map (fileReport (medalOptions none)) = [plainReport] := by
    decide +kernel
  have hshown : Emoji.replaceCodes (document [plainReport]) = document [plainReport] := by
    rw [plainReport, document_declaredReport]
    decide +kernel
  obtain ⟨hfile, hprint⟩ := document_lossless Host.standard.console (medalOptions none)
    (medalOptions none) [plainSource] [commentedSource]
  rw [hplain, hcommented] at hfile hprint ⊢
  exact ⟨(hfile rfl).trans (hprint hshown hshown rfl), hshown⟩

/-! ### Two spellings of an emoji code -/

/-- A directory in which the code of the medal stands in capitals. -/
def capitalListing : Listing :=
  .file "a.java".toList (Utf8.encode "String s = \":1ST_PLACE_MEDAL:\";\n".toList) .nil

/-- Its source. -/
def capitalSource : SourceFile :=
  ⟨⟨["a.java".toList]⟩, "String s = \":1ST_PLACE_MEDAL:\";\n".toList⟩

/-- The report on it. -/
def capitalReport : FileReport := declaredReport "a.java".toList
  ⟨"String".toList, "s".toList, some "\":1ST_PLACE_MEDAL:\"".toList, 1⟩

theorem medalReport_eq : medalReport = declaredReport "a.java".toList
    ⟨"String".toList, "s".toList, some "\":1st_place_medal:\"".toList, 1⟩ := rfl

/-- Two commands print the same, though they have found different initializers. -/
theorem exists_same_print : ∃ r r', run .standard medalListing medalWords = .ok r ∧
    Shows medalListing (medalOptions none) [medalReport] r ∧
    run .standard capitalListing medalWords = .ok r' ∧
    Shows capitalListing (medalOptions none) [capitalReport] r' ∧
    r.stdout = r'.stdout ∧ medalReport ≠ capitalReport := by
  have hload : Host.standard.load capitalListing (Path.ofText "a.java".toList) defaultSuffixes
      = .ok [capitalSource] := by decide +kernel
  have hreport : fileReport (medalOptions none) capitalSource = capitalReport := by decide +kernel
  have hrun := run_of_load ofWords?_medalWords load_medalListing (List.cons_ne_nil medalSource [])
  have hrun' := run_of_load ofWords?_medalWords hload (List.cons_ne_nil capitalSource [])
  rw [List.map_singleton, fileReport_medalSource] at hrun
  rw [List.map_singleton, hreport] at hrun'
  obtain ⟨r, hr, hshows⟩ : ∃ r, showReports .standard medalListing (medalOptions none)
      [medalReport] = .ok r ∧ Shows medalListing (medalOptions none) [medalReport] r :=
    shows_of_canShow (canShow_of_json rfl rfl)
  obtain ⟨r', hr', hshows'⟩ : ∃ r', showReports .standard capitalListing (medalOptions none)
      [capitalReport] = .ok r' ∧ Shows capitalListing (medalOptions none) [capitalReport] r' :=
    shows_of_canShow (canShow_of_json rfl rfl)
  have hprint : Emoji.replaceCodes (document [medalReport])
      = Emoji.replaceCodes (document [capitalReport]) := by
    rw [medalReport_eq, capitalReport, document_declaredReport, document_declaredReport]
    decide +kernel
  refine ⟨r, r', hrun.trans hr, hshows, hrun'.trans hr', hshows', ?_, by decide +kernel⟩
  have hstdout := (hshows.payload rfl).1
  have hstdout' := (hshows'.payload rfl).1
  rw [hstdout, hstdout']
  exact congrArg (· ++ ['\n']) hprint

end Command

end VarDecl
