import VarDecl.Proofs.Analysis.Wording
import VarDecl.Report

/-!
# Reading reports back

The report on an analysis of a stage stands on lines that can be told apart.

* `lines_unlines`: a report is cut into its lines again, as no line holds a newline
  (`notMem_analysisLines`);
* `heading_inj`: the first line tells the stage and whether it passed. The lines behind it tell the
  diagnostics (`diagnosticLines_inj`, where a line of a suggestion is none of a diagnostic) or the
  details (`detailLines_inj`);
* `ofAnalysis_readable` puts them together.
-/

namespace VarDecl

open Text

theorem Stage.mem_all (s : Stage) : s ∈ Stage.all := by cases s <;> decide

theorem LexemeKind.notMem_name (k : LexemeKind) : '\n' ∉ k.name := by cases k <;> decide

theorem Diagnostic.IsReadable.notMem_render {d : Diagnostic} (h : d.IsReadable) :
    '\n' ∉ d.render := by
  obtain ⟨line, φ, o⟩ := d
  cases line with
  | none => exact h.message
  | some n =>
    have hdigits : '\n' ∉ ofNat n := notMem_ofNat (by decide) n
    exact List.not_mem_append (List.not_mem_append (List.not_mem_append (by decide) hdigits)
      (by decide)) h.message

theorem Diagnostic.IsReadable.notMem_hint {d : Diagnostic} (h : d.IsReadable) {t : Text}
    (ht : t ∈ d.hint) : '\n' ∉ t := by
  obtain ⟨x, hx, rfl⟩ := Option.map_eq_some_iff.1 ht
  exact List.not_mem_append (List.not_mem_append (by decide) (h.suggestion x hx)) (by decide)

namespace Report

variable {a b : Analysis} {details : Bool} {l : Text} {ls ms : List Text}

/-! ### Lines -/

/-- Lines without newlines are found again, and an empty one behind the last newline. -/
theorem lines_unlines (h : ∀ l ∈ ls, '\n' ∉ l) : (unlines ls).lines = ls ++ [[]] := by
  induction ls with
  | nil => rfl
  | cons l ls ih =>
    obtain ⟨hl, hls⟩ := List.forall_mem_cons.1 h
    rw [unlines_cons, lines_append_newline, lines_eq_singleton hl, ih hls]
    rfl

theorem unlines_inj (hl : ∀ l ∈ ls, '\n' ∉ l) (hm : ∀ l ∈ ms, '\n' ∉ l)
    (h : unlines ls = unlines ms) : ls = ms := by
  have hlines := congrArg Text.lines h
  rw [lines_unlines hl, lines_unlines hm] at hlines
  exact List.append_cancel_right hlines

/-- The first line of a report. -/
def heading (s : Stage) (passed : Bool) : Text :=
  title s ++ (if passed then " PASSED".toList else " FAILED".toList)

theorem notMem_heading (s : Stage) (passed : Bool) : '\n' ∉ heading s passed := by
  cases s <;> cases passed <;> decide +kernel

theorem heading_inj : ∀ s ∈ Stage.all, ∀ s' ∈ Stage.all, ∀ p p' : Bool,
    heading s p = heading s' p' → s = s' ∧ p = p' := by
  decide +kernel

/-- The lines behind the first one. -/
def bodyLines (details : Bool) (a : Analysis) : List Text :=
  if a.passed then (if details then detailLines a.findings else [])
  else [] :: "Errors:".toList :: a.diagnostics.flatMap (diagnosticLines details)

theorem analysisLines_eq (details : Bool) (a : Analysis) :
    analysisLines details a = heading a.stage a.passed :: bodyLines details a := by
  unfold analysisLines heading bodyLines
  cases a.passed <;> rfl

/-! ### No line holds a newline -/

theorem notMem_renderLexeme {x : Lexeme} (h : '\n' ∉ x.text) : '\n' ∉ x.render := by
  have hkind := x.kind.notMem_name
  simp [Lexeme.render, h, hkind]

theorem notMem_intercalate {c : Char} (hls : ∀ l ∈ ls, c ∉ l) (hl : c ∉ l) :
    c ∉ List.intercalate l ls := by
  induction ls with
  | nil => exact List.not_mem_nil
  | cons m ls ih =>
    obtain ⟨hm, hls⟩ := List.forall_mem_cons.1 hls
    cases ls with
    | nil => rwa [List.intercalate_singleton]
    | cons n ls =>
      rw [List.intercalate_cons_cons, List.mem_append, List.mem_append, not_or, not_or]
      exact ⟨⟨hm, hl⟩, ih hls⟩

theorem notMem_renderTokenizedLine {t : TokenizedLine} (h : ∀ x ∈ t.lexemes, '\n' ∉ x.text) :
    '\n' ∉ t.render := by
  have hdigits : '\n' ∉ ofNat t.line := notMem_ofNat (by decide) t.line
  have hlexemes : '\n' ∉ List.intercalate ", ".toList (t.lexemes.map Lexeme.render) := by
    refine notMem_intercalate (fun l hl => ?_) (by decide)
    obtain ⟨x, hx, rfl⟩ := List.mem_map.1 hl
    exact notMem_renderLexeme (h x hx)
  exact List.not_mem_append (List.not_mem_append (List.not_mem_append (by decide) hdigits)
    (by decide)) hlexemes

theorem notMem_detailLines (ha : a.IsReadable) (hl : l ∈ detailLines a.findings) : '\n' ∉ l := by
  obtain ⟨findings, ds⟩ := a
  cases findings with
  | lexical ts =>
    rcases List.mem_cons.1 hl with rfl | hl
    · exact List.not_mem_nil
    rcases List.mem_cons.1 hl with rfl | hl
    · exact List.not_mem_append (by decide) (notMem_ofNat (by decide) _)
    · obtain ⟨t, ht, rfl⟩ := List.mem_map.1 hl
      exact notMem_renderTokenizedLine (ha.lexemes t ht)
  | grammatical δs => cases hl
  | semantic δs Γ =>
    change l ∈ if Γ.entries.isEmpty then [] else
      [] :: "Symbol table:".toList :: Γ.entries.map symbolLine at hl
    split at hl
    case isTrue => cases hl
    case isFalse =>
      rcases List.mem_cons.1 hl with rfl | hl
      · exact List.not_mem_nil
      rcases List.mem_cons.1 hl with rfl | hl
      · decide
      · obtain ⟨e, he, rfl⟩ := List.mem_map.1 hl
        obtain ⟨hname, htype⟩ := ha.symbols e he
        exact List.not_mem_append (List.not_mem_append (hname.notMem (by decide)) (by decide)) htype

theorem notMem_diagnosticLines {d : Diagnostic} (hd : d.IsReadable)
    (hl : l ∈ diagnosticLines details d) : '\n' ∉ l := by
  rcases List.mem_cons.1 hl with rfl | hl
  · exact hd.notMem_render
  · split at hl
    case isTrue =>
      obtain ⟨t, ht, rfl⟩ := List.mem_map.1 hl
      exact List.not_mem_append (by decide) (hd.notMem_hint (Option.mem_toList.1 ht))
    case isFalse => cases hl

theorem notMem_analysisLines (ha : a.IsReadable) (hl : l ∈ analysisLines details a) :
    '\n' ∉ l := by
  rw [analysisLines_eq] at hl
  rcases List.mem_cons.1 hl with rfl | hl
  · exact notMem_heading _ _
  unfold bodyLines at hl
  split at hl
  case isTrue =>
    split at hl
    case isTrue => exact notMem_detailLines ha hl
    case isFalse => cases hl
  case isFalse =>
    rcases List.mem_cons.1 hl with rfl | hl
    · exact List.not_mem_nil
    rcases List.mem_cons.1 hl with rfl | hl
    · decide
    · obtain ⟨d, hd, hl⟩ := List.mem_flatMap.1 hl
      exact notMem_diagnosticLines (ha.diagnostics d hd) hl

/-! ### What the lines tell -/

theorem symbolLine_inj {e e' : Text × Text} (he : Name.IsName e.1) (he' : Name.IsName e'.1)
    (h : symbolLine e = symbolLine e') : e = e' := by
  have hblank : isWordChar ' ' = false := by decide
  simp only [symbolLine, List.append_assoc] at h
  obtain ⟨hname, htype⟩ := append_cons_inj_of_notMem (he.notMem hblank) (he'.notMem hblank) h
  exact Prod.ext hname (List.cons.inj (List.cons.inj htype).2).2

/-- The details of a stage tell its lexemes and its symbols. -/
theorem detailLines_inj (ha : a.IsReadable) (hb : b.IsReadable) (hstage : a.stage = b.stage)
    (h : detailLines a.findings = detailLines b.findings) :
    a.findings.tokenCount = b.findings.tokenCount ∧
      a.findings.lines.map TokenizedLine.render = b.findings.lines.map TokenizedLine.render ∧
      a.findings.symbols = b.findings.symbols := by
  obtain ⟨findings, ds⟩ := a
  obtain ⟨findings', ds'⟩ := b
  cases findings with
  | lexical ts =>
    cases findings' with
    | lexical ts' =>
      obtain ⟨hcount, hlines⟩ := List.cons.inj (List.cons.inj h).2
      exact ⟨ofNat_injective (List.append_cancel_left hcount), hlines, rfl⟩
    | _ => cases hstage
  | grammatical δs =>
    cases findings' with
    | grammatical δs' => exact ⟨rfl, rfl, rfl⟩
    | _ => cases hstage
  | semantic δs Γ =>
    cases findings' with
    | semantic δs' Γ' =>
      obtain ⟨es⟩ := Γ
      obtain ⟨es'⟩ := Γ'
      refine ⟨rfl, rfl, congrArg SymbolTable.mk ?_⟩
      match es, es' with
      | [], [] => rfl
      | [], e' :: es' => cases h
      | e :: es, [] => cases h
      | e :: es, e' :: es' =>
        exact map_inj_of_mem (fun x hx y hy => symbolLine_inj (ha.symbols x hx).1
          (hb.symbols y hy).1) (List.cons.inj (List.cons.inj h).2).2
    | _ => cases hstage

/-- The lines of suggestions. -/
def hintLines (d : Diagnostic) : List Text := d.hint.toList.map ("  hint: ".toList ++ ·)

theorem diagnosticLines_true (d : Diagnostic) : diagnosticLines true d = d.render :: hintLines d :=
  rfl

/-- The line of a suggestion is not taken for one of the next diagnostic. -/
theorem ne_hintLine_of_head {ds : List Diagnostic} {t : Text}
    (h : l ∈ (ds.flatMap (diagnosticLines true)).head?) : l ≠ "  hint: ".toList ++ t := by
  cases ds with
  | nil => cases h
  | cons d ds =>
    obtain rfl : d.render = l := Option.some.inj h
    obtain ⟨c, u, hd, hc⟩ := d.exists_render_eq_cons
    rw [hd]
    exact fun heq => hc (List.cons.inj heq).1

theorem hintLines_append_inj {d e : Diagnostic} {ds es : List Diagnostic}
    (h : hintLines d ++ ds.flatMap (diagnosticLines true)
      = hintLines e ++ es.flatMap (diagnosticLines true)) :
    d.hint = e.hint ∧ ds.flatMap (diagnosticLines true) = es.flatMap (diagnosticLines true) := by
  unfold hintLines at h
  cases hd : d.hint with
  | none =>
    cases he : e.hint with
    | none =>
      rw [hd, he] at h
      exact ⟨rfl, h⟩
    | some t =>
      rw [hd, he] at h
      exact absurd rfl (ne_hintLine_of_head (congrArg List.head? h))
  | some t =>
    cases he : e.hint with
    | none =>
      rw [hd, he] at h
      exact absurd rfl (ne_hintLine_of_head (congrArg List.head? h.symm))
    | some u =>
      rw [hd, he] at h
      obtain ⟨hhint, hrest⟩ := List.cons.inj h
      exact ⟨congrArg some (List.append_cancel_left hhint), hrest⟩

theorem diagnosticLines_inj {ds es : List Diagnostic} (hds : ∀ d ∈ ds, d.IsReadable)
    (hes : ∀ e ∈ es, e.IsReadable)
    (h : ds.flatMap (diagnosticLines true) = es.flatMap (diagnosticLines true)) : ds = es := by
  induction ds generalizing es with
  | nil =>
    cases es with
    | nil => rfl
    | cons e es => cases h
  | cons d ds ih =>
    cases es with
    | nil => cases h
    | cons e es =>
      obtain ⟨hd, hds'⟩ := List.forall_mem_cons.1 hds
      obtain ⟨he, hes'⟩ := List.forall_mem_cons.1 hes
      simp only [List.flatMap_cons, diagnosticLines_true, List.cons_append] at h
      obtain ⟨hrender, hlines⟩ := List.cons.inj h
      obtain ⟨hhint, hrest⟩ := hintLines_append_inj hlines
      obtain ⟨hline, hfault⟩ := Diagnostic.render_inj hd.clear he.clear hrender
      obtain ⟨line, φ, o⟩ := d
      obtain ⟨line', ψ, o'⟩ := e
      obtain rfl : line = line' := hline
      obtain rfl : φ = ψ := hfault
      obtain rfl : o = o' := Diagnostic.hint_inj hhint
      rw [ih hds' hes' hrest]

/-! ### Reports -/

/-- Without details, the report on a failed analysis has a line for each diagnostic. -/
theorem lines_ofAnalysis_of_failed (ha : a.IsReadable) (h : a.passed = false) :
    (ofAnalysis false a).lines = (title a.stage ++ " FAILED".toList) :: [] :: "Errors:".toList
      :: a.diagnostics.map Diagnostic.render ++ [[]] := by
  have hlines : analysisLines false a = (title a.stage ++ " FAILED".toList) :: [] ::
      "Errors:".toList :: a.diagnostics.map Diagnostic.render := by
    rw [analysisLines, if_neg (by rw [h]; exact Bool.false_ne_true), ← List.flatMap_pure_eq_map]
    rfl
  rw [ofAnalysis, lines_unlines fun l => notMem_analysisLines ha, hlines]

/-- What two analyses have in common whose detailed reports are the same. -/
structure SameReport (a b : Analysis) : Prop where
  stage : a.stage = b.stage
  passed : a.passed = b.passed
  diagnostics : a.diagnostics = b.diagnostics
  details : a.passed = true → a.findings.tokenCount = b.findings.tokenCount ∧
    a.findings.lines.map TokenizedLine.render = b.findings.lines.map TokenizedLine.render ∧
    a.findings.symbols = b.findings.symbols

theorem sameReport_of_ofAnalysis_eq (ha : a.IsReadable) (hb : b.IsReadable)
    (h : ofAnalysis true a = ofAnalysis true b) : SameReport a b := by
  have hlines := unlines_inj (fun l => notMem_analysisLines ha) (fun l => notMem_analysisLines hb) h
  rw [analysisLines_eq, analysisLines_eq] at hlines
  obtain ⟨hheading, hbody⟩ := List.cons.inj hlines
  obtain ⟨hstage, hpassed⟩ :=
    heading_inj _ (Stage.mem_all a.stage) _ (Stage.mem_all b.stage) _ _ hheading
  unfold bodyLines at hbody
  rw [← hpassed] at hbody
  cases hp : a.passed with
  | true =>
    rw [hp] at hbody
    have hdiagnostics : a.diagnostics = b.diagnostics :=
      (Analysis.passed_iff.1 hp).trans (Analysis.passed_iff.1 (hpassed ▸ hp)).symm
    exact ⟨hstage, hpassed, hdiagnostics, fun _ => detailLines_inj ha hb hstage hbody⟩
  | false =>
    rw [hp] at hbody
    have hdiagnostics : a.diagnostics = b.diagnostics :=
      diagnosticLines_inj ha.diagnostics hb.diagnostics (List.cons.inj (List.cons.inj hbody).2).2
    exact ⟨hstage, hpassed, hdiagnostics, fun htrue => Bool.noConfusion (hp.symm.trans htrue)⟩

/-- The report on a failed analysis is cut into the title and the diagnostics, and a report with
details tells what a reader wants to know about the analysis. -/
theorem ofAnalysis_readable :
    (∀ (s : Stage) (σ : Settings) (source : Text), (s.analyze σ source).passed = false →
      (ofAnalysis false (s.analyze σ source)).lines = (title s ++ " FAILED".toList) :: []
        :: "Errors:".toList :: (s.analyze σ source).diagnostics.map Diagnostic.render ++ [[]]) ∧
    ∀ (s s' : Stage) (σ σ' : Settings) (source source' : Text),
      ofAnalysis true (s.analyze σ source) = ofAnalysis true (s'.analyze σ' source') →
        s = s' ∧ SameReport (s.analyze σ source) (s'.analyze σ' source') := by
  constructor
  · intro s σ source h
    rw [lines_ofAnalysis_of_failed (Analysis.isReadable_analyze s σ source) h, Stage.stage_analyze]
  · intro s s' σ σ' source source' h
    have hsame := sameReport_of_ofAnalysis_eq (Analysis.isReadable_analyze s σ source)
      (Analysis.isReadable_analyze s' σ' source') h
    have hstage := hsame.stage
    rw [Stage.stage_analyze, Stage.stage_analyze] at hstage
    exact ⟨hstage, hsame⟩

/-- The report on a failed analysis, and the lexemes of two sources that differ in their blanks. -/
theorem ofAnalysis_readable_blanks :
    (ofAnalysis false (Stage.semantic.analyze .default "int a = b;".toList)).lines
        = ["SEMANTIC ANALYSIS FAILED".toList, [], "Errors:".toList,
          "Line 1: Undefined variable 'b' used in assignment to 'a'".toList, []] ∧
      SameReport (Stage.lexical.analyze .default "int a;".toList)
        (Stage.lexical.analyze .default " int  a ;".toList) := by
  have hlines := ofAnalysis_readable.1 .semantic .default "int a = b;".toList (by decide +kernel)
  have hsame := ofAnalysis_readable.2 .lexical .lexical .default .default "int a;".toList
    " int  a ;".toList (by decide +kernel)
  exact ⟨hlines.trans (by decide +kernel), hsame.2⟩

end Report

end VarDecl
