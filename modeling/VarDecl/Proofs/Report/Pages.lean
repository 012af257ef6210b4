import VarDecl.Proofs.Traversal
import VarDecl.Report.Table

/-!
# Pages that the console shows

A page is shown exactly if the console shows each text of it in which it reads tags
(`Table.exists_page_iff`, `Terminal.exists_plainPage_iff`).
-/

namespace VarDecl.Report

variable {console : Markup.Console} {f : FileReport}

theorem Terminal.exists_plainPage_iff :
    (∃ t, plainPage console f = .ok t) ↔ ∃ shown, console f.path = .ok shown := by
  simp [plainPage, exists_bind_iff, pure, Except.pure]

namespace Table

/-- The texts of a page in which the console reads tags. -/
def texts (f : FileReport) : List Text :=
  f.path :: (titles :: rows f).flatMap fun r => r.cells.map Prod.fst

theorem Row.exists_shown_iff {r : Row} : (∃ r', r.shown console = .ok r') ↔
    ∀ cell ∈ r.cells, ∃ shown, console cell.1 = .ok shown := by
  simp [Row.shown, Row.cells, exists_bind_iff, pure, Except.pure]

theorem exists_page_iff :
    (∃ t, page console f = .ok t) ↔ ∀ t ∈ texts f, ∃ shown, console t = .ok shown := by
  have hrows : (∃ rs, (rows f).mapM (Row.shown console) = .ok rs) ↔
      ∀ r ∈ rows f, ∀ cell ∈ r.cells, ∃ shown, console cell.1 = .ok shown := by
    simp only [exists_mapM_iff, Row.exists_shown_iff]
  have htitles := @Row.exists_shown_iff console titles
  have hpage : (∃ t, page console f = .ok t) ↔ (∃ shown, console f.path = .ok shown) ∧
      (∃ r, titles.shown console = .ok r) ∧
        ∃ rs, (rows f).mapM (Row.shown console) = .ok rs := by
    simp [page, exists_bind_iff, pure, Except.pure]
  rw [hpage, htitles, hrows, texts, List.forall_mem_cons, List.forall_mem_flatMap,
    List.forall_mem_cons]
  simp only [List.forall_mem_map]

end Table

end VarDecl.Report
