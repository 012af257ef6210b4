import VarDecl.Report.Terminal
import VarDecl.Report.Wrap

/-!
# Reports as tables

One table per file, as wide as the terminal: a row for each diagnostic, for each analysis that
passed and for each stage that was skipped.

* The columns for stage, status, line and kind are as wide as their longest cell; the message takes
  three quarters of what is left, rounded up, and the suggestion the rest;
* the console reads tags in the cells (`Row.shown`). What it shows is wrapped, and only the line
  numbers stand on the right.
-/

namespace VarDecl.Report.Table

open Terminal

/-- The cells of a row, from left to right. -/
structure Row where
  stage : Text
  status : Text
  line : Text
  kind : Text
  message : Text
  hint : Text

/-- The titles of the columns. -/
def titles : Row :=
  ⟨"stage".toList, "status".toList, "line".toList, "kind".toList, "message".toList, "hint".toList⟩

/-- What a passed analysis found. -/
def summary : Findings → Text
  | .lexical ls =>
    "tokens=".toList ++ Text.ofNat (Findings.lexical ls).tokenCount ++ " lines=".toList
      ++ Text.ofNat ls.length
  | .grammatical ds => "declarations=".toList ++ Text.ofNat ds.length
  | .semantic _ Γ => "symbols=".toList ++ Text.ofNat Γ.entries.length

/-- The row of a diagnostic. -/
def diagnosticRow (s : Stage) (d : Diagnostic) : Row :=
  ⟨s.name, "FAILED".toList, (d.line.map Text.ofNat).getD [], d.fault.kind.name, d.fault.message,
    d.hint.getD []⟩

/-- The rows of an analysis. -/
def analysisRows (a : Analysis) : List Row :=
  if a.passed then [⟨a.stage.name, "PASSED".toList, [], [], summary a.findings, []⟩]
  else a.diagnostics.map (diagnosticRow a.stage)

/-- The row of a stage that was skipped. -/
def skippedRow (name : Text) : Row := ⟨name, "SKIPPED".toList, [], [], [], []⟩

/-- The rows of a file. -/
def rows (f : FileReport) : List Row :=
  f.run.analyses.flatMap analysisRows ++ f.run.skipped.map skippedRow

/-- A row as the console shows it. -/
def Row.shown (console : Markup.Console) (r : Row) : Except Markup.Fault Row := do
  return ⟨← console r.stage, ← console r.status, ← console r.line, ← console r.kind,
    ← console r.message, ← console r.hint⟩

/-- The width of the longest cell of a column, with a blank on both sides. -/
def fittedWidth (cell : Row → Text) (rs : List Row) : Nat :=
  (rs.map fun r => (cell r).length).foldl max 0 + 2

/-- The widths of the columns of a table with the given rows, the titles among them; seven borders
stand between the columns. -/
def widths (rs : List Row) : List Nat :=
  let stage := fittedWidth Row.stage rs
  let status := fittedWidth Row.status rs
  let line := fittedWidth Row.line rs
  let kind := fittedWidth Row.kind rs
  let free := width - 7 - (stage + status + line + kind)
  let message := (3 * free + 3) / 4
  [stage, status, line, kind, message, free - message]

/-- The characters at the ends of a line, between its columns and, for a border, inside them. -/
structure Border where
  left : Char
  middle : Char
  right : Char
  fill : Char

/-- The line above the titles. -/
def topBorder : Border := ⟨'┏', '┳', '┓', '━'⟩
/-- The line below the titles. -/
def titleBorder : Border := ⟨'┡', '╇', '┩', '━'⟩
/-- The line between two rows. -/
def rowBorder : Border := ⟨'├', '┼', '┤', '─'⟩
/-- The line below the last row. -/
def bottomBorder : Border := ⟨'└', '┴', '┘', '─'⟩

/-- A line without cells. -/
def Border.render (b : Border) (ws : List Nat) : Text :=
  b.left :: List.intercalate [b.middle] (ws.map fun w => repeated w b.fill) ++ [b.right]

/-- A piece of a cell, filled up with blanks to a width. -/
def pad (onRight : Bool) (w : Nat) (t : Text) : Text :=
  if onRight then padLeft w (takeColumns w t) else padRight w (takeColumns w t)

/-- The lines of a cell of a given width with its blanks. -/
def cellLines (w : Nat) (t : Text) : List Text := wrap (w - 2) (expandTabs t)

/-- The cells of a row, and whether they stand on the right. -/
def Row.cells (r : Row) : List (Text × Bool) :=
  [(r.stage, false), (r.status, false), (r.line, true), (r.kind, false), (r.message, false),
    (r.hint, false)]

/-- The lines of a row, with a character between its cells. -/
def Row.render (bar : Char) (ws : List Nat) (r : Row) : List Text :=
  let columns := List.zipWith (fun w c => (w, c.2, cellLines w c.1)) ws r.cells
  let height := (columns.map fun c => c.2.2.length).foldl max 0
  (List.range height).map fun i =>
    let cells := columns.map fun (w, onRight, ls) =>
      ' ' :: pad onRight (w - 2) (ls[i]?.getD []) ++ [' ']
    bar :: List.intercalate [bar] cells ++ [bar]

/-- The lines of a table. -/
def render (titles : Row) (rs : List Row) : List Text :=
  let ws := widths (titles :: rs)
  let body := (rs.map (Row.render '│' ws)).intersperse [rowBorder.render ws]
  topBorder.render ws :: titles.render '┃' ws ++ titleBorder.render ws :: body.flatten
    ++ [bottomBorder.render ws]

/-- The table of one file under a rule. -/
def page (console : Markup.Console) (f : FileReport) : Except Markup.Fault Text := do
  let title ← console f.path
  let titles ← titles.shown console
  let rs ← (rows f).mapM (Row.shown console)
  return unlines (rule title :: render titles rs)

end VarDecl.Report.Table
