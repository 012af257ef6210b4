import VarDecl.Report
import VarDecl.Report.Columns
import VarDecl.Report.Document
import VarDecl.Report.Markup

/-!
# Reports on a terminal

The terminal has eighty columns.

* `expandTabs` brings each tab to the next multiple of eight columns, and `printable` removes the
  control characters that would move the cursor. Before that, emoji codes become emoji;
* `rule` is a line of dashes around a title, which is given as the console shows it;
* `plainPage` shows the detailed reports of one file under a rule. The console reads tags in the
  title, but not in the reports.
-/

namespace VarDecl.Report.Terminal

/-- The number of columns. -/
def width : Nat := 80

/-- The distance of tab stops. -/
def tabStop : Nat := 8

/-- The control characters that a page does not show: bell, backspace, vertical tab, form feed and
carriage return. -/
def movesCursor (c : Char) : Bool :=
  c.toNat == 7 || c.toNat == 8 || (11 ≤ c.toNat && c.toNat ≤ 13)

/-- A text without the characters that move the cursor. -/
def printable (t : Text) : Text := t.filter fun c => !movesCursor c

/-- The pieces of a line, the first of which starts in a given column, with blanks between them up
to the next tab stops. -/
def spread (column : Nat) : List Text → Text
  | [] => []
  | [piece] => piece
  | piece :: rest =>
    let piece := piece ++ [' ']
    let reached := column + columns piece
    let gap := (tabStop - reached % tabStop) % tabStop
    piece ++ blanks gap ++ spread (reached + gap) rest

/-- Replace the tabs of a text. -/
def expandTabs (t : Text) : Text :=
  List.intercalate ['\n'] ((Text.lines (printable t)).map fun line => spread 0 (line.splitOn '\t'))

/-- A row of one character. -/
def repeated (n : Nat) (c : Char) : Text := List.replicate n c

/-- A title of one line, cut with an ellipsis when it leaves no room for the rule. -/
def ruleTitle (t : Text) : Text :=
  let t := expandTabs ((printable t).map fun c => if c = '\n' then ' ' else c)
  let room := width - 4
  if room < columns t then padRight (room - 1) (takeColumns (room - 1) t) ++ ['…'] else t

/-- A line of dashes around a title; the dashes on the right fill the line. -/
def rule (t : Text) : Text :=
  let title := ruleTitle t
  let taken := columns title
  let side := (width - taken) / 2
  let left := repeated (side - 1) '-'
  let right := repeated (min (width - left.length - taken) (side + 1)) '-'
  takeColumns width (left ++ [' '] ++ title ++ [' '] ++ right)

/-- The reports of one file. -/
def plainPage (console : Markup.Console) (f : FileReport) : Except Markup.Fault Text := do
  let title ← console f.path
  let reports := f.run.analyses.flatMap fun a =>
    expandTabs (Emoji.replaceCodes (Report.ofAnalysis true a)) ++ ['\n']
  let skipped := if f.run.skipped.isEmpty then [] else skippedLine f.run.skipped ++ ['\n']
  return rule title ++ ['\n'] ++ reports ++ skipped

end VarDecl.Report.Terminal
