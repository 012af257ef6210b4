import VarDecl.Text.Basic

/-!
# Comments

Removal of comments that leaves literals and line numbers alone.

* A line comment runs from `//` up to its newline, which stays. A block comment runs from `/*` to
  the next `*/`, or to the end of the text; the newlines inside it stay.
* Inside a literal nothing is a comment. A literal ends at its quote or before a newline, and a
  backslash takes the next character with it unless that is a newline.

`strip` removes the comments and `modeAfter` tells what is open where a text ends. Both follow one
`Mode`, which changes as the text is read from left to right.

* `count_newline_strip`: stripping keeps the number of newlines.
-/

namespace VarDecl.Comment

/-- What the reader is inside of. -/
inductive Mode
  | code
  | literal (quote : Char)
  | line
  | block
  deriving DecidableEq

/-- The mode after the character `c` of code, which starts no comment. -/
def Mode.afterCode (c : Char) : Mode := if c = '"' ∨ c = '\'' then .literal c else .code

/-- The mode after the character `c` of a literal, which is not escaped. -/
def Mode.afterLiteral (quote c : Char) : Mode :=
  if c = quote ∨ c = '\n' then .code else .literal quote

/-- The text without its comments, when it is read in a given mode. -/
def stripFrom : Mode → Text → Text
  | _, [] => []
  | .code, '/' :: '/' :: r => stripFrom .line r
  | .code, '/' :: '*' :: r => stripFrom .block r
  | .code, c :: r => c :: stripFrom (.afterCode c) r
  | .literal q, '\\' :: c :: r =>
    if c = '\n' then '\\' :: '\n' :: stripFrom .code r else '\\' :: c :: stripFrom (.literal q) r
  | .literal q, c :: r => c :: stripFrom (.afterLiteral q c) r
  | .line, c :: r => if c = '\n' then '\n' :: stripFrom .code r else stripFrom .line r
  | .block, '*' :: '/' :: r => stripFrom .code r
  | .block, c :: r => if c = '\n' then '\n' :: stripFrom .block r else stripFrom .block r

/-- The mode at the end of a text that is read in a given mode. -/
def modeFrom : Mode → Text → Mode
  | m, [] => m
  | .code, '/' :: '/' :: r => modeFrom .line r
  | .code, '/' :: '*' :: r => modeFrom .block r
  | .code, c :: r => modeFrom (.afterCode c) r
  | .literal q, '\\' :: c :: r => if c = '\n' then modeFrom .code r else modeFrom (.literal q) r
  | .literal q, c :: r => modeFrom (.afterLiteral q c) r
  | .line, c :: r => if c = '\n' then modeFrom .code r else modeFrom .line r
  | .block, '*' :: '/' :: r => modeFrom .code r
  | .block, _ :: r => modeFrom .block r

/-- Remove all comments. -/
def strip (t : Text) : Text := stripFrom .code t

/-- What is open at the end of a text. -/
def modeAfter (t : Text) : Mode := modeFrom .code t

@[simp] theorem stripFrom_nil (m : Mode) : stripFrom m [] = [] := by rw [stripFrom]

@[simp] theorem modeFrom_nil (m : Mode) : modeFrom m [] = m := by rw [modeFrom]

/-- Stripping keeps the number of newlines. -/
theorem count_newline_stripFrom (m : Mode) (t : Text) :
    (stripFrom m t).count '\n' = t.count '\n' := by
  fun_induction stripFrom m t <;> simp_all [List.count_cons]

/-- Stripping keeps the number of newlines. -/
theorem count_newline_strip (t : Text) : (strip t).count '\n' = t.count '\n' :=
  count_newline_stripFrom .code t

end VarDecl.Comment
