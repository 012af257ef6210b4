import VarDecl.Text.Basic
import VarDecl.Text.Width

/-!
# Columns of a terminal

The columns that a text takes on a terminal: those of its characters, less what a joiner joins.
-/

namespace VarDecl.Report

/-- The character that draws the next one over the one before. -/
def joiner : Char := '\u200d'

/-- The number of columns of a text. A joiner takes none, and neither does the character after
it. -/
def columns : Text → Nat
  | [] => 0
  | [c] => Text.width c
  | c :: d :: r => if c = joiner then columns r else Text.width c + columns (d :: r)

@[simp] theorem columns_nil : columns [] = 0 := rfl

/-- The longest part at the start of a text that fits into some columns. -/
def takeColumns (available : Nat) : Text → Text
  | [] => []
  | [c] => if Text.width c ≤ available then [c] else []
  | c :: d :: r =>
    if c = joiner then c :: d :: takeColumns available r
    else if Text.width c ≤ available then
      c :: takeColumns (available - Text.width c) (d :: r)
    else []

/-- Some blanks. -/
def blanks (n : Nat) : Text := List.replicate n ' '

/-- A text with blanks behind it until some columns are taken. A joiner at its end takes the first
blank away, and another one replaces it. -/
def padRight (wanted : Nat) (t : Text) : Text :=
  let padded := t ++ blanks (wanted - columns t)
  padded ++ blanks (wanted - columns padded)

/-- A text with blanks before it until some columns are taken. -/
def padLeft (wanted : Nat) (t : Text) : Text := blanks (wanted - columns t) ++ t

end VarDecl.Report
