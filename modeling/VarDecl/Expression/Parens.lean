import VarDecl.Expression.TopLevel

/-!
# Enclosing parentheses

`stripParens` removes the pairs of parentheses that wrap a whole expression, and the blanks around
each of them. A pair wraps the expression when its opening parenthesis comes first and is closed by
the last character; parentheses inside literals do not count.
-/

namespace VarDecl.Expression

/-- The index, counted from `i`, of the `)` that brings the depth to zero, in state `s`. -/
def closingIndexFrom (s : Scan) (i : Nat) : Text → Option Nat
  | [] => none
  | c :: r =>
    if s.quote = none ∧ c = ')' ∧ (s.step c).depth = 0 then some i
    else closingIndexFrom (s.step c) (i + 1) r

/-- A text whose first character opens the parenthesis that its last character closes. -/
def isEnclosed (t : Text) : Bool :=
  t.head? == some '(' && closingIndexFrom .start 0 t == some (t.length - 1)

/-- The text between the first and the last character. -/
def inner (t : Text) : Text := t.tail.dropLast

/-- Remove blanks and enclosing parentheses, from the outside in. -/
def stripParens (t : Text) : Text :=
  if isEnclosed t.trim then stripParens (inner t.trim) else t.trim
termination_by t.length
decreasing_by
  rename_i h
  have hne : t.trim ≠ [] := by
    intro h0
    simp [isEnclosed, h0] at h
  have := List.length_pos_iff.2 hne
  have := Text.length_trim_le t
  simp only [inner, List.length_dropLast, List.length_tail]
  omega

end VarDecl.Expression
