import VarDecl.Text.Basic

/-!
# Declarations

A declaration is one variable that a source declares: its type as written, its name without array
suffixes, the text of its initializer and its line.
-/

namespace VarDecl

/-- A declared variable. -/
structure Declaration where
  typeName : Text
  name : Text
  /-- The text after the equals sign; `none` without one. -/
  initializer : Option Text
  line : Nat
  deriving DecidableEq

end VarDecl
