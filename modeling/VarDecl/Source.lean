import VarDecl.Comment

/-!
# Source lines

A source is analysed line by line. Lines are numbered from 1, blank ones included, after the
comments have been removed or kept.
-/

namespace VarDecl

/-- One line of a source. -/
structure SourceLine where
  number : Nat
  raw : Text
  deriving DecidableEq

namespace SourceLine

/-- The line without the blanks at its ends. -/
def text (l : SourceLine) : Text := l.raw.trim

/-- A line of blanks only. -/
def isBlank (l : SourceLine) : Bool := l.text.isEmpty

end SourceLine

namespace Source

/-- Number lines from a given number on. -/
def numberFrom : Nat → List Text → List SourceLine
  | _, [] => []
  | n, l :: rest => ⟨n, l⟩ :: numberFrom (n + 1) rest

/-- All lines of a source, with or without its comments. -/
def lines (stripComments : Bool) (source : Text) : List SourceLine :=
  numberFrom 1 (if stripComments then Comment.strip source else source).lines

/-- The lines that hold more than blanks. -/
def nonblankLines (stripComments : Bool) (source : Text) : List SourceLine :=
  (lines stripComments source).filter fun l => !l.isBlank

/-- A source of blanks only, comments counting as text. -/
def isEmpty (source : Text) : Bool := source.all Text.isBlank

end Source

end VarDecl
