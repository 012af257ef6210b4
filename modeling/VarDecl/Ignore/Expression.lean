import VarDecl.Ignore.Shape

/-!
# Patterns as regular expressions

The regular expression that asks of a path what a shape asks. It serves to say where a range of a
bracketed set is reversed, which makes the set senseless.

* `Shape.pieces` are the pieces of the expression from left to right, each range being a piece of
  its own, and `Shape.expression` is their text;
* `Shape.reversedRange?` finds the first range whose last character comes before its first one.
-/

namespace VarDecl.Ignore

/-- A piece of a regular expression: a range of a set, or some text. -/
inductive ExpressionPiece
  | text (t : Text)
  | range (first last : Char)
  deriving DecidableEq

namespace ExpressionPiece

/-- A member of a set; a backslash is written twice. -/
def member (c : Char) : Text := if c = '\\' then ['\\', '\\'] else [c]

/-- A range of a set. -/
def rangeText (first last : Char) : Text := member first ++ '-' :: member last

/-- The text of a piece. -/
def toText : ExpressionPiece → Text
  | text t => t
  | range first last => rangeText first last

end ExpressionPiece

/-- The characters that have a meaning of their own in expressions. -/
def specialChars : Text := "()[]\x7b\x7d?*+-|^$\\.&~# \t\n\r\x0b\x0c".toList

/-- A character that stands for itself. -/
def escapeLiteral (c : Char) : Text := if specialChars.contains c then ['\\', c] else [c]

/-- The piece for a part of a set. -/
def SetItem.piece : SetItem → ExpressionPiece
  | char c => .text (ExpressionPiece.member c)
  | range first last => .range first last

/-- The pieces for a set. -/
def CharSet.pieces (s : CharSet) : List ExpressionPiece :=
  .text (if s.negated then ['[', '^'] else ['[']) :: s.items.map SetItem.piece ++ [.text [']']]

/-- The pieces for an item of a glob. -/
def GlobItem.pieces : GlobItem → List ExpressionPiece
  | literal c => [.text (escapeLiteral c)]
  | one => [.text "[^/]".toList]
  | many => [.text "[^/]*".toList]
  | set s => s.pieces

/-- The pieces for a named segment. -/
def Segment.pieces : Segment → List ExpressionPiece
  | anyDepth => []
  | anyName => [.text "[^/]+".toList]
  | glob g => g.flatMap GlobItem.pieces

/-- The piece for the end of a match. -/
def endPiece : ExpressionPiece := .text "(?:(?P<directory>/)|$)".toList

/-- The piece for all that lies below a directory. -/
def belowPiece (directory : Bool) : ExpressionPiece :=
  .text (if directory then "(?P<directory>/)".toList else "/".toList)

namespace Shape

/-- The pieces for the segments after the first. -/
def piecesRest (directory : Bool) : List Segment → List ExpressionPiece
  | [] => [endPiece]
  | [.anyDepth] => [belowPiece directory]
  | .anyDepth :: rest => .text "(?:/.+)?".toList :: piecesRest directory rest
  | s :: rest => .text ['/'] :: s.pieces ++ piecesRest directory rest

/-- The pieces of the expression for a shape. -/
def pieces : Shape → List ExpressionPiece
  | something => [.text ['.']]
  | slash directory => [belowPiece directory]
  | path directory (.anyDepth :: s :: rest) =>
    .text "^(?:.+/)?".toList :: s.pieces ++ piecesRest directory rest
  | path directory (s :: rest) => .text ['^'] :: s.pieces ++ piecesRest directory rest
  | path _ [] => []

/-- The expression for a shape. -/
def expression (s : Shape) : Text := s.pieces.flatMap ExpressionPiece.toText

end Shape

/-- A range that ends before it starts, with its place in an expression. -/
structure ReversedRange where
  first : Char
  last : Char
  expression : Text
  position : Nat
  deriving DecidableEq

/-- The wording of the error. The line and the column are given if there is more than one line. -/
def ReversedRange.message (r : ReversedRange) : Text :=
  let before := r.expression.take r.position
  let line := before.count '\n' + 1
  let column := (before.reverse.takeWhile (· != '\n')).length + 1
  "bad character range ".toList ++ ExpressionPiece.rangeText r.first r.last
    ++ " at position ".toList ++ Text.ofNat r.position
    ++ if r.expression.contains '\n' then
        " (line ".toList ++ Text.ofNat line ++ ", column ".toList ++ Text.ofNat column ++ [')']
      else []

/-- The first reversed range of some pieces, which start at a position of an expression. -/
def firstReversed? (expression : Text) (position : Nat) :
    List ExpressionPiece → Option ReversedRange
  | [] => none
  | .range first last :: rest =>
    if last.toNat < first.toNat then some ⟨first, last, expression, position⟩
    else firstReversed? expression (position + (ExpressionPiece.rangeText first last).length) rest
  | .text t :: rest => firstReversed? expression (position + t.length) rest

/-- The first reversed range of a shape. -/
def Shape.reversedRange? (s : Shape) : Option ReversedRange :=
  firstReversed? s.expression 0 s.pieces

end VarDecl.Ignore
