import VarDecl.Ignore.Expression
import VarDecl.Text.Quoted

/-!
# Ignore patterns

A line of an ignore file selects paths, or with a leading exclamation mark takes them back.

* `segments` cuts a line at its slashes. A line with no slash but perhaps a last one may match at
  any depth; a last slash asks for a directory; two stars stand for any number of directories.
* `Pattern.ofLine` reads a line: a pattern, nothing (blank lines, comments, unclosed brackets), or a
  `BadPattern`, which is a line without a shape or one with a reversed range.
-/

namespace VarDecl.Ignore

open Text

/-- A line that is no pattern. -/
inductive BadPattern
  | malformed (line : Text)
  | reversed (r : ReversedRange)
  deriving DecidableEq

/-- The wording of the error. -/
def BadPattern.message : BadPattern → Text
  | malformed line => "Invalid git pattern: ".toList ++ quote line
  | reversed r => r.message

/-- A pattern, and whether it selects or takes back. -/
structure Pattern where
  selects : Bool
  shape : Shape
  deriving DecidableEq

namespace Pattern

/-- Merge neighbouring segments of two stars. -/
def mergeDepths : List Text → List Text
  | a :: b :: r =>
    if a = ['*', '*'] ∧ b = ['*', '*'] then mergeDepths (b :: r) else a :: mergeDepths (b :: r)
  | r => r

/-- Mark patterns that may match at any depth, and forget a slash at the start. -/
def anchor : List Text → List Text
  | [] :: r => r
  | [a] => if a = ['*', '*'] then [a] else [['*', '*'], a]
  | [a, []] => if a = ['*', '*'] then [a, []] else [['*', '*'], a, []]
  | r => r

/-- The last segment of a pattern that ends with a slash stands for all below the directory. -/
def openLast (segments : List Text) : List Text :=
  if segments.getLast? = some [] then segments.dropLast ++ [['*', '*']] else segments

/-- The segments of a pattern. -/
def segments (t : Text) : List Text := mergeDepths (openLast (anchor (t.splitOn '/')))

/-- Read one segment. -/
def segment (t : Text) : Except GlobFault Segment :=
  if t = ['*', '*'] then .ok .anyDepth
  else if t = ['*'] then .ok .anyName
  else (Glob.compile t).map .glob

/-- Read the shape of a pattern without its exclamation mark; `none` if it has no segment. -/
def compile (t : Text) : Except GlobFault (Option Shape) :=
  let directory := (t.splitOn '/').getLast? = some []
  let names := segments t
  let depth := ['*', '*']
  -- Rows of nothing but stars ask for some character or some slash, wherever it stands.
  if names = [] then .ok none
  else if names = [depth] then .ok (some (if directory then .slash true else .something))
  else if names = [depth, ['*']] then .ok (some .something)
  else if names = [depth, ['*'], depth] then .ok (some (.slash directory))
  else (names.mapM segment).map fun ss => some (.path directory ss)

/-- A line without the blanks at its end, unless the last of them is escaped. -/
def trimLine (line : Text) : Text :=
  if [' ', '\\'] = line.reverse.take 2 then line else trimRight line

/-- Read a line; `none` if it says nothing. -/
def ofLine (line : Text) : Except BadPattern (Option Pattern) :=
  let t := trimLine line
  if t.isEmpty || t.head? = some '#' || t = ['/'] then .ok none
  else
    let (selects, body) := match t with
      | '!' :: r => (false, r)
      | r => (true, r)
    match compile body with
    | .ok (some s) =>
      match s.reversedRange? with
      | some r => .error (.reversed r)
      | none => .ok (some ⟨selects, s⟩)
    | .ok none => .error (.malformed line)
    | .error .loneBackslash => .error (.malformed line)
    | .error .unclosedBracket => .ok none

end Pattern

end VarDecl.Ignore
