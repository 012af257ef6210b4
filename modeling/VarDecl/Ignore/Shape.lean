import VarDecl.Ignore.Glob

/-!
# Shapes of patterns

What a pattern asks of a path, once it has been read: a row of segments, or just some character or
some slash.

* `Shape.matches?` matches a path, which ends with a slash if it is a directory, and tells whether
  the match is *through a directory*: it ended at a slash that marks a directory.
-/

namespace VarDecl.Ignore

open Text

/-- One segment of a pattern. -/
inductive Segment
  | anyDepth
  | anyName
  | glob (g : Glob)
  deriving DecidableEq

/-- What a pattern asks of a path. -/
inductive Shape
  /-- Some character that is no newline. -/
  | something
  /-- Some slash; `directory` if it marks a directory. -/
  | slash (directory : Bool)
  /-- A row of segments; `directory` if the pattern ends with a slash. -/
  | path (directory : Bool) (segments : List Segment)
  deriving DecidableEq

namespace Shape

/-- Whether a character is not a newline. -/
def isLineChar (c : Char) : Bool := c != '\n'

/-- The rests after leading directories: after a slash with at least one character before it and no
newline among them, the shortest rest last. -/
def directoryRests : Text → List Text
  | [] => []
  | c :: r =>
    if isLineChar c then
      (match r with
        | '/' :: s => [s]
        | _ => []) ++ directoryRests r
    else []

/-- The rest after a slash. -/
def afterSlash? : Text → Option Text
  | '/' :: r => some r
  | _ => none

/-- The ways to end a match after the last segment; a slash marks a directory. -/
def ends (t : Text) : List Bool :=
  (if (afterSlash? t).isSome then [true] else []) ++ (if atEnd t then [false] else [])

/-- The rests after a segment that follows another one, and so stands behind a slash. -/
def nextRests : Segment → Text → List Text
  | .anyDepth, t => (afterSlash? t).toList.flatMap (greedyRests isLineChar) ++ [t]
  | .anyName, t => (afterSlash? t).toList.flatMap (greedyRests isSegmentChar)
  | .glob g, t => (afterSlash? t).toList.flatMap g.rests

/-- The matches of the segments after the first, in order of preference, when one of some rests is
left. Each is told by whether it ends at a slash that marks a directory. -/
def matchRest (directory : Bool) : List Segment → List Text → List Bool
  | [], ts => ts.flatMap ends
  | [.anyDepth], ts => ts.flatMap fun t => if (afterSlash? t).isSome then [directory] else []
  | s :: rest, ts => matchRest directory rest (advance (nextRests s) ts)

/-- The rests after the first named segment of a pattern. -/
def firstRests : Segment → Text → List Text
  | .anyDepth, t => [t]
  | .anyName, t => greedyRests isSegmentChar t
  | .glob g, t => g.rests t

/-- The matches of a row of segments. Leading directories may be skipped if it starts with two
stars. -/
def matchAll (directory : Bool) : List Segment → Text → List Bool
  | [], _ => []
  | .anyDepth :: s :: rest, t =>
    matchRest directory rest (advance (firstRests s) ((directoryRests t).reverse ++ [t]))
  | s :: rest, t => matchRest directory rest (firstRests s t)

/-- Whether a path matches, and then whether the match is through a directory. -/
def matches? (s : Shape) (path : Text) : Option Bool :=
  match s with
  | something => if path.any isLineChar then some false else none
  | slash directory => if path.contains '/' then some directory else none
  | Shape.path directory segments => (matchAll directory segments path).head?

end Shape

end VarDecl.Ignore
