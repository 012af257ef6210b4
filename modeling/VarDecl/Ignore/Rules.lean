import VarDecl.Ignore.Pattern

/-!
# Ignore rules

The patterns of all ignore files of a tree. Each file counts for the paths below its directory, its
*base*, and a path is ignored when one of the files ignores it.

* `verdict` asks the patterns of one file: the last match decides, but a match that is not through a
  directory goes before one that is;
* `Rules.ignores` asks all files;
* `Rules.add` compiles the lines of a file. A base that comes again gets new patterns and keeps its
  place.
-/

namespace VarDecl.Ignore

/-- A match: whether the pattern selects, and whether it matched through a directory. -/
structure Hit where
  selects : Bool
  throughDirectory : Bool
  deriving DecidableEq

/-- A path without a slash, or else without a dot and a slash, at its start. -/
def relative : Text → Text
  | '/' :: r => r
  | '.' :: '/' :: r => r
  | r => r

/-- The matches of a path, the last pattern first. -/
def hits (patterns : List Pattern) (path : Text) : List Hit :=
  patterns.reverse.filterMap fun p => (p.shape.matches? (relative path)).map (⟨p.selects, ·⟩)

/-- Whether the patterns of one file ignore a path. -/
def verdict (patterns : List Pattern) (path : Text) : Bool :=
  let hs := hits patterns path
  ((hs.find? (!·.throughDirectory)).or hs.head?).any Hit.selects

/-- The patterns of the lines of a file. -/
def patternsOfLines (lines : List Text) : Except BadPattern (List Pattern) :=
  (lines.mapM Pattern.ofLine).map fun ps => ps.filterMap id

/-- The patterns of each base; the base of the root is empty. -/
structure Rules where
  entries : List (Text × List Pattern)

namespace Rules

/-- No rules. -/
def empty : Rules := ⟨[]⟩

/-- Replace the patterns of a base, or add them at the end. -/
def insertEntry (base : Text) (patterns : List Pattern) :
    List (Text × List Pattern) → List (Text × List Pattern)
  | [] => [(base, patterns)]
  | e :: r => if e.1 = base then (base, patterns) :: r else e :: insertEntry base patterns r

/-- Give a base the patterns of the lines of a file. -/
def add (rules : Rules) (base : Text) (lines : List Text) : Except BadPattern Rules :=
  (patternsOfLines lines).map fun ps => ⟨insertEntry base ps rules.entries⟩

/-- The part of a path that lies below a base. -/
def below? (base path : Text) : Option Text :=
  if base.isEmpty then some path else Text.after? (base ++ ['/']) path

/-- A path without slashes at its ends. -/
def normalize (path : Text) : Text := Text.dropTrailing (· == '/') (path.dropWhile (· == '/'))

/-- Whether a path, seen from the root, is ignored. -/
def ignores (rules : Rules) (path : Text) (isDirectory : Bool) : Bool :=
  let path := normalize path
  !path.isEmpty && rules.entries.any fun (base, patterns) =>
    (below? base path).any fun rest =>
      verdict patterns (if isDirectory then rest ++ ['/'] else rest)

end Rules

end VarDecl.Ignore
