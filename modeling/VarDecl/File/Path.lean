import VarDecl.Text.Utf8

/-!
# Paths

A path is the list of its names. A path from the root starts with the name `/`.

* `Path.ofText` forgets doubled and last slashes and the names of one dot; `Path.render` writes the
  empty path as a dot;
* `Path.suffix` is the part of the last name from its last dot on. A dot at the start or the end of
  the name counts for nothing;
* paths are ordered name by name;
* a name takes at most 255 bytes and a path at most 4095, and none of them holds a null character.
-/

namespace VarDecl.File

open Text

/-- A path as the list of its names. -/
structure Path where
  names : List Text
  deriving DecidableEq

namespace Path

/-- The name of the root that a text starts with; two slashes, but not three, are kept. -/
def root? (t : Text) : Option Text :=
  match (t.takeWhile (· == '/')).length with
  | 0 => none
  | 2 => some ['/', '/']
  | _ => some ['/']

/-- Read a path. -/
def ofText (t : Text) : Path :=
  ⟨(root? t).toList ++ (t.splitOn '/').filter fun n => !n.isEmpty && n != ['.']⟩

/-- The path without its last name. -/
def parent (p : Path) : Path := ⟨p.names.dropLast⟩

/-- A path below another one. -/
def append (p : Path) (names : List Text) : Path := ⟨p.names ++ names⟩

/-- Names with slashes between them. -/
def join (names : List Text) : Text := List.intercalate ['/'] names

/-- Write a path. -/
def render (p : Path) : Text :=
  match p.names with
  | [] => ['.']
  | n :: rest => if n.head? = some '/' then n ++ join rest else join (n :: rest)

/-- The suffix of a name. -/
def suffixOf (name : Text) : Text :=
  let suffix := (name.reverse.takeWhile (· != '.')).reverse
  if suffix.isEmpty || name.length ≤ suffix.length + 1 then [] else '.' :: suffix

/-- The order of paths, name by name. -/
def namesLe : List Text → List Text → Bool
  | [], _ => true
  | _ :: _, [] => false
  | a :: p, b :: q => if a = b then namesLe p q else le a b

/-- The most bytes that a name takes. -/
def nameLimit : Nat := 255

/-- The most bytes that a path takes. -/
def limit : Nat := 4095

/-- The number of bytes of a text in UTF-8. -/
def byteLength (t : Text) : Nat := (Utf8.encode t).length

/-- Whether a name takes too many bytes. -/
def isLongName (name : Text) : Bool := nameLimit < byteLength name

/-- Whether a path as a whole takes too many bytes. -/
def isLong (p : Path) : Bool := limit < byteLength p.render

/-- Whether no name of a path, nor the path as a whole, takes too many bytes. -/
def isWithinLimits (p : Path) : Bool := !p.isLong && !p.names.any isLongName

/-- Whether a path holds a null character, which ends texts for the file system. -/
def hasNull (p : Path) : Bool := p.names.any fun n => n.contains '\x00'

end Path

end VarDecl.File
