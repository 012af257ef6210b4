import VarDecl.Text.Basic

/-!
# Directory listings

The content of a directory: its files with their bytes and its directories with their own content,
in the order of their names.

* `find?` looks up one name and `lookup` a path;
* `put` writes a file and `makeDirectory` makes a directory, together with the directories above;
  both fail where something of the other kind is in the way;
* `size` counts all entries, `entriesNamed` gives those of one name and `directories` those that are
  directories.
-/

namespace VarDecl.File

/-- The content of a directory. -/
inductive Listing
  | nil
  | file (name : Text) (bytes : List UInt8) (rest : Listing)
  | dir (name : Text) (children rest : Listing)
  deriving DecidableEq

/-- What a path leads to. -/
inductive Node
  | file (bytes : List UInt8)
  | dir (children : Listing)
  deriving DecidableEq

namespace Listing

/-- The number of entries at all depths. -/
def size : Listing → Nat
  | nil => 0
  | file _ _ rest => 1 + rest.size
  | dir _ children rest => 1 + children.size + rest.size

/-- What a name stands for. -/
def find? (wanted : Text) : Listing → Option Node
  | nil => none
  | file n bytes rest => if n = wanted then some (.file bytes) else rest.find? wanted
  | dir n children rest => if n = wanted then some (.dir children) else rest.find? wanted

/-- An entry in front of a listing. -/
def cons (name : Text) (node : Node) (rest : Listing) : Listing :=
  match node with
  | .file bytes => file name bytes rest
  | .dir children => dir name children rest

/-- Set what a name stands for; a new name goes to its place in the order. -/
def set (name : Text) (node : Node) : Listing → Listing
  | nil => cons name node nil
  | file n bytes rest =>
    if n = name then cons name node rest
    else if name.le n then cons name node (file n bytes rest)
    else file n bytes (rest.set name node)
  | dir n children rest =>
    if n = name then cons name node rest
    else if name.le n then cons name node (dir n children rest)
    else dir n children (rest.set name node)

/-- What a path leads to; the empty path leads to the directory itself. -/
def lookup : (names : List Text) → Listing → Option Node
  | [], l => some (.dir l)
  | n :: rest, l =>
    match l.find? n with
    | some (.dir children) => lookup rest children
    | some (.file bytes) => if rest.isEmpty then some (.file bytes) else none
    | none => none

/-- Write a file. -/
def put (bytes : List UInt8) : (names : List Text) → Listing → Option Listing
  | [], _ => none
  | [n], l =>
    match l.find? n with
    | some (.dir _) => none
    | _ => some (l.set n (.file bytes))
  | n :: rest, l =>
    match l.find? n with
    | some (.file _) => none
    | some (.dir children) => (put bytes rest children).map fun c => l.set n (.dir c)
    | none => (put bytes rest nil).map fun c => l.set n (.dir c)

/-- Make a directory; it may be there already. -/
def makeDirectory : (names : List Text) → Listing → Option Listing
  | [], l => some l
  | n :: rest, l =>
    match l.find? n with
    | some (.file _) => none
    | some (.dir children) => (makeDirectory rest children).map fun c => l.set n (.dir c)
    | none => (makeDirectory rest nil).map fun c => l.set n (.dir c)

/-- All entries of a name, at any depth, in path order, with their paths below `above`. -/
def entriesNamed (wanted : Text) (above : List Text) : Listing → List (List Text × Node)
  | nil => []
  | file n bytes rest =>
    (if n = wanted then [(above ++ [n], .file bytes)] else []) ++ rest.entriesNamed wanted above
  | dir n children rest =>
    (if n = wanted then [(above ++ [n], .dir children)] else [])
      ++ (children.entriesNamed wanted (above ++ [n]) ++ rest.entriesNamed wanted above)

/-- All directories at all depths, with their paths below `above`, each before those in it. -/
def directories (above : List Text) : Listing → List (List Text)
  | nil => []
  | file _ _ rest => rest.directories above
  | dir n children rest =>
    (above ++ [n]) :: (children.directories (above ++ [n]) ++ rest.directories above)

end Listing

end VarDecl.File
