import VarDecl.File.Listing
import VarDecl.File.Path
import VarDecl.Text.Quoted

/-!
# Access by path

Looking up and writing files by their paths, within the limits of the file system.

* `seek` tells what a path leads to. The names are followed one by one, so a name that is too long
  is noticed only if the names before it lead to a directory; a path that is too long as a whole is
  noticed at once;
* `Access` holds what the system refuses beyond that, for lack of permission or of room, path by
  path. With `Access.free` it refuses nothing, and with `Access.limited` no path that is too long is
  looked up;
* `Access.writeFile` makes the directories above a file and then writes it. A null character in the
  way is told apart from all other hindrances.
-/

namespace VarDecl.File

/-- A path that is too long, or has too long a name, to be looked up. -/
structure TooLong where
  path : Path
  deriving DecidableEq

/-- The wording of the error. -/
def TooLong.message (e : TooLong) : Text :=
  "[Errno 36] File name too long: ".toList ++ Text.quote e.path.render

/-- The kinds of refusals: for lack of permission, for another reason that the system has, and since
a search goes too deep. -/
inductive RefusalKind
  | denied
  | failed
  | tooDeep
  deriving DecidableEq

/-- A refusal, with its wording. -/
structure Refusal where
  kind : RefusalKind
  message : Text
  deriving DecidableEq

/-- A path that is too long is refused. -/
def TooLong.refusal (e : TooLong) : Refusal := ⟨.failed, e.message⟩

/-- What the system refuses to do with a path. -/
structure Access where
  /-- Tell what the path leads to. -/
  look : Path → Option Refusal
  /-- List a directory. -/
  list : Path → Option Refusal
  /-- List a directory and go on with those in it, in search of a name. -/
  search : Path → Option Refusal
  /-- Read a file, with the wording of the refusal. -/
  read : Path → Option Text
  /-- Make a directory and those above it. -/
  make : Path → Option Refusal
  /-- Write a file. -/
  write : Path → Bool

/-- Nothing is refused. -/
def Access.free : Access :=
  ⟨fun _ => none, fun _ => none, fun _ => none, fun _ => none, fun _ => none, fun _ => false⟩

/-- No path is looked up that is too long. -/
def Access.limited (a : Access) : Access :=
  { a with look := fun p => if p.isLong then some (TooLong.refusal ⟨p⟩) else a.look p }

/-- Why a file cannot be written. -/
inductive WriteFault
  | nullCharacter
  | tooDeep (f : Refusal)
  | hindered
  deriving DecidableEq

namespace Listing

/-- Whether a row of names comes to a name that is too long. -/
def meetsLongName : (names : List Text) → Listing → Bool
  | [], _ => false
  | n :: rest, l =>
    if Path.isLongName n then true
    else
      match l.find? n with
      | some (.dir children) => meetsLongName rest children
      | _ => false

/-- What a path leads to, if anything. -/
def seek (l : Listing) (p : Path) : Except TooLong (Option Node) :=
  if p.hasNull then .ok none
  else if p.isLong || meetsLongName p.names l then .error ⟨p⟩
  else .ok (l.lookup p.names)

end Listing

namespace Access

/-- Make the directories above a path. -/
def makeAbove (a : Access) (l : Listing) (p : Path) : Except WriteFault Listing :=
  if p.parent.hasNull then .error .nullCharacter
  else
    match a.make p.parent with
    | some f => .error (if f.kind = .tooDeep then .tooDeep f else .hindered)
    | none =>
      if !p.parent.isWithinLimits then .error .hindered
      else
        match l.makeDirectory p.parent.names with
        | some l => .ok l
        | none => .error .hindered

/-- Write a file and make the directories above it. -/
def writeFile (a : Access) (l : Listing) (p : Path) (bytes : List UInt8) :
    Except WriteFault Listing := do
  let l ← a.makeAbove l p
  if p.hasNull then .error .nullCharacter
  else if a.write p || !p.isWithinLimits then .error .hindered
  else
    match l.put bytes p.names with
    | some l => .ok l
    | none => .error .hindered

end Access

end VarDecl.File
