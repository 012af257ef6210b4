import VarDecl.File.Access
import VarDecl.Ignore.Rules
import VarDecl.Text.LineBreaks
import VarDecl.Text.Utf8

/-!
# Source files

The source files that a path stands for: one file, or all files below a directory that have one of
some suffixes and are not ignored.

* `Access.readIgnoreRules` searches a directory for ignore files, and reads them in path order;
* `steps` lists what is done one after the other in order to find the sources: directories are
  visited level by level, each in name order, but for version control data and ignored paths.
  `Access.perform` carries out one step and `Access.gather` all of them;
* `Access.load` gives the decoded sources in path order, or the first failure: of the search, then
  of the ignore files, then of the steps;
* `readIgnoreRules`, `gather` and `discover` are the same where the system refuses nothing.
-/

namespace VarDecl.File

open Text

/-- Why a file cannot be read. -/
inductive ReadFault
  | isDirectory
  | undecodable (e : Utf8.DecodeError)
  | refused (message : Text)
  deriving DecidableEq

/-- A file or directory that cannot be loaded. -/
inductive LoadError
  | missingFile (path : Path)
  | missingDirectory (path : Path)
  | unreadable (path : Path) (fault : ReadFault)
  deriving DecidableEq

/-- The wording of a load error. -/
def LoadError.message : LoadError → Text
  | missingFile p => "Source file does not exist: ".toList ++ p.render
  | missingDirectory p => "Source directory does not exist: ".toList ++ p.render
  | unreadable p .isDirectory =>
    "Failed to read ".toList ++ p.render ++ ": [Errno 21] Is a directory: ".toList ++ quote p.render
  | unreadable p (.undecodable e) =>
    "Failed to read ".toList ++ p.render ++ ": ".toList ++ e.message
  | unreadable p (.refused message) =>
    "Failed to read ".toList ++ p.render ++ ": ".toList ++ message

/-- What stops the loading of sources. -/
inductive Failure
  | load (e : LoadError)
  | pattern (b : Ignore.BadPattern)
  | tooLong (e : TooLong)
  | refused (f : Refusal)
  deriving DecidableEq

/-- A decoded source. -/
structure SourceFile where
  path : Path
  text : Text
  deriving DecidableEq

/-- The suffixes unless others are asked for. -/
def defaultSuffixes : List Text := [".java".toList]

/-- The name of ignore files. -/
def ignoreName : Text := ".gitignore".toList

/-- The name of the directory of version control data. -/
def versionControlName : Text := ".git".toList

/-- The text of a file, with newlines as its only line breaks. -/
def readText (path : Path) : Node → Except LoadError Text
  | .dir _ => .error (.unreadable path .isDirectory)
  | .file bytes =>
    match Utf8.decode bytes with
    | .ok t => .ok (unifyBreaks t)
    | .error e => .error (.unreadable path (.undecodable e))

/-- Read a file. -/
def Access.readText (a : Access) (path : Path) (node : Node) : Except LoadError Text :=
  match a.read path with
  | some message => .error (.unreadable path (.refused message))
  | none => File.readText path node

/-! ### Refusals -/

/-- A refusal stops the loading. -/
def attempt : Option Refusal → Except Failure Unit
  | some f => .error (.refused f)
  | none => .ok ()

/-- A search passes over what it has no permission for. -/
def tolerate : Option Refusal → Except Failure Unit
  | some f => if f.kind = .denied then .ok () else .error (.refused f)
  | none => .ok ()

/-! ### Ignore files -/

/-- Whether a search that has come to a directory goes on to one below it: it does not go into
directories that it cannot list. -/
def Access.reaches (a : Access) (above : Path) : (names : List Text) → Bool
  | [] => true
  | n :: rest => (a.search above).isNone && a.reaches (above.append [n]) rest

/-- Look for an ignore file in one directory and list the directory. -/
def Access.searchDirectory (a : Access) (root : Path) (names : List Text) :
    Except Failure Unit := do
  tolerate (a.look (root.append (names ++ [ignoreName])))
  tolerate (a.search (root.append names))

/-- The directories that a search below a root comes to. -/
def Access.searched (a : Access) (root : Path) (l : Listing) : List (List Text) :=
  ([] :: l.directories []).filter (a.reaches root)

/-- The ignore files that a search below a root finds, in path order. -/
def Access.ignoreFiles (a : Access) (root : Path) (l : Listing) : List (List Text × Node) :=
  (l.entriesNamed ignoreName []).filter fun e =>
    a.reaches root e.1.dropLast && (a.look (root.append e.1)).isNone

/-- Add the rules of one ignore file, whose path below the root is given. -/
def Access.addIgnoreFile (a : Access) (root : Path) (rules : Ignore.Rules)
    (entry : List Text × Node) : Except Failure Ignore.Rules :=
  match a.readText (root.append entry.1) entry.2 with
  | .error e => .error (.load e)
  | .ok t =>
    match rules.add (Path.join entry.1.dropLast) (breakLines t) with
    | .error b => .error (.pattern b)
    | .ok rules => .ok rules

/-- The rules of all ignore files below a root. The search comes to its end before the first of them
is read. -/
def Access.readIgnoreRules (a : Access) (root : Path) (l : Listing) :
    Except Failure Ignore.Rules := do
  (a.searched root l).forM (a.searchDirectory root)
  (a.ignoreFiles root l).foldlM (a.addIgnoreFile root) .empty

/-! ### The walk -/

/-- A directory of the walk: its names below the root, and its content. -/
abbrev Folder := List Text × Listing

/-- A file of the walk: its names below the root, and its bytes. -/
abbrev Found := List Text × List UInt8

/-- Which paths below the root are ignored, as directories or as files. -/
abbrev IgnoreTest := Text → Bool → Bool

/-- Whether the walk goes into a directory. -/
def entersDirectory (ignores : IgnoreTest) (names : List Text) (name : Text) : Bool :=
  name != versionControlName && !ignores (Path.join (names ++ [name])) true

/-- Whether the walk takes a file. -/
def takesFile (ignores : IgnoreTest) (suffixes : List Text) (names : List Text) (name : Text) :
    Bool :=
  !ignores (Path.join (names ++ [name])) false && suffixes.contains (Path.suffixOf name)

/-- The directories to visit next, in name order. -/
def subfolders (ignores : IgnoreTest) (names : List Text) : Listing → List Folder
  | .nil => []
  | .file _ _ rest => subfolders ignores names rest
  | .dir n children rest =>
    if entersDirectory ignores names n then
      (names ++ [n], children) :: subfolders ignores names rest
    else subfolders ignores names rest

/-- The number of directories and entries that are still to be visited. -/
def queueSize : List Folder → Nat
  | [] => 0
  | f :: queue => 1 + f.2.size + queueSize queue

theorem queueSize_append (a b : List Folder) : queueSize (a ++ b) = queueSize a + queueSize b := by
  induction a with
  | nil => simp [queueSize]
  | cons f a ih =>
    simp only [List.cons_append, queueSize, ih]
    omega

theorem queueSize_subfolders_le (ignores : IgnoreTest) (names : List Text) (l : Listing) :
    queueSize (subfolders ignores names l) ≤ l.size := by
  induction l generalizing names with
  | nil => simp [subfolders, queueSize]
  | file n bytes rest ih =>
    have := ih names
    simp only [subfolders, Listing.size]
    omega
  | dir n children rest _ ih =>
    have := ih names
    simp only [subfolders, Listing.size]
    split
    · simp only [queueSize]
      omega
    · omega

/-- The directories of a queue and all directories below them, level by level. -/
def visits (ignores : IgnoreTest) : List Folder → List Folder
  | [] => []
  | (names, l) :: queue => (names, l) :: visits ignores (queue ++ subfolders ignores names l)
termination_by queue => queueSize queue
decreasing_by
  have := queueSize_subfolders_le ignores names l
  simp only [queueSize_append, queueSize]
  omega

/-- What is done to a path below the root. -/
inductive Step
  | list (names : List Text)
  | look (names : List Text)
  | read (f : Found)
  deriving DecidableEq

/-- What is done to the entries of a directory: each is looked up, and the files that are taken are
read. -/
def entrySteps (ignores : IgnoreTest) (suffixes : List Text) (names : List Text) :
    Listing → List Step
  | .nil => []
  | .file n bytes rest =>
    if takesFile ignores suffixes names n then
      .look (names ++ [n]) :: .read (names ++ [n], bytes) :: entrySteps ignores suffixes names rest
    else .look (names ++ [n]) :: entrySteps ignores suffixes names rest
  | .dir n _ rest => .look (names ++ [n]) :: entrySteps ignores suffixes names rest

/-- What is done in order to find the sources below a directory with the given content. -/
def steps (ignores : IgnoreTest) (suffixes : List Text) (l : Listing) : List Step :=
  (visits ignores [([], l)]).flatMap fun f => .list f.1 :: entrySteps ignores suffixes f.1 f.2

/-- Decode a file of the walk. -/
def Access.loadFound (a : Access) (root : Path) (f : Found) : Except Failure SourceFile :=
  match a.readText (root.append f.1) (.file f.2) with
  | .ok t => .ok ⟨root.append f.1, t⟩
  | .error e => .error (.load e)

/-- Carry out a step, which may give a source. -/
def Access.perform (a : Access) (root : Path) : Step → Except Failure (Option SourceFile)
  | .list names => (attempt (a.list (root.append names))).map fun _ => none
  | .look names => (attempt (a.look (root.append names))).map fun _ => none
  | .read f => (a.loadFound root f).map some

/-- Sources in path order. -/
def sortByPath (fs : List SourceFile) : List SourceFile :=
  fs.mergeSort fun a b => Path.namesLe a.path.names b.path.names

/-- The sources that the walk finds below a directory with the given content. -/
def Access.gather (a : Access) (ignores : IgnoreTest) (root : Path) (suffixes : List Text)
    (l : Listing) : Except Failure (List SourceFile) :=
  ((steps ignores suffixes l).mapM (a.perform root)).map fun found =>
    sortByPath (found.filterMap id)

/-- All sources below a directory with the given content. -/
def Access.discoverIn (a : Access) (root : Path) (suffixes : List Text) (l : Listing) :
    Except Failure (List SourceFile) := do
  let rules ← a.readIgnoreRules root l
  a.gather rules.ignores root suffixes l

/-! ### Paths -/

/-- What a path leads to, a refusal and a path that is too long being failures. -/
def Access.locate (a : Access) (l : Listing) (path : Path) : Except Failure (Option Node) :=
  if path.hasNull then .ok none
  else
    match a.look path with
    | some f => .error (.refused f)
    | none => (l.seek path).mapError .tooLong

/-- All sources below a directory. -/
def Access.discover (a : Access) (l : Listing) (root : Path) (suffixes : List Text) :
    Except Failure (List SourceFile) := do
  match ← a.locate l root with
  | some (.dir content) => a.discoverIn root suffixes content
  | _ => .error (.load (.missingDirectory root))

/-- One source, where its path leads being known. -/
def Access.loadNode (a : Access) (path : Path) : Option Node → Except Failure SourceFile
  | some (.file bytes) =>
    match a.readText path (.file bytes) with
    | .ok t => .ok ⟨path, t⟩
    | .error e => .error (.load e)
  | _ => .error (.load (.missingFile path))

/-- One source. -/
def Access.loadFile (a : Access) (l : Listing) (path : Path) : Except Failure SourceFile := do
  a.loadNode path (← a.locate l path)

/-- The sources that a path stands for. -/
def Access.load (a : Access) (l : Listing) (path : Path) (suffixes : List Text) :
    Except Failure (List SourceFile) := do
  match ← a.locate l path with
  | some (.dir content) => a.discoverIn path suffixes content
  | node => (a.loadNode path node).map ([·])

/-! ### Where nothing is refused -/

/-- The rules of all ignore files below a root, if nothing is refused. -/
def readIgnoreRules (root : Path) (l : Listing) : Except Failure Ignore.Rules :=
  Access.free.readIgnoreRules root l

/-- The sources that the walk finds below a directory, if nothing is refused. -/
def gather (ignores : IgnoreTest) (root : Path) (suffixes : List Text) (l : Listing) :
    Except Failure (List SourceFile) :=
  Access.free.gather ignores root suffixes l

/-- All sources below a directory, if nothing is refused. -/
def discover (l : Listing) (root : Path) (suffixes : List Text) :
    Except Failure (List SourceFile) :=
  Access.free.discover l root suffixes

end VarDecl.File
