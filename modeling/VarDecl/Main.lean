import VarDecl.Command.Run

/-!
# The command line program

Reads the part of the file system that the command line names, and carries out the plan for it.
-/

namespace VarDecl.Program

open File Command

/-- The command line in one line. -/
def usage : String :=
  "usage: vardecl lexical|syntax|semantic|check --path PATH [--format table|json|text] "
    ++ "[--output FILE] [--keep-comments] [--suffix SUFFIX] [--verbose] [--strict]"

/-- Read a file or directory. -/
partial def readNode (path : String) : IO Node := do
  let entry : IO.FS.DirEntry := ⟨".", path⟩
  if ← entry.path.isDir then
    let mut content := Listing.nil
    for child in ← entry.path.readDir do
      let node ← readNode (path ++ "/" ++ child.fileName)
      content := content.set child.fileName.toList node
    return .dir content
  else
    return .file (← IO.FS.readBinFile entry.path).toList

/-- The content of a directory that holds nothing but what a path leads to. -/
def mount (names : List Text) (node : Node) : Listing :=
  match names.foldr (fun n inside => Node.dir (Listing.nil.set n inside)) node with
  | .dir l => l
  | .file _ => .nil

/-- The part of the working directory that a path leads to. -/
def readPath (path : Path) : IO Listing := do
  try
    return mount path.names (← readNode (String.ofList path.render))
  catch _ => return .nil

/-- Write a file and the directories above it. -/
def writeFile (target content : Text) : IO Unit := do
  let path := Path.ofText target
  let above : Path := ⟨path.names.dropLast⟩
  IO.FS.createDirAll (String.ofList above.render)
  IO.FS.writeFile (String.ofList path.render) (String.ofList content)

/-- Carry out a plan and give its exit code. -/
def perform (p : Plan) : IO UInt32 := do
  let p ← match p.output with
    | none => pure p
    | some (target, content) =>
      try
        writeFile target content
        pure p
      catch _ => pure (Plan.failedToWrite target)
  (← IO.getStdout).putStr (String.ofList p.stdout)
  (← IO.getStderr).putStr (String.ofList p.stderr)
  return p.exit.toUInt32

/-- Run a command line. -/
def runWords (words : List Text) : IO UInt32 := do
  match Options.ofWords? words with
  | none =>
    IO.eprintln usage
    return exitUsage.toUInt32
  | some o =>
    match planOptions Host.standard (← readPath (Path.ofText o.path)) o with
    | .ok p => perform p
    | .error e =>
      IO.eprintln (String.ofList e.message)
      return exitFailed.toUInt32

end VarDecl.Program

/-- Run the words of the command line. -/
def main (args : List String) : IO UInt32 := VarDecl.Program.runWords (args.map String.toList)
