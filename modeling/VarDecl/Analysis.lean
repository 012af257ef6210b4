import VarDecl.Declaration
import VarDecl.Diagnostic
import VarDecl.Lexeme
import VarDecl.Source
import VarDecl.SymbolTable

/-!
# Analyses

The result types that the stages of analysis share.

* A `Stage` looks at the words of each line, at its grammar, or at the meaning of its declarations;
* an `Analysis` holds what one stage found in one source: its `Findings`, which differ by stage, and
  the diagnostics. It has passed when there are no diagnostics;
* the outcome of one line or declarator is something accepted or a diagnostic; `accepted` and
  `rejected` part a list of outcomes.
-/

namespace VarDecl

/-- The stages of analysis. -/
inductive Stage
  | lexical
  | grammatical
  | semantic
  deriving DecidableEq

namespace Stage

/-- All stages, each of which needs the ones before it. -/
def all : List Stage := [lexical, grammatical, semantic]

/-- The written name of a stage. -/
def name : Stage → Text
  | lexical => "lexical".toList
  | grammatical => "syntax".toList
  | semantic => "semantic".toList

/-- The stage with a given name. -/
def ofName? (t : Text) : Option Stage := all.find? fun s => s.name == t

@[simp] theorem ofName?_name (s : Stage) : ofName? s.name = some s := by cases s <;> decide

end Stage

/-- How sources are analysed. -/
structure Settings where
  /-- Whether comments are removed first. -/
  stripComments : Bool
  /-- Whether the semantic stage reports lines that are no declarations. -/
  strict : Bool
  /-- The similarity that a suggestion needs. -/
  threshold : Float

/-- The settings unless others are asked for. -/
def Settings.default : Settings := ⟨true, false, Suggestion.defaultThreshold⟩

/-- The lexemes of one line. -/
structure TokenizedLine where
  line : Nat
  lexemes : List Lexeme
  deriving DecidableEq

namespace TokenizedLine

/-- A line and its lexemes as reports show them. -/
def render (l : TokenizedLine) : Text :=
  "Line ".toList ++ Text.ofNat l.line ++ ": ".toList
    ++ List.intercalate ", ".toList (l.lexemes.map Lexeme.render)

end TokenizedLine

/-- What a stage accepted. -/
inductive Findings
  | lexical (lines : List TokenizedLine)
  | grammatical (declarations : List Declaration)
  | semantic (declarations : List Declaration) (symbols : SymbolTable)
  deriving DecidableEq

namespace Findings

/-- The stage that produces such findings. -/
def stage : Findings → Stage
  | lexical _ => .lexical
  | grammatical _ => .grammatical
  | semantic _ _ => .semantic

/-- The tokenized lines of the lexical stage. -/
def lines : Findings → List TokenizedLine
  | lexical ls => ls
  | _ => []

/-- The declarations of the other stages. -/
def declarations : Findings → List Declaration
  | lexical _ => []
  | grammatical ds => ds
  | semantic ds _ => ds

/-- The symbol table of the semantic stage. -/
def symbols : Findings → SymbolTable
  | semantic _ Γ => Γ
  | _ => .empty

/-- The findings of a stage that found nothing. -/
def none : Stage → Findings
  | .lexical => lexical []
  | .grammatical => grammatical []
  | .semantic => semantic [] .empty

/-- The number of lexemes. -/
def tokenCount (f : Findings) : Nat := (f.lines.flatMap TokenizedLine.lexemes).length

end Findings

/-- The result of one stage on one source. -/
structure Analysis where
  findings : Findings
  diagnostics : List Diagnostic
  deriving DecidableEq

namespace Analysis

/-- The stage of an analysis. -/
def stage (a : Analysis) : Stage := a.findings.stage

/-- An analysis passes when nothing is wrong. -/
def passed (a : Analysis) : Bool := a.diagnostics.isEmpty

/-- The analysis of a source of blanks. -/
def ofEmptySource (s : Stage) : Analysis := ⟨.none s, [.ofSource .noSource]⟩

/-- What a list of outcomes accepts. -/
def accepted {α : Type} (outcomes : List (Except Diagnostic α)) : List α :=
  outcomes.filterMap Except.toOption

/-- What a list of outcomes reports. -/
def rejected {α : Type} (outcomes : List (Except Diagnostic α)) : List Diagnostic :=
  outcomes.filterMap fun
    | .error d => some d
    | .ok _ => none

/-- The diagnostic of a source without any declaration, if a condition holds. -/
def noDeclarationsIf (condition : Bool) : List Diagnostic :=
  if condition then [.ofSource .noDeclarations] else []

end Analysis

end VarDecl
