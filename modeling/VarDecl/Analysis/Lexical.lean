import VarDecl.Analysis

/-!
# The lexical stage

A line is a candidate when its first word is a primitive type and a semicolon or an equals sign
stands somewhere on it. Candidates are tokenized; every other line that is not blank is reported,
with a suggestion for its first word.
-/

namespace VarDecl.Analysis.Lexical

/-- A line that looks like a declaration. -/
def isCandidate (line : Text) : Bool :=
  match line.words with
  | [] => false
  | w :: _ => (Primitive.ofName? w).isSome && (line.contains ';' || line.contains '=')

/-- The primitive type that the first word of a line may stand for. -/
def suggestion? (θ : Float) (line : Text) : Option Text :=
  line.words.head?.bind fun w => Suggestion.suggest? θ w Primitive.names

/-- Tokenize a candidate and report any other line. -/
def checkLine (θ : Float) (l : SourceLine) : Except Diagnostic TokenizedLine :=
  if isCandidate l.text then .ok ⟨l.number, Lexeme.ofLine l.text⟩
  else .error ⟨some l.number, .notCandidate l.text, suggestion? θ l.text⟩

/-- The outcomes of the lines that are not blank. -/
def outcomes (settings : Settings) (source : Text) : List (Except Diagnostic TokenizedLine) :=
  (Source.nonblankLines settings.stripComments source).map (checkLine settings.threshold)

/-- The lexical stage. -/
def analyze (settings : Settings) (source : Text) : Analysis :=
  if Source.isEmpty source then .ofEmptySource .lexical
  else
    let os := outcomes settings source
    ⟨.lexical (accepted os), rejected os ++ noDeclarationsIf (accepted os).isEmpty⟩

end VarDecl.Analysis.Lexical
