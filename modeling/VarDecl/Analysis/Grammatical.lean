import VarDecl.Analysis

/-!
# The grammatical stage

Each line that is not blank must be `type name;` or `type name = value;`. `checkText` makes its
checks one after the other and stops at the first that fails: the last semicolon, the double equals
sign, the value, the number of words before the equals sign, the name, the type.
-/

namespace VarDecl.Analysis.Grammatical

open Text

/-- A declaration without its line. -/
structure Parts where
  typeName : Text
  name : Text
  initializer : Option Text
  deriving DecidableEq

/-- A fault with a name that may have been meant. -/
abbrev Failure := Fault × Option Text

/-- Read the two words before the equals sign. -/
def checkWords (θ : Float) (declarator : Text) : Except Failure (Text × Text) :=
  match declarator.words with
  | [type, name] =>
    if !Name.isIdentifier name then .error (.invalidName name, none)
    else if !Name.isTypeName type then
      .error (.invalidType type, Suggestion.suggest? θ type Primitive.names)
    else .ok (type, name)
  | [] | [_] => .error (.missingTypeOrName, none)
  | _ => .error (.tooManyWords declarator, none)

/-- Read a line without its last semicolon. -/
def checkBody (θ : Float) (body : Text) : Except Failure Parts :=
  if hasDouble '=' body then .error (.equalityOperator, none)
  else
    let (before, after) := cutAt '=' body
    let value := after.map trim
    if value = some [] then .error (.emptyValue, none)
    else (checkWords θ (trim before)).map fun (type, name) => ⟨type, name, value⟩

/-- Read a line. -/
def checkText (θ : Float) (line : Text) : Except Failure Parts :=
  if line.getLast? = some ';' then checkBody θ (trim line.dropLast)
  else .error (.missingSemicolon, none)

/-- Read a numbered line. -/
def checkLine (θ : Float) (l : SourceLine) : Except Diagnostic Declaration :=
  match checkText θ l.text with
  | .ok p => .ok ⟨p.typeName, p.name, p.initializer, l.number⟩
  | .error (fault, suggestion) => .error ⟨some l.number, fault, suggestion⟩

/-- The outcomes of the lines that are not blank. -/
def outcomes (settings : Settings) (source : Text) : List (Except Diagnostic Declaration) :=
  (Source.nonblankLines settings.stripComments source).map (checkLine settings.threshold)

/-- The grammatical stage. -/
def analyze (settings : Settings) (source : Text) : Analysis :=
  if Source.isEmpty source then .ofEmptySource .grammatical
  else
    let os := outcomes settings source
    ⟨.grammatical (accepted os), rejected os ++ noDeclarationsIf os.isEmpty⟩

end VarDecl.Analysis.Grammatical
