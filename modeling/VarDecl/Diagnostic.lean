import VarDecl.Literal
import VarDecl.Suggestion

/-!
# Diagnostics

What an analysis finds wrong.

* `Fault` has a constructor for each thing that can be wrong, with the texts that its message
  quotes; `message` is the wording and `kind` the family;
* a `Diagnostic` adds the line and perhaps a name that may have been meant.
-/

namespace VarDecl

/-- The families of faults. -/
inductive FaultKind
  | structural
  | grammar
  | semantic
  deriving DecidableEq

/-- The written name of a family. -/
def FaultKind.name : FaultKind → Text
  | structural => "structural".toList
  | grammar => "grammar".toList
  | semantic => "semantic".toList

/-- What can be wrong. -/
inductive Fault
  | noSource
  | noDeclarations
  | notCandidate (line : Text)
  | missingSemicolon
  | equalityOperator
  | emptyValue
  | missingTypeOrName
  | tooManyWords (declarator : Text)
  | invalidName (name : Text)
  | invalidType (name : Text)
  | notDeclaration (line : Text)
  | emptyDeclarator
  | alreadyDeclared (name : Text)
  | undefined (reference target : Text)
  | literalMismatch (kind : LiteralKind) (type : Primitive) (target : Text)
  | expressionMismatch (category : Category) (type : Primitive) (target : Text)
  deriving DecidableEq

namespace Fault

/-- A text in single quotes. -/
def quoted (t : Text) : Text := '\'' :: t ++ ['\'']

/-- A literal as messages call it; a floating one is told apart from whole numbers. -/
def literalPhrase : LiteralKind → Primitive → Text
  | .string, _ => "String literal to ".toList
  | .char, _ => "char literal to ".toList
  | .boolean, _ => "boolean literal to ".toList
  | .integer, _ => "integer literal to ".toList
  | .floating, p =>
    if p.isIntegral then "floating literal to integral type ".toList
    else "floating literal to ".toList

/-- A category as messages call it. -/
def categoryPhrase : Category → Text
  | .string => "String".toList
  | .boolean => "boolean".toList
  | .floating => "floating type".toList
  | .integral => "integral type".toList
  | .unknown => "unknown type".toList

/-- The wording of a fault. -/
def message : Fault → Text
  | noSource => "No source code provided".toList
  | noDeclarations => "No variable declarations found".toList
  | notCandidate line => "Only variable declarations are allowed. Found: ".toList ++ line
  | missingSemicolon => "Variable declaration must end with semicolon".toList
  | equalityOperator => "Invalid operator '==' used instead of '='".toList
  | emptyValue => "Assignment value cannot be empty".toList
  | missingTypeOrName => "Missing type or variable name".toList
  | tooManyWords declarator =>
    "Too many tokens in declaration part ".toList ++ quoted declarator
  | invalidName name => "Invalid variable name ".toList ++ quoted name
  | invalidType name => "Invalid or missing type ".toList ++ quoted name
  | notDeclaration line => "Not a variable declaration: ".toList ++ line
  | emptyDeclarator => "Empty declaration part".toList
  | alreadyDeclared name => "Variable ".toList ++ quoted name ++ " already declared".toList
  | undefined reference target =>
    "Undefined variable ".toList ++ quoted reference ++ " used in assignment to ".toList
      ++ quoted target
  | literalMismatch kind type target =>
    "Type mismatch - cannot assign ".toList ++ literalPhrase kind type ++ type.name ++ [' ']
      ++ quoted target
  | expressionMismatch .unknown type target =>
    "Unable to verify initializer type for ".toList ++ quoted target ++ " declared as ".toList
      ++ type.name
  | expressionMismatch category type target =>
    "Type mismatch - expression evaluates to ".toList ++ categoryPhrase category
      ++ " but variable ".toList ++ quoted target ++ " is ".toList ++ type.name

/-- The family of a fault. -/
def kind : Fault → FaultKind
  | equalityOperator | invalidName _ | invalidType _ => .grammar
  | alreadyDeclared _ | undefined _ _ => .semantic
  | literalMismatch _ _ _ | expressionMismatch _ _ _ => .semantic
  | _ => .structural

end Fault

/-- A fault with its place. -/
structure Diagnostic where
  /-- The line of the fault; `none` for a fault of the whole source. -/
  line : Option Nat
  fault : Fault
  /-- A name that may have been meant. -/
  suggestion : Option Text
  deriving DecidableEq

namespace Diagnostic

/-- A fault of the whole source. -/
def ofSource (fault : Fault) : Diagnostic := ⟨none, fault, none⟩

/-- A fault of one line, without a suggestion. -/
def atLine (line : Nat) (fault : Fault) : Diagnostic := ⟨some line, fault, none⟩

/-- The text of the suggestion. -/
def hint (d : Diagnostic) : Option Text := d.suggestion.map Suggestion.hint

/-- The line, if there is one, and the message. -/
def render (d : Diagnostic) : Text :=
  match d.line with
  | none => d.fault.message
  | some n => "Line ".toList ++ Text.ofNat n ++ ": ".toList ++ d.fault.message

end Diagnostic

end VarDecl
