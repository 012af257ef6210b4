import VarDecl.Analysis
import VarDecl.Declaration.Header
import VarDecl.Expression.Category
import VarDecl.Expression.Parens

/-!
# The semantic stage

The declarators of all declaration lines are checked in order against a symbol table, which starts
empty and grows by each declarator that is accepted. A declarator is reported, and changes nothing,
when it is empty, its name is no identifier or is taken, or its initializer does not fit its type.

* `items` lists what a source holds: its declarators, and in strict mode its other lines;
* `check` judges one declarator and `outcomes` all of them, from a given table on.
-/

namespace VarDecl.Analysis.Semantic

open Text Expression Declaration

/-- A declarator with the type and the line that it shares with its neighbours. -/
structure Declarator where
  line : Nat
  type : Primitive
  text : Text
  deriving DecidableEq

/-- What a line holds: declarators, or a text that is no declaration. -/
inductive Item
  | declarator (d : Declarator)
  | stray (line : Nat) (text : Text)
  deriving DecidableEq

/-- A declarator is cut at the first equals sign on the top level. -/
def Declarator.cut (d : Declarator) : Text × Option Text :=
  match cut? (· == '=') (trim d.text) with
  | some (before, after) => (before, some after)
  | none => (trim d.text, none)

/-- The name of a declarator, without array suffixes. -/
def Declarator.name (d : Declarator) : Text := trim (eraseSuffixes (trim d.cut.1))

/-- The initializer of a declarator, if it has an equals sign. -/
def Declarator.initializer (d : Declarator) : Option Text := d.cut.2.map trim

/-- The declaration that a declarator makes. -/
def Declarator.declaration (d : Declarator) : Declaration :=
  ⟨d.type.name, d.name, d.initializer, d.line⟩

/-- The expression of an initializer: without last semicolons and enclosing parentheses. -/
def expression (initializer : Text) : Text :=
  stripParens (trim (dropTrailing (· == ';') initializer))

/-- What is wrong with an initializer of a variable `target`. -/
def initializerFault? (θ : Float) (Γ : SymbolTable) (type : Primitive) (target initializer : Text) :
    Option (Fault × Option Text) :=
  let e := expression initializer
  match Literal.kind? e with
  | some k => if k.fits type then none else some (.literalMismatch k type target, none)
  | none =>
    match infer Γ e with
    | .error u => some (.undefined u.name target, Suggestion.suggest? θ u.name Γ.names)
    | .ok c => if c.fits type then none else some (.expressionMismatch c type target, none)

/-- What is wrong with a declarator. -/
def fault? (θ : Float) (Γ : SymbolTable) (d : Declarator) : Option (Fault × Option Text) :=
  if (trim d.text).isEmpty then some (.emptyDeclarator, none)
  else if !Name.isIdentifier d.name then some (.invalidName d.name, none)
  else if (Γ.find? d.name).isSome then some (.alreadyDeclared d.name, none)
  else
    match d.initializer with
    | none | some [] => none
    | some value => initializerFault? θ Γ d.type d.name value

/-- Judge a declarator. -/
def check (θ : Float) (Γ : SymbolTable) (d : Declarator) : Except Diagnostic Declaration :=
  match fault? θ Γ d with
  | some (fault, suggestion) => .error ⟨some d.line, fault, suggestion⟩
  | none => .ok d.declaration

/-- Register a declaration. -/
def declare (Γ : SymbolTable) (d : Declaration) : SymbolTable := Γ.insert d.name d.typeName

/-- The table after an outcome. -/
def after (Γ : SymbolTable) : Except Diagnostic Declaration → SymbolTable
  | .ok d => declare Γ d
  | .error _ => Γ

/-- The outcome of one item. -/
def outcome (θ : Float) (Γ : SymbolTable) : Item → Except Diagnostic Declaration
  | .declarator d => check θ Γ d
  | .stray line text => .error (.atLine line (.notDeclaration text))

/-- The outcomes of a row of items, from a given table on. -/
def outcomes (θ : Float) (Γ : SymbolTable) : List Item → List (Except Diagnostic Declaration)
  | [] => []
  | i :: rest => outcome θ Γ i :: outcomes θ (after Γ (outcome θ Γ i)) rest

/-- The table after a row of items. -/
def tableAfter (θ : Float) (Γ : SymbolTable) : List Item → SymbolTable
  | [] => Γ
  | i :: rest => tableAfter θ (after Γ (outcome θ Γ i)) rest

/-- What one line holds. -/
def itemsOfLine (l : SourceLine) : List Item :=
  match Header.ofLine? l.text with
  | some h => (split (· == ',') h.declarators).map fun part => .declarator ⟨l.number, h.type, part⟩
  | none => [.stray l.number l.text]

/-- A line that is no declaration counts in strict mode only. -/
def Item.counts (strict : Bool) : Item → Bool
  | .declarator _ => true
  | .stray _ _ => strict

/-- What a list of lines holds. -/
def items (strict : Bool) (ls : List SourceLine) : List Item :=
  (ls.flatMap itemsOfLine).filter (·.counts strict)

/-- A line of declarators. -/
def isDeclarationLine (l : SourceLine) : Bool := (Header.ofLine? l.text).isSome

/-- The semantic stage. -/
def analyze (settings : Settings) (source : Text) : Analysis :=
  if Source.isEmpty source then .ofEmptySource .semantic
  else
    let ls := Source.nonblankLines settings.stripComments source
    let is := items settings.strict ls
    let os := outcomes settings.threshold .empty is
    ⟨.semantic (accepted os) (tableAfter settings.threshold .empty is),
      rejected os ++ noDeclarationsIf (settings.strict && !ls.any isDeclarationLine)⟩

end VarDecl.Analysis.Semantic
