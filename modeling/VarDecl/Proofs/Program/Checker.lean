import VarDecl.Analysis
import VarDecl.Proofs.Program.Basic

/-!
# Checking programs as trees

The rules of the semantic stage on trees, where nothing has to be read from a text. Declarators are
checked in order, and each that is not reported enters the scope.

* A name in the scope cannot be declared again;
* a constant that stands alone must fit the type by the table of literals;
* any other expression must use no variable outside the scope, and the highest category of its atoms
  must fit the type (`highest`).
-/

namespace VarDecl.Program

open Text Analysis

/-! ### Categories -/

/-- The categories from the one that decides first to the one that decides last. -/
def precedence : List Category := [.string, .floating, .integral, .boolean]

/-- The first category of the precedence that occurs, or the unknown one. -/
def highest (cs : List Category) : Category :=
  (precedence.find? fun c => decide (c ∈ cs)).getD .unknown

/-- The literal that a constant is. -/
def Constant.kind : Constant → LiteralKind
  | string _ => .string
  | char _ => .char
  | boolean _ => .boolean
  | number n => if n.fraction.isNone && n.exponent.isNone then .integer else .floating

/-- The variables declared so far, with their types. -/
abbrev Scope := List (Identifier × Primitive)

/-- The names of a scope. -/
def Scope.names (Γ : Scope) : List Text := Γ.map (·.1.text)

/-- The type of a variable. -/
def Scope.type? (Γ : Scope) (x : Identifier) : Option Primitive :=
  (Γ.find? fun e => e.1.text == x.text).map (·.2)

/-- The category of an atom; none for a variable outside the scope. -/
def Atom.category? (Γ : Scope) : Atom → Option Category
  | constant c => some c.kind.category
  | reference x _ => (Γ.type? x).map Primitive.category

/-- The name of an atom that is a variable outside the scope. -/
def Atom.undeclared? (Γ : Scope) : Atom → Option Text
  | constant _ => none
  | reference x _ => if (Γ.type? x).isNone then some x.text else none

/-! ### Declarators -/

/-- What is wrong with an initializer of a variable `target`. -/
def Expr.fault? (θ : Float) (Γ : Scope) (type : Primitive) (target : Text) (e : Expr) :
    Option (Fault × Option Text) :=
  match e with
  | ⟨.constant c, []⟩ =>
    if c.kind.fits type then none else some (.literalMismatch c.kind type target, none)
  | e =>
    match e.atoms.findSome? (Atom.undeclared? Γ) with
    | some u => some (.undefined u target, Suggestion.suggest? θ u Γ.names)
    | none =>
      let c := highest (e.atoms.filterMap (Atom.category? Γ))
      if c.fits type then none else some (.expressionMismatch c type target, none)

/-- A declarator with the number and the type of its line. -/
structure Placed where
  line : Nat
  type : Primitive
  declarator : Declarator

namespace Placed

/-- What is wrong with a declarator. -/
def fault? (θ : Float) (Γ : Scope) (p : Placed) : Option (Fault × Option Text) :=
  if p.declarator.name.text ∈ Γ.names then some (.alreadyDeclared p.declarator.name.text, none)
  else
    match p.declarator.initializer with
    | some e => e.fault? θ Γ p.type p.declarator.name.text
    | none => none

/-- The declaration that a declarator makes. -/
def declaration (p : Placed) : Declaration :=
  ⟨p.type.name, p.declarator.name.text, p.declarator.initializer.map Expr.render, p.line⟩

end Placed

/-! ### Programs -/

/-- What has been found so far. -/
structure State where
  scope : Scope
  declarations : List Declaration
  diagnostics : List Diagnostic

/-- Check one declarator. -/
def State.step (θ : Float) (s : State) (p : Placed) : State :=
  match p.fault? θ s.scope with
  | some (fault, suggestion) =>
    { s with diagnostics := s.diagnostics ++ [⟨some p.line, fault, suggestion⟩] }
  | none =>
    { s with
      scope := s.scope ++ [(p.declarator.name, p.type)]
      declarations := s.declarations ++ [p.declaration] }

/-- The symbol table of a scope. -/
def Scope.table (Γ : Scope) : SymbolTable := ⟨Γ.map fun e => (e.1.text, e.2.name)⟩

/-- The declarators of numbered lines. -/
def placedFrom (n : Nat) : List Line → List Placed
  | [] => []
  | l :: rest => l.declarators.map (⟨n, l.type, ·⟩) ++ placedFrom (n + 1) rest

/-- Check a program. -/
def check (θ : Float) (P : Program) : Analysis :=
  let s := (placedFrom 1 P.lines).foldl (State.step θ) ⟨[], [], []⟩
  ⟨.semantic s.declarations s.scope.table, s.diagnostics⟩

end VarDecl.Program
