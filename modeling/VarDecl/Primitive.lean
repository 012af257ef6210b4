import VarDecl.Text.Basic

/-!
# Primitive types and value categories

* `Primitive` lists the nine types that a declaration may start with, in the order in which they
  are suggested; `name` writes a type and `ofName?` reads it (`ofName?_eq_some_iff`);
* `Category` is what an expression evaluates to, as far as that is known. `join` is the higher of
  two categories in the order string, floating, integral, boolean, unknown.
-/

namespace VarDecl

/-- A type that a declaration may start with. -/
inductive Primitive
  | int
  | double
  | float
  | boolean
  | char
  | long
  | byte
  | short
  | string
  deriving DecidableEq

/-- What a value is, as far as its text tells. -/
inductive Category
  | string
  | floating
  | integral
  | boolean
  | unknown
  deriving DecidableEq

namespace Category

/-- The written name of a category. -/
def name : Category → Text
  | string => "string".toList
  | floating => "floating".toList
  | integral => "integral".toList
  | boolean => "boolean".toList
  | unknown => "unknown".toList

/-- The place of a category in the order that decides what a mixed expression is. -/
def rank : Category → Nat
  | string => 4
  | floating => 3
  | integral => 2
  | boolean => 1
  | unknown => 0

/-- The higher of two categories. -/
def join (a b : Category) : Category := if a.rank < b.rank then b else a

@[simp] theorem join_unknown (a : Category) : a.join unknown = a := by cases a <;> rfl
@[simp] theorem unknown_join (a : Category) : unknown.join a = a := by cases a <;> rfl
@[simp] theorem join_self (a : Category) : a.join a = a := by cases a <;> rfl

theorem join_comm (a b : Category) : a.join b = b.join a := by cases a <;> cases b <;> rfl

theorem join_assoc (a b c : Category) : (a.join b).join c = a.join (b.join c) := by
  cases a <;> cases b <;> cases c <;> rfl

/-- The rank of a join is the greater rank. -/
theorem rank_join (a b : Category) : (a.join b).rank = max a.rank b.rank := by
  cases a <;> cases b <;> rfl

end Category

namespace Primitive

/-- All primitive types, in the order in which they are suggested. -/
def all : List Primitive := [int, double, float, boolean, char, long, byte, short, string]

/-- The written name of a type. -/
def name : Primitive → Text
  | int => "int".toList
  | double => "double".toList
  | float => "float".toList
  | boolean => "boolean".toList
  | char => "char".toList
  | long => "long".toList
  | byte => "byte".toList
  | short => "short".toList
  | string => "String".toList

/-- The names of all primitive types. -/
def names : List Text := all.map name

/-- The type with a given name. -/
def ofName? (t : Text) : Option Primitive := all.find? fun p => p.name == t

/-- The type whose name starts a text, and the text after it. -/
def ofStart? (t : Text) : Option (Primitive × Text) :=
  all.findSome? fun p => (Text.after? p.name t).map fun rest => (p, rest)

/-- Each type is listed. -/
theorem mem_all (p : Primitive) : p ∈ all := by cases p <;> decide

@[simp] theorem ofName?_name (p : Primitive) : ofName? p.name = some p := by cases p <;> decide

/-- Reading a name gives the type that is written so. -/
theorem ofName?_eq_some_iff {t : Text} {p : Primitive} : ofName? t = some p ↔ t = p.name := by
  constructor
  · intro h
    have := List.find?_some h
    simpa using (beq_iff_eq.1 this).symm
  · rintro rfl
    exact ofName?_name p

/-- The category of the values of a type; characters count as integral. -/
def category : Primitive → Category
  | int | long | byte | short | char => .integral
  | double | float => .floating
  | boolean => .boolean
  | string => .string

/-- An integral type holds whole numbers or characters. -/
def isIntegral (p : Primitive) : Bool := p.category == .integral

/-- A floating type holds fractions. -/
def isFloating (p : Primitive) : Bool := p.category == .floating

/-- A numeric type is integral or floating. -/
def isNumeric (p : Primitive) : Bool := p.isIntegral || p.isFloating

end Primitive

/-- Whether an expression of a category may initialise a variable of a type. An unknown expression
is taken on trust for numeric types only. -/
def Category.fits : Category → Primitive → Bool
  | string, p => p == .string
  | floating, p => p.isFloating
  | integral, p => p.isNumeric
  | boolean, p => p == .boolean
  | unknown, p => !(p == .string || p == .boolean || p == .char)

/-- The category that a type name stands for; other names than the primitive ones say nothing. -/
def Category.ofTypeName (t : Text) : Category :=
  match Primitive.ofName? t with
  | some p => p.category
  | none => .unknown

@[simp] theorem Category.ofTypeName_name (p : Primitive) : ofTypeName p.name = p.category := by
  simp [ofTypeName]

end VarDecl
