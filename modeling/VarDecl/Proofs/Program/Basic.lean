import VarDecl.Diagnostic
import VarDecl.Proofs.Name

/-!
# Programs as trees

A program is a row of declaration lines. Each line has a primitive type and a row of declarators, a
declarator has a name and perhaps an expression, and an expression is a row of atoms with operators
between them. What the grammar of a part asks for is carried by the part, so every tree has a text.

* `Atom` is a constant (`Constant`: string, character, truth value or number) or a variable;
* `Program.render` writes a program: one line for each line of the tree, single spaces around equals
  signs and operators, and one after each comma.
-/

namespace VarDecl.Program

open Text

/-! ### Names and constants -/

/-- A name of a variable. -/
structure Identifier where
  text : Text
  isName : Name.IsName text

/-- One character of a quoted literal: a plain one or one after a backslash. -/
inductive Glyph (quote : Char)
  | plain (c : Char) (h : c ≠ quote ∧ c ≠ '\\' ∧ c ≠ '\n')
  | escaped (c : Char) (h : c ≠ '\n')

/-- One or more ASCII digits. -/
structure Digits where
  text : Text
  ne_nil : text ≠ []
  isDigit : ∀ c ∈ text, c.isDigit = true

/-- An optional sign. -/
inductive Sign
  | none
  | plus
  | minus

/-- The exponent of a number. -/
structure Exponent where
  capital : Bool
  sign : Sign
  digits : Digits

/-- A number: whole, or with a fraction, an exponent or both. -/
structure Numeral where
  sign : Sign
  whole : Digits
  fraction : Option Digits
  exponent : Option Exponent

/-- A literal. -/
inductive Constant
  | string (glyphs : List (Glyph '"'))
  | char (glyph : Glyph '\'')
  | boolean (value : Bool)
  | number (n : Numeral)

/-! ### Expressions and lines -/

/-- A literal or a use of a variable, whose name is no truth value. -/
inductive Atom
  | constant (c : Constant)
  | reference (x : Identifier) (h : x.text ≠ "true".toList ∧ x.text ≠ "false".toList)

/-- An operator between two atoms. -/
inductive Operator
  | add
  | sub
  | mul
  | div
  | mod
  | lt
  | gt
  | and
  | or

/-- A row of atoms with operators between them. -/
structure Expr where
  first : Atom
  rest : List (Operator × Atom)

/-- A name, with or without an initializer. -/
structure Declarator where
  name : Identifier
  initializer : Option Expr

/-- A row of declarators of one type. -/
structure Line where
  type : Primitive
  first : Declarator
  rest : List Declarator

end Program

/-- A row of lines. -/
structure Program where
  first : Program.Line
  rest : List Program.Line

namespace Program

/-- The atoms of an expression. -/
def Expr.atoms (e : Expr) : List Atom := e.first :: e.rest.map (·.2)

/-- The declarators of a line. -/
def Line.declarators (l : Line) : List Declarator := l.first :: l.rest

/-- The lines of a program. -/
def lines (P : Program) : List Line := P.first :: P.rest

/-! ### Rendering -/

/-- A character as it stands in a literal. -/
def Glyph.render {quote : Char} : Glyph quote → Text
  | plain c _ => [c]
  | escaped c _ => ['\\', c]

/-- A sign. -/
def Sign.render : Sign → Text
  | none => []
  | plus => ['+']
  | minus => ['-']

/-- An exponent with its letter. -/
def Exponent.render (e : Exponent) : Text :=
  (if e.capital then 'E' else 'e') :: (e.sign.render ++ e.digits.text)

/-- The point and the digits of a fraction. -/
def Numeral.fractionText (n : Numeral) : Text :=
  match n.fraction with
  | some ds => '.' :: ds.text
  | none => []

/-- The exponent of a number, if it has one. -/
def Numeral.exponentText (n : Numeral) : Text :=
  match n.exponent with
  | some e => e.render
  | none => []

/-- A number without its sign. -/
def Numeral.magnitude (n : Numeral) : Text := n.whole.text ++ n.fractionText ++ n.exponentText

/-- A literal. -/
def Constant.render : Constant → Text
  | string glyphs => '"' :: (glyphs.flatMap Glyph.render ++ ['"'])
  | char glyph => '\'' :: (glyph.render ++ ['\''])
  | boolean true => "true".toList
  | boolean false => "false".toList
  | number n => n.sign.render ++ n.magnitude

/-- An atom. -/
def Atom.render : Atom → Text
  | constant c => c.render
  | reference x _ => x.text

/-- An operator. -/
def Operator.render : Operator → Text
  | add => ['+']
  | sub => ['-']
  | mul => ['*']
  | div => ['/']
  | mod => ['%']
  | lt => ['<']
  | gt => ['>']
  | and => ['&', '&']
  | or => ['|', '|']

/-- What follows the first atom of an expression, with single spaces around the operators. -/
def renderRest (rest : List (Operator × Atom)) : Text :=
  rest.flatMap fun (op, a) => ' ' :: (op.render ++ ' ' :: a.render)

/-- An expression. -/
def Expr.render (e : Expr) : Text := e.first.render ++ renderRest e.rest

/-- A declarator. -/
def Declarator.render (d : Declarator) : Text :=
  match d.initializer with
  | some e => d.name.text ++ " = ".toList ++ e.render
  | none => d.name.text

/-- The declarators of a line, with commas between them. -/
def Line.list (l : Line) : Text :=
  l.first.render ++ l.rest.flatMap fun d => ", ".toList ++ d.render

/-- A line. -/
def Line.render (l : Line) : Text := l.type.name ++ ' ' :: (l.list ++ [';'])

/-- A program, line by line. -/
def render (P : Program) : Text := List.intercalate ['\n'] (P.lines.map Line.render)

end Program

end VarDecl
