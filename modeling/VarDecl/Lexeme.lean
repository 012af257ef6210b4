import VarDecl.Literal
import VarDecl.Name

/-!
# Lexemes

The words of a declaration line with their kinds.

* `pieces` reads a line as quoted spans and single characters, `rawTokens` cuts it at the blanks
  outside the spans, so that a span with its blanks stays in one token;
* the semicolons at the end of a token form a lexeme of their own;
* `classify` gives a token its kind. It depends on what stands before: right after a data type each
  identifier is a name, also one that is spelt like a type.
-/

namespace VarDecl

/-- The kind of a lexeme. -/
inductive LexemeKind
  | dataType
  | identifier
  | assignmentOperator
  | delimiter
  | value
  | unknown
  deriving DecidableEq

/-- The written name of a kind. -/
def LexemeKind.name : LexemeKind → Text
  | dataType => "DataType".toList
  | identifier => "Identifier".toList
  | assignmentOperator => "AssignmentOperator".toList
  | delimiter => "Delimiter".toList
  | value => "Value".toList
  | unknown => "Unknown".toList

/-- A word of a line with its kind. -/
structure Lexeme where
  text : Text
  kind : LexemeKind
  deriving DecidableEq

namespace Lexeme

/-- A lexeme as reports show it. -/
def render (l : Lexeme) : Text := l.text ++ " [".toList ++ l.kind.name ++ "]".toList

/-- What stands before a token. -/
inductive Context
  | plain
  | afterType
  deriving DecidableEq

/-- The context after a lexeme of a kind. -/
def Context.after : LexemeKind → Context
  | .dataType => .afterType
  | _ => .plain

/-- A closed span between double quotes, or one character outside such spans. -/
inductive Piece
  | span (text : Text)
  | char (c : Char)
  deriving DecidableEq

namespace Piece

/-- The characters of a piece. -/
def text : Piece → Text
  | span t => t
  | char c => [c]

/-- A blank outside spans. -/
def isBlank : Piece → Bool
  | span _ => false
  | char c => Text.isBlank c

end Piece

/-- The pieces of a line, from left to right. -/
def pieces : Text → List Piece
  | [] => []
  | c :: t =>
    match _h : Literal.span? '"' (c :: t) with
    | some (s, r) => .span s :: pieces r
    | none => .char c :: pieces t
termination_by t => t.length
decreasing_by
  · exact Literal.length_lt_of_span? _h
  · simp

@[simp] theorem pieces_nil : pieces [] = [] := by simp [pieces]

/-- A closed span is one piece. -/
theorem pieces_of_span? {t s r : Text} (h : Literal.span? '"' t = some (s, r)) :
    pieces t = .span s :: pieces r := by
  cases t with
  | nil => simp [Literal.span?] at h
  | cons c t =>
    rw [pieces]
    split <;> simp_all

/-- A character that opens no closed span is a piece of its own. -/
theorem pieces_cons_of_none {c : Char} {t : Text} (h : Literal.span? '"' (c :: t) = none) :
    pieces (c :: t) = .char c :: pieces t := by
  rw [pieces]
  split <;> simp_all

/-- The tokens of a line, which still have their semicolons. -/
def rawTokens (t : Text) : List Text :=
  (((pieces t).splitOnP Piece.isBlank).filter fun ps => !ps.isEmpty).map fun ps =>
    ps.flatMap Piece.text

/-- The kind of a token without its last semicolons. -/
def classify (ctx : Context) (t : Text) : LexemeKind :=
  if ctx = .afterType ∧ Name.isIdentifier t then .identifier
  else if (Primitive.ofName? t).isSome then .dataType
  else if t = ['='] then .assignmentOperator
  else if Literal.isInteger t || Literal.isFloating t then .value
  else if Literal.isString t || Literal.isChar t then .value
  else if Name.isIdentifier t then .identifier
  else .unknown

/-- A token without the semicolons at its end. -/
def body (raw : Text) : Text := Text.dropTrailing (· == ';') raw

/-- The semicolons at the end of a token. -/
def terminators (raw : Text) : Text := raw.drop (body raw).length

/-- The kind of the first lexeme of a token: a token of semicolons is a delimiter. -/
def leadingKind (ctx : Context) (raw : Text) : LexemeKind :=
  if (body raw).isEmpty then .delimiter else classify ctx (body raw)

/-- The lexemes of one token. -/
def ofToken (ctx : Context) (raw : Text) : List Lexeme :=
  let first := if (body raw).isEmpty then [] else [⟨body raw, classify ctx (body raw)⟩]
  let last := if (terminators raw).isEmpty then [] else [⟨terminators raw, .delimiter⟩]
  first ++ last

/-- The lexemes of a row of tokens. -/
def ofTokens (ctx : Context) : List Text → List Lexeme
  | [] => []
  | raw :: rest => ofToken ctx raw ++ ofTokens (.after (leadingKind ctx raw)) rest

/-- The lexemes of a line. -/
def ofLine (line : Text) : List Lexeme := ofTokens .plain (rawTokens line)

end Lexeme

end VarDecl
