import VarDecl.Text.Basic
import VarDecl.Text.Digit
import VarDecl.Primitive

/-!
# Literals

Recognisers of whole literals, built from small readers that return the text after what they read.

* `isInteger`, `isDecimal`, `isScientific`: an optional sign and digits of any script, then a
  fraction, an exponent or both;
* `isChar`: one character or one escape between apostrophes; `isString`: characters and escapes
  between double quotes, ending at the first quote that is not escaped;
* `kind?` tells which literal a text is; `LiteralKind.fits` is the table of the types that a
  literal may initialise.

A backslash followed by a newline is no escape. One newline may follow a literal (`Text.atEnd`).
-/

namespace VarDecl

/-- The kinds of literals. -/
inductive LiteralKind
  | string
  | char
  | boolean
  | integer
  | floating
  deriving DecidableEq

namespace LiteralKind

/-- The written name of a kind. -/
def name : LiteralKind → Text
  | string => "string".toList
  | char => "char".toList
  | boolean => "boolean".toList
  | integer => "integer".toList
  | floating => "floating".toList

/-- The category of the values of a literal. -/
def category : LiteralKind → Category
  | string => .string
  | char | integer => .integral
  | boolean => .boolean
  | floating => .floating

/-- Whether a literal may initialise a variable of a type. -/
def fits : LiteralKind → Primitive → Bool
  | string, p => p == .string
  | char, p => p == .char
  | boolean, p => p == .boolean
  | integer, p => p.isNumeric
  | floating, p => p.isFloating

end LiteralKind

namespace Literal

open Text

/-- Read one or more digits. -/
def digits? : Text → Option (Text × Text)
  | [] => none
  | c :: r => if isDigit c then some (c :: r.takeWhile isDigit, r.dropWhile isDigit) else none

/-- Read an optional sign. -/
def sign : Text → Text × Text
  | '+' :: r => (['+'], r)
  | '-' :: r => (['-'], r)
  | r => ([], r)

/-- Read a point and one or more digits. -/
def fraction? : Text → Option (Text × Text)
  | '.' :: r => (digits? r).map fun (ds, rest) => ('.' :: ds, rest)
  | _ => none

/-- Read the letter of an exponent, an optional sign and one or more digits. -/
def exponent? : Text → Option (Text × Text)
  | [] => none
  | c :: r =>
    if c == 'e' || c == 'E' then
      let (s, r) := sign r
      (digits? r).map fun (ds, rest) => (c :: (s ++ ds), rest)
    else none

/-- Read a number with an exponent, the fraction being optional. -/
def scientific? (t : Text) : Option (Text × Text) := do
  let (whole, r) ← digits? t
  let (frac, r) := (fraction? r).getD ([], r)
  let (exp, r) ← exponent? r
  return (whole ++ frac ++ exp, r)

/-- Read up to and including the closing quote `q`. A backslash takes the next character with it,
which must not be a newline; `none` if no quote closes. -/
def closing? (q : Char) : Text → Option (Text × Text)
  | [] => none
  | '\\' :: c :: r =>
    if c = '\n' then none else (closing? q r).map fun (s, rest) => ('\\' :: c :: s, rest)
  | c :: r =>
    if c = q then some ([c], r) else (closing? q r).map fun (s, rest) => (c :: s, rest)

/-- Read a quoted span that starts with the quote `q`. -/
def span? (q : Char) : Text → Option (Text × Text)
  | [] => none
  | c :: r => if c = q then (closing? q r).map fun (s, rest) => (c :: s, rest) else none

/-- Whether a reader takes a whole text. -/
def reads (reader : Text → Option (Text × Text)) (t : Text) : Bool :=
  (reader t).any fun r => atEnd r.2

/-- Digits with an optional sign. -/
def isInteger (t : Text) : Bool := reads digits? (sign t).2

/-- Digits, a fraction and an optional exponent, with an optional sign. -/
def isDecimal (t : Text) : Bool :=
  match digits? (sign t).2 with
  | none => false
  | some (_, r) => (fraction? r).any fun (_, r) => atEnd r || reads exponent? r

/-- Digits, an optional fraction and an exponent, with an optional sign. -/
def isScientific (t : Text) : Bool := reads scientific? (sign t).2

/-- A number with a fraction or an exponent. -/
def isFloating (t : Text) : Bool := isDecimal t || isScientific t

/-- One character or escape between apostrophes. -/
def isChar : Text → Bool
  | '\'' :: '\\' :: c :: '\'' :: r => c != '\n' && atEnd r
  | '\'' :: c :: '\'' :: r => c != '\'' && c != '\\' && atEnd r
  | _ => false

/-- Characters and escapes between double quotes. -/
def isString (t : Text) : Bool := reads (span? '"') t

/-- One of the two truth values. -/
def isBoolean (t : Text) : Bool :=
  (after? "true".toList t).any atEnd || (after? "false".toList t).any atEnd

/-- The literal that a whole text is. -/
def kind? (t : Text) : Option LiteralKind :=
  if isString t then some .string
  else if isChar t then some .char
  else if isBoolean t then some .boolean
  else if isInteger t then some .integer
  else if isFloating t then some .floating
  else none

theorem length_lt_of_closing? {q : Char} {t s r : Text} (h : closing? q t = some (s, r)) :
    r.length < t.length := by
  fun_induction closing? q t generalizing s r with
  | case1 => simp at h
  | case2 => simp at h
  | case3 c t _ ih =>
    obtain ⟨p, hp, he⟩ := Option.map_eq_some_iff.1 h
    have := ih hp
    simp only [Prod.mk.injEq] at he
    simp only [← he.2, List.length_cons]
    omega
  | case4 t =>
    simp only [Option.some.injEq, Prod.mk.injEq] at h
    simp [← h.2]
  | case5 c t _ hc ih =>
    obtain ⟨p, hp, he⟩ := Option.map_eq_some_iff.1 h
    have := ih hp
    simp only [Prod.mk.injEq] at he
    simp only [← he.2, List.length_cons]
    omega

theorem length_lt_of_span? {q : Char} {t s r : Text} (h : span? q t = some (s, r)) :
    r.length < t.length := by
  cases t with
  | nil => simp [span?] at h
  | cons c t =>
    simp only [span?] at h
    split at h
    · obtain ⟨p, hp, he⟩ := Option.map_eq_some_iff.1 h
      have := length_lt_of_closing? hp
      simp only [Prod.mk.injEq] at he
      simp only [← he.2, List.length_cons]
      omega
    · simp at h

/-- A span is what it was read from, less the rest. -/
theorem append_of_closing? {q : Char} {t s r : Text} (h : closing? q t = some (s, r)) :
    s ++ r = t := by
  fun_induction closing? q t generalizing s r with
  | case1 => simp at h
  | case2 => simp at h
  | case3 c t _ ih =>
    obtain ⟨p, hp, he⟩ := Option.map_eq_some_iff.1 h
    have := ih hp
    simp only [Prod.mk.injEq] at he
    simp [← he.1, ← he.2, this]
  | case4 t =>
    simp only [Option.some.injEq, Prod.mk.injEq] at h
    simp [← h.1, ← h.2]
  | case5 c t _ hc ih =>
    obtain ⟨p, hp, he⟩ := Option.map_eq_some_iff.1 h
    have := ih hp
    simp only [Prod.mk.injEq] at he
    simp [← he.1, ← he.2, this]

end Literal

end VarDecl
