import VarDecl.Text.Quoted

/-!
# JSON documents

JSON values and their indented text.

* Objects list their fields in the order of the keys' code points (`Json.object`);
* each item and field stands on a line of its own, indented by two spaces a level; empty arrays and
  objects take no line;
* the text is printable ASCII: all other characters are escaped by their UTF-16 units, with short
  escapes where JSON has them.
-/

namespace VarDecl

/-- A JSON value. -/
inductive Json
  | null
  | bool (b : Bool)
  | num (n : Nat)
  | str (t : Text)
  | arr (items : List Json)
  | obj (fields : List (Text × Json))

namespace Json

/-- An object, its fields sorted by key. -/
def object (fields : List (Text × Json)) : Json :=
  obj (fields.mergeSort fun a b => a.1.le b.1)

/-- A text or `null`. -/
def ofOption (t : Option Text) : Json := (t.map str).getD null

/-- The escape of one UTF-16 unit. -/
def escapeUnit (n : Nat) : Text := '\\' :: 'u' :: Text.hexDigits 4 n

/-- The UTF-16 units of a code point. -/
def units (n : Nat) : List Nat :=
  if n < 0x10000 then [n]
  else [0xD800 + (n - 0x10000) / 0x400, 0xDC00 + (n - 0x10000) % 0x400]

/-- A character inside a JSON string. -/
def escapeChar (c : Char) : Text :=
  if c = '"' then ['\\', '"']
  else if c = '\\' then ['\\', '\\']
  else if c = '\n' then ['\\', 'n']
  else if c = '\r' then ['\\', 'r']
  else if c = '\t' then ['\\', 't']
  else if c = '\x0c' then ['\\', 'f']
  else if c = '\x08' then ['\\', 'b']
  else if 0x20 ≤ c.toNat && c.toNat < 0x7F then [c]
  else (units c.toNat).flatMap escapeUnit

/-- A JSON string. -/
def quote (t : Text) : Text := '"' :: t.flatMap escapeChar ++ ['"']

/-- A new line at a level of nesting. -/
def newline (level : Nat) : Text := '\n' :: List.replicate (2 * level) ' '

mutual

/-- The text of a value that starts at a level of nesting. -/
def renderAt (level : Nat) : Json → Text
  | null => "null".toList
  | bool b => if b then "true".toList else "false".toList
  | num n => Text.ofNat n
  | str t => quote t
  | arr [] => "[]".toList
  | arr (i :: is) =>
    '[' :: newline (level + 1) ++ renderAt (level + 1) i ++ renderItems (level + 1) is
      ++ newline level ++ [']']
  | obj [] => ['\x7b', '\x7d']
  | obj ((k, v) :: fs) =>
    '\x7b' :: newline (level + 1) ++ quote k ++ [':', ' '] ++ renderAt (level + 1) v
      ++ renderFields (level + 1) fs ++ newline level ++ ['\x7d']

/-- The items of an array after the first. -/
def renderItems (level : Nat) : List Json → Text
  | [] => []
  | i :: is => ',' :: newline level ++ renderAt level i ++ renderItems level is

/-- The fields of an object after the first. -/
def renderFields (level : Nat) : List (Text × Json) → Text
  | [] => []
  | (k, v) :: fs =>
    ',' :: newline level ++ quote k ++ [':', ' '] ++ renderAt level v ++ renderFields level fs

end

/-- The text of a document. -/
def render (j : Json) : Text := renderAt 0 j

end Json

end VarDecl
