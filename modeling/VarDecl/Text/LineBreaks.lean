import VarDecl.Text.Basic

/-!
# Line breaks

* `unifyBreaks` writes every line break of a file as one newline: a carriage return, with or without
  a newline after it, becomes a newline;
* `breakLines` cuts at all vertical separators of Unicode and has no last line after a final one.
-/

namespace VarDecl.Text

/-- Write carriage returns as newlines, and pairs of both as one newline. -/
def unifyBreaks : Text → Text
  | '\r' :: '\n' :: r => '\n' :: unifyBreaks r
  | c :: r => (if c = '\r' then '\n' else c) :: unifyBreaks r
  | [] => []

/-- A character that ends a line, carriage returns apart. -/
def isBreak (c : Char) : Bool :=
  (10 ≤ c.toNat && c.toNat ≤ 12) || (0x1C ≤ c.toNat && c.toNat ≤ 0x1E) || c.toNat == 0x85
    || c.toNat == 0x2028 || c.toNat == 0x2029

/-- The lines of a text without carriage returns. -/
def breakLines (t : Text) : List Text :=
  let ls := t.splitOnP isBreak
  if ls.getLast? = some [] then ls.dropLast else ls

end VarDecl.Text
