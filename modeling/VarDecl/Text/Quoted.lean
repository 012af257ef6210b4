import VarDecl.Text.Basic
import VarDecl.Text.Printable

/-!
# Quoted texts

A text as error messages quote it.

* The quotes are single, or double when the text holds single quotes and no double ones;
* a backslash and the quote itself are escaped by a backslash, the tab and the two line breaks by a
  letter, and other unprintable characters by their code point in two, four or eight hexadecimal
  digits.
-/

namespace VarDecl.Text

/-- A number in a given count of hexadecimal digits. -/
def hexDigits : (count n : Nat) → Text
  | 0, _ => []
  | k + 1, n => hexDigits k (n / 16) ++ [Nat.digitChar (n % 16)]

/-- The quote that a text is put in. -/
def quoteFor (t : Text) : Char := if t.contains '\'' && !t.contains '"' then '"' else '\''

/-- A character of a quoted text. -/
def quoteChar (quote c : Char) : Text :=
  if c = quote ∨ c = '\\' then ['\\', c]
  else if c = '\t' then ['\\', 't']
  else if c = '\n' then ['\\', 'n']
  else if c = '\r' then ['\\', 'r']
  else if isPrintable c then [c]
  else if c.toNat < 0x100 then '\\' :: 'x' :: hexDigits 2 c.toNat
  else if c.toNat < 0x10000 then '\\' :: 'u' :: hexDigits 4 c.toNat
  else '\\' :: 'U' :: hexDigits 8 c.toNat

/-- A text in quotes. -/
def quote (t : Text) : Text :=
  let q := quoteFor t
  q :: t.flatMap (quoteChar q) ++ [q]

end VarDecl.Text
