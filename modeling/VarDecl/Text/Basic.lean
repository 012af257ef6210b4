import VarDecl.Text.Blank

/-!
# Texts

A text is the list of its characters, so a length and an index count code points.

* `lines` cuts at newlines and `words` at blanks; `trim` removes the blanks at both ends;
* `atEnd` tells the end of a text, before which one newline may stand;
* `isWordChar` and `isNameStart` are the ASCII characters of names;
* `ofNat` writes a number in decimal;
* `le` orders texts by code points, `after?` and `cutAt` take texts apart.
-/

namespace VarDecl

/-- A text is a list of characters. -/
abbrev Text := List Char

namespace Text

/-- The end of a text, with or without one last newline. -/
def atEnd : Text → Bool
  | [] => true
  | ['\n'] => true
  | _ => false

@[simp] theorem atEnd_nil : atEnd [] = true := rfl

/-- The lines of a text: one more than it has newlines. -/
def lines (t : Text) : List Text := t.splitOn '\n'

/-- The maximal runs of characters that are not blank. -/
def words (t : Text) : List Text := (t.splitOnP isBlank).filter fun w => !w.isEmpty

/-- Remove the characters at the end for which `p` holds. -/
def dropTrailing (p : Char → Bool) (t : Text) : Text := (t.reverse.dropWhile p).reverse

/-- Remove the blanks at the start. -/
def trimLeft (t : Text) : Text := t.dropWhile isBlank

/-- Remove the blanks at the end. -/
def trimRight (t : Text) : Text := dropTrailing isBlank t

/-- Remove the blanks at both ends. -/
def trim (t : Text) : Text := trimRight (trimLeft t)

@[simp] theorem trim_nil : trim [] = [] := rfl

theorem length_dropTrailing_le (p : Char → Bool) (t : Text) :
    (dropTrailing p t).length ≤ t.length := by
  simpa [dropTrailing] using (List.dropWhile_sublist p (l := t.reverse)).length_le

/-- Trimming never lengthens a text. -/
theorem length_trim_le (t : Text) : (trim t).length ≤ t.length :=
  Nat.le_trans (length_dropTrailing_le _ _) (List.dropWhile_sublist _).length_le

/-- An ASCII letter, an ASCII digit or the underscore. -/
def isWordChar (c : Char) : Bool := c.isAlphanum || c == '_'

/-- A word character that is no digit. -/
def isNameStart (c : Char) : Bool := c.isAlpha || c == '_'

/-- The decimal digits of a number, without leading zeros. -/
def ofNat (n : Nat) : Text := Nat.toDigits 10 n

/-- The rest of a text that starts with `p`. -/
def after? : (p t : Text) → Option Text
  | [], t => some t
  | _ :: _, [] => none
  | a :: p, c :: t => if a = c then after? p t else none

/-- `after?` finds the one way to continue `p`. -/
theorem after?_eq_some_iff {p t r : Text} : after? p t = some r ↔ t = p ++ r := by
  fun_induction after? p t with
  | case1 t => simp [eq_comm]
  | case2 => simp
  | case3 a p t ih => simp [ih]
  | case4 a p c t h => simp [Ne.symm h]

/-- The order of texts by code points, a text coming before its continuations. -/
def le : Text → Text → Bool
  | [], _ => true
  | _ :: _, [] => false
  | a :: s, b :: t => if a = b then le s t else a.toNat < b.toNat

/-- Whether two equal characters `c` stand side by side. -/
def hasDouble (c : Char) : Text → Bool
  | a :: b :: r => (a == c && b == c) || hasDouble c (b :: r)
  | _ => false

/-- Split at the first `c`, which is dropped; `none` for the second part if there is no `c`. -/
def cutAt (c : Char) (t : Text) : Text × Option Text :=
  (t.takeWhile (· != c), (t.dropWhile (· != c)).tail?)

end Text

end VarDecl
