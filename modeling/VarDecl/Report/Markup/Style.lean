import VarDecl.Text.Basic
import VarDecl.Text.Digit
import VarDecl.Text.Lower
import VarDecl.Text.Quoted

/-!
# Styles

The styles that a tag can name, as far as their names go.

* `colorRows` holds the names of colours; other colours are given by numbers (`color?`), and a
  number that cannot be read is a fault;
* `Style.ofText?` reads the words of a style from left to right, and `Style.render` writes them in a
  fixed order;
* `normalize` brings all names of one style to one form. What names no style keeps its own form, but
  for blanks and capitals.
-/

namespace VarDecl.Report.Markup

open Text

/-- What the console cannot read in a text or cannot show. -/
inductive Fault
  | nothingToClose (position : Nat)
  | notOpen (tag : Text) (position : Nat)
  | handler (complaint : Text)
  | emptyNumber
  | longNumber (digits : Nat)
  deriving DecidableEq

/-- The wording of a fault. -/
def Fault.message : Fault → Text
  | nothingToClose position =>
    "closing tag '[/]' at position ".toList ++ ofNat position ++ " has nothing to close".toList
  | notOpen tag position =>
    "closing tag '".toList ++ tag ++ "' at position ".toList ++ ofNat position
      ++ " doesn't match any open tag".toList
  | handler complaint => complaint
  | emptyNumber => "invalid literal for int() with base 10: ''".toList
  | longNumber digits =>
    "Exceeds the limit (4300 digits) for integer string conversion: value has ".toList
      ++ ofNat digits ++ " digits; use sys.set_int_max_str_digits() to increase the limit".toList

/-! ### Colours -/

/-- The names of colours. -/
def colorRows : List String :=
  ["default black red green yellow blue magenta cyan white bright_black bright_red",
    "bright_green bright_yellow bright_blue bright_magenta bright_cyan bright_white grey0 gray0",
    "navy_blue dark_blue blue3 blue1 dark_green deep_sky_blue4 dodger_blue3 dodger_blue2 green4",
    "spring_green4 turquoise4 deep_sky_blue3 dodger_blue1 green3 spring_green3 dark_cyan",
    "light_sea_green deep_sky_blue2 deep_sky_blue1 spring_green2 cyan3 dark_turquoise",
    "turquoise2 green1 spring_green1 medium_spring_green cyan2 cyan1 dark_red deep_pink4",
    "purple4 purple3 blue_violet orange4 grey37 gray37 medium_purple4 slate_blue3 royal_blue1",
    "chartreuse4 dark_sea_green4 pale_turquoise4 steel_blue steel_blue3 cornflower_blue",
    "chartreuse3 cadet_blue sky_blue3 steel_blue1 pale_green3 sea_green3 aquamarine3",
    "medium_turquoise chartreuse2 sea_green2 sea_green1 aquamarine1 dark_slate_gray2",
    "dark_magenta dark_violet purple light_pink4 plum4 medium_purple3 slate_blue1 yellow4",
    "wheat4 grey53 gray53 light_slate_grey light_slate_gray medium_purple light_slate_blue",
    "dark_olive_green3 dark_sea_green light_sky_blue3 sky_blue2 dark_sea_green3",
    "dark_slate_gray3 sky_blue1 chartreuse1 light_green pale_green1 dark_slate_gray1 red3",
    "medium_violet_red magenta3 dark_orange3 indian_red hot_pink3 medium_orchid3 medium_orchid",
    "medium_purple2 dark_goldenrod light_salmon3 rosy_brown grey63 gray63 medium_purple1 gold3",
    "dark_khaki navajo_white3 grey69 gray69 light_steel_blue3 light_steel_blue yellow3",
    "dark_sea_green2 light_cyan3 light_sky_blue1 green_yellow dark_olive_green2 dark_sea_green1",
    "pale_turquoise1 deep_pink3 magenta2 hot_pink2 orchid medium_orchid1 orange3 light_pink3",
    "pink3 plum3 violet light_goldenrod3 tan misty_rose3 thistle3 plum2 khaki3 light_goldenrod2",
    "light_yellow3 grey84 gray84 light_steel_blue1 yellow2 dark_olive_green1 honeydew2",
    "light_cyan1 red1 deep_pink2 deep_pink1 magenta1 orange_red1 indian_red1 hot_pink",
    "dark_orange salmon1 light_coral pale_violet_red1 orchid2 orchid1 orange1 sandy_brown",
    "light_salmon1 light_pink1 pink1 plum1 gold1 navajo_white1 misty_rose1 thistle1 yellow1",
    "light_goldenrod1 khaki1 wheat1 cornsilk1 grey100 gray100 grey3 gray3 grey7 gray7 grey11",
    "gray11 grey15 gray15 grey19 gray19 grey23 gray23 grey27 gray27 grey30 gray30 grey35 gray35",
    "grey39 gray39 grey42 gray42 grey46 gray46 grey50 gray50 grey54 gray54 grey58 gray58 grey62",
    "gray62 grey66 gray66 grey70 gray70 grey74 gray74 grey78 gray78 grey82 gray82 grey85 gray85",
    "grey89 gray89 grey93 gray93"]

/-- Whether some row has a name. -/
def isColorName (t : Text) : Bool := colorRows.any fun row => (row.toList.splitOn ' ').contains t

/-- The number that some digits make. -/
def numberOf (digits : Text) : Nat := digits.foldl (fun n c => 10 * n + digitValue c) 0

/-- The most digits that are read as one number. -/
def digitLimit : Nat := 4300

/-- Read a component of a colour. -/
def component (digits : Text) : Except Fault Nat :=
  if digits.isEmpty then .error .emptyNumber
  else if digitLimit < digits.length then .error (.longNumber digits.length)
  else .ok (numberOf digits)

/-- What stands between an opening and a closing bracket at the end. -/
def enclosed? (opening t : Text) : Option Text :=
  (after? opening t).bind fun r => if r.getLast? = some ')' then some r.dropLast else none

/-- Six hexadecimal digits behind a hash sign. -/
def isHexColor (t : Text) : Bool :=
  (after? ['#'] t).any fun r => r.length == 6 && r.all fun c => c.isDigit || ('a' ≤ c && c ≤ 'f')

/-- A number of at most three digits that counts a colour. -/
def isIndexColor (t : Text) : Bool :=
  (enclosed? "color(".toList t).any fun r =>
    !r.isEmpty && r.length ≤ 3 && r.all Char.isDigit && numberOf r ≤ 255

/-- Whether a text in lower case is a colour. -/
def isColor (t : Text) : Except Fault Bool :=
  if isColorName t || isHexColor t || isIndexColor t then .ok true
  else
    match enclosed? "rgb(".toList t with
    | none => .ok false
    | some inside =>
      if inside.isEmpty || !inside.all (fun c => isDigit c || c == ',') then .ok false
      else
        match inside.splitOn ',' with
        | [red, green, blue] => do
          return (← component red) ≤ 255 && (← component green) ≤ 255 && (← component blue) ≤ 255
        | _ => .ok false

/-- The name of a colour, if a word is one. -/
def color? (word : Text) : Except Fault (Option Text) := do
  return if ← isColor (lower word) then some (lower word) else none

/-! ### Styles -/

/-- The attributes of a style in the order in which they are written, each with its short name. -/
def attributes : List (String × Option String) :=
  [("bold", some "b"), ("dim", some "d"), ("italic", some "i"), ("underline", some "u"),
    ("blink", none), ("blink2", none), ("reverse", some "r"), ("conceal", some "c"),
    ("strike", some "s"), ("underline2", some "uu"), ("frame", none), ("encircle", none),
    ("overline", some "o")]

/-- The attribute that a word names. -/
def attribute? (word : Text) : Option String :=
  (attributes.find? fun a => a.1.toList == word || a.2.any (·.toList == word)).map Prod.fst

/-- A style. The attribute that was set last stands first. -/
structure Style where
  attributes : List (String × Bool)
  color : Option Text
  background : Option Text
  link : Option Text
  deriving DecidableEq

/-- The style that leaves everything as it is. -/
def Style.plain : Style := ⟨[], none, none, none⟩

/-- Read the words of a style, on top of another one. -/
def Style.addWords? (s : Style) : List Text → Except Fault (Option Style)
  | [] => .ok (some s)
  | word :: rest =>
    if lower word = "on".toList then
      match rest with
      | [] => .ok none
      | word :: rest => do
        match ← color? word with
        | none => return none
        | some c => addWords? { s with background := some c } rest
    else if lower word = "not".toList then
      match rest with
      | [] => .ok none
      | word :: rest =>
        match attribute? word with
        | none => .ok none
        | some a => addWords? { s with attributes := (a, false) :: s.attributes } rest
    else if lower word = "link".toList then
      match rest with
      | [] => .ok none
      | word :: rest => addWords? { s with link := some word } rest
    else
      match attribute? (lower word) with
      | some a => addWords? { s with attributes := (a, true) :: s.attributes } rest
      | none => do
        match ← color? word with
        | none => return none
        | some c => addWords? { s with color := some c } rest

/-- Read a style. -/
def Style.ofText? (t : Text) : Except Fault (Option Style) :=
  if trim t = "none".toList then .ok (some plain) else plain.addWords? (words t)

/-- Write a style. -/
def Style.render (s : Style) : Text :=
  let set := Markup.attributes.filterMap fun a => (s.attributes.lookup a.1).map fun on =>
    if on then a.1.toList else "not ".toList ++ a.1.toList
  let parts := set ++ s.color.toList ++ s.background.toList.map ("on ".toList ++ ·)
    ++ s.link.toList.map ("link ".toList ++ ·)
  if parts.isEmpty then "none".toList else List.intercalate [' '] parts

/-- The one form of all names of a style. -/
def normalize (t : Text) : Except Fault Text := do
  match ← Style.ofText? t with
  | some s => return s.render
  | none => return lower (trim t)

end VarDecl.Report.Markup
