import VarDecl.Report.Emoji.Names
import VarDecl.Text.Basic

/-!
# Emoji codes

The console shows an emoji where its name stands between two colons.

* `ofName?` finds a name among the rows of names;
* `ofCode?` reads what stands between two colons: a name in upper or lower case, perhaps followed by
  a variant;
* `replaceCodes` goes through a text. Colons with a blank between them make no code, and colons
  around anything else than a code stay.
-/

namespace VarDecl.Report.Emoji

open Text

/-- The part of a text before an ending. -/
def stem? (ending t : Text) : Option Text :=
  (after? ending.reverse t.reverse).map List.reverse

/-- The emoji that some rows give to a name. -/
def inRows? (rows : List String) (name : Text) : Option Text :=
  rows.findSome? fun row => (row.toList.splitOn ' ').findSome? (after? (name ++ ['=']))

/-- The endings that ask for a skin tone. -/
def toneEndings : List (Text × Char) :=
  [("_light_skin_tone".toList, Char.ofNat 0x1F3FB),
    ("_medium-light_skin_tone".toList, Char.ofNat 0x1F3FC),
    ("_medium_skin_tone".toList, Char.ofNat 0x1F3FD),
    ("_medium-dark_skin_tone".toList, Char.ofNat 0x1F3FE),
    ("_dark_skin_tone".toList, Char.ofNat 0x1F3FF)]

/-- Give an emoji a skin tone, which takes the place of a variant. -/
def addTone (tone : Char) : Text → Text
  | c :: '\uFE0F' :: r => c :: tone :: r
  | c :: r => c :: tone :: r
  | [] => []

/-- The emoji with a given name. -/
def ofName? (name : Text) : Option Text :=
  ((inRows? plainRows name).or ((inRows? tonedRows name).or (inRows? flagRows name))).or
    (((after? "flag_for_".toList name).bind (inRows? flagRows)).or
      (toneEndings.findSome? fun (ending, tone) =>
        ((stem? ending name).bind (inRows? tonedRows)).map (addTone tone)))

/-- The lower case of a letter that names have; all other characters stay. -/
def lower (c : Char) : Char :=
  if c = '\u212A' then 'k'
  else if c = '\u212B' then 'å'
  else if c.isUpper || "ÃÅÇÉÍÔ".toList.contains c then Char.ofNat (c.toNat + 32)
  else c

/-- The endings that ask for a variant. -/
def variants : List (Text × Char) := [("-emoji".toList, '\uFE0F'), ("-text".toList, '\uFE0E')]

/-- The emoji of a code, given without its colons. -/
def ofCode? (code : Text) : Option Text :=
  let variant? := variants.findSome? fun (ending, v) => (stem? ending code).map (·, [v])
  let (name, variant) := variant?.getD (code, [])
  (ofName? (name.map lower)).map (· ++ variant)

/-- Replace the codes of a text; a colon and the start of a code may have been read before it. -/
def scan : (code : Option Text) → Text → Text
  | none, [] => []
  | none, c :: r => if c = ':' then scan (some []) r else c :: scan none r
  | some code, [] => ':' :: code
  | some code, c :: r =>
    if c = ':' then (ofCode? code).getD (':' :: code ++ [':']) ++ scan none r
    else if isBlank c then ':' :: code ++ c :: scan none r
    else scan (some (code ++ [c])) r

/-- Replace the emoji codes of a text. -/
def replaceCodes (t : Text) : Text := scan none t

end VarDecl.Report.Emoji
