import VarDecl.Report.Emoji
import VarDecl.Report.Markup.Style

/-!
# Markup

The console takes a word in brackets for a tag, which sets a style up to the closing tag. Tags are
not shown, and styles are not part of the text.

* `pieces` cuts a text into tags and what stands between them. A tag starts with a small letter or a
  sign, and backslashes before it take its meaning away;
* `Reading.step` reads one piece with the tags that are open. A closing tag closes the last one, or
  the last one of its name; where there is none, the text cannot be read;
* `read` reads a whole text, with emoji in the place of their codes.
-/

namespace VarDecl.Report.Markup

open Text

/-- What the console shows for a text. -/
abbrev Console := Text → Except Fault Text

/-- What is wrong with the parameters of a handler, if anything. -/
abbrev HandlerTest := Text → Option Text

/-- A tag: a name, and perhaps parameters behind an equals sign. -/
structure Tag where
  name : Text
  parameters : Option Text
  deriving DecidableEq

/-- Read what stands between the brackets of a tag. -/
def Tag.ofText (t : Text) : Tag := ⟨(cutAt '=' t).1, (cutAt '=' t).2⟩

/-- A tag as it is written. -/
def Tag.render (t : Tag) : Text :=
  '[' :: t.name ++ (t.parameters.map ('=' :: ·)).getD [] ++ [']']

/-- The style that a tag asks for. -/
def Tag.style (t : Tag) : Text := t.name ++ (t.parameters.map (' ' :: ·)).getD []

/-- A tag of the handler kind carries no style. -/
def Tag.isHandler (t : Tag) : Bool := t.name.head? == some '@'

/-! ### Pieces -/

/-- A part of a text. -/
inductive Piece
  | plain (t : Text)
  | tag (position : Nat) (t : Tag)
  deriving DecidableEq

/-- The characters that a tag starts with. -/
def startsTag (c : Char) : Bool := c.isLower || c == '#' || c == '/' || c == '@'

/-- What stands in a tag whose bracket has been read, and what stands behind the tag. -/
def tag? (t : Text) : Option (Text × Text) :=
  if t.head?.any startsTag then (cutAt ']' t).2.map ((cutAt ']' t).1, ·) else none

/-- A text and the bracketed word behind it. The backslashes at the end of the text stand for half
as many, and an odd one takes the word for plain text. -/
def tagged (position : Nat) (before word : Text) : List Piece :=
  let escapes := (before.reverse.takeWhile (· == '\\')).length
  [.plain (before.take (before.length - escapes)), .plain (List.replicate (escapes / 2) '\\'),
    if escapes % 2 = 1 then .plain ('[' :: word ++ [']']) else .tag position (.ofText word)]

/-- The pieces of a text, given as what stands behind its brackets. The text since the last tag, and
the position of the next bracket, have been read before. -/
def piecesFrom (position : Nat) (before : Text) : List Text → List Piece
  | [] => [.plain before]
  | t :: rest =>
    let next := position + 1 + t.length
    match tag? t with
    | none => piecesFrom next (before ++ '[' :: t) rest
    | some (word, behind) => tagged position before word ++ piecesFrom next behind rest

/-- The pieces of a text. -/
def pieces (t : Text) : List Piece :=
  match t.splitOn '[' with
  | [] => []
  | before :: rest => piecesFrom before.length before rest

/-! ### Reading -/

/-- What has been read: the tags that are open and all tags that were opened, the last one first in
both, and the text to show. -/
structure Reading where
  opened : List Tag
  styled : List Tag
  shown : Text

/-- A bracket behind a backslash stands for itself. -/
def unescape : Text → Text
  | '\\' :: '[' :: r => '[' :: unescape r
  | c :: r => c :: unescape r
  | [] => []

/-- The last tag of a name, and the other ones. -/
def popNamed? (name : Text) : List Tag → Option (Tag × List Tag)
  | [] => none
  | t :: rest =>
    if t.name = name then some (t, rest) else (popNamed? name rest).map fun (u, us) => (u, t :: us)

/-- The tag that a closing tag closes, and the other ones. -/
def pop (position : Nat) (closing : Tag) (opened : List Tag) : Except Fault (Tag × List Tag) :=
  let name := trim closing.name.tail
  if name.isEmpty then
    match opened with
    | [] => .error (.nothingToClose position)
    | t :: rest => .ok (t, rest)
  else do
    match popNamed? (← normalize name) opened with
    | none => .error (.notOpen closing.render position)
    | some found => .ok found

/-- Check a tag that is closed. -/
def Tag.close (handler : HandlerTest) (t : Tag) : Except Fault Unit :=
  if t.isHandler then
    match (t.parameters.filter (!·.isEmpty)).bind (handler <| trim ·) with
    | none => .ok ()
    | some complaint => .error (.handler complaint)
  else .ok ()

/-- Read one piece. -/
def Reading.step (handler : HandlerTest) (r : Reading) : Piece → Except Fault Reading
  | .plain t => .ok { r with shown := r.shown ++ Emoji.replaceCodes (unescape t) }
  | .tag position t =>
    if t.name.head? = some '/' then do
      let (closed, rest) ← pop position t r.opened
      closed.close handler
      return { r with opened := rest }
    else do
      let t : Tag := ⟨← normalize t.name, t.parameters⟩
      return { r with opened := t :: r.opened, styled := t :: r.styled }

/-- Show what has been read. The style of each tag is looked up, and a tag without one changes
nothing. -/
def Reading.finish (r : Reading) : Except Fault Text := do
  r.styled.reverse.forM fun t => discard (Style.ofText? t.style)
  return r.shown

/-- What the console shows for a text with tags. -/
def read (handler : HandlerTest) : Console := fun t =>
  if t.contains '[' then do
    let r ← (pieces t).foldlM (Reading.step handler) ⟨[], [], []⟩
    r.finish
  else .ok (Emoji.replaceCodes t)

end VarDecl.Report.Markup
