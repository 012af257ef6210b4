import VarDecl.Analysis
import VarDecl.Text.Digit

/-!
# Command line options

The words of a command line: a command, then options in any order.

* An option may be shortened as long as one option only starts so, and its value is the next word or
  stands after an equals sign. Of an option given twice the last value counts, but suffixes add up;
* a word is a value if it does not look like an option: it does not start with a hyphen, is a hyphen
  or a negative number, or has a space in it;
* `Options.ofWords?` reads a command line. There is one answer to every misuse, and to a call for
  help: `none`.
-/

namespace VarDecl.Command

open Text

/-- What to run. -/
inductive Task
  | stage (s : Stage)
  | check
  deriving DecidableEq

/-- How results are shown. -/
inductive Format
  | table
  | json
  | text
  deriving DecidableEq

/-- The format with a given name. -/
def Format.ofName? (t : Text) : Option Format :=
  if t = "table".toList then some table
  else if t = "json".toList then some json
  else if t = "text".toList then some text
  else none

/-- The task with a given name. -/
def Task.ofName? (t : Text) : Option Task :=
  if t = "check".toList then some check else (Stage.ofName? t).map stage

/-- Whether the strict policy can be asked for. -/
def Task.hasStrict : Task → Bool
  | stage s => s == .semantic
  | check => true

/-- The options that a task may have. -/
inductive Flag
  | help
  | path
  | format
  | output
  | keepComments
  | suffix
  | verbose
  | strict
  deriving DecidableEq

namespace Flag

/-- The word for an option. -/
def word : Flag → Text
  | help => "--help".toList
  | path => "--path".toList
  | format => "--format".toList
  | output => "--output".toList
  | keepComments => "--keep-comments".toList
  | suffix => "--suffix".toList
  | verbose => "--verbose".toList
  | strict => "--strict".toList

/-- Whether an option has a value. -/
def takesValue : Flag → Bool
  | path | format | output | suffix => true
  | _ => false

/-- The options of a task. -/
def ofTask (t : Task) : List Flag :=
  [help, path, format, output, keepComments, suffix, verbose]
    ++ if t.hasStrict then [strict] else []

end Flag

/-- A word of the command line. -/
inductive Word
  | value (t : Text)
  | flag (f : Flag) (value : Option Text)
  deriving DecidableEq

namespace Word

/-- A hyphen and a whole number or a number with a point. -/
def isNegativeNumber : Text → Bool
  | '-' :: r =>
    let rest := r.dropWhile isDigit
    (!(r.takeWhile isDigit).isEmpty && atEnd rest)
      || (match rest with
        | '.' :: s => !(s.takeWhile isDigit).isEmpty && atEnd (s.dropWhile isDigit)
        | _ => false)
  | _ => false

/-- A word that starts with a hyphen and belongs to no option. -/
def ofUnknown? (t : Text) : Option Word :=
  if isNegativeNumber t || t.contains ' ' then some (value t) else none

/-- A word that starts with two hyphens: an option, shortened or not, with or without a value. -/
def ofLong? (flags : List Flag) (t : Text) : Option Word :=
  let (name, explicit) := cutAt '=' t
  -- The full word of an option is never taken for the start of another one.
  match flags.find? (·.word == t), flags.find? (·.word == name) with
  | some f, _ => some (flag f none)
  | none, some f => some (flag f explicit)
  | none, none =>
    match flags.filter fun f => (after? name f.word).isSome with
    | [] => ofUnknown? t
    | [f] => some (flag f explicit)
    | _ => none

/-- Read a word; `none` if it cannot be part of a command line. -/
def ofText? (flags : List Flag) (t : Text) : Option Word :=
  match t with
  | ['-', '-'] => none
  | '-' :: '-' :: _ => ofLong? flags t
  | '-' :: 'h' :: _ => none
  | '-' :: _ :: _ => ofUnknown? t
  | _ => some (value t)

end Word

/-- What a command line asks for. -/
structure Options where
  task : Task
  path : Text
  format : Format
  output : Option Text
  keepComments : Bool
  suffixes : List Text
  verbose : Bool
  strict : Bool
  deriving DecidableEq

/-- The options read so far; the path is required. -/
structure Draft where
  path : Option Text
  format : Format
  output : Option Text
  keepComments : Bool
  suffixes : List Text
  verbose : Bool
  strict : Bool
  deriving DecidableEq

namespace Draft

/-- No option yet. -/
def empty : Draft := ⟨none, .table, none, false, [], false, false⟩

/-- Set an option that has a value. -/
def setValue (d : Draft) (f : Flag) (v : Text) : Option Draft :=
  match f with
  | .path => some { d with path := some v }
  | .format => (Format.ofName? v).map fun x => { d with format := x }
  | .output => some { d with output := some v }
  | .suffix => some { d with suffixes := d.suffixes ++ [v] }
  | _ => none

/-- Set an option that has none. -/
def setSwitch (d : Draft) (f : Flag) : Option Draft :=
  match f with
  | .keepComments => some { d with keepComments := true }
  | .verbose => some { d with verbose := true }
  | .strict => some { d with strict := true }
  | _ => none

/-- Read the words after the command. -/
def ofWords? (d : Draft) : List Word → Option Draft
  | [] => some d
  | .flag f (some v) :: rest => (d.setValue f v).bind fun d => d.ofWords? rest
  | .flag f none :: .value v :: rest =>
    if f.takesValue then (d.setValue f v).bind fun d => d.ofWords? rest else none
  | .flag f none :: rest => (d.setSwitch f).bind fun d => d.ofWords? rest
  | .value _ :: _ => none

/-- The options of a task, if the path is given. -/
def finish (d : Draft) (t : Task) : Option Options :=
  d.path.map fun p =>
    ⟨t, p, d.format, d.output, d.keepComments, d.suffixes, d.verbose, d.strict⟩

end Draft

/-- Read a command line. -/
def Options.ofWords? : List Text → Option Options
  | [] => none
  | name :: args => do
    let task ← Task.ofName? name
    let words ← args.mapM (Word.ofText? (Flag.ofTask task))
    let draft ← Draft.empty.ofWords? words
    draft.finish task

end VarDecl.Command
