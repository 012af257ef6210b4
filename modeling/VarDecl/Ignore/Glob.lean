import VarDecl.Text.Basic

/-!
# Globs

A glob describes one segment of a path: literal characters, a question mark for one character, a
star for any number of them, and bracketed sets. Question mark and star stop at slashes.

* `Glob.compile` reads a glob; an open bracket that is never closed and a backslash at the end are
  told apart, because they spoil a pattern in different ways;
* `Glob.rests` lists what can be left of a text after a match at its start. The order is the order
  of preference: a star takes as much as it can. Each rest is listed once, so the list is never
  longer than the text allows.
-/

namespace VarDecl.Ignore

/-- A part of a set of characters: one of them, or all from one to another. -/
inductive SetItem
  | char (c : Char)
  | range (first last : Char)
  deriving DecidableEq

/-- Whether a character belongs to a part of a set. -/
def SetItem.contains : SetItem → Char → Bool
  | char a, c => c == a
  | range first last, c => first ≤ c && c ≤ last

/-- A set of characters, or all characters that are not in it. -/
structure CharSet where
  negated : Bool
  items : List SetItem
  deriving DecidableEq

/-- Whether a character belongs to a set. -/
def CharSet.contains (s : CharSet) (c : Char) : Bool :=
  (s.items.any fun i => i.contains c) != s.negated

/-- One item of a glob. -/
inductive GlobItem
  | literal (c : Char)
  | one
  | many
  | set (s : CharSet)
  deriving DecidableEq

/-- A glob is a row of items. -/
abbrev Glob := List GlobItem

/-- What is wrong with a pattern: it matches nothing and is passed over, or it is an error. -/
inductive GlobFault
  | unclosedBracket
  | loneBackslash
  deriving DecidableEq

/-- Whether a character is not a slash. -/
def isSegmentChar (c : Char) : Bool := c != '/'

/-- What can be left of a text after characters that satisfy `p`, the longest rest first. -/
def restsAfter (p : Char → Bool) : Text → List Text
  | [] => [[]]
  | c :: r => (c :: r) :: (if p c then restsAfter p r else [])

/-- The rests after at least one character that satisfies `p`, the shortest rest first. -/
def greedyRests (p : Char → Bool) (t : Text) : List Text := (restsAfter p t).tail.reverse

/-- Go on from each of some rests. Of equal rests the first is enough, because what follows depends
on nothing else. -/
def advance (next : Text → List Text) (ts : List Text) : List Text := (ts.flatMap next).eraseDups

namespace Glob

/-- The parts of a bracketed set: single characters, and ranges with a hyphen between two. -/
def setItems : Text → List SetItem
  | a :: '-' :: b :: r => .range a b :: setItems r
  | a :: r => .char a :: setItems r
  | [] => []

/-- A bracket at the start of a set is a member. -/
def leadingBracket : Text → Text × Text
  | ']' :: r => ([']'], r)
  | r => ([], r)

/-- An exclamation mark or a caret at the start of a set negates it. -/
def negation : Text → Bool × Text
  | '!' :: r => (true, r)
  | '^' :: r => (true, r)
  | r => (false, r)

/-- Read the set after an opening bracket, up to the closing one. -/
def set? (t : Text) : Option (CharSet × Text) :=
  let (negated, r) := negation t
  let (first, r) := leadingBracket r
  match r.dropWhile (· != ']') with
  | [] => none
  | _ :: rest => some (⟨negated, setItems (first ++ r.takeWhile (· != ']'))⟩, rest)

theorem length_le_of_set? {t r : Text} {s : CharSet} (h : set? t = some (s, r)) :
    r.length ≤ t.length := by
  have h₁ : (negation t).2.length ≤ t.length := by
    unfold negation
    split <;> simp
  have h₂ (u : Text) : (leadingBracket u).2.length ≤ u.length := by
    unfold leadingBracket
    split <;> simp
  have h₂ := h₂ (negation t).2
  have h₃ : ((leadingBracket (negation t).2).2.dropWhile (· != ']')).length
      ≤ (leadingBracket (negation t).2).2.length := (List.dropWhile_sublist _).length_le
  simp only [set?] at h
  split at h
  · simp at h
  · rename_i heq
    simp only [Option.some.injEq, Prod.mk.injEq] at h
    rw [heq, List.length_cons, h.2] at h₃
    omega

/-- Read a glob. -/
def compile : Text → Except GlobFault Glob
  | [] => .ok []
  | '\\' :: c :: r => (compile r).map (.literal c :: ·)
  | '*' :: r => (compile r).map (.many :: ·)
  | '?' :: r => (compile r).map (.one :: ·)
  | '[' :: r =>
    match _h : set? r with
    | some (s, rest) => (compile rest).map (.set s :: ·)
    | none => .error .unclosedBracket
  | c :: r => if c = '\\' then .error .loneBackslash else (compile r).map (.literal c :: ·)
termination_by t => t.length
decreasing_by
  all_goals simp only [List.length_cons]
  · omega
  · omega
  · omega
  · exact Nat.lt_succ_of_le (length_le_of_set? _h)
  · omega

/-- What can be left of a text after one item matches at its start, in order of preference. -/
def itemRests : GlobItem → Text → List Text
  | .many, t => (restsAfter isSegmentChar t).reverse
  | .literal a, c :: r => if c = a then [r] else []
  | .one, c :: r => if isSegmentChar c then [r] else []
  | .set s, c :: r => if s.contains c then [r] else []
  | _, [] => []

/-- What can be left of a text after a glob matches at its start, in order of preference. -/
def rests (g : Glob) (t : Text) : List Text := g.foldl (fun ts i => advance (itemRests i) ts) [t]

end Glob

end VarDecl.Ignore
