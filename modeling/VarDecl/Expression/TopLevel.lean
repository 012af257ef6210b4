import VarDecl.Text.Basic

/-!
# The top level of an expression

A character is on the top level when it stands outside quoted literals and parentheses and is
neither a quote nor a parenthesis itself.

* `Scan` is what a reader knows about the text before it: the open quote, whether the next
  character is escaped, and the depth of parentheses. A `)` that closes nothing is ignored.
* `topLevel` lists the top-level characters with their indices; `index?` finds the first that
  satisfies a predicate, `cut?` cuts there, and `split` cuts at all of them.
-/

namespace VarDecl.Expression

/-- The state of a left-to-right reading of an expression. -/
structure Scan where
  quote : Option Char
  escaped : Bool
  depth : Nat
  deriving DecidableEq

namespace Scan

/-- The state before the first character. -/
def start : Scan := ⟨none, false, 0⟩

/-- The state after one more character. -/
def step (s : Scan) (c : Char) : Scan :=
  match s.quote with
  | some q =>
    if s.escaped then { s with escaped := false }
    else if c = '\\' then { s with escaped := true }
    else if c = q then { s with quote := none }
    else s
  | none =>
    if c = '"' ∨ c = '\'' then { s with quote := some c }
    else if c = '(' then { s with depth := s.depth + 1 }
    else if c = ')' then { s with depth := s.depth - 1 }
    else s

/-- The state after a text. -/
def run (s : Scan) (t : Text) : Scan := t.foldl step s

@[simp] theorem run_nil (s : Scan) : s.run [] = s := rfl
@[simp] theorem run_cons (s : Scan) (c : Char) (t : Text) : s.run (c :: t) = (s.step c).run t := rfl

theorem run_append (s : Scan) (t u : Text) : s.run (t ++ u) = (s.run t).run u :=
  List.foldl_append

/-- Whether a character read in this state is on the top level. -/
def isTop (s : Scan) (c : Char) : Bool :=
  s.quote.isNone && s.depth == 0 && c != '"' && c != '\'' && c != '(' && c != ')'

/-- A top-level character leaves the state as it is. -/
theorem step_eq_of_isTop {s : Scan} {c : Char} (h : s.isTop c = true) : s.step c = s := by
  simp only [isTop, Bool.and_eq_true, Option.isNone_iff_eq_none, beq_iff_eq, bne_iff_ne] at h
  obtain ⟨⟨⟨⟨⟨hq, _⟩, h₁⟩, h₂⟩, h₃⟩, h₄⟩ := h
  simp [step, hq, h₁, h₂, h₃, h₄]

end Scan

/-- The top-level characters of a text read in state `s`, with indices counted from `i`. -/
def topLevelFrom (s : Scan) (i : Nat) : Text → List (Nat × Char)
  | [] => []
  | c :: r =>
    let rest := topLevelFrom (s.step c) (i + 1) r
    if s.isTop c then (i, c) :: rest else rest

/-- The top-level characters of a text, with their indices. -/
def topLevel (t : Text) : List (Nat × Char) := topLevelFrom .start 0 t

/-- The index of the first top-level character that satisfies `p`. -/
def index? (p : Char → Bool) (t : Text) : Option Nat :=
  ((topLevel t).find? fun ic => p ic.2).map (·.1)

/-- The texts before and after the first top-level character that satisfies `p`. -/
def cut? (p : Char → Bool) (t : Text) : Option (Text × Text) :=
  (index? p t).map fun i => (t.take i, t.drop (i + 1))

/-- All parts between the top-level characters that satisfy `p`, in state `s`. -/
def partsFrom (p : Char → Bool) (s : Scan) : Text → List Text
  | [] => [[]]
  | c :: r =>
    if s.isTop c && p c then [] :: partsFrom p (s.step c) r
    else (partsFrom p (s.step c) r).modifyHead (c :: ·)

/-- Split at the top-level characters that satisfy `p`. Empty parts stay, except an empty last
one. -/
def split (p : Char → Bool) (t : Text) : List Text :=
  let parts := partsFrom p .start t
  if parts.getLast? = some [] then parts.dropLast else parts

theorem partsFrom_ne_nil (p : Char → Bool) (s : Scan) (t : Text) : partsFrom p s t ≠ [] := by
  induction t generalizing s with
  | nil => simp [partsFrom]
  | cons c r ih =>
    simp only [partsFrom]
    split
    · simp
    · cases h : partsFrom p (s.step c) r with
      | nil => exact absurd h (ih _)
      | cons => simp

end VarDecl.Expression
