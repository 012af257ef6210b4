import VarDecl.Text.Basic

/-!
# Suggestions

The known name that is most similar to an unknown one.

* `similarity` counts the characters of two texts outside their longest common subsequence and
  compares them with all characters: 1 for equal texts, 0 for texts with no common character;
* `closest?` is the first candidate of the highest score, if that score reaches a floor. It works
  for scores of any ordered type;
* `suggestBy?` applies it to names and any measure of how alike two names are, the unknown name
  itself not being a candidate; `suggest?` measures by `similarity`.
-/

namespace VarDecl.Suggestion

section CommonSubsequence

variable {α : Type} [DecidableEq α]

/-- The next row of the table of longest common subsequences. The character `a` is compared with
each of `bs`; `row` starts with the entry above and to the left, `left` is the entry to the left. -/
def nextEntries (a : α) (left : Nat) : (bs : List α) → (row : List Nat) → List Nat
  | b :: bs, p :: q :: row =>
    let entry := if a = b then p + 1 else max q left
    entry :: nextEntries a entry bs (q :: row)
  | _, _ => []

/-- The length of a longest common subsequence. -/
def commonLength (as bs : List α) : Nat :=
  let firstRow := List.replicate (bs.length + 1) 0
  let lastRow := as.foldl (fun row a => 0 :: nextEntries a 0 bs row) firstRow
  lastRow.getLast?.getD 0

end CommonSubsequence

/-- The part of the characters of two texts that belongs to a longest common subsequence. -/
def similarity (t u : Text) : Float :=
  let total := t.length + u.length
  if total = 0 then 1.0
  else 1.0 - (total - 2 * commonLength t u).toFloat / total.toFloat

section Closest

variable {α β : Type} [LE β] [LT β] [DecidableLE β] [DecidableLT β]

/-- Take a candidate that reaches the bar, and beats the best one if there is any. -/
def better (score : α → β) (best : Option α × β) (candidate : α) : Option α × β :=
  if best.2 ≤ score candidate ∧ (best.1.isNone ∨ best.2 < score candidate) then
    (some candidate, score candidate)
  else best

/-- The first candidate of the highest score, if that score reaches the floor. -/
def closest? (score : α → β) (floor : β) (candidates : List α) : Option α :=
  (candidates.foldl (better score) (none, floor)).1

/-- The candidate that is most like a name, by some measure, and differs from it. -/
def suggestBy? (measure : Text → Text → β) (floor : β) (name : Text) (candidates : List Text) :
    Option Text :=
  closest? (measure name) floor (candidates.filter (· != name))

end Closest

/-- The similarity that a suggestion needs unless another one is asked for. -/
def defaultThreshold : Float := 0.6

/-- A threshold lies between zero and one; nothing is said of a value without order. -/
def isThreshold (θ : Float) : Bool := !(θ < 0.0 || 1.0 < θ)

/-- The candidate that is most similar to a name and differs from it. -/
def suggest? (θ : Float) (name : Text) (candidates : List Text) : Option Text :=
  suggestBy? similarity θ name candidates

/-- The text of a suggestion. -/
def hint (suggestion : Text) : Text := "did you mean '".toList ++ suggestion ++ "'?".toList

end VarDecl.Suggestion
