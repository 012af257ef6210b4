import VarDecl.Text.Upper

/-!
# Lower case

The lower-case mapping of Unicode 14. It leads from an upper-case letter back along `upperRuns`, to
the first run that leads there.

* `lowerRuns` holds the letters for which this is another letter than their lower-case one, and the
  letters that are the upper case of none;
* `lower` maps a whole text, and all other characters stay. The capital sigma becomes the same
  letter at all places.
-/

namespace VarDecl.Text

/-- The letters whose lower case is not the first letter that has them as upper case, as runs with
the lower case of the first. -/
def lowerRuns : List UpperRun :=
  [⟨0x1C4, 0x1C4, 1, 0x1C6⟩, ⟨0x1C5, 0x1C5, 1, 0x1C6⟩, ⟨0x1C7, 0x1C7, 1, 0x1C9⟩,
    ⟨0x1C8, 0x1C8, 1, 0x1C9⟩, ⟨0x1CA, 0x1CA, 1, 0x1CC⟩, ⟨0x1CB, 0x1CB, 1, 0x1CC⟩,
    ⟨0x1F1, 0x1F1, 1, 0x1F3⟩, ⟨0x1F2, 0x1F2, 1, 0x1F3⟩, ⟨0x399, 0x399, 1, 0x3B9⟩,
    ⟨0x39C, 0x39C, 1, 0x3BC⟩, ⟨0x3A3, 0x3A3, 1, 0x3C3⟩, ⟨0x3F4, 0x3F4, 1, 0x3B8⟩,
    ⟨0x1E9E, 0x1E9E, 1, 0xDF⟩, ⟨0x1F88, 0x1F8F, 1, 0x1F80⟩, ⟨0x1F98, 0x1F9F, 1, 0x1F90⟩,
    ⟨0x1FA8, 0x1FAF, 1, 0x1FA0⟩, ⟨0x1FBC, 0x1FBC, 1, 0x1FB3⟩, ⟨0x1FCC, 0x1FCC, 1, 0x1FC3⟩,
    ⟨0x1FFC, 0x1FFC, 1, 0x1FF3⟩, ⟨0x2126, 0x2126, 1, 0x3C9⟩, ⟨0x212A, 0x212A, 1, 0x6B⟩,
    ⟨0x212B, 0x212B, 1, 0xE5⟩, ⟨0xA64A, 0xA64A, 1, 0xA64B⟩]

/-- The letter of a run that has some upper case. -/
def UpperRun.source? (r : UpperRun) (n : Nat) : Option Nat :=
  if r.target ≤ n ∧ r.contains (r.first + (n - r.target)) then some (r.first + (n - r.target))
  else none

/-- The lower case of one character; only the capital I with a dot has two. -/
def lowerChar (c : Char) : Text :=
  if c = 'İ' then ['i', '\u0307']
  else
    match lowerRuns.find? (·.contains c.toNat) with
    | some r => [Char.ofNat (r.target + (c.toNat - r.first))]
    | none => ((upperRuns.findSome? (·.source? c.toNat)).map fun n => [Char.ofNat n]).getD [c]

/-- A text in lower case. -/
def lower (t : Text) : Text := t.flatMap lowerChar

end VarDecl.Text
