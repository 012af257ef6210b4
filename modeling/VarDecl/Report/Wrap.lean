import VarDecl.Report.Columns

/-!
# Wrapping text

A cell of a table breaks its text into lines of a given number of columns.

* `chunks` cuts a text into words, each with the blanks around it;
* a word goes on the current line if it fits there without its last blanks. A word that fits on no
  line is broken wherever a line is full, and any other word starts a line;
* `wrap` gives the lines. Blanks at the end of a line that lie beyond the width are dropped.
-/

namespace VarDecl.Report

open Text

/-- The first word with the blanks before and after it, and the rest. -/
def chunk? (t : Text) : Option (Text × Text) :=
  let rest := t.dropWhile isBlank
  if rest.isEmpty then none
  else
    let after := rest.dropWhile fun c => !isBlank c
    some (t.takeWhile isBlank ++ rest.takeWhile (fun c => !isBlank c) ++ after.takeWhile isBlank,
      after.dropWhile isBlank)

theorem length_lt_of_chunk? {t s r : Text} (h : chunk? t = some (s, r)) : r.length < t.length := by
  simp only [chunk?] at h
  split at h
  · simp at h
  · rename_i hne
    simp only [Option.some.injEq, Prod.mk.injEq] at h
    rw [← h.2]
    cases hd : t.dropWhile isBlank with
    | nil => simp [hd] at hne
    | cons c u =>
      have hc : isBlank c = false := by
        have := List.head_dropWhile_not isBlank (l := t) (by simp [hd])
        simpa [hd] using this
      have h₁ : (t.dropWhile isBlank).length ≤ t.length := (List.dropWhile_sublist _).length_le
      have h₂ : (u.dropWhile fun c => !isBlank c).length ≤ u.length :=
        (List.dropWhile_sublist _).length_le
      have h₃ : ((u.dropWhile fun c => !isBlank c).dropWhile isBlank).length
          ≤ (u.dropWhile fun c => !isBlank c).length := (List.dropWhile_sublist _).length_le
      rw [hd, List.length_cons] at h₁
      simp only [List.dropWhile_cons, hc, Bool.not_false, if_true]
      omega

/-- The words of a text with their blanks. -/
def chunks (t : Text) : List Text :=
  match _h : chunk? t with
  | some (s, r) => s :: chunks r
  | none => []
termination_by t.length
decreasing_by exact length_lt_of_chunk? _h

/-- The places before which a word breaks, and the columns of its last line. The word goes on at the
index `start`, and `used` columns of its current line are taken. -/
def foldWord (width start used : Nat) : Text → List Nat × Nat
  | [] => ([], used)
  | [c] =>
    if width < used + Text.width c then ([start], Text.width c) else ([], used + Text.width c)
  | c :: d :: r =>
    if c = joiner then foldWord width (start + 2) used r
    else if width < used + Text.width c then
      let (breaks, last) := foldWord width (start + 1) (Text.width c) (d :: r)
      (start :: breaks, last)
    else foldWord width (start + 1) (used + Text.width c) (d :: r)

/-- The break before a word, unless the word is the first. -/
def breakBefore (start : Nat) : List Nat := if start = 0 then [] else [start]

/-- The breaks of a row of words. The first word starts at the index `start` of the text, and
`used` columns of the current line are taken. -/
def breaksFrom (width start used : Nat) : List Text → List Nat
  | [] => []
  | word :: rest =>
    let needed := columns (trimRight word)
    let next := start + word.length
    if used + needed ≤ width then breaksFrom width next (used + columns word) rest
    else if width < needed then
      let (breaks, last) := foldWord width start 0 word
      -- What follows a broken word may share the line of its last piece.
      breakBefore start ++ breaks ++ breaksFrom width next last rest
    else start :: breaksFrom width next (columns word) rest

/-- Cut a text, which starts at a given index, before each of the given indices. -/
def cutAll (index : Nat) : List Nat → Text → List Text
  | [], t => [t]
  | b :: bs, t => t.take (b - index) :: cutAll b bs (t.drop (b - index))

/-- Drop blanks at the end that lie beyond the width. -/
def dropExcess (width : Nat) (line : Text) : Text :=
  line.take (max (min width line.length) (trimRight line).length)

/-- The lines of a cell. -/
def wrap (width : Nat) (t : Text) : List Text :=
  (cutAll 0 (breaksFrom width 0 0 (chunks t)) t).map (dropExcess width)

end VarDecl.Report
