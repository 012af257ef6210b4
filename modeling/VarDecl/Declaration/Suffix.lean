import VarDecl.Text.Basic

/-!
# Array suffixes

An array suffix is a pair of square brackets with only blanks between them.

* `suffix?` reads one at the start of a text;
* `eraseSuffixes` deletes all of them, from left to right.
-/

namespace VarDecl.Declaration

open Text

/-- The text after an array suffix at the start. -/
def suffix? : Text → Option Text
  | '[' :: r =>
    match trimLeft r with
    | ']' :: rest => some rest
    | _ => none
  | _ => none

theorem length_lt_of_suffix? {t r : Text} (h : suffix? t = some r) : r.length < t.length := by
  unfold suffix? at h
  split at h
  · rename_i u
    have hl : (trimLeft u).length ≤ u.length := (List.dropWhile_sublist _).length_le
    split at h
    · rename_i heq
      rw [heq] at hl
      simp only [Option.some.injEq] at h
      subst h
      simp only [List.length_cons] at hl ⊢
      omega
    · simp at h
  · simp at h

/-- Delete all array suffixes. -/
def eraseSuffixes : Text → Text
  | [] => []
  | c :: t =>
    match _h : suffix? (c :: t) with
    | some r => eraseSuffixes r
    | none => c :: eraseSuffixes t
termination_by t => t.length
decreasing_by
  · exact length_lt_of_suffix? _h
  · simp

@[simp] theorem eraseSuffixes_nil : eraseSuffixes [] = [] := by simp [eraseSuffixes]

/-- A suffix at the start is deleted. -/
theorem eraseSuffixes_of_suffix? {t r : Text} (h : suffix? t = some r) :
    eraseSuffixes t = eraseSuffixes r := by
  cases t with
  | nil => simp [suffix?] at h
  | cons c t =>
    rw [eraseSuffixes]
    split <;> simp_all

/-- A character that starts no suffix stays. -/
theorem eraseSuffixes_cons_of_none {c : Char} {t : Text} (h : suffix? (c :: t) = none) :
    eraseSuffixes (c :: t) = c :: eraseSuffixes t := by
  rw [eraseSuffixes]
  split <;> simp_all

end VarDecl.Declaration
