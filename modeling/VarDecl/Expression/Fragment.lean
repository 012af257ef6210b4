import VarDecl.Literal

/-!
# Fragments of an expression

The fragments of an expression are the pieces that can carry a type, from left to right: quoted
spans, numbers with an exponent, and runs of word characters and points. All else is skipped one
character at a time, and so is a quote that is never closed.

* `fragment?` reads the fragment at the start of a text; of a number with an exponent and a run of
  word characters the number comes first, and the run then starts where it ends;
* `fragments` lists all fragments.
-/

namespace VarDecl.Expression

open Text Literal

/-- A character of an unquoted fragment. -/
def isFragmentChar (c : Char) : Bool := isWordChar c || c == '.'

/-- Read a maximal run of word characters and points. -/
def wordRun? (t : Text) : Option (Text × Text) :=
  if (t.takeWhile isFragmentChar).isEmpty then none
  else some (t.takeWhile isFragmentChar, t.dropWhile isFragmentChar)

/-- Read the fragment at the start of a text. -/
def fragment? (t : Text) : Option (Text × Text) :=
  (span? '"' t).or ((span? '\'' t).or ((scientific? t).or (wordRun? t)))

theorem length_lt_of_digits? {t s r : Text} (h : digits? t = some (s, r)) :
    r.length < t.length := by
  cases t with
  | nil => simp [digits?] at h
  | cons c t =>
    simp only [digits?] at h
    split at h
    · simp only [Option.some.injEq, Prod.mk.injEq] at h
      rw [← h.2, List.length_cons]
      exact Nat.lt_succ_of_le (List.dropWhile_sublist _).length_le
    · simp at h

theorem length_sign_le (t : Text) : (sign t).2.length ≤ t.length := by
  unfold sign
  split <;> simp

theorem length_lt_of_fraction? {t s r : Text} (h : fraction? t = some (s, r)) :
    r.length < t.length := by
  unfold fraction? at h
  split at h
  · obtain ⟨p, hp, he⟩ := Option.map_eq_some_iff.1 h
    have := length_lt_of_digits? hp
    simp only [Prod.mk.injEq] at he
    simp only [← he.2, List.length_cons]
    omega
  · simp at h

theorem length_lt_of_exponent? {t s r : Text} (h : exponent? t = some (s, r)) :
    r.length < t.length := by
  cases t with
  | nil => simp [exponent?] at h
  | cons c t =>
    simp only [exponent?] at h
    split at h
    · obtain ⟨p, hp, he⟩ := Option.map_eq_some_iff.1 h
      have := length_lt_of_digits? hp
      have := length_sign_le t
      simp only [Prod.mk.injEq] at he
      simp only [← he.2, List.length_cons]
      omega
    · simp at h

theorem length_lt_of_scientific? {t s r : Text} (h : scientific? t = some (s, r)) :
    r.length < t.length := by
  simp only [scientific?, bind, Option.bind_eq_some_iff, pure, Option.some.injEq,
    Prod.mk.injEq] at h
  obtain ⟨⟨whole, r₁⟩, h₁, ⟨exp, r₃⟩, h₃, h₄⟩ := h
  have l₁ := length_lt_of_digits? h₁
  have l₃ := length_lt_of_exponent? h₃
  have l₂ : ((fraction? r₁).getD ([], r₁)).2.length ≤ r₁.length := by
    cases hf : fraction? r₁ with
    | none => simp
    | some p => exact Nat.le_of_lt (length_lt_of_fraction? hf)
  simp only at h₄ l₁ l₂ l₃
  rw [← h₄.2]
  omega

theorem length_lt_of_wordRun? {t s r : Text} (h : wordRun? t = some (s, r)) :
    r.length < t.length := by
  have hl : (t.takeWhile isFragmentChar).length + (t.dropWhile isFragmentChar).length
      = t.length := by
    rw [← List.length_append, List.takeWhile_append_dropWhile]
  simp only [wordRun?] at h
  split at h
  · simp at h
  · rename_i hne
    simp only [Option.some.injEq, Prod.mk.injEq] at h
    rw [List.isEmpty_iff] at hne
    have := List.length_pos_iff.2 hne
    rw [← h.2]
    omega

/-- A fragment takes at least one character. -/
theorem length_lt_of_fragment? {t s r : Text} (h : fragment? t = some (s, r)) :
    r.length < t.length := by
  simp only [fragment?, Option.or_eq_some_iff] at h
  rcases h with h | ⟨_, h | ⟨_, h | ⟨_, h⟩⟩⟩
  · exact length_lt_of_span? h
  · exact length_lt_of_span? h
  · exact length_lt_of_scientific? h
  · exact length_lt_of_wordRun? h

@[simp] theorem fragment?_nil : fragment? [] = none := rfl

/-- The fragments of an expression, from left to right. -/
def fragments : Text → List Text
  | [] => []
  | c :: t =>
    match _h : fragment? (c :: t) with
    | some (s, r) => s :: fragments r
    | none => fragments t
termination_by t => t.length
decreasing_by
  · exact length_lt_of_fragment? _h
  · simp

@[simp] theorem fragments_nil : fragments [] = [] := by simp [fragments]

/-- A fragment at the start comes first. -/
theorem fragments_of_fragment? {t s r : Text} (h : fragment? t = some (s, r)) :
    fragments t = s :: fragments r := by
  cases t with
  | nil => simp at h
  | cons c t =>
    rw [fragments]
    split
    · rename_i s' r' h'
      simp_all
    · simp_all

/-- A character that starts no fragment is skipped. -/
theorem fragments_cons_of_none {c : Char} {t : Text} (h : fragment? (c :: t) = none) :
    fragments (c :: t) = fragments t := by
  rw [fragments]
  split <;> simp_all

end VarDecl.Expression
