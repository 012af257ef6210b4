import VarDecl.Name
import VarDecl.Proofs.Text.Classes
import VarDecl.Proofs.Text.Trim

/-!
# The grammar of names

`IsName` says that a text is a letter or an underscore followed by word characters, with nothing
after them. A text without newlines is an identifier exactly if it is a name
(`isIdentifier_iff_isName`). The primitive types are names (`isName_name`).
-/

namespace VarDecl.Name

open Text

variable {c : Char} {t : Text}

/-- A letter or underscore followed by word characters. -/
def IsName (t : Text) : Prop :=
  ∃ c r, t = c :: r ∧ isNameStart c = true ∧ ∀ d ∈ r, isWordChar d = true

theorem IsName.isWordChar (h : IsName t) (hc : c ∈ t) : isWordChar c = true := by
  obtain ⟨d, r, rfl, hd, hr⟩ := h
  rcases List.mem_cons.1 hc with rfl | hc
  · exact isWordChar_of_isNameStart hd
  · exact hr c hc

theorem IsName.isBlank (h : IsName t) (hc : c ∈ t) : isBlank c = false :=
  isBlank_of_isWordChar (h.isWordChar hc)

theorem IsName.ne_nil (h : IsName t) : t ≠ [] := by
  obtain ⟨d, r, rfl, -, -⟩ := h
  exact List.cons_ne_nil d r

theorem IsName.head (h : IsName t) (r : Text) :
    ∀ c ∈ (t ++ r).head?, Text.isBlank c = false := by
  intro c hc
  rw [List.head?_append_of_ne_nil _ h.ne_nil] at hc
  exact h.isBlank (List.mem_of_mem_head? hc)

/-- A name has none of the characters that words lack. -/
theorem IsName.notMem (h : IsName t) (hc : Text.isWordChar c = false) : c ∉ t := fun hm =>
  ne_of_isWordChar (h.isWordChar hm) hc rfl

theorem IsName.isIdentifier (h : IsName t) : isIdentifier t = true := by
  obtain ⟨c, r, rfl, hc, hr⟩ := h
  have hall : ∀ d ∈ r, Text.isWordChar d = true := hr
  rw [Name.isIdentifier, hc, List.dropWhile_eq_nil_iff.2 hall]
  rfl

/-- Without a newline after it, an identifier is a name. -/
theorem isIdentifier_iff_isName (h : '\n' ∉ t) : isIdentifier t = true ↔ IsName t := by
  refine ⟨fun ht => ?_, IsName.isIdentifier⟩
  cases t with
  | nil => simp at ht
  | cons c r =>
    simp only [isIdentifier, Bool.and_eq_true] at ht
    refine ⟨c, r, rfl, ht.1, List.dropWhile_eq_nil_iff.1 ?_⟩
    have hsub : r.dropWhile Text.isWordChar ⊆ r := List.dropWhile_subset _
    exact eq_nil_of_atEnd ht.2 fun hm => h (List.mem_cons_of_mem c (hsub hm))

/-- The primitive types are names. -/
theorem isName_name (p : Primitive) : IsName p.name := by
  cases p <;> exact ⟨_, _, rfl, by decide, List.all_eq_true.1 (by decide)⟩

end VarDecl.Name
