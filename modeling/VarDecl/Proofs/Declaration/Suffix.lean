import VarDecl.Declaration.Suffix
import VarDecl.Proofs.Text.Trim

/-!
# Deleting array suffixes

Deleting suffixes leaves a sublist of the text (`eraseSuffixes_sublist`), and all of a text without
brackets (`eraseSuffixes_eq_self`).
-/

namespace VarDecl.Declaration

open Text

variable {t r : Text}

theorem suffix?_of_ne (h : ∀ c ∈ t.head?, c ≠ '[') : suffix? t = none := by
  unfold suffix?
  split
  · exact absurd rfl (h _ rfl)
  · rfl

theorem isSuffix_of_suffix? (h : suffix? t = some r) : r <:+ t := by
  unfold suffix? at h
  split at h
  case h_1 u =>
    split at h
    case h_1 rest heq =>
      obtain rfl := Option.some.inj h
      have hleft : ']' :: rest <:+ u := heq ▸ List.dropWhile_suffix isBlank
      exact ((List.suffix_cons ']' rest).trans hleft).trans (List.suffix_cons '[' u)
    case h_2 => cases h
  case h_2 => cases h

theorem eraseSuffixes_sublist (t : Text) : (eraseSuffixes t).Sublist t := by
  fun_induction eraseSuffixes t with
  | case1 => exact List.Sublist.refl _
  | case2 d t r hr ih => exact ih.trans (isSuffix_of_suffix? hr).sublist
  | case3 d t hnone ih => exact ih.cons_cons d

/-- Without brackets nothing is deleted. -/
theorem eraseSuffixes_eq_self (h : '[' ∉ t) : eraseSuffixes t = t := by
  induction t with
  | nil => exact eraseSuffixes_nil
  | cons d t ih =>
    have hd : ∀ c ∈ (d :: t).head?, c ≠ '[' := by
      rintro c ⟨⟩ rfl
      exact h List.mem_cons_self
    rw [eraseSuffixes_cons_of_none (suffix?_of_ne hd),
      ih fun hm => h (List.mem_cons_of_mem d hm)]

end VarDecl.Declaration
