import Mathlib.Data.List.TakeWhile
import VarDecl.Text.Basic

/-!
# First and doubled characters

A text is cut at its first `c` (`cutAt_of_notMem`), or stays whole without one (`cutAt_eq_self`).
Two of them stand side by side (`hasDouble_eq_true_iff`) only where there is one: not in what comes
before the first (`hasDouble_append_of_notMem`), and not across another character
(`hasDouble_cons_cons_of_ne`).
-/

namespace VarDecl.Text

variable {c : Char} {t u : Text}

/-- A text is cut at the first `c`. -/
theorem cutAt_of_notMem (h : c ∉ t) (r : Text) : cutAt c (t ++ c :: r) = (t, some r) := by
  have hne : ∀ d ∈ t, (d != c) = true := fun d hd => bne_iff_ne.2 fun hdc => h (hdc ▸ hd)
  rw [cutAt, List.takeWhile_append_of_pos hne, List.dropWhile_append_of_pos hne]
  simp

theorem cutAt_eq_self (h : c ∉ t) : cutAt c t = (t, none) := by
  have hne : ∀ d ∈ t, (d != c) = true := fun d hd => bne_iff_ne.2 fun hdc => h (hdc ▸ hd)
  rw [cutAt, List.takeWhile_eq_self_iff.2 hne, List.dropWhile_eq_nil_iff.2 hne]
  rfl

/-- Doubled characters are a part of the text. -/
theorem hasDouble_eq_true_iff : hasDouble c t = true ↔ [c, c] <:+: t := by
  induction t with
  | nil => simp [hasDouble]
  | cons a t ih =>
    cases t with
    | nil => simp [hasDouble, List.infix_cons_iff]
    | cons b t =>
      have hstart : (a == c && b == c) = true ↔ [c, c] <+: a :: b :: t := by
        simp [List.cons_prefix_cons, eq_comm (a := c)]
      rw [hasDouble, Bool.or_eq_true, ih, hstart, ← List.infix_cons_iff]

theorem hasDouble_cons_of_ne {a : Char} (h : a ≠ c) (t : Text) :
    hasDouble c (a :: t) = hasDouble c t := by
  cases t with
  | nil => rfl
  | cons b t => rw [hasDouble, beq_eq_false_iff_ne.2 h, Bool.false_and, Bool.false_or]

theorem hasDouble_append_of_notMem (h : c ∉ t) (u : Text) :
    hasDouble c (t ++ u) = hasDouble c u := by
  induction t with
  | nil => rfl
  | cons a t ih =>
    obtain ⟨ha, ht⟩ := List.ne_and_not_mem_of_not_mem_cons h
    rw [List.cons_append, hasDouble_cons_of_ne ha.symm, ih ht]

/-- A single `c` is not doubled by what comes after another character. -/
theorem hasDouble_cons_cons_of_ne {a : Char} (h : a ≠ c) (t : Text) :
    hasDouble c (c :: a :: t) = hasDouble c t := by
  rw [hasDouble, beq_eq_false_iff_ne.2 h, Bool.and_false, Bool.false_or, hasDouble_cons_of_ne h]

end VarDecl.Text
