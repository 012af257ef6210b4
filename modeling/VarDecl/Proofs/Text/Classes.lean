import VarDecl.Text.Basic
import VarDecl.Text.Digit

/-!
# Character classes

How the classes of blanks, digits and word characters lie to one another: a word character is no
blank (`isBlank_of_isWordChar`), a digit is no blank (`isDigit_of_isBlank`), the start of a name is
no digit (`isDigit_of_isNameStart`), and a digit that is a word character is an ASCII digit
(`isDigit_eq_of_lt`).
-/

namespace VarDecl.Text

variable {c : Char}

theorem toNat_of_isNameStart (h : isNameStart c = true) :
    (0x41 ≤ c.toNat ∧ c.toNat ≤ 0x5A) ∨ (0x61 ≤ c.toNat ∧ c.toNat ≤ 0x7A) ∨ c.toNat = 0x5F := by
  have hc : c.isAlpha = (decide (0x41 ≤ c.toNat ∧ c.toNat ≤ 0x5A) ||
      (decide (0x61 ≤ c.toNat) && decide (c.toNat ≤ 0x7A))) := rfl
  simp only [isNameStart, hc, Bool.or_eq_true, Bool.and_eq_true, decide_eq_true_eq,
    beq_iff_eq] at h
  rcases h with (h | h) | rfl
  · exact Or.inl h
  · exact Or.inr (Or.inl h)
  · exact Or.inr (Or.inr rfl)

theorem isNameStart_or_isDigit_of_isWordChar (h : isWordChar c = true) :
    isNameStart c = true ∨ (0x30 ≤ c.toNat ∧ c.toNat ≤ 0x39) := by
  simp only [isWordChar, Char.isAlphanum, Char.isDigit, Bool.or_eq_true, Bool.and_eq_true,
    decide_eq_true_eq] at h
  rcases h with (h | h) | h
  · exact Or.inl (by simp [isNameStart, h])
  · exact Or.inr h
  · exact Or.inl (by simp [isNameStart, h])

theorem isWordChar_of_isNameStart (h : isNameStart c = true) : isWordChar c = true := by
  simp only [isNameStart, isWordChar, Char.isAlphanum, Bool.or_eq_true] at h ⊢
  exact h.imp_left Or.inl

theorem toNat_lt_of_isWordChar (h : isWordChar c = true) : c.toNat < 0x80 := by
  rcases isNameStart_or_isDigit_of_isWordChar h with h | h
  · have := toNat_of_isNameStart h
    omega
  · omega

/-- Below the second row of digits, a digit is an ASCII digit. -/
theorem isDigit_eq_of_lt (h : c.toNat < 0x660) : isDigit c = c.isDigit := by
  have hc : c.isDigit = (decide (0x30 ≤ c.toNat) && decide (c.toNat ≤ 0x39)) := rfl
  rw [hc, Bool.eq_iff_iff]
  simp only [isDigit, zeros, List.any_cons, List.any_nil, Bool.or_false, Bool.or_eq_true,
    Bool.and_eq_true, decide_eq_true_eq]
  omega

theorem isDigit_of_isNameStart (h : isNameStart c = true) : isDigit c = false := by
  have hlt := toNat_lt_of_isWordChar (isWordChar_of_isNameStart h)
  have hc : c.isDigit = (decide (0x30 ≤ c.toNat) && decide (c.toNat ≤ 0x39)) := rfl
  rw [isDigit_eq_of_lt (by omega), hc, Bool.and_eq_false_iff, decide_eq_false_iff_not,
    decide_eq_false_iff_not]
  have := toNat_of_isNameStart h
  omega

theorem isNameStart_of_isDigit (h : isDigit c = true) : isNameStart c = false := by
  refine Bool.eq_false_iff.2 fun hn => ?_
  rw [isDigit_of_isNameStart hn] at h
  exact Bool.noConfusion h

theorem isDigit_ne {d : Char} (h : isDigit c = true) (hd : isDigit d = false) : c ≠ d := by
  rintro rfl
  rw [h] at hd
  exact Bool.noConfusion hd

theorem isBlank_of_isWordChar (h : isWordChar c = true) : isBlank c = false := by
  refine Bool.eq_false_iff.2 fun hb => ?_
  simp only [isBlank, blankRanges, List.any_cons, List.any_nil, Bool.or_false, Bool.or_eq_true,
    Bool.and_eq_true, decide_eq_true_eq] at hb
  rcases isNameStart_or_isDigit_of_isWordChar h with h | h
  · have := toNat_of_isNameStart h
    omega
  · omega

theorem isWordChar_of_isBlank (h : isBlank c = true) : isWordChar c = false := by
  refine Bool.eq_false_iff.2 fun hw => ?_
  rw [isBlank_of_isWordChar hw] at h
  exact Bool.noConfusion h

/-- A character that is not of a name differs from those that are. -/
theorem ne_of_isWordChar {d : Char} (h : isWordChar c = true) (hd : isWordChar d = false) :
    c ≠ d := by
  rintro rfl
  rw [h] at hd
  exact Bool.noConfusion hd

theorem isBlank_ne {d : Char} (h : isBlank c = true) (hd : isBlank d = false) : c ≠ d := by
  rintro rfl
  rw [h] at hd
  exact Bool.noConfusion hd

/-- No row of digits meets a range of blanks. -/
theorem blankRanges_disjoint_zeros :
    ∀ r ∈ blankRanges, ∀ z ∈ zeros, r.2 < z ∨ z + 10 ≤ r.1 := by
  decide

theorem isDigit_of_isBlank (h : isBlank c = true) : isDigit c = false := by
  refine Bool.eq_false_iff.2 fun hd => ?_
  simp only [isBlank, isDigit, List.any_eq_true, Bool.and_eq_true, decide_eq_true_eq] at h hd
  obtain ⟨r, hr, hr₁, hr₂⟩ := h
  obtain ⟨z, hz, hz₁, hz₂⟩ := hd
  have := blankRanges_disjoint_zeros r hr z hz
  omega

end VarDecl.Text
