import Mathlib.Data.List.Flatten
import VarDecl.Lexeme
import VarDecl.Proofs.Expression.Fragments

/-!
# The texts of lexemes

Cutting a line into lexemes loses blanks outside quoted spans and nothing else: the pieces of a line
are the line (`flatMap_text_pieces`), a token is its lexemes (`flatMap_text_ofToken`), and so the
lexemes of a line stand on it one after the other (`flatMap_text_ofLine_sublist`).
-/

namespace VarDecl.Lexeme

open Text

variable {ctx : Context} {t : Text}

/-- The pieces of a line are the line. -/
theorem flatMap_text_pieces (t : Text) : (pieces t).flatMap Piece.text = t := by
  fun_induction pieces t with
  | case1 => rfl
  | case2 c t s r h ih =>
    rw [List.flatMap_cons, ih, (Expression.append_of_span? h).1]
    rfl
  | case3 c t h ih =>
    rw [List.flatMap_cons, ih]
    rfl

theorem flatten_map_flatMap {α β : Type} (f : α → List β) (ls : List (List α)) :
    (ls.map fun l => l.flatMap f).flatten = ls.flatten.flatMap f := by
  rw [← List.flatMap_def, ← List.flatMap_id, List.flatMap_assoc]
  rfl

/-- The tokens are the line without the blanks outside quoted spans. -/
theorem flatten_rawTokens (t : Text) :
    (rawTokens t).flatten = ((pieces t).filter fun q => !q.isBlank).flatMap Piece.text := by
  rw [rawTokens, flatten_map_flatMap, List.flatten_filter_not_isEmpty, flatten_splitOnP]

/-- The tokens stand on the line one after the other. -/
theorem flatten_rawTokens_sublist (t : Text) : (rawTokens t).flatten.Sublist t := by
  have hpieces : ((pieces t).filter fun q => !q.isBlank).Sublist (pieces t) := List.filter_sublist
  rw [flatten_rawTokens]
  conv_rhs => rw [← flatMap_text_pieces t]
  exact hpieces.flatMap Piece.text

/-- A token is its body and the semicolons at its end. -/
theorem body_append_terminators (raw : Text) : body raw ++ terminators raw = raw := by
  have hbody : body raw <+: raw := dropTrailing_prefix (· == ';') raw
  exact List.prefix_iff_eq_append.1 hbody

/-- The lexemes of a token are the token. -/
theorem flatMap_text_ofToken (ctx : Context) (raw : Text) :
    (ofToken ctx raw).flatMap Lexeme.text = raw := by
  conv_rhs => rw [← body_append_terminators raw]
  simp only [ofToken]
  split <;> split <;> simp_all

theorem flatMap_text_ofTokens (ctx : Context) (raws : List Text) :
    (ofTokens ctx raws).flatMap Lexeme.text = raws.flatten := by
  induction raws generalizing ctx with
  | nil => rfl
  | cons raw raws ih =>
    rw [ofTokens, List.flatMap_append, flatMap_text_ofToken, ih, List.flatten_cons]

/-- The lexemes stand on their line one after the other. -/
theorem flatMap_text_ofLine_sublist (t : Text) : ((ofLine t).flatMap Lexeme.text).Sublist t := by
  rw [ofLine, flatMap_text_ofTokens]
  exact flatten_rawTokens_sublist t

end VarDecl.Lexeme
