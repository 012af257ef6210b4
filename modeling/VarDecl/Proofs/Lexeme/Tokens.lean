import VarDecl.Proofs.Lexeme
import VarDecl.Proofs.Literal.Reading

/-!
# The tokens of a line

How a line is cut into its tokens from left to right, and what lexemes they make.

* `rawTokens_cons`: a word without quotes that a blank ends is the first token;
* `rawTokens_of_forall`: a line without blanks outside quotes is one token;
* `body_append`, `terminators_append`: a token is cut before the semicolons at its end;
* `ofTokens_cons`, `ofToken_semicolon`: a token without semicolons at its end is one lexeme, and the
  semicolon behind it is another.
-/

namespace VarDecl.Lexeme

open Text

variable {ctx : Context} {b c : Char} {t u w raw : Text} {ws : List Text}

/-! ### Cutting -/

/-- Without quotes each character is a piece of its own. -/
theorem pieces_append (h : '"' ∉ w) (t : Text) : pieces (w ++ t) = w.map .char ++ pieces t := by
  induction w with
  | nil => rfl
  | cons c w ih =>
    obtain ⟨hc, hw⟩ := List.ne_and_not_mem_of_not_mem_cons h
    have hspan : Literal.span? '"' (c :: (w ++ t)) = none := if_neg hc.symm
    rw [List.cons_append, pieces_cons_of_none hspan, ih hw]
    rfl

theorem flatMap_text_map_char (w : Text) : (w.map Piece.char).flatMap Piece.text = w := by
  rw [List.flatMap_map]
  exact List.flatMap_singleton' w

/-- A word with a blank behind it is a token. -/
theorem rawTokens_cons (hne : w ≠ []) (hquote : '"' ∉ w) (hw : ∀ c ∈ w, isBlank c = false)
    (hb : isBlank b = true) (t : Text) : rawTokens (w ++ b :: t) = w :: rawTokens t := by
  have hspan : Literal.span? '"' (b :: t) = none := if_neg (isBlank_ne hb rfl)
  have hw' : ∀ q ∈ w.map Piece.char, q.isBlank = false := by
    rintro q hq
    obtain ⟨c, hc, rfl⟩ := List.mem_map.1 hq
    exact hw c hc
  have hne' : (w.map Piece.char).isEmpty = false := by
    rw [List.isEmpty_map, List.isEmpty_eq_false_iff]
    exact hne
  rw [rawTokens, pieces_append hquote, pieces_cons_of_none hspan,
    List.splitOnP_append_cons_of_forall_mem hw' (.char b) hb,
    List.filter_cons_of_pos (by rw [hne']; rfl), List.map_cons, flatMap_text_map_char, rawTokens]

/-- A line without blanks outside quotes is one token. -/
theorem rawTokens_of_forall (hne : t ≠ []) (h : ∀ q ∈ pieces t, q.isBlank = false) :
    rawTokens t = [t] := by
  have hpieces : (pieces t).isEmpty = false := by
    rw [List.isEmpty_eq_false_iff]
    intro h0
    have ht := flatMap_text_pieces t
    rw [h0] at ht
    exact hne ht.symm
  rw [rawTokens, List.splitOnP_eq_singleton h, List.filter_cons_of_pos (by rw [hpieces]; rfl),
    List.filter_nil, List.map_cons, List.map_nil, flatMap_text_pieces]

/-- Without blanks no piece is blank. -/
theorem isBlank_of_mem_pieces (h : ∀ c ∈ t, isBlank c = false) :
    ∀ q ∈ pieces t, q.isBlank = false := by
  intro q hq
  cases q with
  | span s => rfl
  | char c =>
    have hc : c ∈ (pieces t).flatMap Piece.text := List.mem_flatMap.2 ⟨.char c, hq, List.mem_cons_self⟩
    rw [flatMap_text_pieces] at hc
    exact h c hc

/-! ### Lexemes -/

theorem body_eq_self (hlast : ∀ c ∈ w.getLast?, c ≠ ';') : body w = w :=
  dropTrailing_eq_self fun c hc => beq_eq_false_iff_ne.2 (hlast c hc)

/-- The semicolons at the end of a token are not of its body. -/
theorem body_append (hlast : ∀ c ∈ w.getLast?, c ≠ ';') (hu : ∀ c ∈ u, c = ';') :
    body (w ++ u) = w := by
  have hdrop : dropTrailing (· == ';') (w ++ u) = dropTrailing (· == ';') w :=
    dropTrailing_append_of_forall fun c hc => beq_iff_eq.2 (hu c hc)
  rw [body, hdrop]
  exact body_eq_self hlast

theorem terminators_append (hlast : ∀ c ∈ w.getLast?, c ≠ ';') (hu : ∀ c ∈ u, c = ';') :
    terminators (w ++ u) = u := by
  rw [terminators, body_append hlast hu, List.drop_left]

theorem getLast?_body (h : c ∈ (body raw).getLast?) : c ≠ ';' :=
  beq_eq_false_iff_ne.1 (getLast?_dropTrailing (p := (· == ';')) h)

theorem eq_semicolon_of_mem_terminators (h : c ∈ terminators raw) : c = ';' := by
  obtain ⟨u, hraw, hu⟩ := exists_eq_dropTrailing_append (· == ';') raw
  have hterminators : terminators raw = u :=
    List.append_cancel_left ((body_append_terminators raw).trans hraw)
  exact beq_iff_eq.1 (hu c (hterminators ▸ h))

/-- A token that does not end in a semicolon is one lexeme. -/
theorem ofTokens_cons (hne : w ≠ []) (hlast : ∀ c ∈ w.getLast?, c ≠ ';') :
    ofTokens ctx (w :: ws) = ⟨w, classify ctx w⟩ :: ofTokens (.after (classify ctx w)) ws := by
  have hbody := body_eq_self hlast
  have hempty : w.isEmpty = false := List.isEmpty_eq_false_iff.2 hne
  simp [ofTokens, ofToken, leadingKind, terminators, hbody, hempty]

/-- A semicolon at the end of a token is a lexeme of its own. -/
theorem ofToken_semicolon (hne : w ≠ []) (hlast : ∀ c ∈ w.getLast?, c ≠ ';') :
    ofToken ctx (w ++ [';']) = [⟨w, classify ctx w⟩, ⟨[';'], .delimiter⟩] := by
  have hsemicolon : ∀ c ∈ [';'], c = ';' := List.forall_mem_singleton.2 rfl
  have hempty : w.isEmpty = false := List.isEmpty_eq_false_iff.2 hne
  simp [ofToken, body_append hlast hsemicolon, terminators_append hlast hsemicolon, hempty]

end VarDecl.Lexeme
