import VarDecl.Proofs.Lexeme.Tokens

/-!
# What is left of a line

The lexemes of a line are the line without its blanks outside closed quoted spans, and each of them
is either a run of semicolons or a text that does not end in one.

* `Condensed t u`: the text `u` is `t` without those blanks. A span is closed by the first quote
  behind its own that is not escaped, and a quote without such a quote behind it opens none;
* `condensed_iff`: there is exactly one such text, which the pieces of `t` give. The lexemes of a
  line are this text (`flatMap_text_ofLine`);
* `Piece.IsRead`: a piece as a line has it. It has characters, and so has a token
  (`ne_nil_of_mem_rawTokens`);
* `IsShaped`: what the text of a lexeme looks like (`isShaped_of_mem_ofTokens`). A token that looks
  so is one lexeme (`map_text_ofTokens_eq_self`).
-/

namespace VarDecl.Lexeme

open Text Literal

variable {ctx : Context} {c : Char} {s t u r w raw : Text} {ws : List Text} {l : Lexeme}

/-! ### Blanks outside spans -/

/-- The second text is the first one without the blanks outside closed spans. -/
inductive Condensed : Text → Text → Prop
  | nil : Condensed [] []
  | span {s t u : Text} :
    Closes '"' s → Condensed t u → Condensed ('"' :: s ++ t) ('"' :: s ++ u)
  | blank {c : Char} {t u : Text} : isBlank c = true → Condensed t u → Condensed (c :: t) u
  | char {c : Char} {t u : Text} :
    isBlank c = false → (c = '"' → ∀ s r, Closes '"' s → t ≠ s ++ r) →
      Condensed t u → Condensed (c :: t) (c :: u)

theorem exists_closes_of_span? (h : span? '"' t = some (s, r)) :
    ∃ s', s = '"' :: s' ∧ Closes '"' s' ∧ t = '"' :: s' ++ r := by
  obtain ⟨ht, s', rfl, hcloses⟩ := Expression.append_of_span? h
  exact ⟨s', rfl, closes_of_closing? hcloses, ht⟩

/-- At a quote that nothing closes no span starts. -/
theorem span?_eq_none (h : c = '"' → ∀ s r, Closes '"' s → t ≠ s ++ r) :
    span? '"' (c :: t) = none := by
  refine Option.eq_none_iff_forall_ne_some.2 fun ⟨s, r⟩ hs => ?_
  obtain ⟨s', -, hcloses, ht⟩ := exists_closes_of_span? hs
  obtain ⟨hc, ht⟩ := List.cons.inj ht
  exact h hc s' r hcloses ht

/-- The blanks outside closed spans are the blank pieces. -/
theorem condensed_iff :
    Condensed t u ↔ u = ((pieces t).filter fun q => !q.isBlank).flatMap Piece.text := by
  constructor
  · intro h
    induction h with
    | nil => simp
    | @span s t u hs _ ih =>
      rw [pieces_of_span? (hs.span?_append (by decide) t), List.filter_cons_of_pos rfl, List.flatMap_cons,
        ← ih]
      rfl
    | @blank c t u hc _ ih =>
      have hspan : span? '"' (c :: t) = none := if_neg (isBlank_ne hc rfl)
      have hpiece : (Piece.char c).isBlank = true := hc
      rw [pieces_cons_of_none hspan, List.filter_cons_of_neg (by simp [hpiece]), ih]
    | @char c t u hc hopen _ ih =>
      have hpiece : (Piece.char c).isBlank = false := hc
      rw [pieces_cons_of_none (span?_eq_none hopen), List.filter_cons_of_pos (by simp [hpiece]),
        List.flatMap_cons, ← ih]
      rfl
  · rintro rfl
    fun_induction pieces t with
    | case1 => exact .nil
    | case2 c t s r h ih =>
      obtain ⟨s', rfl, hcloses, ht⟩ := exists_closes_of_span? h
      rw [ht]
      exact .span hcloses ih
    | case3 c t h ih =>
      cases hc : isBlank c with
      | true =>
        have hpiece : (Piece.char c).isBlank = true := hc
        rw [List.filter_cons_of_neg (by simp [hpiece])]
        exact .blank hc ih
      | false =>
        have hpiece : (Piece.char c).isBlank = false := hc
        rw [List.filter_cons_of_pos (by simp [hpiece])]
        refine .char hc (fun hquote s r hcloses ht => ?_) ih
        rw [hquote, ht, ← List.cons_append, hcloses.span?_append (by decide)] at h
        cases h

/-- The lexemes of a line are the line without the blanks outside closed spans. -/
theorem flatMap_text_ofLine (t : Text) : (ofLine t).flatMap Lexeme.text
    = ((pieces t).filter fun q => !q.isBlank).flatMap Piece.text := by
  rw [ofLine, flatMap_text_ofTokens, flatten_rawTokens]

/-! ### Pieces as they stand on a line -/

/-- A piece as it stands on a line: a span is a quote and what closes it. -/
def Piece.IsRead : Piece → Prop
  | .span s => ∃ s', s = '"' :: s' ∧ Closes '"' s'
  | .char _ => True

theorem isRead_of_mem_pieces {q : Piece} (h : q ∈ pieces t) : q.IsRead := by
  fun_induction pieces t with
  | case1 => cases h
  | case2 c t s r hspan ih =>
    rcases List.mem_cons.1 h with rfl | h
    · obtain ⟨s', hs, hcloses, -⟩ := exists_closes_of_span? hspan
      exact ⟨s', hs, hcloses⟩
    · exact ih h
  | case3 c t hspan ih =>
    rcases List.mem_cons.1 h with rfl | h
    · trivial
    · exact ih h

theorem Piece.IsRead.text_ne_nil {q : Piece} (h : q.IsRead) : q.text ≠ [] := by
  cases q with
  | span s =>
    obtain ⟨s', rfl, -⟩ := h
    exact List.cons_ne_nil _ _
  | char c => exact List.cons_ne_nil _ _

/-- A row of pieces of a line has a text. -/
theorem isEmpty_flatMap_text {g : List Piece} (hg : ∀ q ∈ g, q.IsRead) :
    (g.flatMap Piece.text).isEmpty = g.isEmpty := by
  cases g with
  | nil => rfl
  | cons q g =>
    have hne : (q :: g).flatMap Piece.text ≠ [] := by
      rw [List.flatMap_cons]
      exact List.append_ne_nil_of_left_ne_nil (hg q List.mem_cons_self).text_ne_nil _
    rw [List.isEmpty_eq_false_iff.2 hne, List.isEmpty_cons]

/-- A token has characters. -/
theorem ne_nil_of_mem_rawTokens (h : w ∈ rawTokens t) : w ≠ [] := by
  obtain ⟨g, hg, rfl⟩ := List.mem_map.1 h
  obtain ⟨hg, hne⟩ := List.mem_filter.1 hg
  have hread : ∀ q ∈ g, q.IsRead := by
    intro q hq
    have hmem := List.mem_flatten_of_mem hg hq
    rw [flatten_splitOnP] at hmem
    exact isRead_of_mem_pieces (List.mem_filter.1 hmem).1
  rw [← isEmpty_flatMap_text hread] at hne
  exact List.isEmpty_eq_false_iff.1 (by simpa using hne)

/-! ### The shapes of lexemes -/

/-- No token without semicolons is a delimiter. -/
theorem classify_ne_delimiter (ctx : Context) (t : Text) : classify ctx t ≠ .delimiter := by
  unfold classify
  split_ifs <;> decide

/-- A lexeme of a token is its body or the semicolons at its end. -/
theorem mem_ofToken (h : l ∈ ofToken ctx raw) :
    (l = ⟨body raw, classify ctx (body raw)⟩ ∧ body raw ≠ []) ∨
      (l = ⟨terminators raw, .delimiter⟩ ∧ terminators raw ≠ []) := by
  rcases List.mem_append.1 h with h | h
  · split_ifs at h with hempty
    · cases h
    · exact Or.inl ⟨List.mem_singleton.1 h, fun h0 => hempty (List.isEmpty_iff.2 h0)⟩
  · split_ifs at h with hempty
    · cases h
    · exact Or.inr ⟨List.mem_singleton.1 h, fun h0 => hempty (List.isEmpty_iff.2 h0)⟩

theorem exists_of_mem_ofTokens (h : l ∈ ofTokens ctx ws) :
    ∃ raw ∈ ws, ∃ ctx', l ∈ ofToken ctx' raw := by
  induction ws generalizing ctx with
  | nil => cases h
  | cons raw ws ih =>
    rcases List.mem_append.1 h with h | h
    · exact ⟨raw, List.mem_cons_self, ctx, h⟩
    · obtain ⟨raw', hmem, hl⟩ := ih h
      exact ⟨raw', List.mem_cons_of_mem raw hmem, hl⟩

/-- What the text of a lexeme looks like: a delimiter is a run of semicolons, and the others do not
end in one. -/
def IsShaped (l : Lexeme) : Prop :=
  l.text ≠ [] ∧ if l.kind = .delimiter then ∀ c ∈ l.text, c = ';' else ∀ c ∈ l.text.getLast?, c ≠ ';'

theorem isShaped_of_mem_ofTokens (h : l ∈ ofTokens ctx ws) : IsShaped l := by
  obtain ⟨raw, -, ctx', hl⟩ := exists_of_mem_ofTokens h
  obtain ⟨rfl, hne⟩ | ⟨rfl, hne⟩ := mem_ofToken hl
  · exact ⟨hne, by rw [if_neg (classify_ne_delimiter ctx' _)]; exact fun c => getLast?_body⟩
  · exact ⟨hne, by rw [if_pos rfl]; exact fun c => eq_semicolon_of_mem_terminators⟩

/-- The texts of the lexemes of tokens: bodies and semicolons, as far as there are any. -/
theorem map_text_ofTokens (ctx : Context) (ws : List Text) : (ofTokens ctx ws).map Lexeme.text
    = (ws.flatMap fun raw => [body raw, terminators raw]).filter fun t => !t.isEmpty := by
  induction ws generalizing ctx with
  | nil => rfl
  | cons raw ws ih =>
    rw [ofTokens, List.map_append, ih, List.flatMap_cons, List.filter_append]
    congr 1
    simp only [ofToken, List.filter_cons, List.filter_nil]
    split_ifs <;> simp_all

/-- A token that looks like the text of a lexeme is one. -/
theorem map_text_ofTokens_eq_self (h : ∀ w ∈ ws, ∃ l, IsShaped l ∧ l.text = w) :
    (ofTokens ctx ws).map Lexeme.text = ws := by
  rw [map_text_ofTokens]
  induction ws with
  | nil => rfl
  | cons w ws ih =>
    obtain ⟨l, ⟨hne, hshape⟩, rfl⟩ := h w List.mem_cons_self
    rw [List.flatMap_cons, List.filter_append, ih fun v hv => h v (List.mem_cons_of_mem _ hv)]
    have hparts : body l.text = [] ∧ terminators l.text = l.text ∨
        body l.text = l.text ∧ terminators l.text = [] := by
      split_ifs at hshape
      · left
        have hbody := body_append (w := []) (by simp) hshape
        have hterminators := terminators_append (w := []) (by simp) hshape
        exact ⟨hbody, hterminators⟩
      · right
        have hterminators := terminators_append (u := []) hshape (by simp)
        rw [List.append_nil] at hterminators
        exact ⟨body_eq_self hshape, hterminators⟩
    have hempty : l.text.isEmpty = false := List.isEmpty_eq_false_iff.2 hne
    obtain ⟨hbody, hterminators⟩ | ⟨hbody, hterminators⟩ := hparts
    · simp [hbody, hterminators, hempty]
    · simp [hbody, hterminators, hempty]

end VarDecl.Lexeme
