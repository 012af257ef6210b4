import VarDecl.Proofs.Comment.Segments

/-!
# What reaches beyond a newline

A literal and a line comment end where their line does, so behind a newline only a block comment
can still be open.

* `EndsInComment t`: the last segment of `t` is a block comment that has no end. This is when the
  reader is inside of a block comment at the end of `t` (`modeAfter_eq_block_iff`);
* `strip_across_newline`: what stands behind a newline is stripped on its own, or as what follows
  the opening of a block comment, if one is open there.
-/

namespace VarDecl.Comment

open Text

variable {m : Mode} {c q : Char} {rest s t : Text} {g : Segment} {gs : List Segment}

/-- A block comment in which no end stands. -/
def Segment.IsOpen : Segment → Prop
  | .blockComment t => ¬['*', '/'] <:+: t.drop 2
  | _ => False

/-- The last segment of a text is a block comment without an end. -/
def EndsInComment (t : Text) : Prop := ∃ gs g, Decomposes t (gs ++ [g]) ∧ g.IsOpen

theorem afterNewline_eq_block_iff : m.afterNewline = .block ↔ m = .block := by
  cases m <;> simp [Mode.afterNewline]

/-! ### The mode behind a segment -/

/-- Where a line ends, all modes but that of a block comment give way to code. -/
theorem modeFrom_of_endsLine (hm : m ≠ .block) (h : EndsLine rest) :
    modeFrom m rest = .block ↔ modeFrom .code rest = .block := by
  cases rest with
  | nil => simp [hm]
  | cons c r =>
    obtain rfl : c = '\n' := h c rfl
    rw [modeFrom_newline_cons, modeFrom_newline_cons, afterNewline_of_ne hm]
    rfl

theorem modeFrom_body (hq : q ≠ '\\') (h : IsBody q rest s) :
    modeFrom (.literal q) (s ++ rest) = .block ↔ modeFrom .code rest = .block := by
  induction h with
  | close =>
    rw [List.singleton_append, modeFrom_literal_cons hq, Mode.afterLiteral, if_pos (Or.inl rfl)]
  | unclosed hrest => exact modeFrom_of_endsLine (by simp) hrest
  | backslash hrest =>
    have hmode : Mode.afterLiteral q '\\' = .literal q :=
      if_neg (not_or.2 ⟨hq.symm, by decide⟩)
    cases rest with
    | nil => simp [modeFrom, hmode]
    | cons c r =>
      obtain rfl : c = '\n' := hrest c rfl
      rw [modeFrom_newline_cons]
      rfl
  | escape hc _ ih => rwa [List.cons_append, List.cons_append, modeFrom, if_neg hc]
  | plain hcq hc hnl _ ih =>
    rwa [List.cons_append, modeFrom_literal_cons hc, Mode.afterLiteral,
      if_neg (not_or.2 ⟨hcq, hnl⟩)]

theorem modeFrom_line_append (h : '\n' ∉ s) (rest : Text) :
    modeFrom .line (s ++ rest) = modeFrom .line rest := by
  induction s with
  | nil => rfl
  | cons c s ih =>
    obtain ⟨hc, hs⟩ := List.ne_and_not_mem_of_not_mem_cons h
    rw [List.cons_append, modeFrom, if_neg hc.symm, ih hs]

theorem modeFrom_block_append (h : ¬['*', '/'] <:+: s) (hrest : ∀ d ∈ rest.head?, d ≠ '/') :
    modeFrom .block (s ++ rest) = modeFrom .block rest := by
  induction s with
  | nil => rfl
  | cons c s ih =>
    rw [List.cons_append, modeFrom_block_cons (avoids_of_not_isInfix h hrest),
      ih (not_isInfix_of_cons h)]

/-- An open block comment is the last segment. -/
theorem Segment.IsOpen.eq_nil (h : g.IsOpen) (hg : Stands g rest) : rest = [] := by
  cases hg with
  | openComment => rfl
  | @blockComment s _ _ => exact absurd (List.suffix_append s ['*', '/']).isInfix h
  | literal | lineComment | other => exact h.elim

/-- Behind a segment that is not open the reader goes on as in code. -/
theorem modeFrom_of_stands (h : Stands g rest) :
    modeFrom .code (g.text ++ rest) = .block ↔ g.IsOpen ∨ modeFrom .code rest = .block := by
  cases h with
  | @literal q s _ hq hs =>
    have hne : q ≠ '/' ∧ q ≠ '\\' := by rcases hq with rfl | rfl <;> decide
    have havoids : ∀ {b : Char}, Avoids '/' b q (s ++ rest) := fun _ h0 => absurd h0 hne.1
    rw [Segment.text, List.cons_append, modeFrom_code_cons havoids havoids, Mode.afterCode,
      if_pos hq, modeFrom_body hne.2 hs]
    exact (or_iff_right not_false).symm
  | @lineComment s _ hs hrest =>
    rw [Segment.text, List.cons_append, List.cons_append, modeFrom, modeFrom_line_append hs,
      modeFrom_of_endsLine (by simp) hrest]
    exact (or_iff_right not_false).symm
  | @blockComment s _ hs =>
    have hclosed : ¬(Segment.blockComment ('/' :: '*' :: (s ++ ['*', '/']))).IsOpen := fun h =>
      h (List.suffix_append s ['*', '/']).isInfix
    rw [Segment.text, List.cons_append, List.cons_append, List.append_assoc, modeFrom,
      modeFrom_block_append hs (by simp), List.cons_append, List.cons_append, modeFrom,
      or_iff_right hclosed]
    rfl
  | @openComment s hs =>
    have hmode : modeFrom .block (s ++ []) = .block := modeFrom_block_append hs (by simp)
    have hopen : modeFrom .code ('/' :: '*' :: s) = modeFrom .block s := by rw [modeFrom]
    rw [List.append_nil] at hmode
    rw [Segment.text, List.append_nil, hopen, hmode]
    exact iff_of_true rfl (Or.inl hs)
  | @other c _ hc hslash =>
    obtain ⟨h₁, h₂⟩ := avoids_of_slash hslash
    rw [Segment.text, List.singleton_append, modeFrom_code_cons h₁ h₂, Mode.afterCode, if_neg hc]
    exact (or_iff_right not_false).symm

/-! ### The end of a text -/

theorem modeAfter_of_decomposes (h : Decomposes t gs) :
    modeAfter t = .block ↔ ∃ g ∈ gs.getLast?, g.IsOpen := by
  induction gs generalizing t with
  | nil =>
    obtain rfl : t = [] := h
    simp [modeAfter, modeFrom]
  | cons g gs ih =>
    obtain ⟨rest, rfl, hg, hgs⟩ := h
    rw [modeAfter, modeFrom_of_stands hg, show modeFrom .code rest = modeAfter rest from rfl,
      ih hgs]
    cases gs with
    | nil => simp
    | cons g' gs =>
      -- An open comment would leave nothing for the segments behind it.
      have hclosed : ¬g.IsOpen := fun hopen => by
        obtain ⟨rest', heq, hg', -⟩ := hgs
        rw [hopen.eq_nil hg] at heq
        exact text_ne_nil hg' (List.append_eq_nil_iff.1 heq.symm).1
      rw [or_iff_right hclosed, List.getLast?_cons_cons]

/-- A text ends in an open block comment if its last segment is one. -/
theorem modeAfter_eq_block_iff (t : Text) : modeAfter t = .block ↔ EndsInComment t := by
  constructor
  · intro h
    obtain ⟨gs, hgs⟩ := exists_decomposes t
    obtain ⟨g, hlast, hopen⟩ := (modeAfter_of_decomposes hgs).1 h
    obtain ⟨gs', rfl⟩ := List.getLast?_eq_some_iff.1 hlast
    exact ⟨gs', g, hgs, hopen⟩
  · rintro ⟨gs, g, hgs, hopen⟩
    exact (modeAfter_of_decomposes hgs).2 ⟨g, List.getLast?_concat, hopen⟩

/-- What stands behind a newline is stripped on its own, unless a block comment is open there: then
it is stripped as what follows the opening of one. -/
theorem strip_across_newline (s t : Text) :
    (¬EndsInComment s → strip (s ++ '\n' :: t) = strip s ++ '\n' :: strip t) ∧
      (EndsInComment s →
        strip (s ++ '\n' :: t) = strip s ++ '\n' :: strip ('/' :: '*' :: t)) := by
  rw [← modeAfter_eq_block_iff]
  constructor
  · exact strip_append_newline
  · intro h
    have hopen : strip ('/' :: '*' :: t) = stripFrom .block t := by rw [strip, stripFrom]
    have hmode : (modeFrom .code s).afterNewline = .block := afterNewline_eq_block_iff.2 h
    rw [hopen, strip, stripFrom_append_newline, hmode]
    rfl

/-- The quote of the first line opens nothing behind its newline; the comment of the second line
does, though a star and a slash stand on both sides of the newline. -/
theorem strip_across_newline_star :
    (¬EndsInComment "int a; // '".toList ∧
        strip ("int a; // '".toList ++ '\n' :: "b /* c */".toList) = "int a; \nb ".toList) ∧
      EndsInComment "int a; /* '*".toList ∧
        strip ("int a; /* '*".toList ++ '\n' :: "/ b */ c".toList) = "int a; \n c".toList := by
  have hline : ¬EndsInComment "int a; // '".toList := by
    rw [← modeAfter_eq_block_iff]
    decide +kernel
  have hblock : EndsInComment "int a; /* '*".toList := by
    rw [← modeAfter_eq_block_iff]
    decide +kernel
  refine ⟨⟨hline, ?_⟩, hblock, ?_⟩
  · rw [(strip_across_newline _ _).1 hline]
    decide +kernel
  · rw [(strip_across_newline _ _).2 hblock]
    decide +kernel

end VarDecl.Comment
