import VarDecl.Proofs.Comment.Lines
import VarDecl.Proofs.Text.Classes

/-!
# Blanks and comments

Blanks change nothing for the reader of comments: they are read without changing the mode
(`read_gap_append`), and what stands before a blank is read apart from what stands behind it
(`read_append_of_blank`). A trailing backslash takes a blank with it, but then the blank only stays
in its literal.

* `IsPadded w v`: the line `v` is `w` with blanks added at its ends. It still is when both are
  stripped, and the lines behind it do not notice (`isPadded_stripFrom`);
* `stripLines`: comments are removed line by line, where each line hands on whether a block comment
  is open (`lines_stripFrom`, `modeFrom_intercalate`);
* `forall₂_isPadded_stripLines`: blanks at the ends of any lines stay at the ends of those lines;
* `stripLines_insert_nil`: an empty line stays an empty line.
-/

namespace VarDecl

open Text

namespace Text

/-- Blanks, none of which ends the line. -/
def IsGap (g : Text) : Prop := ∀ c ∈ g, isBlank c = true ∧ c ≠ '\n'

instance (g : Text) : Decidable (IsGap g) := List.decidableBAll _ g

/-- The line `v` is `w` with blanks added at its ends. -/
def IsPadded (w v : Text) : Prop := ∃ l r, v = l ++ (w ++ r) ∧ IsGap l ∧ IsGap r

variable {g v w : Text}

theorem isGap_nil : IsGap [] := List.forall_mem_nil _

theorem IsPadded.refl (w : Text) : IsPadded w w :=
  ⟨[], [], (List.append_nil w).symm, isGap_nil, isGap_nil⟩

theorem IsPadded.trim_eq (h : IsPadded w v) : trim v = trim w := by
  obtain ⟨l, r, rfl, hl, hr⟩ := h
  rw [trim_blank_append fun c hc => (hl c hc).1]
  exact trim_append_of_blank fun c hc => (hr c hc).1

end Text

namespace Comment

variable {m : Mode} {b c q : Char} {g r t u v w : Text} {ws vs : List Text}

/-! ### Modes -/

/-- An open literal has one of the two quotes. -/
def Mode.IsQuoted : Mode → Prop
  | .literal q => q = '"' ∨ q = '\''
  | _ => True

theorem isQuoted_afterCode (c : Char) : (Mode.afterCode c).IsQuoted := by
  unfold Mode.afterCode
  split
  case isTrue h => exact h
  case isFalse => trivial

theorem isQuoted_afterLiteral (h : (Mode.literal q).IsQuoted) (c : Char) :
    (Mode.afterLiteral q c).IsQuoted := by
  unfold Mode.afterLiteral
  split
  case isTrue => trivial
  case isFalse => exact h

theorem isQuoted_afterNewline (m : Mode) : m.afterNewline.IsQuoted := by cases m <;> trivial

theorem isQuoted_modeFrom (h : m.IsQuoted) (t : Text) : (modeFrom m t).IsQuoted := by
  fun_induction modeFrom m t with
  | case1 => exact h
  | case2 r ih | case3 r ih | case5 q r ih | case8 r ih | case10 r ih => exact ih trivial
  | case4 c r _ _ ih => exact ih (isQuoted_afterCode c)
  | case6 q c r _ ih | case9 c r _ ih | case11 c r _ ih => exact ih h
  | case7 q c r _ ih => exact ih (isQuoted_afterLiteral h c)

theorem afterNewline_afterNewline (m : Mode) : m.afterNewline.afterNewline = m.afterNewline := by
  cases m <;> rfl

/-- What stays of blanks that are read in a mode. -/
def Mode.kept : Mode → Text → Text
  | .code, g | .literal _, g => g
  | .line, _ | .block, _ => []

theorem kept_cons (m : Mode) (c : Char) (g : Text) : m.kept (c :: g) = m.kept [c] ++ m.kept g := by
  cases m <;> rfl

theorem isGap_kept (m : Mode) (h : IsGap g) : IsGap (m.kept g) := by
  cases m with
  | code | literal => exact h
  | line | block => exact isGap_nil

/-! ### Reading blanks -/

theorem avoids_of_blank {a : Char} (hc : isBlank c = true) (ha : isBlank a = false) :
    Avoids a b c r := fun _ h => absurd h (isBlank_ne hc ha)

/-- A blank is read without changing the mode. -/
theorem read_blank_cons (hm : m.IsQuoted) (hc : isBlank c = true) (hnl : c ≠ '\n') (t : Text) :
    stripFrom m (c :: t) = m.kept [c] ++ stripFrom m t ∧
      modeFrom m (c :: t) = modeFrom m t := by
  cases m with
  | code =>
    have hmode : Mode.afterCode c = .code := if_neg (by
      rintro (rfl | rfl)
      · exact absurd hc (by decide)
      · exact absurd hc (by decide))
    rw [stripFrom_code_cons (avoids_of_blank hc rfl) (avoids_of_blank hc rfl),
      modeFrom_code_cons (avoids_of_blank hc rfl) (avoids_of_blank hc rfl), hmode]
    exact ⟨rfl, rfl⟩
  | literal q =>
    have hq : c ≠ q := by rcases hm with rfl | rfl <;> exact isBlank_ne hc rfl
    have hmode : Mode.afterLiteral q c = .literal q := if_neg (not_or.2 ⟨hq, hnl⟩)
    rw [stripFrom_literal_cons (isBlank_ne hc rfl), modeFrom_literal_cons (isBlank_ne hc rfl),
      hmode]
    exact ⟨rfl, rfl⟩
  | line => simp [stripFrom, modeFrom, hnl, Mode.kept]
  | block =>
    rw [stripFrom_block_cons (avoids_of_blank hc rfl) hnl,
      modeFrom_block_cons (avoids_of_blank hc rfl)]
    exact ⟨rfl, rfl⟩

/-- Blanks are read without changing the mode. -/
theorem read_gap_append (hm : m.IsQuoted) (hg : IsGap g) (t : Text) :
    stripFrom m (g ++ t) = m.kept g ++ stripFrom m t ∧ modeFrom m (g ++ t) = modeFrom m t := by
  induction g with
  | nil => cases m <;> exact ⟨rfl, rfl⟩
  | cons c g ih =>
    obtain ⟨⟨hc, hnl⟩, hg⟩ := List.forall_mem_cons.1 hg
    obtain ⟨hstrip, hmode⟩ := read_blank_cons hm hc hnl (g ++ t)
    obtain ⟨ihstrip, ihmode⟩ := ih hg
    rw [List.cons_append, hstrip, hmode, ihstrip, ihmode, kept_cons m c g, List.append_assoc]
    exact ⟨rfl, rfl⟩

theorem Avoids.append_of_blank (hb : isBlank b = false) (hu : ∀ c ∈ u.head?, isBlank c = true)
    {a : Char} (h : Avoids a b c r) : Avoids a b c (r ++ u) := by
  intro r' hc hr
  cases r with
  | nil =>
    rw [List.nil_append] at hr
    exact isBlank_ne (hu b (by rw [hr]; rfl)) hb rfl
  | cons d r => exact h r hc (by rw [(List.cons.inj hr).1])

/-- A backslash at the end of an open literal leaves it open, whether it takes the blank behind it
or not. -/
theorem read_backslash_append (hm : (Mode.literal q).IsQuoted)
    (hu : ∀ c ∈ u.head?, isBlank c = true) :
    stripFrom (.literal q) ('\\' :: u) = '\\' :: stripFrom (.literal q) u ∧
      modeFrom (.literal q) ('\\' :: u) = modeFrom (.literal q) u := by
  have hq : '\\' ≠ q := by rcases hm with rfl | rfl <;> decide
  have hmode : Mode.afterLiteral q '\\' = .literal q := if_neg (not_or.2 ⟨hq, by decide⟩)
  cases u with
  | nil => simp [stripFrom, modeFrom, hmode]
  | cons d u =>
    have hd : isBlank d = true := hu d rfl
    by_cases hnl : d = '\n'
    · subst hnl
      simp [stripFrom, modeFrom, Mode.afterLiteral]
    · obtain ⟨hstrip, hmode⟩ := read_blank_cons hm hd hnl u
      rw [hstrip, hmode]
      simp [stripFrom, modeFrom, hnl, Mode.kept]

/-- What stands before a blank is read on its own. -/
theorem read_append_of_blank (hm : m.IsQuoted) (hu : ∀ c ∈ u.head?, isBlank c = true) (t : Text) :
    stripFrom m (t ++ u) = stripFrom m t ++ stripFrom (modeFrom m t) u ∧
      modeFrom m (t ++ u) = modeFrom (modeFrom m t) u := by
  fun_induction stripFrom m t with
  | case1 m => simp
  | case2 r ih | case3 r ih | case5 q r ih | case8 r ih | case10 r ih =>
    simpa [stripFrom, modeFrom] using ih trivial
  | case11 r h ih => simpa [stripFrom, modeFrom] using ih hm
  | case6 q c r hc ih | case9 c r hc ih => simpa [stripFrom, modeFrom, hc] using ih hm
  | case4 c r h₁ h₂ ih =>
    have h₁' := Avoids.append_of_blank (by decide) hu h₁
    have h₂' := Avoids.append_of_blank (by decide) hu h₂
    obtain ⟨hstrip, hmode⟩ := ih (isQuoted_afterCode c)
    rw [List.cons_append, stripFrom_code_cons h₁' h₂', modeFrom_code_cons h₁' h₂',
      modeFrom_code_cons h₁ h₂, hstrip, hmode]
    exact ⟨rfl, rfl⟩
  | case7 q c r h ih =>
    by_cases hc : c = '\\'
    · -- The backslash is the last character, and takes the blank behind it along.
      obtain rfl := eq_nil_of_backslash hc h
      obtain ⟨hstrip, hmode⟩ := read_backslash_append hm hu
      obtain ⟨-, hlast⟩ := read_backslash_append (u := []) hm (by simp)
      rw [hc, List.singleton_append, hlast, hstrip, hmode]
      exact ⟨rfl, rfl⟩
    · obtain ⟨hstrip, hmode⟩ := ih (isQuoted_afterLiteral hm c)
      rw [List.cons_append, stripFrom_literal_cons hc, modeFrom_literal_cons hc,
        modeFrom_literal_cons hc, hstrip, hmode]
      exact ⟨rfl, rfl⟩
  | case12 c r h hc ih =>
    have h' := Avoids.append_of_blank (by decide) hu h
    rw [List.cons_append, stripFrom_block_cons h' hc, modeFrom_block_cons h',
      modeFrom_block_cons h]
    exact ih hm

theorem head?_of_isGap (h : IsGap g) : ∀ c ∈ g.head?, isBlank c = true := fun c hc =>
  (h c (List.mem_of_mem_head? hc)).1

/-- Blanks at the ends of a line stay there, or go with the comments. -/
theorem isPadded_stripFrom (hm : m.IsQuoted) (h : IsPadded w v) :
    IsPadded (stripFrom m w) (stripFrom m v) ∧ modeFrom m v = modeFrom m w := by
  obtain ⟨l, r, rfl, hl, hr⟩ := h
  obtain ⟨hleft, hleftMode⟩ := read_gap_append hm hl (w ++ r)
  obtain ⟨hright, hrightMode⟩ := read_append_of_blank hm (head?_of_isGap hr) w
  obtain ⟨hgap, hgapMode⟩ := read_gap_append (isQuoted_modeFrom hm w) hr []
  rw [List.append_nil] at hgap hgapMode
  refine ⟨⟨m.kept l, (modeFrom m w).kept r, ?_, isGap_kept m hl, isGap_kept _ hr⟩, ?_⟩
  · rw [hleft, hright, hgap, stripFrom, List.append_nil]
  · rw [hleftMode, hrightMode, hgapMode, modeFrom]

/-! ### Lines one after the other -/

/-- Strip lines one after the other, the first of them in a given mode. -/
def stripLines : Mode → List Text → List Text
  | _, [] => []
  | m, w :: ws => stripFrom m w :: stripLines (modeFrom m w).afterNewline ws

/-- The mode at the start of the line behind some lines. -/
def modeBehind : Mode → List Text → Mode
  | m, [] => m
  | m, w :: ws => modeBehind (modeFrom m w).afterNewline ws

theorem stripLines_append (m : Mode) (ws vs : List Text) :
    stripLines m (ws ++ vs) = stripLines m ws ++ stripLines (modeBehind m ws) vs := by
  induction ws generalizing m with
  | nil => rfl
  | cons w ws ih => rw [List.cons_append, stripLines, ih]; rfl

theorem length_stripLines (m : Mode) (ws : List Text) : (stripLines m ws).length = ws.length := by
  induction ws generalizing m with
  | nil => rfl
  | cons w ws ih => rw [stripLines, List.length_cons, ih, List.length_cons]

theorem notMem_stripFrom (m : Mode) (h : '\n' ∉ t) : '\n' ∉ stripFrom m t := by
  rw [← List.count_eq_zero] at h ⊢
  rw [count_newline_stripFrom, h]

theorem lines_stripFrom_intercalate (hne : ws ≠ []) (h : ∀ w ∈ ws, '\n' ∉ w) :
    (stripFrom m (List.intercalate ['\n'] ws)).lines = stripLines m ws := by
  induction ws generalizing m with
  | nil => exact absurd rfl hne
  | cons w ws ih =>
    obtain ⟨hw, hws⟩ := List.forall_mem_cons.1 h
    have hline := lines_eq_singleton (notMem_stripFrom m hw)
    cases ws with
    | nil =>
      rw [List.intercalate_singleton, hline]
      rfl
    | cons v vs =>
      rw [List.intercalate_cons_cons, List.append_assoc, List.singleton_append,
        stripFrom_append_newline, lines_append_newline, hline, ih (List.cons_ne_nil v vs) hws]
      rfl

/-- A text is stripped line by line. -/
theorem lines_stripFrom (m : Mode) (t : Text) : (stripFrom m t).lines = stripLines m t.lines := by
  have ht : List.intercalate ['\n'] t.lines = t := List.intercalate_splitOn '\n'
  conv_lhs => rw [← ht]
  exact lines_stripFrom_intercalate (List.splitOn_ne_nil '\n' t) fun w => notMem_of_mem_lines

/-- The mode at the end of the last of some lines. -/
theorem modeFrom_intercalate (hm : m.IsQuoted) (ws : List Text) (w : Text) :
    modeFrom m (List.intercalate ['\n'] (ws ++ [w])) = modeFrom (modeBehind m ws) w := by
  induction ws generalizing m with
  | nil =>
    rw [List.nil_append, List.intercalate_singleton]
    rfl
  | cons v ws ih =>
    obtain ⟨u, us, hus⟩ : ∃ u us, ws ++ [w] = u :: us := List.exists_cons_of_ne_nil (by simp)
    have hnewline : modeFrom m (v ++ '\n' :: List.intercalate ['\n'] (ws ++ [w]))
        = modeFrom (modeFrom m v).afterNewline (List.intercalate ['\n'] (ws ++ [w])) := by
      rw [(read_append_of_blank hm (by simp) v).2, modeFrom_newline_cons]
    have hcons : List.intercalate ['\n'] (v :: (ws ++ [w]))
        = v ++ '\n' :: List.intercalate ['\n'] (ws ++ [w]) := by
      rw [hus, List.intercalate_cons_cons, List.append_assoc]
      rfl
    rw [List.cons_append, hcons, hnewline, ih (isQuoted_afterNewline _)]
    rfl

/-- Blanks at the ends of lines stay at the ends of lines, whatever is open there. -/
theorem forall₂_isPadded_stripLines (hm : m.IsQuoted) (h : List.Forall₂ IsPadded ws vs) :
    List.Forall₂ IsPadded (stripLines m ws) (stripLines m vs) := by
  induction h generalizing m with
  | nil => exact .nil
  | cons hline _ ih =>
    obtain ⟨hpadded, hmode⟩ := isPadded_stripFrom hm hline
    rw [stripLines, stripLines, hmode]
    exact .cons hpadded (ih (isQuoted_afterNewline _))

theorem afterNewline_modeBehind (hm : m.afterNewline = m) (ws : List Text) :
    (modeBehind m ws).afterNewline = modeBehind m ws := by
  induction ws generalizing m with
  | nil => exact hm
  | cons w ws ih => exact ih (afterNewline_afterNewline _)

/-- An empty line between others stays an empty line, and the lines behind it do not notice. -/
theorem stripLines_insert_nil (hm : m.afterNewline = m) (ws vs : List Text) :
    stripLines m (ws ++ [] :: vs) = stripLines m ws ++ [] :: stripLines (modeBehind m ws) vs := by
  rw [stripLines_append, stripLines, stripFrom, modeFrom, afterNewline_modeBehind hm]

end Comment

end VarDecl
