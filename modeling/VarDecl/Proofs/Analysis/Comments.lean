import VarDecl.Proofs.Analysis.Layout

/-!
# Comments at the ends of lines

A comment behind a line of code shows in no analysis, whatever it says.

* `IsComment`: a comment that stays on its line;
* `read_comment`: behind code or in a line comment, nothing of it stays and nothing is open behind
  it that reaches the next line;
* `comments_invisible`: so the analysis of the source is as before.
-/

namespace VarDecl

open Text

namespace Comment

variable {m : Mode} {k t w : Text} {ls ms : List Text}

/-- A comment on one line. -/
inductive IsComment : Text → Prop
  | line {t : Text} (hnl : '\n' ∉ t) : IsComment ('/' :: '/' :: t)
  | block {t : Text} (hnl : '\n' ∉ t) (hopen : ¬ ['*', '/'] <:+: t) :
    IsComment ('/' :: '*' :: (t ++ ['*', '/']))

theorem IsComment.noNewline (h : IsComment k) : '\n' ∉ k := by
  cases h with
  | line hnl => simpa using hnl
  | block hnl => simpa using hnl

/-- The rest of a line comment goes. -/
theorem read_line (h : '\n' ∉ t) : stripFrom .line t = [] ∧ modeFrom .line t = .line := by
  induction t with
  | nil => exact ⟨rfl, rfl⟩
  | cons c t ih =>
    obtain ⟨hc, ht⟩ := List.ne_and_not_mem_of_not_mem_cons h
    rw [stripFrom, modeFrom, if_neg hc.symm, if_neg hc.symm]
    exact ih ht

/-- A block comment ends at the first star with a slash behind it. -/
theorem read_block (hnl : '\n' ∉ t) (hopen : ¬ ['*', '/'] <:+: t) :
    stripFrom .block (t ++ ['*', '/']) = [] ∧ modeFrom .block (t ++ ['*', '/']) = .code := by
  induction t with
  | nil => simp [stripFrom, modeFrom]
  | cons c t ih =>
    obtain ⟨hc, ht⟩ := List.ne_and_not_mem_of_not_mem_cons hnl
    have havoids : Avoids '*' '/' c (t ++ ['*', '/']) := by
      rintro r rfl hr
      cases t with
      | nil => exact absurd (List.cons.inj hr).1 (by decide)
      | cons d t =>
        obtain rfl := (List.cons.inj hr).1
        exact hopen ⟨[], t, rfl⟩
    rw [List.cons_append, stripFrom_block_cons havoids hc.symm, modeFrom_block_cons havoids]
    exact ih ht fun hmem => hopen (hmem.trans (List.suffix_cons c t).isInfix)

/-- Nothing of a comment stays, and it leaves nothing open that reaches the next line. -/
theorem read_comment (hm : m = .code ∨ m = .line) (h : IsComment k) :
    stripFrom m k = [] ∧ (modeFrom m k).afterNewline = .code := by
  rcases hm with rfl | rfl
  · cases h with
    | line hnl =>
      obtain ⟨hstrip, hmode⟩ := read_line hnl
      rw [stripFrom, modeFrom, hstrip, hmode]
      exact ⟨rfl, rfl⟩
    | block hnl hopen =>
      obtain ⟨hstrip, hmode⟩ := read_block hnl hopen
      rw [stripFrom, modeFrom, hstrip, hmode]
      exact ⟨rfl, rfl⟩
  · obtain ⟨hstrip, hmode⟩ := read_line h.noNewline
    rw [hstrip, hmode]
    exact ⟨rfl, rfl⟩

/-- Of a comment behind a line at most the blank before it stays, and the next line does not notice.
-/
theorem read_append_comment (hm : m.IsQuoted) (hmode : modeFrom m w = .code ∨ modeFrom m w = .line)
    (h : IsComment k) :
    stripFrom m (w ++ ' ' :: k) = stripFrom m w ++ (modeFrom m w).kept [' '] ∧
      (modeFrom m (w ++ ' ' :: k)).afterNewline = (modeFrom m w).afterNewline := by
  obtain ⟨hstrip, hopen⟩ := read_append_of_blank (u := ' ' :: k) hm (by simp) w
  obtain ⟨hblank, hblankMode⟩ := read_blank_cons (c := ' ') (isQuoted_modeFrom hm w) (by decide)
    (by decide) k
  obtain ⟨hcomment, hcommentMode⟩ := read_comment hmode h
  have hcode : (modeFrom m w).afterNewline = .code := by rcases hmode with h | h <;> rw [h] <;> rfl
  refine ⟨?_, ?_⟩
  · rw [hstrip, hblank, hcomment, List.append_nil]
  · rw [hopen, hblankMode, hcommentMode, hcode]

/-- A comment behind one line pads what is left of this line. -/
theorem isPadded_stripLines_comment
    (hmode : modeFrom (modeBehind .code ls) w = .code ∨ modeFrom (modeBehind .code ls) w = .line)
    (h : IsComment k) :
    List.Forall₂ IsPadded (stripLines .code (ls ++ w :: ms))
      (stripLines .code (ls ++ (w ++ ' ' :: k) :: ms)) := by
  have hquoted : (modeBehind .code ls).IsQuoted := by
    rw [← afterNewline_modeBehind (m := .code) rfl]
    exact isQuoted_afterNewline _
  obtain ⟨hstrip, hnext⟩ := read_append_comment hquoted hmode h
  have hline : IsPadded (stripFrom (modeBehind .code ls) w)
      (stripFrom (modeBehind .code ls) (w ++ ' ' :: k)) :=
    ⟨[], (modeFrom (modeBehind .code ls) w).kept [' '], hstrip, isGap_nil,
      isGap_kept _ (by decide)⟩
  rw [stripLines_append, stripLines_append, stripLines, stripLines, hnext]
  have hsame : ∀ vs : List Text, List.Forall₂ IsPadded vs vs :=
    fun vs => List.forall₂_same.2 fun v _ => IsPadded.refl v
  exact List.rel_append (hsame _) (.cons hline (hsame _))

end Comment

namespace Analysis

open Comment

variable {source w k : Text} {ls ms : List Text}

/-- A comment behind a line that does not end inside of a literal or of a block comment changes no
analysis with comments removed. -/
theorem comments_invisible (s : Stage) (strict : Bool) (θ : Float)
    (hlines : source.lines = ls ++ w :: ms)
    (hmode : modeAfter (List.intercalate ['\n'] (ls ++ [w])) = .code ∨
      modeAfter (List.intercalate ['\n'] (ls ++ [w])) = .line)
    (hcomment : IsComment k) (hempty : Source.isEmpty source = false) :
    s.analyze ⟨true, strict, θ⟩ (List.intercalate ['\n'] (ls ++ (w ++ ' ' :: k) :: ms))
      = s.analyze ⟨true, strict, θ⟩ source := by
  have hline : '\n' ∉ w ++ ' ' :: k := by
    have hw : '\n' ∉ w := notMem_of_mem_lines (hlines ▸ List.mem_append_right ls (by simp))
    simpa [hw] using hcomment.noNewline
  have hlines' := lines_replace hlines hline
  have hslash : (w ++ ' ' :: k).all isBlank = false := by
    cases hcomment <;> simp [List.all_append, show isBlank '/' = false by decide]
  have hempty' : Source.isEmpty (List.intercalate ['\n'] (ls ++ (w ++ ' ' :: k) :: ms))
      = false := by
    rw [Source.isEmpty_eq_all_lines, hlines', List.all_append, List.all_cons, hslash,
      Bool.false_and, Bool.and_false]
  rw [modeAfter, modeFrom_intercalate (m := .code) trivial] at hmode
  refine analyze_of_texts s (hempty'.trans hempty.symm) (Source.texts_of_rawLines ?_)
  rw [Source.rawLines, Source.rawLines, if_pos rfl, if_pos rfl, hlines, hlines']
  exact isPadded_stripLines_comment hmode hcomment

/-- The comment may hold quotes, backslashes and what else opens a comment. -/
theorem comments_invisible_opener :
    Stage.semantic.analyze .default "int a = 1; /* \"//\\ /* **/\nchar b = 'b';".toList
      = Stage.semantic.analyze .default "int a = 1;\nchar b = 'b';".toList := by
  have hcomment : IsComment "/* \"//\\ /* **/".toList :=
    .block (t := " \"//\\ /* *".toList) (by decide +kernel) (by decide +kernel)
  have hlines : lines "int a = 1;\nchar b = 'b';".toList
      = [] ++ "int a = 1;".toList :: ["char b = 'b';".toList] := by decide +kernel
  have h := comments_invisible .semantic false Suggestion.defaultThreshold hlines
    (Or.inl (by decide +kernel)) hcomment (by decide +kernel)
  have hsource : List.intercalate ['\n'] ([] ++ ("int a = 1;".toList ++ ' ' ::
        "/* \"//\\ /* **/".toList) :: ["char b = 'b';".toList])
      = "int a = 1; /* \"//\\ /* **/\nchar b = 'b';".toList := by decide +kernel
  rwa [hsource] at h

end Analysis

end VarDecl
