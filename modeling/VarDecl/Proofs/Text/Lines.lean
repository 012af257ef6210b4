import Mathlib.Data.List.Forall2
import VarDecl.Proofs.Text.Trim

/-!
# The lines of a text

* `flatten_lines`: the lines are what stands between the newlines, so no line has one
  (`notMem_of_mem_lines`). A text is known by its lines (`lines_injective`). A line can come in
  between them (`lines_insert`) or take the place of one (`lines_replace`);
* `lines_append_newline`: a newline between two texts puts their lines one after the other. So a
  text that has the first lines of another one ends where one of those lines does
  (`eq_or_exists_of_lines_start`);
* `LinewiseSublist u t`: the two texts have as many lines, and each line of `u` is a sublist of that
  of `t`. It is built character by character, each being kept or left out (`LinewiseSublist.keep`,
  `LinewiseSublist.omit`).
-/

namespace VarDecl.Text

variable {c : Char} {s t u w : Text}

theorem flatten_lines (t : Text) : t.lines.flatten = t.filter (· != '\n') :=
  flatten_splitOnP (· == '\n') t

theorem sublist_of_mem_lines (h : w ∈ t.lines) : w.Sublist t := by
  have hsub := List.sublist_flatten_of_mem h
  rw [flatten_lines] at hsub
  exact hsub.trans List.filter_sublist

/-- A line has no newline. -/
theorem notMem_of_mem_lines (h : w ∈ t.lines) : '\n' ∉ w := by
  intro hm
  have hmem := List.mem_flatten_of_mem h hm
  rw [flatten_lines] at hmem
  exact absurd (List.mem_filter.1 hmem).2 (by decide)

/-- A text is its lines with newlines between them. -/
theorem lines_injective : Function.Injective lines := by
  intro s t h
  have hs : List.intercalate ['\n'] (lines s) = s := List.intercalate_splitOn '\n'
  have ht : List.intercalate ['\n'] (lines t) = t := List.intercalate_splitOn '\n'
  rw [← hs, h, ht]

theorem lines_newline_cons (t : Text) : lines ('\n' :: t) = [] :: lines t := by
  simp [lines, List.splitOn_cons_eq_if_modifyHead]

theorem lines_cons_of_ne (h : c ≠ '\n') : lines (c :: t) = (lines t).modifyHead (c :: ·) := by
  simp [lines, List.splitOn_cons_eq_if_modifyHead, h]

/-- Lines without newlines are found again. -/
theorem lines_intercalate {ws : List Text} (h : ∀ w ∈ ws, '\n' ∉ w) (hne : ws ≠ []) :
    lines (List.intercalate ['\n'] ws) = ws :=
  List.splitOn_intercalate '\n' h hne

/-- A line between lines is found again. -/
theorem lines_insert {ls ms : List Text} (h : ∀ v ∈ ls ++ ms, '\n' ∉ v) (hu : '\n' ∉ u) :
    lines (List.intercalate ['\n'] (ls ++ u :: ms)) = ls ++ u :: ms := by
  refine lines_intercalate (fun v hv => ?_) (List.append_ne_nil_of_right_ne_nil ls (by simp))
  rcases List.mem_append.1 hv with hv | hv
  · exact h v (List.mem_append_left ms hv)
  · rcases List.mem_cons.1 hv with rfl | hv
    · exact hu
    · exact h v (List.mem_append_right ls hv)

/-- One line of a text can be replaced. -/
theorem lines_replace {ls ms : List Text} (h : t.lines = ls ++ w :: ms) (hu : '\n' ∉ u) :
    lines (List.intercalate ['\n'] (ls ++ u :: ms)) = ls ++ u :: ms := by
  refine lines_insert (fun v hv => notMem_of_mem_lines (t := t) ?_) hu
  rw [h]
  exact ((List.sublist_cons_self w ms).append_left ls).subset hv

theorem lines_eq_singleton (h : '\n' ∉ t) : lines t = [t] := by
  have hlines := lines_intercalate (List.forall_mem_singleton.2 h) (List.cons_ne_nil t [])
  rwa [List.intercalate_singleton] at hlines

/-- The lines of two texts with a newline between them. -/
theorem lines_append_newline (s t : Text) : lines (s ++ '\n' :: t) = lines s ++ lines t :=
  List.splitOn_append_cons_self s t

/-- A text with the first lines of another one is all of it, or ends before one of its newlines. -/
theorem eq_or_exists_of_lines_start (h : s.lines <+: t.lines) :
    t = s ∨ ∃ u, t = s ++ '\n' :: u := by
  obtain ⟨ws, hws⟩ := h
  by_cases hne : ws = []
  · rw [hne, List.append_nil] at hws
    exact Or.inl (lines_injective hws.symm)
  · have hrest : lines (List.intercalate ['\n'] ws) = ws := by
      refine lines_intercalate (fun w hw => ?_) hne
      apply notMem_of_mem_lines (t := t)
      rw [← hws]
      exact List.mem_append_right _ hw
    refine Or.inr ⟨List.intercalate ['\n'] ws, lines_injective ?_⟩
    rw [lines_append_newline, hrest, hws]

/-- Two texts of as many lines, each line of the first being a part of that of the second. -/
def LinewiseSublist (u t : Text) : Prop := List.Forall₂ List.Sublist u.lines t.lines

theorem linewiseSublist_nil : LinewiseSublist [] [] := List.Forall₂.cons (List.Sublist.refl _) .nil

theorem LinewiseSublist.newline (h : LinewiseSublist u t) :
    LinewiseSublist ('\n' :: u) ('\n' :: t) := by
  rw [LinewiseSublist, lines_newline_cons, lines_newline_cons]
  exact .cons (List.Sublist.refl _) h

/-- A character may be left out of a line. -/
theorem LinewiseSublist.omit (hc : c ≠ '\n') (h : LinewiseSublist u t) :
    LinewiseSublist u (c :: t) := by
  rw [LinewiseSublist, lines_cons_of_ne hc]
  unfold LinewiseSublist at h
  generalize u.lines = us at h
  generalize t.lines = ts at h
  cases h with
  | nil => exact .nil
  | cons hl hls => exact .cons (hl.cons c) hls

/-- A character may be kept in its line. -/
theorem LinewiseSublist.keep (c : Char) (h : LinewiseSublist u t) :
    LinewiseSublist (c :: u) (c :: t) := by
  by_cases hc : c = '\n'
  · rw [hc]
    exact h.newline
  · rw [LinewiseSublist, lines_cons_of_ne hc, lines_cons_of_ne hc]
    unfold LinewiseSublist at h
    generalize u.lines = us at h ⊢
    generalize t.lines = ts at h ⊢
    cases h with
    | nil => exact .nil
    | cons hl hls => exact .cons (hl.cons_cons c) hls

end VarDecl.Text
