import VarDecl.Source
import VarDecl.Proofs.Text.Lines

/-!
# The lines of a source

The lines that are not blank have a text, which has neither a newline nor blanks at its ends
(`text_of_mem_nonblankLines`). Such a text is a source of one line
(`nonblankLines_eq_singleton`).
-/

namespace VarDecl

open Text

namespace Source

variable {strip : Bool} {source : Text} {l : SourceLine}

theorem raw_mem_of_mem_numberFrom {n : Nat} {ls : List Text} (h : l ∈ numberFrom n ls) :
    l.raw ∈ ls := by
  induction ls generalizing n with
  | nil => exact absurd h List.not_mem_nil
  | cons w ls ih =>
    rcases List.mem_cons.1 h with rfl | h
    · exact List.mem_cons_self
    · exact List.mem_cons_of_mem w (ih h)

/-- A source that goes on after something but blanks is not empty. -/
theorem isEmpty_append (h : isEmpty source = false) (t : Text) : isEmpty (source ++ t) = false := by
  rw [isEmpty] at h ⊢
  rw [List.all_append, h, Bool.false_and]

/-- A source is empty if its lines are blank. -/
theorem isEmpty_eq_all_lines (source : Text) :
    isEmpty source = source.lines.all fun w => w.all Text.isBlank := by
  rw [← List.all_flatten, flatten_lines, List.all_filter, isEmpty]
  congr 1
  funext c
  by_cases hc : c = '\n'
  · rw [hc]
    decide
  · simp [hc]

/-- A source with a line that is not blank is not empty. -/
theorem isEmpty_eq_false_of_mem_lines {w : Text} (h : w ∈ source.lines)
    (hw : w.all Text.isBlank = false) : isEmpty source = false := by
  rw [isEmpty_eq_all_lines, List.all_eq_false]
  exact ⟨w, h, by rw [hw]; exact Bool.false_ne_true⟩

/-- The text of a line is not empty and has neither a newline nor blanks at its ends. -/
theorem text_of_mem_nonblankLines (h : l ∈ nonblankLines strip source) :
    l.text ≠ [] ∧ '\n' ∉ l.text ∧ trim l.text = l.text := by
  obtain ⟨hl, hb⟩ := List.mem_filter.1 h
  refine ⟨fun h0 => ?_, fun hm => ?_, trim_trim l.raw⟩
  · rw [SourceLine.isBlank, h0] at hb
    exact Bool.noConfusion hb
  · exact notMem_of_mem_lines (raw_mem_of_mem_numberFrom hl) (mem_of_mem_trim hm)

/-- A trimmed line without comments is the only line of its source. -/
theorem nonblankLines_eq_singleton {t : Text} (hne : t ≠ []) (hnl : '\n' ∉ t) (htrim : trim t = t)
    (hstrip : Comment.strip t = t) : nonblankLines strip t = [⟨1, t⟩] := by
  have htext : (if strip then Comment.strip t else t) = t := by
    rw [hstrip]
    exact ite_self t
  have hblank : SourceLine.isBlank ⟨1, t⟩ = false := by
    rw [SourceLine.isBlank, SourceLine.text, htrim, List.isEmpty_eq_false_iff]
    exact hne
  rw [nonblankLines, lines, htext, lines_eq_singleton hnl, numberFrom, numberFrom,
    List.filter_cons_of_pos (by rw [hblank]; rfl), List.filter_nil]

end Source

end VarDecl
