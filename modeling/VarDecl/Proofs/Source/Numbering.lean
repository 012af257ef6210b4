import VarDecl.Proofs.Comment.Lines
import VarDecl.Proofs.Source

/-!
# The numbers of lines

* `exists_isLine_of_mem_lines`: a numbered line, with comments removed or not, is a sublist of the
  line of the source that has its number (`IsLine`);
* `pairwise_nonblankLines`: the numbers increase from line to line, so each stands for one line;
* `nonblankLines_append_newline`: a source behind another one has the same lines, with numbers
  that count the lines of the other one too (`SourceLine.shift`);
* `nonblankLines_start`: whatever comes behind a source, its own lines stay as they are.
-/

namespace VarDecl

open Text

/-- The line with a number that is greater by `n`. -/
def SourceLine.shift (n : Nat) (l : SourceLine) : SourceLine := ⟨l.number + n, l.raw⟩

@[simp] theorem SourceLine.number_shift (n : Nat) (l : SourceLine) :
    (l.shift n).number = l.number + n := rfl

@[simp] theorem SourceLine.text_shift (n : Nat) (l : SourceLine) : (l.shift n).text = l.text := rfl

@[simp] theorem SourceLine.isBlank_shift (n : Nat) (l : SourceLine) :
    (l.shift n).isBlank = l.isBlank := rfl

namespace Source

variable {strip : Bool} {source s t raw : Text} {l : SourceLine} {n k : Nat}

/-! ### Numbered lists -/

theorem mem_numberFrom_iff {ls : List Text} :
    l ∈ numberFrom n ls ↔ ∃ i, ls[i]? = some l.raw ∧ l.number = n + i := by
  induction ls generalizing n with
  | nil => simp [numberFrom]
  | cons w ls ih =>
    rw [numberFrom, List.mem_cons, ih]
    constructor
    · rintro (rfl | ⟨i, hi, hl⟩)
      · exact ⟨0, rfl, rfl⟩
      · exact ⟨i + 1, hi, by omega⟩
    · rintro ⟨i, hi, hl⟩
      cases i with
      | zero =>
        obtain rfl := Option.some.inj hi
        obtain ⟨m, raw⟩ := l
        obtain rfl : m = n := hl
        exact Or.inl rfl
      | succ i => exact Or.inr ⟨i, hi, by omega⟩

/-- The numbers start where the numbering starts and increase by one. -/
theorem number_of_mem_numberFrom {ls : List Text} (h : l ∈ numberFrom n ls) :
    n ≤ l.number ∧ l.number < n + ls.length := by
  obtain ⟨i, hi, hnumber⟩ := mem_numberFrom_iff.1 h
  obtain ⟨hlt, -⟩ := List.getElem?_eq_some_iff.1 hi
  omega

theorem map_number_numberFrom (n : Nat) (ls : List Text) :
    (numberFrom n ls).map SourceLine.number = List.range' n ls.length := by
  induction ls generalizing n with
  | nil => rfl
  | cons w ls ih => rw [numberFrom, List.map_cons, ih, List.length_cons, List.range'_succ]

theorem numberFrom_append (n : Nat) (ls ms : List Text) :
    numberFrom n (ls ++ ms) = numberFrom n ls ++ numberFrom (n + ls.length) ms := by
  induction ls generalizing n with
  | nil => rfl
  | cons w ls ih =>
    rw [List.cons_append, numberFrom, ih, numberFrom, List.cons_append, List.length_cons,
      show n + 1 + ls.length = n + (ls.length + 1) by omega]

theorem numberFrom_add (n k : Nat) (ls : List Text) :
    numberFrom (n + k) ls = (numberFrom n ls).map (·.shift k) := by
  induction ls generalizing n with
  | nil => rfl
  | cons w ls ih =>
    rw [numberFrom, numberFrom, List.map_cons, ← ih, show n + k + 1 = n + 1 + k by omega]
    rfl

/-! ### Lines of a source -/

/-- With or without its comments, a source has its lines in the same places. -/
theorem linewiseSublist_ite (strip : Bool) (source : Text) :
    LinewiseSublist (if strip then Comment.strip source else source) source := by
  cases strip with
  | false => exact List.forall₂_same.2 fun w _ => List.Sublist.refl w
  | true => exact Comment.forall₂_lines_strip source

/-- A line of the source as it stands, comments and all. -/
structure IsLine (source : Text) (n : Nat) (raw : Text) : Prop where
  pos : 1 ≤ n
  le : n ≤ source.lines.length
  eq : source.lines[n - 1]? = some raw

/-- A numbered line is a sublist of the line of the source that has its number. -/
theorem exists_isLine_of_mem_lines (h : l ∈ lines strip source) :
    ∃ raw, IsLine source l.number raw ∧ l.raw.Sublist raw := by
  obtain ⟨i, hi, hn⟩ := mem_numberFrom_iff.1 h
  obtain ⟨hlen, hsub⟩ := List.forall₂_iff_get.1 (linewiseSublist_ite strip source)
  obtain ⟨hlt, hraw⟩ := List.getElem?_eq_some_iff.1 hi
  have hlt' : i < source.lines.length := hlen ▸ hlt
  refine ⟨source.lines[i], ⟨by omega, by omega, ?_⟩, ?_⟩
  · rw [show l.number - 1 = i by omega]
    exact List.getElem?_eq_getElem hlt'
  · rw [← hraw]
    exact hsub i hlt hlt'

/-- The numbers of the lines increase. -/
theorem pairwise_nonblankLines (strip : Bool) (source : Text) :
    (nonblankLines strip source).Pairwise fun l l' => l.number < l'.number := by
  have h : ((lines strip source).map SourceLine.number).Pairwise (· < ·) := by
    rw [lines, map_number_numberFrom]
    exact List.pairwise_lt_range'
  exact (List.pairwise_map.1 h).filter _

/-- A source with a line that is not blank is not empty. -/
theorem isEmpty_eq_false_of_mem_nonblankLines (h : l ∈ nonblankLines strip source) :
    isEmpty source = false := by
  obtain ⟨raw, hraw, hsub⟩ := exists_isLine_of_mem_lines (List.mem_of_mem_filter h)
  obtain ⟨c, r, hc⟩ := List.exists_cons_of_ne_nil (text_of_mem_nonblankLines h).1
  have hhead : c ∈ (trim l.raw).head? := by
    rw [show trim l.raw = c :: r from hc]
    rfl
  have hmem : c ∈ source := by
    apply (sublist_of_mem_lines (List.mem_of_getElem? hraw.eq)).subset
    exact hsub.subset (mem_of_mem_trim (List.mem_of_mem_head? hhead))
  rw [isEmpty, List.all_eq_false]
  exact ⟨c, hmem, Bool.eq_false_iff.1 (head?_trim hhead)⟩

/-! ### One source behind another -/

theorem lines_append_newline (h : strip = true → Comment.modeAfter s ≠ .block) :
    lines strip (s ++ '\n' :: t)
      = lines strip s ++ (lines strip t).map (·.shift s.lines.length) := by
  have htext : (if strip then Comment.strip (s ++ '\n' :: t) else s ++ '\n' :: t)
      = (if strip then Comment.strip s else s) ++ '\n' :: if strip then Comment.strip t else t := by
    cases strip with
    | false => rfl
    | true => exact Comment.strip_append_newline (h rfl)
  rw [lines, htext, Text.lines_append_newline, numberFrom_append, numberFrom_add,
    (linewiseSublist_ite strip s).length_eq]
  rfl

/-- The lines of the second source come behind those of the first. -/
theorem nonblankLines_append_newline (h : strip = true → Comment.modeAfter s ≠ .block) :
    nonblankLines strip (s ++ '\n' :: t)
      = nonblankLines strip s ++ (nonblankLines strip t).map (·.shift s.lines.length) := by
  rw [nonblankLines, lines_append_newline h, List.filter_append, List.filter_map]
  rfl

/-- What comes behind a newline, comments removed or not. -/
theorem exists_append_newline (strip : Bool) (s t : Text) :
    ∃ u, (if strip then Comment.strip (s ++ '\n' :: t) else s ++ '\n' :: t)
        = (if strip then Comment.strip s else s) ++ '\n' :: u ∧ (t = [] → u = []) := by
  cases strip with
  | false => exact ⟨t, rfl, id⟩
  | true =>
    refine ⟨_, Comment.stripFrom_append_newline .code s t, ?_⟩
    rintro rfl
    rw [Comment.stripFrom]

/-- The lines of a source stay the same when more lines come behind it, even inside a comment or a
literal that is open at its end. -/
theorem nonblankLines_start (strip : Bool) (s t : Text) :
    nonblankLines strip s <+: nonblankLines strip (s ++ '\n' :: t) := by
  obtain ⟨u, hu, -⟩ := exists_append_newline strip s t
  rw [nonblankLines, nonblankLines, lines, lines, hu, Text.lines_append_newline, numberFrom_append,
    List.filter_append]
  exact List.prefix_append _ _

/-- A last newline makes a blank line. -/
theorem nonblankLines_append_singleton (strip : Bool) (s : Text) :
    nonblankLines strip (s ++ ['\n']) = nonblankLines strip s := by
  obtain ⟨u, hu, hnil⟩ := exists_append_newline strip s []
  rw [nonblankLines, nonblankLines, lines, lines, hu, hnil rfl, Text.lines_append_newline,
    numberFrom_append, List.filter_append]
  exact List.append_nil _

end Source

end VarDecl
