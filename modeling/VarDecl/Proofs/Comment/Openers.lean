import VarDecl.Proofs.Comment.Lines
import VarDecl.Proofs.Expression.TopLevel

/-!
# Texts without comments and the scan of expressions

The reader of comments and the scan of expressions each know which literal is open. They agree on
that in a line in which no comment starts.

* `NoOpener st t`: read from the state `st`, no comment starts in `t` outside its literals;
* `read_of_noOpener`: such a text stays as it is, and both readers have the same literal open behind
  it. A backslash and the character that it takes along are one step of the reader of comments and
  two steps of the scan.
-/

namespace VarDecl.Comment

open Expression

variable {st : Scan} {c q : Char} {t u : Text}

/-- Outside literals no slash is followed by a slash or a star. -/
def NoOpener : Scan → Text → Prop
  | _, [] => True
  | st, c :: r => (st.quote = none → c = '/' → ∀ d ∈ r.head?, d ≠ '/' ∧ d ≠ '*') ∧
      NoOpener (st.step c) r

theorem NoOpener.of_append (h : NoOpener st (t ++ u)) : NoOpener st t := by
  induction t generalizing st with
  | nil => trivial
  | cons c t ih =>
    refine ⟨fun hquote hc d hd => h.1 hquote hc d ?_, ih h.2⟩
    obtain ⟨r, rfl⟩ := List.head?_eq_some_iff.1 hd
    rfl

/-- The mode of the reader of comments where the scan has a literal open, or none. -/
def modeOf (st : Scan) : Mode :=
  match st.quote with
  | some q => .literal q
  | none => .code

theorem modeOf_eq_code_iff : modeOf st = .code ↔ st.quote = none := by
  unfold modeOf
  cases st.quote <;> simp

theorem modeOf_eq_literal_iff : modeOf st = .literal q ↔ st.quote = some q := by
  unfold modeOf
  cases st.quote <;> simp

theorem modeOf_ne_comment (st : Scan) : modeOf st ≠ .line ∧ modeOf st ≠ .block := by
  unfold modeOf
  cases st.quote <;> simp

/-! ### One character -/

/-- A state of the scan in which no character is escaped and no backslash can close a literal. -/
def IsWhole (st : Scan) : Prop := st.escaped = false ∧ st.quote ≠ some '\\'

theorem step_code (hquote : st.quote = none) (hst : IsWhole st) (c : Char) :
    modeOf (st.step c) = .afterCode c ∧ IsWhole (st.step c) := by
  obtain ⟨quote, escaped, depth⟩ := st
  obtain rfl : quote = none := hquote
  simp only [Scan.step, Mode.afterCode]
  split_ifs with h₁
  · refine ⟨rfl, hst.1, fun h0 => ?_⟩
    rcases h₁ with rfl | rfl <;> exact absurd (Option.some.inj h0) (by decide)
  · exact ⟨rfl, hst⟩
  · exact ⟨rfl, hst⟩
  · exact ⟨rfl, hst⟩

theorem step_literal (hquote : st.quote = some q) (hst : IsWhole st) (hc : c ≠ '\\')
    (hnl : c ≠ '\n') : modeOf (st.step c) = .afterLiteral q c ∧ IsWhole (st.step c) := by
  obtain ⟨quote, escaped, depth⟩ := st
  obtain rfl : quote = some q := hquote
  obtain rfl : escaped = false := hst.1
  simp only [Scan.step, Mode.afterLiteral, Bool.false_eq_true, if_false, hc, hnl, or_false]
  split_ifs
  · exact ⟨rfl, rfl, by simp⟩
  · exact ⟨rfl, hst⟩

theorem step_backslash (hquote : st.quote = some q) (hst : IsWhole st) :
    st.step '\\' = { st with escaped := true } := by
  simp [Scan.step, hquote, hst.1]

/-- An escape leaves the scan as it was. -/
theorem step_escape (hquote : st.quote = some q) (hst : IsWhole st) (c : Char) :
    (st.step '\\').step c = st := by
  rw [step_backslash hquote hst]
  obtain ⟨quote, escaped, depth⟩ := st
  obtain rfl : quote = some q := hquote
  obtain rfl : escaped = false := hst.1
  rfl

/-! ### A whole text -/

/-- A line in which no comment starts stays as it is, and behind it the same literal is open for the
reader of comments and for the scan. -/
theorem read_of_noOpener (hst : IsWhole st) (hnl : '\n' ∉ t) (h : NoOpener st t) :
    stripFrom (modeOf st) t = t ∧ modeFrom (modeOf st) t = modeOf (st.run t) := by
  generalize hm : modeOf st = m
  fun_induction stripFrom m t generalizing st with
  | case1 m => exact ⟨rfl, by rw [modeFrom_nil, Scan.run_nil, hm]⟩
  | case2 r => exact absurd rfl (h.1 (modeOf_eq_code_iff.1 hm) rfl '/' rfl).1
  | case3 r => exact absurd rfl (h.1 (modeOf_eq_code_iff.1 hm) rfl '*' rfl).2
  | case4 c r h₁ h₂ ih =>
    obtain ⟨hmode, hst'⟩ := step_code (modeOf_eq_code_iff.1 hm) hst c
    obtain ⟨hstrip, hrun⟩ := ih hst' (fun hmem => hnl (List.mem_cons_of_mem c hmem)) h.2 hmode
    rw [modeFrom_code_cons h₁ h₂, hstrip, hrun]
    exact ⟨rfl, rfl⟩
  | case5 q r => exact absurd (by simp) hnl
  | case6 q c r hc ih =>
    have hstep := step_escape (modeOf_eq_literal_iff.1 hm) hst c
    have hrest : NoOpener st r := by
      rw [← hstep]
      exact h.2.2
    obtain ⟨hstrip, hrun⟩ := ih hst (fun hmem => hnl (by simp [hmem])) hrest hm
    rw [hstrip, modeFrom, if_neg hc, hrun, Scan.run_cons, Scan.run_cons, hstep]
    exact ⟨rfl, rfl⟩
  | case7 q c r h₁ ih =>
    have hquote := modeOf_eq_literal_iff.1 hm
    obtain ⟨hc', hnl'⟩ := List.ne_and_not_mem_of_not_mem_cons hnl
    by_cases hc : c = '\\'
    · -- The backslash is the last character, and leaves the literal open.
      obtain rfl := eq_nil_of_backslash hc h₁
      subst hc
      have hq : '\\' ≠ q := fun h0 => hst.2 (by rw [hquote, h0])
      have hmode : Mode.afterLiteral q '\\' = .literal q := if_neg (not_or.2 ⟨hq, by decide⟩)
      rw [Scan.run_cons, Scan.run_nil, step_backslash hquote hst]
      simp [modeFrom, hmode, modeOf, hquote]
    · obtain ⟨hmode, hst'⟩ := step_literal hquote hst hc hc'.symm
      obtain ⟨hstrip, hrun⟩ := ih hst' hnl' h.2 hmode
      rw [modeFrom_literal_cons hc, hstrip, hrun]
      exact ⟨rfl, rfl⟩
  | case8 | case9 => exact absurd hm (modeOf_ne_comment st).1
  | case10 | case11 | case12 => exact absurd hm (modeOf_ne_comment st).2

end VarDecl.Comment
