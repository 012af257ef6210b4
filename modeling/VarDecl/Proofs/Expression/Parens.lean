import VarDecl.Proofs.Expression.Fragments
import VarDecl.Proofs.Expression.TopLevel

/-!
# Pairs of parentheses

What `stripParens` takes off an expression, and that it leaves nothing to take off.

* `IsBalanced t`: every parenthesis of `t` has its partner in `t`, and every literal is closed.
  `IsEnclosed t`: such a text in parentheses;
* `closingIndexFrom_append`, `closesOpen_of_closingIndexFrom`: behind an opening parenthesis, the
  closing index is found right after a balanced text and nowhere else (`isEnclosed_iff`);
* `isWrapped_stripParens`: a text is its stripped form in pairs and blanks. The stripped form has
  none of them (`trim_stripParens`, `isEnclosed_stripParens`), so stripping it again changes
  nothing (`stripParens_stripParens`);
* `stripParens_inParens`: one more pair around a balanced text changes nothing either.
-/

namespace VarDecl.Expression

open Text

variable {p : Char → Bool} {st : Scan} {c : Char} {i : Nat} {t u : Text}

/-! ### One parenthesis deeper -/

/-- The same state inside one more pair of parentheses. -/
def Scan.deepen (st : Scan) : Scan := { st with depth := st.depth + 1 }

@[simp] theorem Scan.quote_deepen (st : Scan) : st.deepen.quote = st.quote := rfl
@[simp] theorem Scan.escaped_deepen (st : Scan) : st.deepen.escaped = st.escaped := rfl
@[simp] theorem Scan.depth_deepen (st : Scan) : st.deepen.depth = st.depth + 1 := rfl

/-- Read from a given state, each closing parenthesis closes one that is open. -/
def ClosesOpen : Scan → Text → Prop
  | _, [] => True
  | st, c :: r => (st.quote = none → c = ')' → st.depth ≠ 0) ∧ ClosesOpen (st.step c) r

instance decidableClosesOpen : (st : Scan) → (t : Text) → Decidable (ClosesOpen st t)
  | _, [] => .isTrue trivial
  | st, c :: r =>
    have := decidableClosesOpen (st.step c) r
    inferInstanceAs (Decidable (_ ∧ _))

theorem step_deepen (h : st.quote = none → c = ')' → st.depth ≠ 0) :
    st.deepen.step c = (st.step c).deepen := by
  unfold Scan.step
  cases hq : st.quote with
  | some q =>
    simp only [Scan.quote_deepen, Scan.escaped_deepen, hq]
    split_ifs <;> rfl
  | none =>
    simp only [Scan.quote_deepen, hq]
    split_ifs with h₁ h₂ h₃
    · rfl
    · rfl
    · -- A closing parenthesis that closes nothing would leave the outer pair.
      have := h hq h₃
      simp only [Scan.deepen, Scan.mk.injEq, true_and]
      omega
    · rfl

/-- An outer pair of parentheses is not touched by the text in it. -/
theorem run_deepen (h : ClosesOpen st t) : st.deepen.run t = (st.run t).deepen := by
  induction t generalizing st with
  | nil => rfl
  | cons c t ih => rw [Scan.run_cons, step_deepen h.1, ih h.2, Scan.run_cons]

/-- In an outer pair of parentheses nothing is on the top level. -/
theorem passes_deepen (h : ClosesOpen st t) : Passes p st.deepen t := by
  induction t generalizing st with
  | nil => trivial
  | cons c t ih =>
    refine ⟨fun htop => ?_, ?_⟩
    · simp [Scan.isTop] at htop
    · rw [step_deepen h.1]
      exact ih h.2

/-! ### The closing index -/

/-- The outer pair is not closed by the text in it. -/
theorem closingIndexFrom_append (h : ClosesOpen st t) :
    closingIndexFrom st.deepen i (t ++ u)
      = closingIndexFrom (st.run t).deepen (i + t.length) u := by
  induction t generalizing st i with
  | nil => rfl
  | cons c t ih =>
    rw [List.cons_append, closingIndexFrom, step_deepen h.1, if_neg, ih h.2, Scan.run_cons,
      List.length_cons, Nat.add_assoc, Nat.add_comm 1]
    rintro ⟨-, -, hdepth⟩
    exact Nat.succ_ne_zero _ hdepth

/-- If the last character closes the outer pair, the text in it closes none but its own. -/
theorem closesOpen_of_closingIndexFrom
    (h : closingIndexFrom st.deepen i (t ++ [c]) = some (i + t.length)) :
    ClosesOpen st t ∧ (st.run t).quote = none ∧ (st.run t).depth = 0 := by
  induction t generalizing st i with
  | nil =>
    rw [List.nil_append, closingIndexFrom] at h
    split at h
    case isTrue hclose =>
      obtain ⟨hq, rfl, hdepth⟩ := hclose
      refine ⟨trivial, hq, ?_⟩
      simpa [Scan.step, show st.quote = none from hq] using hdepth
    case isFalse => cases h
  | cons d t ih =>
    rw [List.cons_append, closingIndexFrom] at h
    split at h
    case isTrue =>
      have := Option.some.inj h
      simp only [List.length_cons] at this
      omega
    case isFalse hclose =>
      have hd : st.quote = none → d = ')' → st.depth ≠ 0 := by
        rintro hq rfl hdepth
        exact hclose ⟨hq, rfl, by simp [Scan.step, hq, hdepth]⟩
      rw [step_deepen hd, List.length_cons, ← Nat.add_assoc, Nat.add_right_comm] at h
      obtain ⟨hopens, hend⟩ := ih h
      exact ⟨⟨hd, hopens⟩, hend⟩

/-! ### Balanced texts -/

/-- A text whose literals are closed and whose parentheses outside them are paired. -/
structure IsBalanced (t : Text) : Prop where
  closesOpen : ClosesOpen .start t
  quote : (Scan.start.run t).quote = none
  depth : (Scan.start.run t).depth = 0

instance (t : Text) : Decidable (IsBalanced t) :=
  decidable_of_iff (ClosesOpen .start t ∧ (Scan.start.run t).quote = none ∧
      (Scan.start.run t).depth = 0)
    ⟨fun ⟨h₁, h₂, h₃⟩ => ⟨h₁, h₂, h₃⟩, fun ⟨h₁, h₂, h₃⟩ => ⟨h₁, h₂, h₃⟩⟩

/-- A text in parentheses. -/
def inParens (t : Text) : Text := '(' :: (t ++ [')'])

/-- A text whose first character is a parenthesis that is closed by the last one. -/
def IsEnclosed (t : Text) : Prop := ∃ u, t = inParens u ∧ IsBalanced u

theorem IsBalanced.run (h : IsBalanced t) : Scan.start.run t = .start :=
  run_eq_start h.quote h.depth

/-- Nothing in a pair is on the top level, and behind it the scan is where it started. -/
theorem IsBalanced.isClosed_inParens (h : IsBalanced t) (hopen : p '(' = false)
    (hclose : p ')' = false) : IsClosed p (inParens t) := by
  have hrun : (Scan.deepen .start).run t = Scan.deepen .start := by
    rw [run_deepen h.closesOpen, h.run]
  have hstep : Scan.start.step '(' = Scan.deepen .start := rfl
  refine ⟨?_, fun _ => hopen, ?_⟩
  · rw [inParens, Scan.run_cons, hstep, Scan.run_append, hrun]
    rfl
  · rw [hstep, passes_append, hrun]
    exact ⟨passes_deepen h.closesOpen, fun _ => hclose, trivial⟩

theorem length_inParens (t : Text) : (inParens t).length - 1 = 1 + t.length := by
  simp [inParens, Nat.add_comm]

theorem isEnclosed_inParens (h : IsBalanced t) : isEnclosed (inParens t) = true := by
  have hindex : closingIndexFrom .start 0 (inParens t) = some (1 + t.length) :=
    calc closingIndexFrom .start 0 (inParens t)
        = closingIndexFrom (Scan.deepen .start) 1 (t ++ [')']) := rfl
      _ = closingIndexFrom (Scan.deepen .start) (1 + t.length) [')'] := by
        rw [closingIndexFrom_append h.closesOpen, h.run]
      _ = some (1 + t.length) := rfl
  have hhead : (inParens t).head? = some '(' := rfl
  rw [isEnclosed, hhead, hindex, length_inParens, beq_self_eq_true, beq_self_eq_true,
    Bool.and_self]

theorem isEnclosed_iff : isEnclosed t = true ↔ IsEnclosed t := by
  constructor
  · intro h
    have ht : t = inParens (inner t) := eq_of_isEnclosed h
    simp only [isEnclosed, Bool.and_eq_true, beq_iff_eq] at h
    obtain ⟨-, hindex⟩ := h
    rw [ht, length_inParens] at hindex
    obtain ⟨hopens, hquote, hdepth⟩ := closesOpen_of_closingIndexFrom hindex
    exact ⟨inner t, ht, hopens, hquote, hdepth⟩
  · rintro ⟨u, rfl, hu⟩
    exact isEnclosed_inParens hu

/-! ### Stripped texts -/

@[simp] theorem inner_inParens (t : Text) : inner (inParens t) = t := by
  rw [inner, inParens, List.tail_cons, List.dropLast_concat]

theorem trim_inParens (t : Text) : trim (inParens t) = inParens t := by
  refine trim_eq_self (fun c hc => ?_) fun c hc => ?_
  · obtain rfl := Option.some.inj hc
    decide
  · rw [inParens, ← List.cons_append, List.getLast?_concat] at hc
    obtain rfl := Option.some.inj hc
    decide

theorem stripParens_trim (t : Text) : stripParens (trim t) = stripParens t := by
  rw [stripParens, trim_trim, ← stripParens]

/-- One more pair around a balanced text is taken off again. -/
theorem stripParens_inParens (h : IsBalanced t) : stripParens (inParens t) = stripParens t := by
  rw [stripParens, trim_inParens, isEnclosed_inParens h, if_pos rfl, inner_inParens]

theorem trim_stripParens (t : Text) : trim (stripParens t) = stripParens t := by
  fun_induction stripParens t with
  | case1 t h ih => exact ih
  | case2 t h => exact trim_trim t

theorem isEnclosed_stripParens (t : Text) : isEnclosed (stripParens t) = false := by
  fun_induction stripParens t with
  | case1 t h ih => exact ih
  | case2 t h => exact Bool.eq_false_iff.2 h

/-- Nothing is left to take off. -/
theorem stripParens_stripParens (t : Text) : stripParens (stripParens t) = stripParens t := by
  rw [stripParens, trim_stripParens, isEnclosed_stripParens, if_neg Bool.false_ne_true]

/-- A text that is another one inside pairs of parentheses, with blanks around any of them. -/
inductive IsWrapped (core : Text) : Text → Prop
  | blanks {l r : Text} : (∀ c ∈ l, isBlank c = true) → (∀ c ∈ r, isBlank c = true) →
    IsWrapped core (l ++ core ++ r)
  | pair {l t r : Text} : (∀ c ∈ l, isBlank c = true) → (∀ c ∈ r, isBlank c = true) →
    IsBalanced t → IsWrapped core t → IsWrapped core (l ++ inParens t ++ r)

/-- A text is its stripped form inside pairs and blanks. -/
theorem isWrapped_stripParens (t : Text) : IsWrapped (stripParens t) t := by
  fun_induction stripParens t with
  | case1 t h ih =>
    obtain ⟨l, r, ht, hl, hr⟩ := exists_eq_append_trim t
    obtain ⟨u, hu, hbalanced⟩ := isEnclosed_iff.1 h
    rw [hu] at ht
    rw [hu, inner_inParens] at ih ⊢
    rw [ht]
    exact .pair hl hr hbalanced ih
  | case2 t h =>
    obtain ⟨l, r, ht, hl, hr⟩ := exists_eq_append_trim t
    generalize trim t = core at ht
    rw [ht]
    exact .blanks hl hr

end VarDecl.Expression
