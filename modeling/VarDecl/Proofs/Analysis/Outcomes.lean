import Mathlib.Data.List.Basic
import VarDecl.Analysis

/-!
# Lists of outcomes

What `accepted` and `rejected` select, and that nothing is rejected exactly if every outcome is
accepted (`rejected_eq_nil_iff`, `eq_map_ok_of_rejected`).
-/

namespace VarDecl.Analysis

variable {α : Type} {os : List (Except Diagnostic α)} {a : α} {d : Diagnostic}

@[simp] theorem accepted_nil : accepted ([] : List (Except Diagnostic α)) = [] := rfl
@[simp] theorem accepted_ok : accepted (.ok a :: os) = a :: accepted os := rfl
@[simp] theorem accepted_error : accepted (.error d :: os) = accepted os := rfl
@[simp] theorem rejected_nil : rejected ([] : List (Except Diagnostic α)) = [] := rfl
@[simp] theorem rejected_ok : rejected (.ok a :: os) = rejected os := rfl
@[simp] theorem rejected_error : rejected (.error d :: os) = d :: rejected os := rfl

theorem accepted_append (os os' : List (Except Diagnostic α)) :
    accepted (os ++ os') = accepted os ++ accepted os' := List.filterMap_append

theorem rejected_append (os os' : List (Except Diagnostic α)) :
    rejected (os ++ os') = rejected os ++ rejected os' := List.filterMap_append

theorem mem_accepted : a ∈ accepted os ↔ .ok a ∈ os := by
  simp only [accepted, List.mem_filterMap]
  constructor
  · rintro ⟨o, ho, h⟩
    cases o with
    | error e => simp [Except.toOption] at h
    | ok b =>
      obtain rfl := Option.some.inj h
      exact ho
  · intro h
    exact ⟨.ok a, h, rfl⟩

theorem mem_rejected : d ∈ rejected os ↔ .error d ∈ os := by
  simp only [rejected, List.mem_filterMap]
  constructor
  · rintro ⟨o, ho, h⟩
    cases o with
    | error e =>
      obtain rfl := Option.some.inj h
      exact ho
    | ok b => simp at h
  · intro h
    exact ⟨.error d, h, rfl⟩

/-- Nothing is rejected exactly if everything is accepted. -/
theorem rejected_eq_nil_iff : rejected os = [] ↔ ∀ o ∈ os, ∃ a, o = .ok a := by
  rw [List.eq_nil_iff_forall_not_mem]
  constructor
  · intro h o ho
    cases o with
    | error d => exact absurd (mem_rejected.2 ho) (h d)
    | ok a => exact ⟨a, rfl⟩
  · intro h d hd
    obtain ⟨a, ha⟩ := h _ (mem_rejected.1 hd)
    cases ha

@[simp] theorem accepted_map_ok (as : List α) : accepted (as.map .ok) = as := by
  induction as with
  | nil => rfl
  | cons a as ih => rw [List.map_cons, accepted_ok, ih]

@[simp] theorem rejected_map_ok (as : List α) : rejected (as.map .ok) = [] := by
  induction as with
  | nil => rfl
  | cons a as ih => rw [List.map_cons, rejected_ok, ih]

theorem eq_map_ok_of_rejected (h : rejected os = []) : os = (accepted os).map .ok := by
  induction os with
  | nil => rfl
  | cons o os ih =>
    cases o with
    | error d => cases h
    | ok a => rw [accepted_ok, List.map_cons, ← ih h]

/-- Where everything is accepted, a property of what is accepted can be read off the inputs. -/
theorem map_accepted_map {β γ : Type} {f : β → Except Diagnostic α} {g : α → γ} {k : β → γ}
    (hf : ∀ b a, f b = .ok a → g a = k b) {bs : List β} (h : rejected (bs.map f) = []) :
    (accepted (bs.map f)).map g = bs.map k := by
  induction bs with
  | nil => rfl
  | cons b bs ih =>
    rw [List.map_cons] at h ⊢
    cases hb : f b with
    | error d =>
      rw [hb, rejected_error] at h
      cases h
    | ok a =>
      rw [hb, rejected_ok] at h
      rw [accepted_ok, List.map_cons, List.map_cons, hf b a hb, ih h]

end VarDecl.Analysis
