import VarDecl.Text.Basic

/-!
# Traversals

What can fail is done for one element of a list after the other, up to the first failure.

* `bind_eq_ok_iff`, `map_eq_ok_iff`: a result of a computation comes from results of its parts;
* `ComesTo`: going through a list comes to an element of some kind, and passes all before it;
* `mapM_cases`, `forM_cases`: all elements have a result, or a first one fails, and with it the
  traversal. So there is a result for the list exactly if there is one for each element
  (`exists_mapM_iff`).
-/

namespace VarDecl

variable {α β ε : Type}

theorem exists_ok_of_isOk {x : Except ε α} (h : x.isOk = true) : ∃ a, x = .ok a := by
  cases x with
  | error e => cases h
  | ok a => exact ⟨a, rfl⟩

theorem bind_eq_ok_iff {x : Except ε α} {f : α → Except ε β} {b : β} :
    (x >>= f) = .ok b ↔ ∃ a, x = .ok a ∧ f a = .ok b := by
  cases x <;> simp [bind, Except.bind]

/-- A result of two computations in a row is a result of both. -/
theorem exists_bind_iff {x : Except ε α} {f : α → Except ε β} :
    (∃ b, (x >>= f) = .ok b) ↔ ∃ a, x = .ok a ∧ ∃ b, f a = .ok b := by
  cases x <;> simp [bind, Except.bind]

theorem exists_map_iff {x : Except ε α} {f : α → β} :
    (∃ b, x.map f = .ok b) ↔ ∃ a, x = .ok a := by
  cases x <;> simp [Except.map]

/-- Going through a list comes to an element that stops it, after those that it passes. -/
def ComesTo (passes stops : α → Prop) : List α → Prop
  | [] => False
  | x :: xs => stops x ∨ passes x ∧ ComesTo passes stops xs

/-- All elements have a result, or a first one has none, which is the failure of them all. -/
theorem mapM_cases (f : α → Except ε β) (xs : List α) :
    (∃ ys, xs.mapM f = .ok ys ∧ xs.map f = ys.map .ok) ∨
      ∃ before x after e, xs = before ++ x :: after ∧ (∀ y ∈ before, ∃ z, f y = .ok z) ∧
        f x = .error e ∧ xs.mapM f = .error e := by
  induction xs with
  | nil => exact Or.inl ⟨[], rfl, rfl⟩
  | cons x xs ih =>
    rw [List.mapM_cons, List.map_cons]
    cases hx : f x with
    | error e => exact Or.inr ⟨[], x, xs, e, rfl, List.forall_mem_nil _, hx, rfl⟩
    | ok y =>
      obtain ⟨ys, hys, hall⟩ | ⟨before, x', after, e, rfl, hbefore, hx', he⟩ := ih
      · rw [hys, hall]
        exact Or.inl ⟨y :: ys, rfl, rfl⟩
      · rw [he]
        exact Or.inr ⟨x :: before, x', after, e, rfl, List.forall_mem_cons.2 ⟨⟨y, hx⟩, hbefore⟩,
          hx', rfl⟩

/-- There is a result for a list exactly if there is one for each element. -/
theorem exists_mapM_iff (f : α → Except ε β) (xs : List α) :
    (∃ ys, xs.mapM f = .ok ys) ↔ ∀ x ∈ xs, ∃ y, f x = .ok y := by
  obtain ⟨ys, hys, hall⟩ | ⟨before, x, after, e, rfl, -, hx, he⟩ := mapM_cases f xs
  · refine ⟨fun _ x hx => ?_, fun _ => ⟨ys, hys⟩⟩
    have hmem := List.mem_map_of_mem (f := f) hx
    rw [hall] at hmem
    obtain ⟨y, -, hy⟩ := List.mem_map.1 hmem
    exact ⟨y, hy.symm⟩
  · refine ⟨fun ⟨ys, hys⟩ => ?_, fun h => ?_⟩
    · cases he.symm.trans hys
    · obtain ⟨y, hy⟩ := h x (List.mem_append_right before List.mem_cons_self)
      cases hx.symm.trans hy

/-- Checks are all passed, or some check is the failure of them all. -/
theorem forM_cases (f : α → Except ε Unit) (xs : List α) :
    ((∀ x ∈ xs, f x = .ok ()) ∧ xs.forM f = .ok ()) ∨
      ∃ x ∈ xs, ∃ e, f x = .error e ∧ xs.forM f = .error e := by
  induction xs with
  | nil => exact Or.inl ⟨List.forall_mem_nil _, rfl⟩
  | cons x xs ih =>
    have hcons : (x :: xs).forM f = (f x).bind fun _ => xs.forM f := rfl
    rw [hcons, List.forall_mem_cons]
    cases hx : f x with
    | error e => exact Or.inr ⟨x, List.mem_cons_self, e, hx, rfl⟩
    | ok _ =>
      obtain ⟨hall, hxs⟩ | ⟨y, hy, e, he, hxs⟩ := ih
      · exact Or.inl ⟨⟨rfl, hall⟩, hxs⟩
      · exact Or.inr ⟨y, List.mem_cons_of_mem x hy, e, he, hxs⟩

end VarDecl
