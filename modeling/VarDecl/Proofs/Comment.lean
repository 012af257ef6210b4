import VarDecl.Comment
import VarDecl.Proofs.Literal.Reading

/-!
# Texts without comments

`Transparent t`: reading `t` as code removes nothing and ends in code again, whatever comes after.
Texts without slashes and quotes are transparent, and so are quoted literals, whatever they hold
(`transparent_of_closes`).
-/

namespace VarDecl.Comment

open Text Literal

variable {c q : Char} {t u s : Text}

/-- A text that stays as it is and leaves the reader in code. -/
def Transparent (t : Text) : Prop := ∀ r, stripFrom .code (t ++ r) = t ++ stripFrom .code r

theorem Transparent.strip (h : Transparent t) : strip t = t := by
  have := h []
  rw [List.append_nil] at this
  rw [Comment.strip, this, stripFrom, List.append_nil]

theorem transparent_nil : Transparent [] := fun _ => rfl

theorem Transparent.append (ht : Transparent t) (hu : Transparent u) : Transparent (t ++ u) := by
  intro r
  rw [List.append_assoc, ht, hu, List.append_assoc]

theorem Transparent.flatMap {α : Type} {f : α → Text} {l : List α}
    (h : ∀ a ∈ l, Transparent (f a)) : Transparent (l.flatMap f) := by
  induction l with
  | nil => exact transparent_nil
  | cons a l ih =>
    rw [List.flatMap_cons]
    exact (h a List.mem_cons_self).append (ih fun b hb => h b (List.mem_cons_of_mem a hb))

theorem stripFrom_code_of_ne {r : Text} (h : c ≠ '/') :
    stripFrom .code (c :: r) = c :: stripFrom (.afterCode c) r := by
  rw [stripFrom]
  · rintro r' rfl
    exact absurd rfl h
  · rintro r' rfl
    exact absurd rfl h

/-- Without slashes and quotes nothing starts a comment or a literal. -/
theorem transparent_of_forall (h : ∀ c ∈ t, c ≠ '/' ∧ c ≠ '"' ∧ c ≠ '\'') : Transparent t := by
  induction t with
  | nil => exact transparent_nil
  | cons c t ih =>
    intro r
    obtain ⟨h₁, h₂, h₃⟩ := h c List.mem_cons_self
    have hmode : Mode.afterCode c = .code := by simp [Mode.afterCode, h₂, h₃]
    rw [List.cons_append, stripFrom_code_of_ne h₁, hmode,
      ih fun d hd => h d (List.mem_cons_of_mem c hd)]
    rfl

/-- Inside a literal nothing is removed up to its quote. -/
theorem stripFrom_literal_append (hq : q ≠ '\\') (h : Closes q s) (hnl : '\n' ∉ s) (r : Text) :
    stripFrom (.literal q) (s ++ r) = s ++ stripFrom .code r := by
  have step : ∀ {c : Char} {r : Text}, c ≠ '\\' →
      stripFrom (.literal q) (c :: r) = c :: stripFrom (.afterLiteral q c) r := by
    intro c r hc
    rw [stripFrom]
    rintro d r' rfl
    exact absurd rfl hc
  induction h with
  | close =>
    rw [List.singleton_append, step hq, Mode.afterLiteral, if_pos (Or.inl rfl)]
    rfl
  | @escape c s hc _ ih =>
    have hnl' : '\n' ∉ s := fun hm => hnl (List.mem_cons_of_mem _ (List.mem_cons_of_mem _ hm))
    rw [List.cons_append, List.cons_append, stripFrom, if_neg hc, ih hnl']
    rfl
  | @plain c s hc hc' _ ih =>
    have hnl' : c ≠ '\n' ∧ '\n' ∉ s :=
      ⟨fun h0 => hnl (h0 ▸ List.mem_cons_self), fun hm => hnl (List.mem_cons_of_mem _ hm)⟩
    have hmode : Mode.afterLiteral q c = .literal q := by simp [Mode.afterLiteral, hc, hnl'.1]
    rw [List.cons_append, step hc', hmode, ih hnl'.2]
    rfl

/-- A quoted literal is transparent, whatever it holds. -/
theorem transparent_of_closes (hq : q = '"' ∨ q = '\'') (h : Closes q s) (hnl : '\n' ∉ s) :
    Transparent (q :: s) := by
  intro r
  have hne : q ≠ '/' ∧ q ≠ '\\' := by rcases hq with rfl | rfl <;> decide
  have hmode : Mode.afterCode q = .literal q := by simp [Mode.afterCode, hq]
  rw [List.cons_append, stripFrom_code_of_ne hne.1, hmode,
    stripFrom_literal_append hne.2 h hnl]
  rfl

end VarDecl.Comment
