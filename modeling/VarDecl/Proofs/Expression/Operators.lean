import VarDecl.Proofs.Expression.Runs

/-!
# Expressions joined by operators

What stands on the two sides of an operator is judged separately.

* `fragments_append_of_closed`: behind a text whose literals are closed, the fragments of what stops
  the text are found as if it stood alone;
* `fragments_append_of_operator`: an operator with a space behind it is of no fragment;
* `infer_operator`: the category of two expressions joined by an operator is the higher one of their
  categories, and an undeclared variable of the first is named before one of the second.
-/

namespace VarDecl.Expression

open Text Literal

variable {c : Char} {n : Nat} {t u s r a op : Text}

/-! ### Behind closed literals -/

theorem run_of_span? (hc : c ≠ '\\') (hstep : Scan.step ⟨none, false, n⟩ c = ⟨some c, false, n⟩)
    (h : span? c t = some (s, r)) : Scan.run ⟨none, false, n⟩ s = ⟨none, false, n⟩ := by
  obtain ⟨-, s, rfl, hclose⟩ := append_of_span? h
  rw [Scan.run_cons, hstep, run_of_closes hc (closes_of_closing? hclose)]

/-- A fragment leaves the scan as it is. -/
theorem run_of_fragment? (h : fragment? t = some (s, r)) :
    Scan.run ⟨none, false, n⟩ s = ⟨none, false, n⟩ := by
  simp only [fragment?, Option.or_eq_some_iff] at h
  rcases h with h | ⟨-, h | ⟨-, h | ⟨-, h⟩⟩⟩
  · exact run_of_span? (by decide) rfl h
  · exact run_of_span? (by decide) rfl h
  · exact run_of_isPlain rfl (isPlain_of_scientific? h)
  · obtain ⟨-, -, hchars, -⟩ := append_of_wordRun? h
    exact run_of_isPlain rfl fun c hc => isPlain_of_isFragmentChar (hchars c hc)

/-- Where all literals of a text are closed, its fragments and those of what stops it are found
separately. -/
theorem fragments_append_of_closed (hnl : '\n' ∉ t)
    (hend : (Scan.run ⟨none, false, n⟩ t).quote = none) (hu : Stops u) :
    fragments (t ++ u) = fragments t ++ fragments u := by
  fun_induction fragments t generalizing n with
  | case1 => rfl
  | case2 c t s r h ih =>
    have h' := fragment?_append (List.cons_ne_nil c t) hu (Or.inl (by rw [h]; rfl))
    rw [h, Option.map_some] at h'
    have heq := append_of_fragment? h
    rw [heq, Scan.run_append, run_of_fragment? h] at hend
    have hnl' : '\n' ∉ r := fun hm => hnl (by rw [heq]; exact List.mem_append_right s hm)
    rw [fragments_of_fragment? h', ih hnl' hend, List.cons_append]
  | case3 c t h ih =>
    have hnl' : '\n' ∉ t := fun hm => hnl (List.mem_cons_of_mem c hm)
    -- The character is no quote, so that nothing behind the text can close a literal that it opens.
    obtain ⟨h₁, h₂⟩ := ne_quote_of_fragment?_eq_none hnl' hend h
    have h' := fragment?_append_of_ne_quote (t := t) h₁ h₂ hu
    rw [h, Option.map_none] at h'
    obtain ⟨m, hm⟩ := exists_step_of_ne_quote (n := n) h₁ h₂
    rw [Scan.run_cons, hm] at hend
    exact (fragments_cons_of_none h').trans (ih hnl' hend)

/-! ### Operators -/

/-- A character that can stand in an operator: it is of no word and opens no literal. -/
def IsOperatorChar (c : Char) : Prop := isFragmentChar c = false ∧ c ≠ '"' ∧ c ≠ '\''

instance (c : Char) : Decidable (IsOperatorChar c) := inferInstanceAs (Decidable (_ ∧ _))

/-- A number with an exponent does not start in an operator: the letter of its exponent is no
operator character, and the space behind the operator is no part of a number. -/
theorem scientific?_operator (hop : ∀ c ∈ op, IsOperatorChar c) :
    scientific? (op ++ ' ' :: u) = none := by
  cases h : scientific? (op ++ ' ' :: u) with
  | none => rfl
  | some p =>
    exfalso
    obtain ⟨s, r⟩ := p
    obtain ⟨whole, frac, e, sgn, ds, hs, heq, -, -, he, -⟩ := exists_of_scientific? h
    have hletter : isFragmentChar e = true := by rcases he with rfl | rfl <;> decide
    rcases cut_cases heq.symm with ⟨b, rfl, -⟩ | ⟨w, hw, hsw, ht⟩
    · have hop' := (hop e (List.mem_append_left b (by rw [hs]; simp))).1
      rw [hletter] at hop'
      cases hop'
    · obtain ⟨d, w, rfl⟩ := List.exists_cons_of_ne_nil hw
      obtain ⟨rfl, -⟩ := List.cons.inj ht
      have hspace : ' ' ∈ s := by rw [hsw]; simp
      rcases mem_cases_of_scientific? h hspace with hd | hm
      · exact absurd hd (by decide)
      · exact absurd hm (by decide)

/-- An operator with a space behind it is of no fragment. -/
theorem fragments_append_of_operator (hop : ∀ c ∈ op, IsOperatorChar c) (u : Text) :
    fragments (op ++ ' ' :: u) = fragments u := by
  induction op with
  | nil => exact fragments_cons_of_inert (by decide)
  | cons c op ih =>
    obtain ⟨⟨hf, h₁, h₂⟩, hrest⟩ := List.forall_mem_cons.1 hop
    have hword : wordRun? (c :: op ++ ' ' :: u) = none := by simp [wordRun?, hf]
    have hnone : fragment? (c :: op ++ ' ' :: u) = none := by
      rw [List.cons_append, fragment?_of_ne_quote h₁ h₂, ← List.cons_append,
        scientific?_operator hop, hword, Option.none_or]
    exact (fragments_cons_of_none hnone).trans (ih hrest)

/-! ### The category -/

/-- Of two lists of fragments, the first undeclared variable is that of the first list, if it has
one; without any, the category is the higher one. -/
theorem inferAll_append_eq (Γ : SymbolTable) (fs gs : List Text) :
    inferAll Γ (fs ++ gs) = match inferAll Γ fs, inferAll Γ gs with
      | .error x, _ => .error x
      | .ok _, .error x => .error x
      | .ok c, .ok d => .ok (c.join d) := by
  rw [inferAll_append]
  cases inferAll Γ fs with
  | error x => rfl
  | ok c => cases inferAll Γ gs <;> rfl

/-- Two expressions joined by an operator have the fragments of the first and then those of the
second. The whole names the undeclared variable of the first, if it has one, or else that of the
second; without any it has the higher category of the two. -/
theorem infer_operator (Γ : SymbolTable) (b : Text) (hnl : '\n' ∉ a)
    (hend : (Scan.start.run a).quote = none) (hop : ∀ c ∈ op, IsOperatorChar c) :
    fragments (a ++ ' ' :: (op ++ ' ' :: b)) = fragments a ++ fragments b ∧
      infer Γ (a ++ ' ' :: (op ++ ' ' :: b)) = match infer Γ a, infer Γ b with
        | .error x, _ => .error x
        | .ok _, .error x => .error x
        | .ok c, .ok d => .ok (c.join d) := by
  have hfragments : fragments (a ++ ' ' :: (op ++ ' ' :: b)) = fragments a ++ fragments b := by
    rw [fragments_append_of_closed hnl hend (stops_space _), fragments_cons_of_inert (by decide),
      fragments_append_of_operator hop]
  exact ⟨hfragments, by rw [infer, hfragments, inferAll_append_eq]; rfl⟩

/-- The letter of `1e` and the number behind the operator are no exponent, and the quote in the
literal of the first expression closes none of the second. -/
theorem infer_operator_letter :
    (Scan.start.run "'\"' * 1e".toList).quote = none ∧
      fragments "'\"' * 1e -- 5 % \"y".toList
        = ["'\"'".toList, "1e".toList, "5".toList, "y".toList] ∧
      infer .empty "'\"' * 1e -- 5 % \"y".toList = .error ⟨"y".toList⟩ := by
  have hend : (Scan.start.run "'\"' * 1e".toList).quote = none := by decide
  have hop : ∀ c ∈ "--".toList, IsOperatorChar c := List.all_iff_forall_prop.1 (by decide)
  obtain ⟨hfragments, hinfer⟩ :=
    infer_operator .empty "5 % \"y".toList (by decide) hend hop
  refine ⟨hend, hfragments.trans ?_, hinfer.trans ?_⟩
  · decide +kernel
  · decide +kernel

end VarDecl.Expression
