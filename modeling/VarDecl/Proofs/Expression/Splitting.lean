import VarDecl.Proofs.Expression.TopLevel

/-!
# Parts of an expression

Splitting undoes the joining of parts with separators on the top level.

* `IsRow c t us`: the text `t` is the row of parts `us`, with a separator `c` on the top level
  behind each of them, but perhaps not behind the last, and with none inside;
* `isRow_iff`: the parts of a text are the one such row. Behind a separator the text is split as if
  it stood alone (`split_append_cons`), since the scan is there where it started;
* `mem_topLevelFrom_iff`: what is listed as top level, read off the state of the scan;
* `split_inverse`: the parts, joined again, are the text, or the text without a separator at its
  end.
-/

namespace VarDecl.Expression

variable {p : Char → Bool} {st : Scan} {c d : Char} {t u : Text} {us : List Text}

/-! ### The first separator -/

theorem index?_eq_none_iff : index? p t = none ↔ Passes p .start t := by
  rw [passes_iff_topLevelFrom (i := 0), index?, Option.map_eq_none_iff, List.find?_eq_none]
  simp [topLevel]

/-- Before a top-level character the scan is where it started. -/
theorem run_eq_start_of_isTop (h : (Scan.start.run t).isTop c = true) :
    Scan.start.run t = .start := by
  simp only [Scan.isTop, Bool.and_eq_true, Option.isNone_iff_eq_none, beq_iff_eq] at h
  obtain ⟨⟨⟨⟨⟨hquote, hdepth⟩, -⟩, -⟩, -⟩, -⟩ := h
  exact run_eq_start hquote hdepth

/-- A text has no separator on its top level, or a first one. -/
theorem passes_or_exists_cut (p : Char → Bool) (st : Scan) (t : Text) : Passes p st t ∨
    ∃ u c r, t = u ++ c :: r ∧ Passes p st u ∧ (st.run u).isTop c = true ∧ p c = true := by
  induction t generalizing st with
  | nil => exact Or.inl trivial
  | cons d t ih =>
    by_cases hd : st.isTop d = true ∧ p d = true
    · exact Or.inr ⟨[], d, t, rfl, trivial, hd⟩
    · have hpass : st.isTop d = true → p d = false := fun htop =>
        Bool.eq_false_iff.2 fun hp => hd ⟨htop, hp⟩
      rcases ih (st.step d) with ht | ⟨u, c, r, rfl, hu, hc⟩
      · exact Or.inl ⟨hpass, ht⟩
      · exact Or.inr ⟨d :: u, c, r, rfl, ⟨hpass, hu⟩, hc⟩

/-! ### Splitting behind a separator -/

@[simp] theorem split_nil (p : Char → Bool) : split p [] = [] := rfl

/-- Behind its first separator a text is split as if it stood alone. -/
theorem split_append_cons (hu : Passes p .start u) (hc : (Scan.start.run u).isTop c = true)
    (hp : p c = true) (t : Text) : split p (u ++ c :: t) = u :: split p t := by
  have hparts : partsFrom p .start (u ++ c :: t) = u :: partsFrom p .start t := by
    rw [partsFrom_append hu, partsFrom, hc, hp, Scan.step_eq_of_isTop hc, run_eq_start_of_isTop hc,
      Bool.and_self, if_pos rfl, List.modifyHead_cons, List.append_nil]
  obtain ⟨v, vs, hv⟩ := List.exists_cons_of_ne_nil (partsFrom_ne_nil p .start t)
  simp only [split, hparts, hv, List.getLast?_cons_cons, List.dropLast_cons_cons]
  split
  case isTrue => rfl
  case isFalse => rfl

/-- A text is a row of parts: each is followed by a separator on the top level, which the last may
lack if it is not empty, and none has such a separator in it. -/
inductive IsRow (c : Char) : Text → List Text → Prop
  | nil : IsRow c [] []
  | last {u : Text} : u ≠ [] → index? (· == c) u = none → IsRow c u [u]
  | cons {u t : Text} {us : List Text} : index? (· == c) u = none →
    (Scan.start.run u).isTop c = true → IsRow c t us → IsRow c (u ++ c :: t) (u :: us)

theorem isRow_split (c : Char) (t : Text) : IsRow c t (split (· == c) t) := by
  induction hn : t.length using Nat.strong_induction_on generalizing t with
  | _ n ih =>
    rcases passes_or_exists_cut (· == c) .start t with ht | ⟨u, d, r, rfl, hu, hd, hdc⟩
    · by_cases hne : t = []
      · rw [hne]
        exact .nil
      · rw [split_of_passes ht hne]
        exact .last hne (index?_eq_none_iff.2 ht)
    · obtain rfl : d = c := beq_iff_eq.1 hdc
      have hlength : r.length < n := by
        rw [← hn, List.length_append, List.length_cons]
        omega
      rw [split_append_cons hu hd hdc]
      exact .cons (index?_eq_none_iff.2 hu) hd (ih r.length hlength r rfl)

/-- The parts of a text are the one row that it is. -/
theorem isRow_iff : IsRow c t us ↔ us = split (· == c) t := by
  constructor
  · intro h
    induction h with
    | nil => rfl
    | last hne hu => rw [split_of_passes (index?_eq_none_iff.1 hu) hne]
    | cons hu hc _ ih =>
      rw [split_append_cons (index?_eq_none_iff.1 hu) hc (beq_self_eq_true c), ih]
  · rintro rfl
    exact isRow_split c t

theorem index?_eq_none_of_isRow (h : IsRow c t us) (hu : u ∈ us) : index? (· == c) u = none := by
  induction h with
  | nil => cases hu
  | last _ hindex => rwa [List.mem_singleton.1 hu]
  | cons hindex _ _ ih =>
    rcases List.mem_cons.1 hu with rfl | hu
    · exact hindex
    · exact ih hu

/-! ### The last separator -/

/-- The last character of a text is a separator on its top level. -/
def EndsInSeparator (c : Char) (t : Text) : Prop :=
  ∃ u, t = u ++ [c] ∧ (Scan.start.run u).isTop c = true

theorem endsInSeparator_concat :
    EndsInSeparator c (t ++ [d]) ↔ d = c ∧ (Scan.start.run t).isTop c = true := by
  constructor
  · rintro ⟨u, heq, hu⟩
    obtain ⟨rfl, hd⟩ := List.append_inj' heq rfl
    exact ⟨List.singleton_inj.1 hd, hu⟩
  · rintro ⟨rfl, ht⟩
    exact ⟨t, rfl, ht⟩

/-- What stands before a separator does not matter for what the text behind it ends in. -/
theorem endsInSeparator_append_cons (hc : (Scan.start.run u).isTop c = true) (hne : t ≠ []) :
    EndsInSeparator c (u ++ c :: t) ↔ EndsInSeparator c t := by
  obtain ⟨t, d, rfl⟩ := (List.eq_nil_or_concat' t).resolve_left hne
  have hrun : Scan.start.run (u ++ c :: t) = Scan.start.run t := by
    rw [Scan.run_append, Scan.run_cons, Scan.step_eq_of_isTop hc, run_eq_start_of_isTop hc]
  have heq : u ++ c :: (t ++ [d]) = u ++ c :: t ++ [d] := by simp
  rw [heq, endsInSeparator_concat, endsInSeparator_concat, hrun]

/-- The parts of a row, joined again, are the text but for a separator at its end. -/
theorem intercalate_of_isRow (h : IsRow c t us) :
    (EndsInSeparator c t → t = List.intercalate [c] us ++ [c]) ∧
      (¬ EndsInSeparator c t → t = List.intercalate [c] us) := by
  induction h with
  | nil => exact ⟨fun ⟨_, h, _⟩ => absurd h (by simp), fun _ => rfl⟩
  | @last u _ hu =>
    refine ⟨?_, fun _ => by rw [List.intercalate_singleton]⟩
    rintro ⟨v, rfl, hv⟩
    -- The separator at the end would be a separator in the part.
    have hpasses := (passes_append.1 (index?_eq_none_iff.1 hu)).2
    exact absurd (hpasses.1 hv) (by simp)
  | @cons u t us _ hc hrow ih =>
    by_cases hne : t = []
    · subst hne
      obtain rfl := isRow_iff.1 hrow
      rw [split_nil, List.intercalate_singleton]
      exact ⟨fun _ => rfl, fun h => absurd ⟨u, rfl, hc⟩ h⟩
    · obtain ⟨v, vs, rfl⟩ : ∃ v vs, us = v :: vs := by
        cases hrow with
        | nil => exact absurd rfl hne
        | last => exact ⟨_, _, rfl⟩
        | cons => exact ⟨_, _, rfl⟩
      rw [endsInSeparator_append_cons hc hne, List.intercalate_cons_cons]
      obtain ⟨hends, hopen⟩ := ih
      refine ⟨fun h => ?_, fun h => ?_⟩
      · simp only [List.append_assoc, List.cons_append, List.nil_append, ← hends h]
      · simp only [List.append_assoc, List.singleton_append, ← hopen h]

/-- The top-level characters are those that the scan reads outside literals and parentheses. -/
theorem mem_topLevelFrom_iff {i j : Nat} : (j, d) ∈ topLevelFrom st i t ↔
    ∃ u r, t = u ++ d :: r ∧ j = i + u.length ∧ (st.run u).isTop d = true := by
  induction t generalizing st i with
  | nil => simp [topLevelFrom]
  | cons c t ih =>
    have hrest : (j, d) ∈ topLevelFrom (st.step c) (i + 1) t ↔
        ∃ u r, c :: t = c :: u ++ d :: r ∧ j = i + (c :: u).length ∧
          (st.run (c :: u)).isTop d = true := by
      rw [ih]
      simp [Nat.add_assoc, Nat.add_comm 1]
    have hfirst : (∃ u r, c :: t = u ++ d :: r ∧ j = i + u.length ∧ (st.run u).isTop d = true) ↔
        ((j, d) = (i, c) ∧ st.isTop c = true) ∨ (j, d) ∈ topLevelFrom (st.step c) (i + 1) t := by
      rw [hrest]
      constructor
      · rintro ⟨u, r, heq, hj, htop⟩
        cases u with
        | nil =>
          obtain ⟨rfl, rfl⟩ := List.cons.inj heq
          exact Or.inl ⟨by rw [hj]; rfl, htop⟩
        | cons c' u =>
          obtain ⟨rfl, -⟩ := List.cons.inj heq
          exact Or.inr ⟨u, r, heq, hj, htop⟩
      · rintro (⟨heq, htop⟩ | ⟨u, r, heq, hj, htop⟩)
        · obtain ⟨rfl, rfl⟩ := Prod.mk.inj heq
          exact ⟨[], t, rfl, rfl, htop⟩
        · exact ⟨c :: u, r, heq, hj, htop⟩
    rw [hfirst, topLevelFrom]
    split
    case isTrue htop => simp [htop]
    case isFalse htop => simp [htop]

theorem last_mem_topLevel_iff : (t.length - 1, c) ∈ topLevel t ↔ EndsInSeparator c t := by
  rw [topLevel, mem_topLevelFrom_iff]
  constructor
  · rintro ⟨u, r, rfl, hlength, htop⟩
    obtain rfl : r = [] := by
      rw [← List.length_eq_zero_iff]
      simp only [List.length_append, List.length_cons] at hlength
      omega
    exact ⟨u, rfl, htop⟩
  · rintro ⟨u, rfl, htop⟩
    exact ⟨u, [], rfl, by simp, htop⟩

/-- The parts of a text, joined again, are the text, or the text without its last character exactly
if this is a separator on the top level. No part has a separator on its own top level. The first
separator stands behind the first part. No other row of parts with separators on the top level
between them is the text. -/
theorem split_inverse (c : Char) (t : Text) :
    List.intercalate [c] (split (· == c) t)
        = (if (t.length - 1, c) ∈ topLevel t then t.dropLast else t) ∧
      (∀ u ∈ split (· == c) t, index? (· == c) u = none) ∧
      (∀ i, index? (· == c) t = some i →
        t[i]? = some c ∧ (split (· == c) t).head? = some (t.take i)) ∧
      ∀ us, IsRow c t us ↔ us = split (· == c) t := by
  have hrow := isRow_split c t
  refine ⟨?_, fun u => index?_eq_none_of_isRow hrow, fun i hi => ?_, fun us => isRow_iff⟩
  · obtain ⟨hends, hopen⟩ := intercalate_of_isRow hrow
    split
    case isTrue hlast =>
      rw [congrArg List.dropLast (hends (last_mem_topLevel_iff.1 hlast)), List.dropLast_concat]
    case isFalse hlast => exact (hopen fun h => hlast (last_mem_topLevel_iff.2 h)).symm
  · rcases passes_or_exists_cut (· == c) .start t with ht | ⟨u, d, r, rfl, hu, hd, hdc⟩
    · rw [index?_eq_none_iff.2 ht] at hi
      cases hi
    · obtain rfl : d = c := beq_iff_eq.1 hdc
      rw [index?_append hu hd hdc] at hi
      obtain rfl := Option.some.inj hi
      rw [split_append_cons hu hd hdc, List.take_left' rfl]
      exact ⟨by simp, rfl⟩

/-- Separators in literals and parentheses part nothing, a parenthesis that closes nothing changes
nothing, and a separator at the end is dropped. -/
theorem split_inverse_unbalanced :
    split (· == ',') "f(a, '(,'), )b,,".toList = ["f(a, '(,')".toList, " )b".toList, []] ∧
      List.intercalate [','] (split (· == ',') "f(a, '(,'), )b,,".toList)
        = "f(a, '(,'), )b,".toList ∧
      index? (· == ',') " )b".toList = none ∧
      ("f(a, '(,'), )b,,".toList).take 10 = "f(a, '(,')".toList := by
  have hsplit : split (· == ',') "f(a, '(,'), )b,,".toList
      = ["f(a, '(,')".toList, " )b".toList, []] := by decide
  obtain ⟨hjoin, hparts, hfirst, -⟩ := split_inverse ',' "f(a, '(,'), )b,,".toList
  refine ⟨hsplit, ?_, hparts _ (by rw [hsplit]; simp), ?_⟩
  · rw [hjoin]
    decide
  · have hhead := (hfirst 10 (by decide)).2
    rw [hsplit] at hhead
    exact (Option.some.inj hhead).symm

end VarDecl.Expression
