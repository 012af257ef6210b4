import VarDecl.Expression.Parens
import VarDecl.Proofs.Expression.TopLevel

/-!
# The partner of a parenthesis

The search for the `)` that closes the first character of a text. It ends where it finds one, and
unlike the scan of the top level it also counts a `)` that closes nothing.

* `Search.run?` is the state behind a text in which the search does not end, and `partner?` is the
  index where it ends;
* `partner?_eq_closingIndexFrom`: the two ways to count agree as long as a parenthesis is open, so
  the partner of a `(` at the start is found at its closing index;
* `isInside_eq_of_partner?`: the search sees the same literals as the scan, as far as it goes.
-/

namespace VarDecl.Expression

/-- What the search for a partner knows about the text before it. -/
structure Search where
  quote : Option Char
  escaped : Bool
  depth : Int
  deriving DecidableEq

namespace Search

/-- The state before the first character. -/
def start : Search := ⟨none, false, 0⟩

/-- The state after one more character. -/
def step (s : Search) (c : Char) : Search :=
  match s.quote with
  | some q =>
    if s.escaped then { s with escaped := false }
    else if c = '\\' then { s with escaped := true }
    else if c = q then { s with quote := none }
    else s
  | none =>
    if c = '"' ∨ c = '\'' then { s with quote := some c }
    else if c = '(' then { s with depth := s.depth + 1 }
    else if c = ')' then { s with depth := s.depth - 1 }
    else s

/-- Whether the search ends at a character: at a `)` that brings the depth to zero. -/
def endsAt (s : Search) (c : Char) : Bool :=
  s.quote.isNone && c == ')' && (s.step c).depth == 0

/-- The state after a text, if the search does not end in it. -/
def run? (s : Search) : Text → Option Search
  | [] => some s
  | c :: r => if s.endsAt c then none else (s.step c).run? r

/-- Whether the search is inside a literal after a text. -/
def isInside (t : Text) : Bool := (start.run? t).any (·.quote.isSome)

end Search

/-- The index, counted from `i`, where a search ends. -/
def partnerFrom (s : Search) (i : Nat) : Text → Option Nat
  | [] => none
  | c :: r => if s.endsAt c then some i else partnerFrom (s.step c) (i + 1) r

/-- The index of the `)` that closes the first character of a text. -/
def partner? (t : Text) : Option Nat := partnerFrom .start 0 t

variable {s s' : Search} {st : Scan} {c : Char} {i j : Nat} {t u v : Text}

/-! ### The closing index -/

/-- The search in the state of a scan. -/
def Scan.toSearch (st : Scan) : Search := ⟨st.quote, st.escaped, st.depth⟩

/-- As long as a parenthesis is open, both count alike. -/
theorem step_toSearch (h : c = ')' → st.depth ≠ 0) :
    st.toSearch.step c = (st.step c).toSearch := by
  unfold Search.step Scan.step
  cases hq : st.quote with
  | some q =>
    simp only [Scan.toSearch, hq]
    split_ifs
    · rfl
    · rfl
    · rfl
    · rw [hq]
  | none =>
    simp only [Scan.toSearch, hq]
    split_ifs with h₁ h₂ h₃
    · rfl
    · rfl
    · have := h h₃
      simp only [Search.mk.injEq, true_and]
      omega
    · rw [hq]

theorem endsAt_toSearch (h : st.depth ≠ 0) : st.toSearch.endsAt c = true ↔
    st.quote = none ∧ c = ')' ∧ (st.step c).depth = 0 := by
  rw [Search.endsAt, step_toSearch fun _ => h]
  simp [Scan.toSearch, and_assoc]

theorem depth_step_ne_zero (h : st.depth ≠ 0)
    (hends : ¬(st.quote = none ∧ c = ')' ∧ (st.step c).depth = 0)) : (st.step c).depth ≠ 0 := by
  intro h0
  -- Only a parenthesis outside literals takes the depth down.
  obtain ⟨quote, escaped, depth⟩ := st
  have hne : ∀ {q e}, (Scan.mk q e depth).depth ≠ 0 := h
  unfold Scan.step at h0 hends
  cases quote with
  | some q =>
    dsimp only at h0
    split_ifs at h0 <;> exact hne h0
  | none =>
    dsimp only at h0 hends
    split_ifs at h0 hends with h₁ h₂ h₃
    · exact hne h0
    · exact hends ⟨rfl, h₃, h0⟩
    · exact hne h0

theorem partnerFrom_toSearch (h : st.depth ≠ 0) :
    partnerFrom st.toSearch i t = closingIndexFrom st i t := by
  induction t generalizing st i with
  | nil => rfl
  | cons c t ih =>
    rw [partnerFrom, closingIndexFrom]
    by_cases hends : st.quote = none ∧ c = ')' ∧ (st.step c).depth = 0
    · rw [if_pos ((endsAt_toSearch h).2 hends), if_pos hends]
    · rw [if_neg fun h0 => hends ((endsAt_toSearch h).1 h0), if_neg hends,
        step_toSearch fun _ => h, ih (depth_step_ne_zero h hends)]

/-- The partner of a parenthesis at the start is found at its closing index. -/
theorem partner?_eq_closingIndexFrom (h : t.head? = some '(') :
    partner? t = closingIndexFrom .start 0 t := by
  obtain ⟨t, rfl⟩ := List.head?_eq_some_iff.1 h
  have hopen : (Scan.mk none false 1).depth ≠ 0 := Nat.one_ne_zero
  exact partnerFrom_toSearch hopen

/-! ### Where the search ends -/

theorem run?_append (s : Search) (t u : Text) :
    s.run? (t ++ u) = (s.run? t).bind fun s' => s'.run? u := by
  induction t generalizing s with
  | nil => rfl
  | cons c t ih =>
    rw [List.cons_append, Search.run?, Search.run?]
    split
    case isTrue => rfl
    case isFalse => exact ih (s.step c)

theorem isSome_run?_before (h : (s.run? t).isSome = true) (hu : u <+: t) :
    (s.run? u).isSome = true := by
  obtain ⟨v, rfl⟩ := hu
  rw [run?_append] at h
  cases hrun : s.run? u with
  | none => simp [hrun] at h
  | some s' => rfl

/-- A search that ends nowhere has a state behind the text. -/
theorem isSome_run?_of_partnerFrom (h : partnerFrom s i t = none) : (s.run? t).isSome = true := by
  induction t generalizing s i with
  | nil => rfl
  | cons c t ih =>
    rw [partnerFrom] at h
    rw [Search.run?]
    split at h
    case isTrue => cases h
    case isFalse hends =>
      rw [if_neg hends]
      exact ih h

/-- A search ends at a `)` outside literals, and has a state behind the text before it. -/
theorem exists_of_partnerFrom (h : partnerFrom s i t = some j) : ∃ u r s', t = u ++ ')' :: r ∧
    j = i + u.length ∧ s.run? u = some s' ∧ s'.quote = none ∧ s'.endsAt ')' = true := by
  induction t generalizing s i with
  | nil => cases h
  | cons c t ih =>
    rw [partnerFrom] at h
    split at h
    case isTrue hends =>
      obtain rfl := Option.some.inj h
      have hat := hends
      simp only [Search.endsAt, Bool.and_eq_true, Option.isNone_iff_eq_none, beq_iff_eq] at hat
      obtain ⟨⟨hquote, rfl⟩, -⟩ := hat
      exact ⟨[], t, s, rfl, rfl, rfl, hquote, hends⟩
    case isFalse hends =>
      obtain ⟨u, r, s', rfl, rfl, hrun, hat⟩ := ih h
      refine ⟨c :: u, r, s', rfl, by rw [List.length_cons]; omega, ?_, hat⟩
      rw [Search.run?, if_neg hends, hrun]

/-! ### Literals -/

/-- The same literal is open in both, with the same character escaped. -/
def Alike (s : Search) (st : Scan) : Prop := s.quote = st.quote ∧ s.escaped = st.escaped

theorem Alike.step (h : Alike s st) (c : Char) : Alike (s.step c) (st.step c) := by
  obtain ⟨quote, escaped, depth⟩ := s
  obtain ⟨_, _, depth'⟩ := st
  obtain ⟨rfl, rfl⟩ := h
  cases quote with
  | some q =>
    simp only [Search.step, Scan.step]
    split_ifs <;> exact ⟨rfl, rfl⟩
  | none =>
    simp only [Search.step, Scan.step]
    split_ifs <;> exact ⟨rfl, rfl⟩

theorem Alike.run? (h : Alike s st) (hrun : s.run? t = some s') : Alike s' (st.run t) := by
  induction t generalizing s st with
  | nil => rwa [← Option.some.inj hrun]
  | cons c t ih =>
    rw [Search.run?] at hrun
    split at hrun
    case isTrue => cases hrun
    case isFalse => exact ih (h.step c) hrun

theorem isInside_eq_of_isSome (h : (Search.start.run? t).isSome = true) :
    Search.isInside t = (Scan.start.run t).quote.isSome := by
  obtain ⟨s, hs⟩ := Option.isSome_iff_exists.1 h
  have halike : Alike .start .start := ⟨rfl, rfl⟩
  rw [Search.isInside, hs, ← (halike.run? hs).1]
  rfl

/-- The search and the scan are inside literals at the same places, if the search does not end
before the last character. -/
theorem isInside_eq_of_partner? (h : partner? t = none ∨ partner? t = some (t.length - 1))
    (hu : u <+: t) : Search.isInside u = (Scan.start.run u).quote.isSome := by
  rcases h with h | h
  · exact isInside_eq_of_isSome (isSome_run?_before (isSome_run?_of_partnerFrom h) hu)
  · obtain ⟨v, r, s, rfl, hlength, hrun, hquote, hends⟩ := exists_of_partnerFrom h
    obtain rfl : r = [] := by
      rw [← List.length_eq_zero_iff]
      simp only [List.length_append, List.length_cons] at hlength
      omega
    have hv : (Search.start.run? v).isSome = true := by rw [hrun]; rfl
    rcases List.prefix_concat_iff.1 hu with rfl | hu
    · -- Behind the partner both are outside literals.
      have halike : Alike .start .start := ⟨rfl, rfl⟩
      have hscan : (Scan.start.run v).quote = none := (halike.run? hrun).1.symm.trans hquote
      have hend : Search.start.run? (v ++ [')']) = none := by
        rw [run?_append, hrun, Option.bind_some, Search.run?, if_pos hends]
      rw [Search.isInside, hend, Scan.run_append, Scan.run_cons, Scan.run_nil, Scan.step, hscan]
      rfl
    · exact isInside_eq_of_isSome (isSome_run?_before hv hu)

end VarDecl.Expression
