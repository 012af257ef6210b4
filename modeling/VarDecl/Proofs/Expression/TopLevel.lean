import VarDecl.Expression.TopLevel
import VarDecl.Proofs.Literal.Reading

/-!
# Cutting at the top level

* `Passes p s t`: read from the state `s`, the text `t` has no top-level character that satisfies
  `p`, so that no cut is made in it (`partsFrom_append`, `cut?_append`);
* `exists_split_append`: such a text belongs to the first part of what it starts, if the scan ends
  where it started;
* `run_of_closes`, `quote_run_of_closes`, `quote_run_of_closing?_eq_none`: the scan is outside
  literals again where the reader of spans finds the end of a span, and nowhere before;
* `sublist_of_mem_split`, `sublist_of_cut?`: cutting leaves sublists of the text.
-/

namespace VarDecl.Expression

open Text Literal

variable {p : Char → Bool} {st : Scan} {c q : Char} {n : Nat} {t u s r : Text}

/-! ### No cut in a text -/

/-- No top-level character of a text that is read in a given state satisfies `p`. -/
def Passes (p : Char → Bool) : Scan → Text → Prop
  | _, [] => True
  | st, c :: r => (st.isTop c = true → p c = false) ∧ Passes p (st.step c) r

theorem passes_append : Passes p st (t ++ u) ↔ Passes p st t ∧ Passes p (st.run t) u := by
  induction t generalizing st with
  | nil => simp [Passes]
  | cons c t ih => simp only [List.cons_append, Passes, ih, Scan.run_cons, and_assoc]

/-- A text without such characters at all. -/
theorem passes_of_forall (h : ∀ c ∈ t, p c = false) : Passes p st t := by
  induction t generalizing st with
  | nil => trivial
  | cons c t ih =>
    exact ⟨fun _ => h c List.mem_cons_self, ih fun d hd => h d (List.mem_cons_of_mem c hd)⟩

/-- The parts of a text go on with the first part of what comes after it. -/
theorem partsFrom_append (h : Passes p st t) :
    partsFrom p st (t ++ u) = (partsFrom p (st.run t) u).modifyHead (t ++ ·) := by
  induction t generalizing st with
  | nil =>
    rw [List.nil_append, Scan.run_nil]
    cases partsFrom p st u <;> rfl
  | cons c t ih =>
    obtain ⟨hc, ht⟩ := h
    have hcut : (st.isTop c && p c) = false := by
      rw [Bool.and_eq_false_imp]
      exact hc
    rw [List.cons_append, partsFrom, hcut, ih ht, Scan.run_cons]
    cases partsFrom p ((st.step c).run t) u <;> rfl

theorem partsFrom_of_passes (h : Passes p st t) : partsFrom p st t = [t] := by
  have := partsFrom_append (u := []) h
  rwa [List.append_nil, partsFrom, List.modifyHead_cons, List.append_nil] at this

/-- The scan for the first cut passes over such a text. -/
theorem find?_topLevelFrom_append {i : Nat} (h : Passes p st t) :
    (topLevelFrom st i (t ++ u)).find? (fun ic => p ic.2)
      = (topLevelFrom (st.run t) (i + t.length) u).find? (fun ic => p ic.2) := by
  induction t generalizing st i with
  | nil => rfl
  | cons c t ih =>
    obtain ⟨hc, ht⟩ := h
    have hrest := ih (i := i + 1) ht
    rw [List.cons_append, topLevelFrom, Scan.run_cons, List.length_cons,
      show i + (t.length + 1) = i + 1 + t.length by omega]
    split
    case isTrue htop =>
      rw [List.find?_cons_of_neg (by rw [hc htop]; exact Bool.false_ne_true), hrest]
    case isFalse => exact hrest

/-- The first cut is made where the text ends that has none. -/
theorem index?_append (h : Passes p .start t) (hc : (Scan.start.run t).isTop c = true)
    (hp : p c = true) : index? p (t ++ c :: u) = some t.length := by
  rw [index?, topLevel, find?_topLevelFrom_append h, topLevelFrom, if_pos hc, List.find?_cons, hp,
    Nat.zero_add]
  rfl

theorem cut?_append (h : Passes p .start t) (hc : (Scan.start.run t).isTop c = true)
    (hp : p c = true) : cut? p (t ++ c :: u) = some (t, u) := by
  rw [cut?, index?_append h hc hp, Option.map_some, List.take_left']
  · rw [show (t ++ c :: u).drop (t.length + 1) = u by simp]
  · rfl

theorem cut?_eq_none (h : Passes p .start t) : cut? p t = none := by
  have hfind := find?_topLevelFrom_append (u := []) (i := 0) h
  rw [List.append_nil, topLevelFrom, List.find?_nil] at hfind
  rw [cut?, index?, topLevel, hfind]
  rfl

/-- No top-level character of a text satisfies `p` exactly if none of those listed does. -/
theorem passes_iff_topLevelFrom {i : Nat} :
    Passes p st t ↔ ∀ ic ∈ topLevelFrom st i t, p ic.2 = false := by
  induction t generalizing st i with
  | nil => simp [Passes, topLevelFrom]
  | cons c t ih =>
    rw [Passes, topLevelFrom, ih (i := i + 1)]
    split
    case isTrue htop => simp [htop]
    case isFalse htop => simp [htop]

/-- A text without cuts is one part. -/
theorem split_of_passes (h : Passes p .start t) (hne : t ≠ []) : split p t = [t] := by
  simp only [split, partsFrom_of_passes h]
  rw [if_neg]
  intro hlast
  exact hne (Option.some.inj hlast)

/-! ### Plain characters -/

/-- A character that neither opens nor closes anything. -/
def IsPlain (c : Char) : Prop := c ≠ '"' ∧ c ≠ '\'' ∧ c ≠ '(' ∧ c ≠ ')'

instance (c : Char) : Decidable (IsPlain c) := inferInstanceAs (Decidable (_ ∧ _))

theorem step_of_isPlain (hq : st.quote = none) (h : IsPlain c) : st.step c = st := by
  obtain ⟨h₁, h₂, h₃, h₄⟩ := h
  simp [Scan.step, hq, h₁, h₂, h₃, h₄]

/-- Outside literals, plain characters do not change the state. -/
theorem run_of_isPlain (hq : st.quote = none) (h : ∀ c ∈ t, IsPlain c) : st.run t = st := by
  induction t with
  | nil => rfl
  | cons c t ih =>
    rw [Scan.run_cons, step_of_isPlain hq (h c List.mem_cons_self)]
    exact ih fun d hd => h d (List.mem_cons_of_mem c hd)

/-- Outside literals, a character that is no quote leads outside literals. -/
theorem exists_step_of_ne_quote (h₁ : c ≠ '"') (h₂ : c ≠ '\'') :
    ∃ m, Scan.step ⟨none, false, n⟩ c = ⟨none, false, m⟩ := by
  simp only [Scan.step, h₁, h₂, or_self, if_false]
  split_ifs
  · exact ⟨n + 1, rfl⟩
  · exact ⟨n - 1, rfl⟩
  · exact ⟨n, rfl⟩

/-- Outside literals nothing is escaped. -/
theorem escaped_run (h : st.quote = none → st.escaped = false) :
    (st.run t).quote = none → (st.run t).escaped = false := by
  induction t generalizing st with
  | nil => exact h
  | cons c t ih =>
    apply ih
    unfold Scan.step
    split
    case h_1 q hq =>
      split_ifs with h₁
      · exact fun _ => rfl
      · exact fun hnone => absurd (hq.symm.trans hnone) (Option.some_ne_none q)
      · exact fun _ => Bool.eq_false_iff.2 h₁
      · exact h
    case h_2 => split_ifs <;> exact fun _ => h ‹_›

/-- Outside literals and parentheses the scan is in the state it started in. -/
theorem run_eq_start (hq : (Scan.start.run t).quote = none) (hd : (Scan.start.run t).depth = 0) :
    Scan.start.run t = .start := by
  have he : (Scan.start.run t).escaped = false := escaped_run (fun _ => rfl) hq
  calc Scan.start.run t
      = ⟨(Scan.start.run t).quote, (Scan.start.run t).escaped, (Scan.start.run t).depth⟩ := rfl
    _ = .start := by
      rw [he, hq, hd]
      rfl

/-! ### Quoted spans -/

theorem step_of_ne (h₁ : c ≠ q) (h₂ : c ≠ '\\') :
    Scan.step ⟨some q, false, n⟩ c = ⟨some q, false, n⟩ := by
  simp [Scan.step, h₁, h₂]

/-- The scan leaves a span where the reader of spans does. -/
theorem run_of_closes (hq : q ≠ '\\') (h : Closes q s) :
    Scan.run ⟨some q, false, n⟩ s = ⟨none, false, n⟩ := by
  induction h with
  | close => simp [Scan.step, hq]
  | escape _ _ ih => exact ih
  | plain hc hc' _ ih => rw [Scan.run_cons, step_of_ne hc hc', ih]

/-- No cut is made in a span. -/
theorem passes_of_closes (h : Closes q s) : Passes p ⟨some q, false, n⟩ s := by
  have inside : ∀ {e : Bool} {c : Char} {P : Prop}, Scan.isTop ⟨some q, e, n⟩ c = true → P :=
    fun h => by simp [Scan.isTop] at h
  induction h with
  | close => exact ⟨inside, trivial⟩
  | escape _ _ ih => exact ⟨inside, inside, ih⟩
  | plain hc hc' _ ih => exact ⟨inside, by rwa [step_of_ne hc hc']⟩

/-- Before its last character a span is open. -/
theorem quote_run_of_closes (h : Closes q (u ++ s)) (hs : s ≠ []) :
    (Scan.run ⟨some q, false, n⟩ u).quote = some q := by
  generalize hw : u ++ s = w at h
  induction h generalizing u with
  | close =>
    cases u with
    | nil => rfl
    | cons d u => exact absurd (List.append_eq_nil_iff.1 (List.cons.inj hw).2).2 hs
  | escape _ _ ih =>
    match u with
    | [] => rfl
    | [_] =>
      -- The text ends between a backslash and what it escapes.
      simp only [List.cons_append, List.cons.injEq] at hw
      rw [hw.1]
      rfl
    | _ :: _ :: u =>
      simp only [List.cons_append, List.cons.injEq] at hw
      obtain ⟨rfl, rfl, hrest⟩ := hw
      show (Scan.run ⟨some q, false, n⟩ u).quote = some q
      exact ih hrest
  | plain hc hc' _ ih =>
    cases u with
    | nil => rfl
    | cons d u =>
      obtain ⟨rfl, hrest⟩ := List.cons.inj hw
      rw [Scan.run_cons, step_of_ne hc hc']
      exact ih hrest

/-! ### Closed texts -/

/-- A text in which no cut is made and after which the scan is where it started. -/
structure IsClosed (p : Char → Bool) (t : Text) : Prop where
  run : Scan.start.run t = .start
  passes : Passes p .start t

theorem IsClosed.append (ht : IsClosed p t) (hu : IsClosed p u) : IsClosed p (t ++ u) := by
  refine ⟨by rw [Scan.run_append, ht.run, hu.run], passes_append.2 ⟨ht.passes, ?_⟩⟩
  rw [ht.run]
  exact hu.passes

/-- Behind a closed text the scan starts anew. -/
theorem IsClosed.of_append (ht : IsClosed p t) (h : IsClosed p (t ++ u)) : IsClosed p u := by
  obtain ⟨hrun, hpasses⟩ := h
  rw [Scan.run_append, ht.run] at hrun
  rw [passes_append, ht.run] at hpasses
  exact ⟨hrun, hpasses.2⟩

/-- A text with a given character nowhere on its top level, and with no literal or parenthesis left
open. -/
theorem isClosed_of_topLevel (hq : (Scan.start.run t).quote = none)
    (hd : (Scan.start.run t).depth = 0) (h : ∀ ic ∈ topLevel t, ic.2 ≠ c) :
    IsClosed (· == c) t where
  run := run_eq_start hq hd
  passes := passes_iff_topLevelFrom.2 fun ic hic => beq_eq_false_iff_ne.2 (h ic hic)

theorem isClosed_of_forall (h : ∀ c ∈ t, IsPlain c ∧ p c = false) : IsClosed p t :=
  ⟨run_of_isPlain rfl fun c hc => (h c hc).1, passes_of_forall fun c hc => (h c hc).2⟩

/-- A quoted literal is closed, whatever it holds. -/
theorem isClosed_of_closes (hq : q = '"' ∨ q = '\'') (h : Closes q s) : IsClosed p (q :: s) := by
  have hne : q ≠ '\\' := by rcases hq with rfl | rfl <;> decide
  have htop : Scan.start.isTop q = false := by rcases hq with rfl | rfl <;> rfl
  have hstep : Scan.start.step q = ⟨some q, false, 0⟩ := by simp [Scan.start, Scan.step, hq]
  refine ⟨by rw [Scan.run_cons, hstep, run_of_closes hne h]; rfl, fun h0 => ?_, ?_⟩
  · rw [htop] at h0
    cases h0
  · rw [hstep]
    exact passes_of_closes h

/-- Closed parts are found again between the separators. -/
theorem partsFrom_flatMap {us : List Text} (hc : Scan.start.isTop c = true) (hp : p c = true)
    (ht : IsClosed p t) (hus : ∀ u ∈ us, IsClosed p u) :
    partsFrom p .start (t ++ us.flatMap (c :: ·)) = t :: us := by
  induction us generalizing t with
  | nil => rw [List.flatMap_nil, List.append_nil, partsFrom_of_passes ht.passes]
  | cons u us ih =>
    have hrest := ih (hus u List.mem_cons_self) fun v hv => hus v (List.mem_cons_of_mem u hv)
    rw [partsFrom_append ht.passes, ht.run, List.flatMap_cons, List.cons_append, partsFrom, hc, hp,
      Scan.step_eq_of_isTop hc, hrest]
    rw [Bool.and_self, if_pos rfl, List.modifyHead_cons, List.append_nil]

/-- Splitting finds closed parts again, if the last of them is not empty. -/
theorem split_flatMap {us : List Text} (hc : Scan.start.isTop c = true) (hp : p c = true)
    (ht : IsClosed p t) (hus : ∀ u ∈ us, IsClosed p u) (hne : ∀ u ∈ t :: us, u ≠ []) :
    split p (t ++ us.flatMap (c :: ·)) = t :: us := by
  simp only [split, partsFrom_flatMap hc hp ht hus]
  rw [if_neg]
  intro hlast
  exact hne [] (List.mem_of_getLast? hlast) rfl

/-- A closed text belongs to the first part of what it starts. -/
theorem exists_split_append (ht : IsClosed p t) (hne : t ≠ []) (u : Text) :
    ∃ w ws, split p (t ++ u) = (t ++ w) :: ws := by
  obtain ⟨v, vs, hv⟩ := List.exists_cons_of_ne_nil (partsFrom_ne_nil p .start u)
  have hparts : partsFrom p .start (t ++ u) = (t ++ v) :: vs := by
    rw [partsFrom_append ht.passes, ht.run, hv, List.modifyHead_cons]
  simp only [split, hparts]
  split
  case isTrue hlast =>
    cases vs with
    | nil => exact absurd (List.append_eq_nil_iff.1 (Option.some.inj hlast)).1 hne
    | cons w ws => exact ⟨v, _, rfl⟩
  case isFalse => exact ⟨v, vs, rfl⟩

/-! ### Open literals -/

/-- Without newlines, the scan stays in a literal that never closes. -/
theorem quote_run_of_closing?_eq_none (hnl : '\n' ∉ t) (h : closing? q t = none) :
    (Scan.run ⟨some q, false, n⟩ t).quote = some q := by
  fun_induction closing? q t with
  | case1 => rfl
  | case2 t => exact absurd (by simp) hnl
  | case3 c t hc ih =>
    exact ih (fun hm => hnl (by simp [hm])) (Option.map_eq_none_iff.1 h)
  | case4 t => simp at h
  | case5 c t hne hc ih =>
    by_cases hb : c = '\\'
    · -- A last backslash escapes nothing.
      obtain rfl : t = [] := by
        cases t with
        | nil => rfl
        | cons d t => exact absurd rfl (hne d t hb)
      simp [Scan.step, hb]
    · rw [Scan.run_cons, step_of_ne hc hb]
      exact ih (fun hm => hnl (List.mem_cons_of_mem c hm)) (Option.map_eq_none_iff.1 h)

/-! ### The characters of parts -/

/-- The parts of a text are the text without the separators. -/
theorem flatten_partsFrom_sublist (p : Char → Bool) (st : Scan) (t : Text) :
    (partsFrom p st t).flatten.Sublist t := by
  induction t generalizing st with
  | nil => exact List.Sublist.refl _
  | cons d t ih =>
    rw [partsFrom]
    split
    case isTrue => exact (ih (st.step d)).cons d
    case isFalse =>
      obtain ⟨v, vs, hv⟩ := List.exists_cons_of_ne_nil (partsFrom_ne_nil p (st.step d) t)
      have hrest := ih (st.step d)
      rw [hv] at hrest ⊢
      exact hrest.cons_cons d

theorem sublist_of_mem_split (h : u ∈ split p t) : u.Sublist t := by
  have hmem : u ∈ partsFrom p .start t := by
    simp only [split] at h
    split at h
    · exact List.dropLast_subset _ h
    · exact h
  exact (List.sublist_flatten_of_mem hmem).trans (flatten_partsFrom_sublist p .start t)

/-- The two sides of a cut are the text without the separator. -/
theorem sublist_of_cut? (h : cut? p t = some (u, r)) : (u ++ r).Sublist t := by
  obtain ⟨i, -, heq⟩ := Option.map_eq_some_iff.1 h
  obtain ⟨rfl, rfl⟩ := Prod.mk.inj heq
  rw [← List.eraseIdx_eq_take_drop_succ]
  exact List.eraseIdx_sublist t i

end VarDecl.Expression
