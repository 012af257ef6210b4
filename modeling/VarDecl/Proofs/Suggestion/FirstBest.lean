import VarDecl.Proofs.Suggestion

/-!
# The first of the best candidates

The search for a suggestion finds the first of the candidates with the highest score, if that score
reaches the floor.

* `IsFirstBest`: such a candidate. There is at most one (`IsFirstBest.unique`), and candidates put
  behind do not take its place unless one of them beats it (`IsFirstBest.of_append`);
* `Found`: what a search has found after some candidates. One more candidate keeps this true
  (`Found.better`), so it holds at the end of any search (`found_foldl`);
* `closest?_eq_none_iff`, `closest?_eq_some_iff`: what is found, of scores that can be compared with
  the floor;
* `suggestBy?_first_best`: what is suggested by any measure of how alike two names are.
-/

namespace VarDecl.Suggestion

/-! ### Total orders -/

section ScoreOrder

variable {β : Type}

/-- In a total order all scores are comparable. -/
instance [LinearOrder β] : ScoreOrder β where
  le_trans hxy hyz := hxy.trans hyz
  le_or_le _ _ := le_total _ _
  lt_iff := lt_iff_le_not_ge

variable [LE β] [LT β] [ScoreOrder β] {x y z : β}

theorem le_of_lt (h : x < y) : x ≤ y := (ScoreOrder.lt_iff.1 h).1

theorem not_le_of_lt (h : x < y) : ¬ y ≤ x := (ScoreOrder.lt_iff.1 h).2

theorem lt_of_le_of_lt (hxy : x ≤ y) (hyz : y < z) : x < z := by
  obtain ⟨hle, hnot⟩ := ScoreOrder.lt_iff.1 hyz
  refine ScoreOrder.lt_iff.2 ⟨ScoreOrder.le_trans hxy hle, fun hzx => ?_⟩
  exact hnot (ScoreOrder.le_trans hzx hxy)

/-- What is above anything is comparable with itself. -/
theorem le_self (h : x ≤ y) : y ≤ y := (ScoreOrder.le_or_le h h).elim id id

end ScoreOrder

section Closest

variable {α β : Type} [LE β] [LT β] {score : α → β} {floor : β} {cs ds : List α} {c d : α}
  {s : Option α × β}

/-! ### The first of the best -/

/-- The first of the candidates with the highest score: those before it score less, and those
behind it no more. -/
def IsFirstBest (score : α → β) (cs : List α) (c : α) : Prop :=
  ∃ us vs, cs = us ++ c :: vs ∧ (∀ d ∈ us, score d < score c) ∧ ∀ d ∈ vs, score d ≤ score c

theorem IsFirstBest.mem (h : IsFirstBest score cs c) : c ∈ cs := by
  obtain ⟨us, vs, rfl, -, -⟩ := h
  exact List.mem_append_right us List.mem_cons_self

/-- No candidate scores more. -/
theorem IsFirstBest.le [ScoreOrder β] (h : IsFirstBest score cs c) (hfloor : floor ≤ score c)
    (hd : d ∈ cs) : score d ≤ score c := by
  obtain ⟨us, vs, rfl, hus, hvs⟩ := h
  rcases List.mem_append.1 hd with hd | hd
  · exact le_of_lt (hus d hd)
  · rcases List.mem_cons.1 hd with rfl | hd
    · exact le_self hfloor
    · exact hvs d hd

/-- A candidate behind that scores no more changes nothing. -/
theorem IsFirstBest.concat (h : IsFirstBest score cs c) (hd : score d ≤ score c) :
    IsFirstBest score (cs ++ [d]) c := by
  obtain ⟨us, vs, rfl, hus, hvs⟩ := h
  refine ⟨us, vs ++ [d], by simp, hus, fun e he => ?_⟩
  rcases List.mem_append.1 he with he | he
  · exact hvs e he
  · rwa [List.mem_singleton.1 he]

theorem isFirstBest_concat (h : ∀ d ∈ cs, score d < score c) : IsFirstBest score (cs ++ [c]) c :=
  ⟨cs, [], rfl, h, List.forall_mem_nil _⟩

/-- Of two lists of candidates, the first of the best is that of the first list, or it is in the
second list and better than all of the first. -/
theorem IsFirstBest.of_append (h : IsFirstBest score (cs ++ ds) c) :
    IsFirstBest score cs c ∨ c ∈ ds ∧ ∀ b ∈ cs, score b < score c := by
  obtain ⟨us, vs, heq, hus, hvs⟩ := h
  obtain ⟨ws, hcs, hds⟩ | ⟨ws, hcs, hds⟩ := List.append_eq_append_iff.1 heq
  · refine Or.inr ⟨?_, fun b hb => hus b ?_⟩
    · rw [hds]
      exact List.mem_append_right ws List.mem_cons_self
    · rw [hcs]
      exact List.mem_append_left ws hb
  · cases ws with
    | nil =>
      rw [List.append_nil] at hcs
      rw [List.nil_append] at hds
      exact Or.inr ⟨hds ▸ List.mem_cons_self, fun b hb => hus b (hcs ▸ hb)⟩
    | cons w ws =>
      obtain ⟨rfl, rfl⟩ := List.cons.inj hds
      exact Or.inl ⟨us, ws, hcs, hus, fun d hd => hvs d (List.mem_append_left ds hd)⟩

/-- Where two first places are written out, one of them does not come before the other. -/
theorem eq_of_append_eq [ScoreOrder β] {us vs us' vs' : List α}
    (heq : us ++ c :: vs = us' ++ d :: vs') (hvs : ∀ e ∈ vs, score e ≤ score c)
    (hus' : ∀ e ∈ us', score e < score d) (hle : us.length ≤ us'.length) : c = d := by
  obtain ⟨ws, rfl⟩ : us <+: us' :=
    List.prefix_of_prefix_length_le ⟨c :: vs, heq⟩ ⟨d :: vs', rfl⟩ hle
  rw [List.append_assoc, List.append_cancel_left_eq] at heq
  cases ws with
  | nil => exact (List.cons.inj heq).1
  | cons w ws =>
    -- Otherwise `d` would come after `c` and beat it.
    obtain ⟨rfl, rfl⟩ := List.cons.inj heq
    have hlt : score c < score d := hus' c (List.mem_append_right us List.mem_cons_self)
    have hge : score d ≤ score c := hvs d (List.mem_append_right ws List.mem_cons_self)
    exact absurd hge (not_le_of_lt hlt)

theorem IsFirstBest.unique [ScoreOrder β] (hc : IsFirstBest score cs c)
    (hd : IsFirstBest score cs d) : c = d := by
  obtain ⟨us, vs, rfl, hus, hvs⟩ := hc
  obtain ⟨us', vs', heq, hus', hvs'⟩ := hd
  rcases le_total us.length us'.length with hle | hle
  · exact eq_of_append_eq heq hvs hus' hle
  · exact (eq_of_append_eq heq.symm hvs' hus hle).symm

/-! ### The search -/

/-- What a search from a floor has found after the candidates `cs`. -/
inductive Found (score : α → β) (floor : β) (cs : List α) : Option α × β → Prop
  | nothing (h : ∀ c ∈ cs, ¬ floor ≤ score c) : Found score floor cs (none, floor)
  | best {c : α} (hfloor : floor ≤ score c) (h : IsFirstBest score cs c) :
    Found score floor cs (some c, score c)

variable [DecidableLE β] [DecidableLT β]

/-- One more candidate. -/
theorem Found.better [ScoreOrder β] (h : Found score floor cs s)
    (hcs : ∀ d ∈ cs ++ [c], score d ≤ floor ∨ floor ≤ score d) :
    Found score floor (cs ++ [c]) (better score s c) := by
  cases h with
  | nothing h =>
    simp only [Suggestion.better, Option.isNone_none, true_or, and_true]
    split_ifs with hc
    · refine .best hc (isFirstBest_concat fun d hd => ?_)
      have hd' : score d ≤ floor := (hcs d (List.mem_append_left [c] hd)).resolve_right (h d hd)
      refine ScoreOrder.lt_iff.2 ⟨ScoreOrder.le_trans hd' hc, fun hcd => ?_⟩
      exact h d hd (ScoreOrder.le_trans hc hcd)
    · refine .nothing fun d hd => ?_
      rcases List.mem_append.1 hd with hd | hd
      · exact h d hd
      · rwa [List.mem_singleton.1 hd]
  | @best b hfloor h =>
    simp only [Suggestion.better, Option.isNone_some, Bool.false_eq_true, false_or]
    split_ifs with hc
    · refine .best (ScoreOrder.le_trans hfloor hc.1) (isFirstBest_concat fun d hd => ?_)
      exact lt_of_le_of_lt (h.le hfloor hd) hc.2
    · refine .best hfloor (h.concat ?_)
      rcases hcs c (List.mem_append_right cs (List.mem_singleton_self c)) with hc' | hc'
      · exact ScoreOrder.le_trans hc' hfloor
      · by_contra hnot
        exact hc ⟨(ScoreOrder.le_or_le hfloor hc').resolve_right hnot,
          lt_of_not_le hfloor hc' hnot⟩

/-- Any number of further candidates. -/
theorem Found.foldl [ScoreOrder β] (h : Found score floor cs s)
    (hcs : ∀ d ∈ cs ++ ds, score d ≤ floor ∨ floor ≤ score d) :
    Found score floor (cs ++ ds) (ds.foldl (Suggestion.better score) s) := by
  induction ds generalizing cs s with
  | nil => rwa [List.append_nil]
  | cons d ds ih =>
    rw [List.append_cons] at hcs ⊢
    exact ih (h.better fun e he => hcs e (List.mem_append_left ds he)) hcs

theorem found_foldl [ScoreOrder β] (hcs : ∀ c ∈ cs, score c ≤ floor ∨ floor ≤ score c) :
    Found score floor cs (cs.foldl (better score) (none, floor)) := by
  have hstart : Found score floor [] (none, floor) := .nothing (List.forall_mem_nil _)
  exact hstart.foldl hcs

/-- Nothing is found exactly if no candidate reaches the floor. -/
theorem closest?_eq_none_iff [ScoreOrder β]
    (hcs : ∀ c ∈ cs, score c ≤ floor ∨ floor ≤ score c) :
    closest? score floor cs = none ↔ ∀ c ∈ cs, ¬ floor ≤ score c := by
  rw [closest?]
  have hfound := found_foldl hcs
  generalize cs.foldl (better score) (none, floor) = s at hfound
  cases hfound with
  | nothing h => simpa using h
  | @best b hfloor h => simpa using ⟨b, h.mem, hfloor⟩

/-- What is found is the first of the best, which has to reach the floor. -/
theorem closest?_eq_some_iff [ScoreOrder β]
    (hcs : ∀ c ∈ cs, score c ≤ floor ∨ floor ≤ score c) :
    closest? score floor cs = some c ↔ floor ≤ score c ∧ IsFirstBest score cs c := by
  rw [closest?]
  have hfound := found_foldl hcs
  generalize cs.foldl (better score) (none, floor) = s at hfound
  cases hfound with
  | nothing h => simpa using fun hfloor hc => h c hc.mem hfloor
  | @best b hfloor h =>
    constructor
    · rintro ⟨⟩
      exact ⟨hfloor, h⟩
    · rintro ⟨-, hc⟩
      rw [h.unique hc]

/-- Candidates put behind change what is found only to one of them, and only if it is better. -/
theorem closest?_append [ScoreOrder β]
    (hcs : ∀ c ∈ cs ++ ds, score c ≤ floor ∨ floor ≤ score c) :
    closest? score floor (cs ++ ds) = closest? score floor cs ∨
      ∃ d ∈ ds, closest? score floor (cs ++ ds) = some d ∧
        ∀ c ∈ closest? score floor cs, score c < score d := by
  have hcs' : ∀ c ∈ cs, score c ≤ floor ∨ floor ≤ score c :=
    fun c hc => hcs c (List.mem_append_left ds hc)
  cases hfound : closest? score floor (cs ++ ds) with
  | none =>
    have hnone := (closest?_eq_none_iff hcs).1 hfound
    left
    rw [eq_comm, closest?_eq_none_iff hcs']
    exact fun c hc => hnone c (List.mem_append_left ds hc)
  | some d =>
    obtain ⟨hfloor, hbest⟩ := (closest?_eq_some_iff hcs).1 hfound
    rcases hbest.of_append with hd | ⟨hd, hlt⟩
    · exact Or.inl ((closest?_eq_some_iff hcs').2 ⟨hfloor, hd⟩).symm
    · refine Or.inr ⟨d, hd, rfl, fun c hc => hlt c ?_⟩
      exact ((closest?_eq_some_iff hcs').1 hc).2.mem

end Closest

/-! ### Suggestions -/

section Suggestions

variable {β : Type} [LE β] [LT β] [DecidableLE β] [DecidableLT β]

/-- A suggestion, by any measure of how alike two names are whose values can be compared with the
floor. There is none exactly if no other name reaches the floor, and else it is the first of the
best of the other names. Names put behind take its place only if they beat it. -/
theorem suggestBy?_first_best [ScoreOrder β] (measure : Text → Text → β) (floor : β) (name : Text)
    (cs ds : List Text)
    (hcomparable : ∀ c ∈ cs ++ ds, measure name c ≤ floor ∨ floor ≤ measure name c) :
    (suggestBy? measure floor name cs = none ↔ ∀ c ∈ cs, c ≠ name → ¬ floor ≤ measure name c) ∧
      (∀ c, suggestBy? measure floor name cs = some c ↔
        floor ≤ measure name c ∧ IsFirstBest (measure name) (cs.filter (· != name)) c) ∧
      (suggestBy? measure floor name (cs ++ ds) = suggestBy? measure floor name cs ∨
        ∃ d ∈ ds, d ≠ name ∧ suggestBy? measure floor name (cs ++ ds) = some d ∧
          ∀ c ∈ suggestBy? measure floor name cs, measure name c < measure name d) := by
  have hothers : ∀ c ∈ cs.filter (· != name) ++ ds.filter (· != name),
      measure name c ≤ floor ∨ floor ≤ measure name c := by
    rw [← List.filter_append]
    exact fun c hc => hcomparable c (List.mem_filter.1 hc).1
  have hothers' : ∀ c ∈ cs.filter (· != name),
      measure name c ≤ floor ∨ floor ≤ measure name c :=
    fun c hc => hothers c (List.mem_append_left _ hc)
  refine ⟨?_, fun c => closest?_eq_some_iff hothers', ?_⟩
  · rw [suggestBy?, closest?_eq_none_iff hothers']
    simp [List.mem_filter]
  · rw [suggestBy?, suggestBy?, List.filter_append]
    refine (closest?_append hothers).imp_right ?_
    rintro ⟨d, hd, hfound, hlt⟩
    obtain ⟨hmem, hne⟩ := List.mem_filter.1 hd
    exact ⟨d, hmem, bne_iff_ne.1 hne, hfound, hlt⟩

/-- Two names are as near as the threshold asks for, with the name itself between them: the first is
suggested, until a better one comes. Whole numbers will do as scores too. -/
theorem suggestBy?_first_best_tie :
    (suggest? 0.5 "ab".toList ["ax".toList, "ab".toList, "ay".toList] = some "ax".toList ∧
      ∃ d ∈ ["ab".toList, "abc".toList], d ≠ "ab".toList ∧
        suggest? 0.5 "ab".toList (["ax".toList, "ab".toList, "ay".toList] ++
          ["ab".toList, "abc".toList]) = some d ∧
        similarity "ab".toList "ax".toList < similarity "ab".toList d) ∧
      suggestBy? commonLength 2 "ab".toList ["ac".toList, "b".toList] = none := by
  have hcomparable : ∀ c ∈ ["ax".toList, "ab".toList, "ay".toList] ++ ["ab".toList, "abc".toList],
      similarity "ab".toList c ≤ 0.5 ∨ 0.5 ≤ similarity "ab".toList c := by decide +kernel
  obtain ⟨-, hsome, happend⟩ := suggestBy?_first_best similarity 0.5 "ab".toList
    ["ax".toList, "ab".toList, "ay".toList] ["ab".toList, "abc".toList] hcomparable
  have hfirst : suggest? 0.5 "ab".toList ["ax".toList, "ab".toList, "ay".toList]
      = some "ax".toList :=
    (hsome _).2 ⟨by decide +kernel, [], ["ay".toList], by decide, by decide +kernel,
      by decide +kernel⟩
  have hchange : suggest? 0.5 "ab".toList (["ax".toList, "ab".toList, "ay".toList] ++
      ["ab".toList, "abc".toList]) ≠ suggest? 0.5 "ab".toList
        ["ax".toList, "ab".toList, "ay".toList] := by decide +kernel
  obtain ⟨d, hd, hne, hfound, hlt⟩ := happend.resolve_left hchange
  refine ⟨⟨hfirst, d, hd, hne, hfound, hlt _ hfirst⟩, ?_⟩
  have hnat := suggestBy?_first_best commonLength 2 "ab".toList ["ac".toList, "b".toList] []
    fun c _ => le_total _ _
  exact hnat.1.2 (by decide +kernel)

end Suggestions

end VarDecl.Suggestion
