import VarDecl.Proofs.Expression.Inference
import VarDecl.Proofs.Expression.TopLevel

/-!
# Names outside literals are fragments

`IsRun t before run after`: between `before` and `after`, the text `t` has a maximal run of word
characters and points outside its quoted literals. If all literals of the text are closed, a run
that is a name is one of its fragments, unless it follows a digit (`mem_fragments_of_isRun`).

The fragments are read from left to right, so the point is that none of them reaches into the run:
a quoted span ends where the scan leaves the literal, a number with an exponent has no letter but
the one after its digits, and a run of word characters does not pass a character that is none.
-/

namespace VarDecl.Expression

open Text Literal

variable {t s r before run after : Text} {q c : Char} {n : Nat}

/-- A maximal run of fragment characters of a text, outside its quoted literals. -/
structure IsRun (t before run after : Text) : Prop where
  eq : t = before ++ (run ++ after)
  chars : ∀ c ∈ run, isFragmentChar c = true
  left : ∀ c ∈ before.getLast?, isFragmentChar c = false
  right : ∀ c ∈ after.head?, isFragmentChar c = false
  outside : (Scan.start.run before).quote = none

/-! ### A fragment before a run ends before it -/

/-- Two ways to cut a text: the first piece ends in the other first piece, or goes on after it. -/
theorem cut_cases (h : s ++ r = before ++ t) :
    (∃ b, before = s ++ b ∧ r = b ++ t) ∨ ∃ w, w ≠ [] ∧ s = before ++ w ∧ t = w ++ r := by
  rcases List.append_eq_append_iff.1 h with ⟨b, hb, hr⟩ | ⟨w, hw, ht⟩
  · exact Or.inl ⟨b, hb, hr⟩
  · by_cases hne : w = []
    · subst hne
      exact Or.inl ⟨[], by rw [hw, List.append_nil, List.append_nil], ht.symm⟩
    · exact Or.inr ⟨w, hne, hw, ht⟩

/-- A span that starts before a run ends before it, since the run is outside literals. -/
theorem exists_of_span?_append (hq : q ≠ '\\') (h : span? q (q :: before ++ t) = some (s, r))
    (hout : (Scan.run ⟨some q, false, n⟩ before).quote = none) :
    ∃ b, q :: before = s ++ b ∧ r = b ++ t ∧
      Scan.run ⟨some q, false, n⟩ before = Scan.run ⟨none, false, n⟩ b := by
  obtain ⟨heq, s, rfl, hclose⟩ := append_of_span? h
  have hcloses := closes_of_closing? hclose
  rw [List.cons_append, List.cons_append, List.cons.injEq] at heq
  rcases cut_cases heq.2.symm with ⟨b, rfl, rfl⟩ | ⟨w, hne, rfl, -⟩
  · refine ⟨b, rfl, rfl, ?_⟩
    rw [Scan.run_append, run_of_closes hq hcloses]
  · rw [quote_run_of_closes hcloses hne] at hout
    cases hout

/-- The last character of the digits and the fraction of a number is a digit. -/
theorem isDigit_getLast? {whole frac : Text} (hw : IsDigits whole) (hf : IsFraction frac)
    (hc : c ∈ (whole ++ frac).getLast?) : isDigit c = true := by
  rcases hf with rfl | ⟨ds, rfl, hds⟩
  · rw [List.append_nil] at hc
    exact hw.2 c (List.mem_of_getLast? hc)
  · rw [← List.singleton_append, ← List.append_assoc, List.getLast?_append_of_ne_nil _ hds.1] at hc
    exact hds.2 c (List.mem_of_getLast? hc)

/-- In a number with an exponent, what stands before a letter ends with a digit. -/
theorem isDigit_of_scientific?_append {w : Text} (h : scientific? t = some (before ++ w, r))
    (hw : ∃ d ∈ w.head?, isNameStart d = true) (hc : c ∈ before.getLast?) : isDigit c = true := by
  obtain ⟨whole, frac, e, sgn, ds, hs, -, hwhole, hfrac, he, hsgn, hds, -⟩ :=
    exists_of_scientific? h
  obtain ⟨d, hd, hstart⟩ := hw
  obtain ⟨w, rfl⟩ : ∃ w', w = d :: w' := by
    cases w with
    | nil => cases hd
    | cons d' w =>
      obtain rfl := Option.some.inj hd
      exact ⟨w, rfl⟩
  have hletter : isDigit d ≠ true := fun hdigit => by
    rw [isNameStart_of_isDigit hdigit] at hstart
    cases hstart
  have hnumber : d ∉ whole ++ frac := by
    intro hm
    rcases mem_cases_of_isFraction hwhole hfrac hm with hdigit | ⟨rfl, -⟩
    · exact hletter hdigit
    · exact absurd hstart (by decide)
  have hexponent : d ∉ sgn ++ ds := by
    intro hm
    rcases mem_cases_of_isDigits hsgn hds hm with hdigit | hsign
    · exact hletter hdigit
    · simp only [List.mem_cons, List.not_mem_nil, or_false] at hsign
      rcases hsign with rfl | rfl <;> exact absurd hstart (by decide)
  -- The only letter of the number is the one between its digits.
  suffices hbefore : before = whole ++ frac by
    rw [hbefore] at hc
    exact isDigit_getLast? hwhole hfrac hc
  rcases List.append_eq_append_iff.1 hs with ⟨u, hu, hrest⟩ | ⟨u, hu, hrest⟩
  · cases u with
    | nil => rw [hu, List.append_nil]
    | cons d' u =>
      obtain ⟨rfl, -⟩ := List.cons.inj hrest
      exact absurd (by rw [hu]; simp) hnumber
  · cases u with
    | nil => rw [hu, List.append_nil]
    | cons e' u =>
      have htail : sgn ++ ds = u ++ d :: w := (List.cons.inj hrest).2
      exact absurd (by rw [htail]; simp) hexponent

/-- The characters of a number with an exponent. -/
theorem mem_cases_of_scientific? (h : scientific? t = some (s, r)) (hc : c ∈ s) :
    isDigit c = true ∨ c ∈ ['.', 'e', 'E', '+', '-'] := by
  obtain ⟨whole, frac, e, sgn, ds, rfl, -, hwhole, hfrac, he, hsgn, hds, -⟩ :=
    exists_of_scientific? h
  rcases List.mem_append.1 hc with hc | hc
  · rcases mem_cases_of_isFraction hwhole hfrac hc with hd | ⟨rfl, -⟩
    · exact Or.inl hd
    · exact Or.inr (by decide)
  · rcases List.mem_cons.1 hc with rfl | hc
    · right
      rcases he with rfl | rfl <;> decide
    · refine (mem_cases_of_isDigits hsgn hds hc).imp_right fun hsign => ?_
      simp only [List.mem_cons, List.not_mem_nil, or_false] at hsign
      rcases hsign with rfl | rfl <;> decide

/-- A number with an exponent has no quotes and no parentheses. -/
theorem isPlain_of_scientific? (h : scientific? t = some (s, r)) : ∀ c ∈ s, IsPlain c := by
  have hmarks : ∀ c ∈ ['.', 'e', 'E', '+', '-'], IsPlain c :=
    List.all_iff_forall_prop.1 (by decide)
  intro c hc
  rcases mem_cases_of_scientific? h hc with hd | hm
  · exact ⟨isDigit_ne hd (by decide), isDigit_ne hd (by decide), isDigit_ne hd (by decide),
      isDigit_ne hd (by decide)⟩
  · exact hmarks c hm

theorem isPlain_of_isFragmentChar (h : isFragmentChar c = true) : IsPlain c := by
  have hne : ∀ d, isFragmentChar d = false → c ≠ d := by
    rintro d hd rfl
    rw [h] at hd
    cases hd
  exact ⟨hne _ (by decide), hne _ (by decide), hne _ (by decide), hne _ (by decide)⟩

/-- The context of a run: a character before it that could go on into it is excluded. -/
def Separates (before : Text) : Prop :=
  ∀ c ∈ before.getLast?, isFragmentChar c = false ∧ isDigit c = false

/-- A fragment that starts before a run ends before it, and leaves the scan outside literals. -/
theorem exists_of_fragment?_append (hsep : Separates (c :: before))
    (hrun : ∃ d ∈ t.head?, isNameStart d = true)
    (hout : (Scan.run ⟨none, false, n⟩ (c :: before)).quote = none)
    (h : fragment? (c :: before ++ t) = some (s, r)) :
    ∃ b m, c :: before = s ++ b ∧ r = b ++ t ∧
      Scan.run ⟨none, false, n⟩ (c :: before) = Scan.run ⟨none, false, m⟩ b := by
  by_cases hq : c = '"' ∨ c = '\''
  · -- A quoted span ends where the scan leaves the literal.
    have hq' : c ≠ '\\' := by rcases hq with rfl | rfl <;> decide
    have hstep : Scan.step ⟨none, false, n⟩ c = ⟨some c, false, n⟩ := by simp [Scan.step, hq]
    rw [List.cons_append, fragment?_of_quote hq, ← List.cons_append] at h
    rw [Scan.run_cons, hstep] at hout ⊢
    obtain ⟨b, hb, hr, hscan⟩ := exists_of_span?_append hq' h hout
    exact ⟨b, n, hb, hr, hscan⟩
  · rw [not_or] at hq
    rw [List.cons_append, fragment?_of_ne_quote hq.1 hq.2, ← List.cons_append,
      Option.or_eq_some_iff] at h
    have hd : (c :: before).getLast (List.cons_ne_nil c before) ∈ (c :: before).getLast? :=
      List.getLast?_eq_some_getLast _
    generalize (c :: before).getLast (List.cons_ne_nil c before) = d at hd
    obtain ⟨heq, hplain, hover⟩ : c :: before ++ t = s ++ r ∧ (∀ c ∈ s, IsPlain c) ∧
        ∀ w, w ≠ [] → s = c :: before ++ w → t = w ++ r → False := by
      rcases h with h | ⟨-, h⟩
      · -- A number has no letter except after its digits.
        obtain ⟨_, _, _, _, _, -, heq, -⟩ := exists_of_scientific? h
        refine ⟨heq, isPlain_of_scientific? h, ?_⟩
        rintro w hw rfl rfl
        rw [List.head?_append_of_ne_nil _ hw] at hrun
        have hdigit := isDigit_of_scientific?_append h hrun hd
        rw [(hsep d hd).2] at hdigit
        cases hdigit
      · -- A run of word characters does not pass the character before the run.
        obtain ⟨heq, -, hchars, -⟩ := append_of_wordRun? h
        refine ⟨heq, fun c hc => isPlain_of_isFragmentChar (hchars c hc), ?_⟩
        rintro w - rfl -
        have hchar := hchars d (List.mem_append_left _ (List.mem_of_getLast? hd))
        rw [(hsep d hd).1] at hchar
        cases hchar
    rcases cut_cases heq.symm with ⟨b, hb, hr⟩ | ⟨w, hw, hs, ht⟩
    · exact ⟨b, n, hb, hr, by rw [hb, Scan.run_append, run_of_isPlain rfl hplain]⟩
    · exact (hover w hw hs ht).elim

/-- A quote opens a fragment, if all literals are closed. -/
theorem ne_quote_of_fragment?_eq_none (hnl : '\n' ∉ t)
    (hend : (Scan.run ⟨none, false, n⟩ (c :: t)).quote = none) (h : fragment? (c :: t) = none) :
    c ≠ '"' ∧ c ≠ '\'' := by
  by_contra hq
  have hq : c = '"' ∨ c = '\'' := by rwa [not_and_or, not_not, not_not] at hq
  have hstep : Scan.step ⟨none, false, n⟩ c = ⟨some c, false, n⟩ := by simp [Scan.step, hq]
  rw [fragment?_of_quote hq, span?, if_pos rfl, Option.map_eq_none_iff] at h
  rw [Scan.run_cons, hstep, quote_run_of_closing?_eq_none hnl h] at hend
  cases hend

/-- Where no fragment starts, the scan goes on outside literals, if all literals are closed. -/
theorem exists_step_of_fragment?_eq_none (hnl : '\n' ∉ t)
    (hend : (Scan.run ⟨none, false, n⟩ (c :: t)).quote = none) (h : fragment? (c :: t) = none) :
    ∃ m, Scan.step ⟨none, false, n⟩ c = ⟨none, false, m⟩ := by
  obtain ⟨h₁, h₂⟩ := ne_quote_of_fragment?_eq_none hnl hend h
  exact exists_step_of_ne_quote h₁ h₂

/-! ### The run is a fragment -/

theorem Separates.of_append {u : Text} (h : Separates (u ++ before)) : Separates before := by
  intro c hc
  have hne : before ≠ [] := by
    rintro rfl
    cases hc
  apply h c
  rwa [List.getLast?_append_of_ne_nil _ hne]

/-- A name is a fragment of a text, if what stands before it neither goes on into it nor leaves a
literal open. -/
theorem mem_fragments_of_isName (hname : Name.IsName run)
    (hright : ∀ c ∈ after.head?, isFragmentChar c = false)
    (hnl : '\n' ∉ before ++ (run ++ after)) (hsep : Separates before)
    (hout : (Scan.run ⟨none, false, n⟩ before).quote = none)
    (hend : (Scan.run ⟨none, false, n⟩ (before ++ (run ++ after))).quote = none) :
    run ∈ fragments (before ++ (run ++ after)) := by
  -- The induction is on the length of what stands before the run; the depth may change.
  induction hk : before.length using Nat.strong_induction_on generalizing before n with
  | _ k ih =>
    cases before with
    | nil =>
      rw [List.nil_append, fragments_of_fragment? (fragment?_of_isName hname hright)]
      exact List.mem_cons_self
    | cons c before =>
      have hrun : ∃ d ∈ (run ++ after).head?, isNameStart d = true := by
        obtain ⟨d, r, rfl, hd, -⟩ := hname
        exact ⟨d, rfl, hd⟩
      have hnl' : '\n' ∉ before ++ (run ++ after) := fun hm => hnl (List.mem_cons_of_mem c hm)
      cases hf : fragment? (c :: before ++ (run ++ after)) with
      | none =>
        obtain ⟨m, hm⟩ := exists_step_of_fragment?_eq_none hnl' hend hf
        rw [Scan.run_cons, hm] at hout
        rw [List.cons_append, Scan.run_cons, hm] at hend
        have hskip : fragments (c :: (before ++ (run ++ after)))
            = fragments (before ++ (run ++ after)) := fragments_cons_of_none hf
        rw [List.cons_append, hskip]
        have hsep' : Separates before := Separates.of_append (u := [c]) hsep
        refine ih before.length ?_ hnl' hsep' hout hend rfl
        rw [← hk, List.length_cons]
        omega
      | some p =>
        obtain ⟨s, r⟩ := p
        obtain ⟨b, m, hb, rfl, hscan⟩ := exists_of_fragment?_append hsep hrun hout hf
        have hlt := length_lt_of_fragment? hf
        rw [fragments_of_fragment? hf]
        rw [Scan.run_append, hscan, ← Scan.run_append] at hend
        rw [hscan] at hout
        rw [hb] at hsep hnl
        rw [List.append_assoc] at hnl
        apply List.mem_cons_of_mem
        have hnl' : '\n' ∉ b ++ (run ++ after) := fun hm => hnl (List.mem_append_right s hm)
        refine ih b.length ?_ hnl' hsep.of_append hout hend rfl
        rw [← hk]
        simp only [List.length_append] at hlt
        omega

/-- A run that is a name is a fragment, unless it follows a digit of another script. -/
theorem mem_fragments_of_isRun (h : IsRun t before run after) (hname : Name.IsName run)
    (hdigit : ∀ c ∈ before.getLast?, isDigit c = true → c.isDigit = true) (hnl : '\n' ∉ t)
    (hend : (Scan.start.run t).quote = none) : run ∈ fragments t := by
  obtain ⟨rfl, -, hleft, hright, hout⟩ := h
  refine mem_fragments_of_isName hname hright hnl (fun c hc => ⟨hleft c hc, ?_⟩) hout hend
  -- An ASCII digit would belong to the run.
  refine Bool.eq_false_iff.2 fun hd => ?_
  have hword : isFragmentChar c = true := by
    simp [isFragmentChar, isWordChar, Char.isAlphanum, hdigit c hc hd]
  rw [hleft c hc] at hword
  cases hword

end VarDecl.Expression
