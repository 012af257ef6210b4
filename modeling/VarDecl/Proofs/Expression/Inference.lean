import VarDecl.Expression.Category
import VarDecl.Proofs.Expression.Fragments

/-!
# What an inferred category says about the fragments

* `rank_le_of_inferAll`, `exists_of_inferAll`: an inferred category is the highest that a fragment
  has;
* `inferAll_eq_error`: an error names the first fragment that is an undeclared name;
* `exists_infer_of_kind?`: a text that is one literal has a category too, which is at most that of
  the literal.
-/

namespace VarDecl.Expression

open Text Literal

variable {Γ : SymbolTable} {c : Category} {f t : Text} {fs : List Text} {k : LiteralKind}

/-! ### One fragment -/

/-- A fragment that is a use of a variable: an identifier that is no literal. -/
def IsReference (f : Text) : Prop := kind? f = none ∧ Name.isIdentifier f = true

theorem fragmentCategory_of_kind? (h : kind? f = some k) :
    fragmentCategory Γ f = .ok (some k.category) := by
  rw [fragmentCategory, h]

theorem fragmentCategory_of_isReference (h : IsReference f) : fragmentCategory Γ f =
    match Γ.find? f with
    | some type => .ok (some (Category.ofTypeName type))
    | none => .error ⟨f⟩ := by
  cases hf : Γ.find? f <;> simp only [fragmentCategory, h.1, h.2, hf, if_true]

theorem fragmentCategory_eq_error_iff {u : UndefinedName} :
    fragmentCategory Γ f = .error u ↔ u.name = f ∧ IsReference f ∧ Γ.find? f = none := by
  obtain ⟨u⟩ := u
  cases hk : kind? f with
  | some k => simp [fragmentCategory_of_kind? hk, IsReference, hk]
  | none =>
    cases hi : Name.isIdentifier f with
    | false => simp [fragmentCategory, hk, hi, IsReference]
    | true =>
      rw [fragmentCategory_of_isReference ⟨hk, hi⟩]
      cases hf : Γ.find? f <;> simp [IsReference, hk, hi, eq_comm]

/-- A fragment that does not start like a name is no use of a variable. -/
theorem exists_fragmentCategory_of_head? {d : Char} (hd : d ∈ f.head?)
    (hn : isNameStart d = false) (hq : d ≠ '"') (hq' : d ≠ '\'') :
    ∃ o, fragmentCategory Γ f = .ok o ∧ (o = none ∨ o = some .integral ∧ isInteger f = true ∨
      o = some .floating ∧ isFloating f = true) := by
  cases hk : kind? f with
  | none =>
    have hi : Name.isIdentifier f = false := by
      cases f with
      | nil => rfl
      | cons e f =>
        obtain rfl := Option.some.inj hd
        rw [Name.isIdentifier, hn, Bool.false_and]
    exact ⟨none, by simp [fragmentCategory, hk, hi], Or.inl rfl⟩
  | some k =>
    have hl := isLiteral_of_kind? hk
    refine ⟨some k.category, fragmentCategory_of_kind? hk, Or.inr ?_⟩
    cases k with
    | string => exact absurd (Option.some.inj (hd.symm.trans (head?_of_isString hl))) hq
    | char => exact absurd (Option.some.inj (hd.symm.trans (head?_of_isChar hl))) hq'
    | boolean =>
      obtain ⟨e, he, hs⟩ := head?_of_isBoolean hl
      obtain rfl := Option.some.inj (hd.symm.trans he)
      rw [hn] at hs
      exact Bool.noConfusion hs
    | integer => exact Or.inl ⟨rfl, hl⟩
    | floating => exact Or.inr ⟨rfl, hl⟩

/-! ### All fragments -/

theorem inferAll_cons_eq_ok_iff : inferAll Γ (f :: fs) = .ok c ↔
    ∃ o b, fragmentCategory Γ f = .ok o ∧ inferAll Γ fs = .ok b ∧
      c = (o.getD .unknown).join b := by
  simp only [inferAll]
  cases fragmentCategory Γ f <;> cases inferAll Γ fs <;>
    simp [bind, Except.bind, pure, Except.pure, eq_comm]

/-- Every fragment has a category or says nothing, and none is above the inferred one. -/
theorem rank_le_of_inferAll (h : inferAll Γ fs = .ok c) (hf : f ∈ fs) :
    ∃ o, fragmentCategory Γ f = .ok o ∧ (o.getD .unknown).rank ≤ c.rank := by
  induction fs generalizing c with
  | nil => simp at hf
  | cons g fs ih =>
    obtain ⟨o, b, ho, hb, rfl⟩ := inferAll_cons_eq_ok_iff.1 h
    rw [Category.rank_join]
    rcases List.mem_cons.1 hf with rfl | hf
    · exact ⟨o, ho, Nat.le_max_left _ _⟩
    · obtain ⟨o', ho', hle⟩ := ih hb hf
      exact ⟨o', ho', Nat.le_trans hle (Nat.le_max_right _ _)⟩

/-- The inferred category is that of some fragment, unless it is unknown. -/
theorem exists_of_inferAll (h : inferAll Γ fs = .ok c) (hc : c ≠ .unknown) :
    ∃ f ∈ fs, fragmentCategory Γ f = .ok (some c) := by
  induction fs generalizing c with
  | nil =>
    obtain rfl := Except.ok.inj h
    exact absurd rfl hc
  | cons g fs ih =>
    obtain ⟨o, b, ho, hb, rfl⟩ := inferAll_cons_eq_ok_iff.1 h
    unfold Category.join at hc ⊢
    split
    case isTrue hlt =>
      rw [if_pos hlt] at hc
      obtain ⟨f, hf, hfc⟩ := ih hb hc
      exact ⟨f, List.mem_cons_of_mem g hf, hfc⟩
    case isFalse hlt =>
      rw [if_neg hlt] at hc
      cases o with
      | none => exact absurd rfl hc
      | some a => exact ⟨g, List.mem_cons_self, ho⟩

/-- Fragments that each have a category of a bounded rank have one together. -/
theorem exists_inferAll {n : Nat}
    (h : ∀ f ∈ fs, ∃ o, fragmentCategory Γ f = .ok o ∧ (o.getD .unknown).rank ≤ n) :
    ∃ c, inferAll Γ fs = .ok c ∧ c.rank ≤ n := by
  induction fs with
  | nil => exact ⟨.unknown, rfl, Nat.zero_le n⟩
  | cons f fs ih =>
    obtain ⟨o, ho, hle⟩ := h f List.mem_cons_self
    obtain ⟨b, hb, hle'⟩ := ih fun g hg => h g (List.mem_cons_of_mem f hg)
    refine ⟨(o.getD .unknown).join b, inferAll_cons_eq_ok_iff.2 ⟨o, b, ho, hb, rfl⟩, ?_⟩
    rw [Category.rank_join]
    exact Nat.max_le.2 ⟨hle, hle'⟩

/-- An error names the first fragment that is a use of an undeclared variable. -/
theorem inferAll_eq_error {u : UndefinedName} (h : inferAll Γ fs = .error u) :
    ∃ gs hs, fs = gs ++ u.name :: hs ∧ IsReference u.name ∧ Γ.find? u.name = none ∧
      ∀ g ∈ gs, IsReference g → (Γ.find? g).isSome = true := by
  induction fs with
  | nil => simp at h
  | cons f fs ih =>
    simp only [inferAll] at h
    cases ho : fragmentCategory Γ f with
    | error v =>
      rw [ho] at h
      obtain rfl : v = u := Except.error.inj h
      obtain ⟨rfl, href, hnone⟩ := fragmentCategory_eq_error_iff.1 ho
      exact ⟨[], fs, rfl, href, hnone, fun g hg => absurd hg (by simp)⟩
    | ok o =>
      have hrest : inferAll Γ fs = .error u := by
        rw [ho] at h
        cases hb : inferAll Γ fs with
        | error v =>
          rw [hb] at h
          exact congrArg _ (Except.error.inj h)
        | ok b =>
          rw [hb] at h
          exact absurd h (by simp [bind, Except.bind, pure, Except.pure])
      obtain ⟨gs, hs, rfl, href, hnone, hgs⟩ := ih hrest
      refine ⟨f :: gs, hs, rfl, href, hnone, fun g hg hgr => ?_⟩
      rcases List.mem_cons.1 hg with rfl | hg
      · rw [fragmentCategory_of_isReference hgr] at ho
        cases hf : Γ.find? g with
        | some type => rfl
        | none => rw [hf] at ho; exact absurd ho (by simp)
      · exact hgs g hg hgr

/-- Where a category is inferred, each use of a variable is of a declared one. -/
theorem isSome_find?_of_infer (h : infer Γ t = .ok c) (hf : f ∈ fragments t)
    (hr : IsReference f) : (Γ.find? f).isSome = true := by
  obtain ⟨o, ho, -⟩ := rank_le_of_inferAll h hf
  rw [fragmentCategory_of_isReference hr] at ho
  cases hΓ : Γ.find? f with
  | some type => rfl
  | none => rw [hΓ] at ho; exact absurd ho (by simp)

/-! ### Literals as expressions -/

theorem isInert_of_atEnd {r : Text} (h : atEnd r = true) : ∀ d ∈ r, IsInert d := by
  rcases atEnd_iff.1 h with rfl | rfl
  · exact List.forall_mem_nil _
  · exact List.forall_mem_singleton.2 (by decide)

theorem fragments_eq_singleton {s r : Text} (h : fragment? t = some (s, r)) (hr : atEnd r = true) :
    fragments t = [s] := by
  rw [fragments_of_fragment? h, fragments_of_inert (isInert_of_atEnd hr)]

/-- A string is its own first fragment. -/
theorem exists_fragment?_of_isString (h : isString t = true) :
    ∃ s r, fragment? t = some (s, r) ∧ atEnd r = true ∧ kind? s = some .string := by
  obtain ⟨s, r, hs, hr⟩ := exists_of_reads h
  refine ⟨s, r, by rw [fragment?, hs, Option.some_or], hr, ?_⟩
  obtain ⟨-, s', rfl, hclose⟩ := append_of_span? hs
  exact kind?_of_isString (isString_of_closes (closes_of_closing? hclose))

/-- A character literal is its own first fragment. -/
theorem exists_fragment?_of_isChar (h : isChar t = true) :
    ∃ s r, fragment? t = some (s, r) ∧ atEnd r = true ∧ kind? s = some .char := by
  unfold isChar at h
  split at h
  case h_1 c r =>
    simp only [Bool.and_eq_true, bne_iff_ne] at h
    refine ⟨['\'', '\\', c, '\''], r, ?_, h.2, kind?_of_isChar ?_⟩
    · rw [fragment?_of_quote (Or.inr rfl)]
      simp [span?, closing?, h.1]
    · simp [isChar, h.1]
  case h_2 c r _ =>
    simp only [Bool.and_eq_true, bne_iff_ne] at h
    refine ⟨['\'', c, '\''], r, ?_, h.2, kind?_of_isChar ?_⟩
    · rw [fragment?_of_quote (Or.inr rfl)]
      simp [span?, closing?_cons_of_ne h.1.2, closing?, h.1.1]
    · simp [isChar, h.1.1, h.1.2]
  case h_3 => exact Bool.noConfusion h

/-- A name is one fragment of its own. -/
theorem fragment?_of_isName {u : Text} (h : Name.IsName t)
    (hu : ∀ d ∈ u.head?, isFragmentChar d = false) : fragment? (t ++ u) = some (t, u) := by
  have hall : ∀ d ∈ t, isFragmentChar d = true := fun d hd => by
    simp [isFragmentChar, h.isWordChar hd]
  have htake : (t ++ u).takeWhile isFragmentChar = t := by
    rw [List.takeWhile_append_of_pos hall, takeWhile_eq_nil hu, List.append_nil]
  have hdrop : (t ++ u).dropWhile isFragmentChar = u := by
    rw [List.dropWhile_append_of_pos hall, dropWhile_eq_self hu]
  have hword : wordRun? (t ++ u) = some (t, u) := by
    simp [wordRun?, htake, hdrop, h.ne_nil]
  obtain ⟨d, r, rfl, hd, hr⟩ := h
  have hw := isWordChar_of_isNameStart hd
  have hdigits : digits? (d :: r ++ u) = none := digits?_eq_none_iff.2 fun e he => by
    rw [← Option.some.inj he]
    exact isDigit_of_isNameStart hd
  have hsci : scientific? (d :: r ++ u) = none := by
    rw [scientific?, hdigits]
    rfl
  rw [List.cons_append] at hsci hword ⊢
  rw [fragment?_of_ne_quote (ne_of_isWordChar hw (by decide)) (ne_of_isWordChar hw (by decide)),
    hsci, Option.none_or, hword]

theorem isName_truthValue : Name.IsName "true".toList ∧ Name.IsName "false".toList :=
  ⟨⟨'t', "rue".toList, rfl, by decide, List.all_iff_forall_prop.1 (by decide)⟩,
    ⟨'f', "alse".toList, rfl, by decide, List.all_iff_forall_prop.1 (by decide)⟩⟩

/-- A truth value is its own first fragment. -/
theorem exists_fragment?_of_isBoolean (h : isBoolean t = true) :
    ∃ s r, fragment? t = some (s, r) ∧ atEnd r = true ∧ kind? s = some .boolean := by
  obtain ⟨r, hr, ht⟩ := isBoolean_iff.1 h
  have hstop : ∀ d ∈ r.head?, isFragmentChar d = false := by
    rcases atEnd_iff.1 hr with rfl | rfl
    · rintro d ⟨⟩
    · rintro d ⟨⟩
      decide
  rcases ht with rfl | rfl
  · exact ⟨_, r, fragment?_of_isName isName_truthValue.1 hstop, hr, by decide⟩
  · exact ⟨_, r, fragment?_of_isName isName_truthValue.2 hstop, hr, by decide⟩

theorem ne_nil_of_mem_fragments (hf : f ∈ fragments t) : f ≠ [] := by
  fun_induction fragments t with
  | case1 => simp at hf
  | case2 d t s r h ih =>
    rcases List.mem_cons.1 hf with rfl | hf
    · rintro rfl
      have := length_lt_of_fragment? h
      rw [append_of_fragment? h, List.nil_append] at this
      exact Nat.lt_irrefl _ this
    · exact ih hf
  | case3 d t h ih => exact ih hf

/-- With an exponent, a number is one fragment after its sign. -/
theorem fragments_of_exponent {sgn whole frac exp rest : Text}
    (h : IsNumber t sgn whole frac exp rest) (hexp : exp ≠ []) :
    fragments t = [whole ++ frac ++ exp] := by
  obtain ⟨e, s, ds, rfl, hE, hs, hds⟩ := h.exponent.resolve_left hexp
  have hsci := scientific?_append h.whole h.fraction hE hs hds (isDigit_of_atEnd h.atEnd)
  obtain ⟨d, ws, rfl⟩ := List.exists_cons_of_ne_nil h.whole.1
  have hd : isDigit d = true := h.whole.2 d List.mem_cons_self
  have hfrag : fragment? (d :: ws ++ frac ++ e :: (s ++ ds) ++ rest)
      = some (d :: ws ++ frac ++ e :: (s ++ ds), rest) := by
    simp only [List.cons_append] at hsci ⊢
    rw [fragment?_of_ne_quote (isDigit_ne hd (by decide)) (isDigit_ne hd (by decide)), hsci,
      Option.some_or]
  have hsgn : ∀ c ∈ sgn, IsInert c := by
    have hmem := h.sign_mem
    simp only [List.mem_cons, List.not_mem_nil, or_false] at hmem
    rcases hmem with rfl | rfl | rfl <;> exact List.all_iff_forall_prop.1 (by decide)
  rw [h.eq, List.append_assoc, fragments_append_of_inert_left hsgn,
    fragments_eq_singleton hfrag h.atEnd]

/-- The fragments of a number start neither like a name nor with a quote. -/
theorem head?_of_mem_fragments (h : isInteger t = true ∨ isFloating t = true)
    (hf : f ∈ fragments t) : ∃ d ∈ f.head?, isNameStart d = false ∧ d ≠ '"' ∧ d ≠ '\'' := by
  obtain ⟨sgn, whole, frac, exp, rest, hn⟩ := exists_isNumber h
  by_cases he : exp = []
  · -- Without an exponent there are no letters at all.
    obtain ⟨d, f, rfl⟩ := List.exists_cons_of_ne_nil (ne_nil_of_mem_fragments hf)
    refine ⟨d, rfl, ?_⟩
    rcases hn.mem_cases (mem_of_mem_fragments hf List.mem_cons_self) with hd | hd | hd | hd | hd
    · exact ⟨isNameStart_of_isDigit hd, isDigit_ne hd (by decide), isDigit_ne hd (by decide)⟩
    · simp only [List.mem_cons, List.not_mem_nil, or_false] at hd
      rcases hd with rfl | rfl <;> decide
    · rw [hd.1]
      decide
    · exact absurd he hd.2
    · rw [eq_newline_of_mem hn.atEnd hd]
      decide
  · obtain ⟨d, ws, hw⟩ := List.exists_cons_of_ne_nil hn.whole.1
    have hd : isDigit d = true := hn.whole.2 d (by rw [hw]; exact List.mem_cons_self)
    rw [fragments_of_exponent hn he, hw, List.mem_singleton] at hf
    rw [hf]
    exact ⟨d, rfl, isNameStart_of_isDigit hd, isDigit_ne hd (by decide), isDigit_ne hd (by decide)⟩

/-- A literal is its own first fragment, or a number. -/
theorem exists_fragment?_or_isNumber (h : kind? t = some k) :
    (∃ s r, fragment? t = some (s, r) ∧ atEnd r = true ∧ kind? s = some k) ∨
      (k = .integer ∧ isInteger t = true) ∨ (k = .floating ∧ isFloating t = true) := by
  have hl := isLiteral_of_kind? h
  cases k with
  | string => exact Or.inl (exists_fragment?_of_isString hl)
  | char => exact Or.inl (exists_fragment?_of_isChar hl)
  | boolean => exact Or.inl (exists_fragment?_of_isBoolean hl)
  | integer => exact Or.inr (Or.inl ⟨rfl, hl⟩)
  | floating => exact Or.inr (Or.inr ⟨rfl, hl⟩)

/-- A literal that is its own first fragment has its category. -/
theorem infer_of_fragment? {s r : Text} (h : fragment? t = some (s, r)) (hr : atEnd r = true)
    (hk : kind? s = some k) (Γ : SymbolTable) : infer Γ t = .ok k.category := by
  rw [infer, fragments_eq_singleton h hr]
  exact inferAll_cons_eq_ok_iff.2
    ⟨some k.category, .unknown, fragmentCategory_of_kind? hk, rfl, (Category.join_unknown _).symm⟩

/-- A text that is one literal has a category, at most that of the literal; a string has its own. -/
theorem exists_infer_of_kind? (h : kind? t = some k) (Γ : SymbolTable) :
    ∃ c, infer Γ t = .ok c ∧ c.rank ≤ k.category.rank ∧ (k = .string → c = .string) := by
  rcases exists_fragment?_or_isNumber h with ⟨s, r, hs, hr, hk⟩ | ⟨rfl, hl⟩ | ⟨rfl, hl⟩
  · exact ⟨k.category, infer_of_fragment? hs hr hk Γ, Nat.le_refl _, fun h => by rw [h]; rfl⟩
  · obtain ⟨c, hc, hle⟩ : ∃ c, infer Γ t = .ok c ∧ c.rank ≤ 2 := by
      refine exists_inferAll fun f hf => ?_
      obtain ⟨d, hd, hn, hq, hq'⟩ := head?_of_mem_fragments (Or.inl hl) hf
      obtain ⟨o, ho, rfl | ⟨rfl, -⟩ | ⟨rfl, hfl⟩⟩ := exists_fragmentCategory_of_head? hd hn hq hq'
      · exact ⟨none, ho, by decide⟩
      · exact ⟨some .integral, ho, by decide⟩
      · -- A floating fragment would bring its point or its letter into the integer.
        obtain ⟨e, he, hE⟩ := exists_mem_of_isFloating hfl
        exact absurd (mem_of_mem_fragments hf he) (notMem_of_isInteger hl hE)
    exact ⟨c, hc, hle, fun h => LiteralKind.noConfusion h⟩
  · obtain ⟨c, hc, hle⟩ : ∃ c, infer Γ t = .ok c ∧ c.rank ≤ 3 := by
      refine exists_inferAll fun f hf => ?_
      obtain ⟨d, hd, hn, hq, hq'⟩ := head?_of_mem_fragments (Or.inr hl) hf
      obtain ⟨o, ho, rfl | ⟨rfl, -⟩ | ⟨rfl, -⟩⟩ := exists_fragmentCategory_of_head? hd hn hq hq'
      · exact ⟨none, ho, by decide⟩
      · exact ⟨some .integral, ho, by decide⟩
      · exact ⟨some .floating, ho, by decide⟩
    exact ⟨c, hc, hle, fun h => LiteralKind.noConfusion h⟩

/-- A text with a space is no literal, if more than the end follows its first fragment. -/
theorem kind?_eq_none (hspace : ' ' ∈ t)
    (h : ∀ s r, fragment? t = some (s, r) → atEnd r = false) : kind? t = none := by
  cases hk : kind? t with
  | none => rfl
  | some k =>
    exfalso
    rcases exists_fragment?_or_isNumber hk with ⟨s, r, hs, hr, -⟩ | hl
    · rw [h s r hs] at hr
      cases hr
    · -- A number has no space.
      obtain ⟨sgn, whole, frac, exp, rest, hn⟩ := exists_isNumber (hl.imp And.right And.right)
      rcases hn.mem_cases hspace with hd | hd | hd | hd | hd
      · exact absurd hd (by decide)
      · exact absurd hd (by decide)
      · exact absurd hd.1 (by decide)
      · exact absurd hd.1 (by decide)
      · exact absurd (eq_newline_of_mem hn.atEnd hd) (by decide)

end VarDecl.Expression
