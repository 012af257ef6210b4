import VarDecl.Proofs.Expression.Words

/-!
# Literals as expressions

A literal can be judged as a literal or as an expression. The reader of numbers knows the digits of
all scripts, but the words of an expression have ASCII digits only, so that an expression shows less
of some numbers.

* `IsLegible k t`: an expression shows enough of a literal `t` of kind `k` to tell what it is;
* `infer_of_isInteger`, `infer_of_isFloating_iff`: what an expression shows of a number;
* `infer_of_kind?`: the category of a literal other than a character is inferred exactly if the
  literal is legible, as it is if all its digits are ASCII digits, and the two judgements agree for
  all types exactly then;
* `infer_illegible`: they do not agree on a number that is not legible.
-/

namespace VarDecl.Expression

open Text Literal

variable {Γ : SymbolTable} {c : Char} {f t sgn whole frac exp rest ds : Text} {fs : List Text}
  {k : LiteralKind}

/-! ### What an expression shows of a number -/

/-- The digits of words are ASCII digits. -/
theorem isDigit_of_isFragmentChar (hc : isFragmentChar c = true) (hd : isDigit c = true) :
    c.isDigit = true := by
  have hword : isWordChar c = true := by
    have hdot : (c == '.') = false := beq_eq_false_iff_ne.2 (isDigit_ne hd (by decide))
    rwa [isFragmentChar, hdot, Bool.or_false] at hc
  have hlt := toNat_lt_of_isWordChar hword
  rwa [isDigit_eq_of_lt (by omega)] at hd

/-- Each word character is in a fragment. -/
theorem exists_mem_fragments (hc : c ∈ t) (hchar : isFragmentChar c = true) :
    ∃ f ∈ fragments t, c ∈ f := by
  rw [← textOf_segments t] at hc
  obtain ⟨d, hd, hcd⟩ := List.mem_flatMap.1 hc
  cases d with
  | fragment f => exact ⟨f, mem_fragments_iff.2 hd, hcd⟩
  | skipped b =>
    obtain rfl := List.mem_singleton.1 hcd
    rw [isFragmentChar_of_skipped hd] at hchar
    cases hchar

theorem exists_mem_of_isExponential (h : IsExponential f) : ∃ c ∈ f, c = 'e' ∨ c = 'E' := by
  obtain ⟨whole, frac, e, sgn, ds, hf, -, -, -, he, -⟩ := exists_of_scientific? h
  exact ⟨e, by rw [hf]; simp, he⟩

/-- The characters of a number without an exponent. -/
theorem mem_cases_of_noExponent (h : IsNumber t sgn whole frac [] rest) (hc : c ∈ t) :
    isDigit c = true ∨ c ∈ ['+', '-', '.', '\n'] := by
  rcases h.mem_cases hc with hd | hd | ⟨rfl, -⟩ | hd | hd
  · exact Or.inl hd
  · exact Or.inr (List.mem_append_left ['.', '\n'] hd)
  · exact Or.inr (by decide)
  · exact absurd rfl hd.2
  · rw [eq_newline_of_mem h.atEnd hd]
    exact Or.inr (by decide)

theorem not_isExponential_of_noExponent (h : IsNumber t sgn whole frac [] rest)
    (hf : f ∈ fragments t) : ¬IsExponential f := by
  intro hexp
  obtain ⟨e, he, hletter⟩ := exists_mem_of_isExponential hexp
  rcases mem_cases_of_noExponent h (mem_of_mem_fragments hf he) with hd | hm
  · rcases hletter with rfl | rfl <;> exact absurd hd (by decide)
  · rcases hletter with rfl | rfl <;> exact absurd hm (by decide)

theorem not_isQuoted_of_noExponent (h : IsNumber t sgn whole frac [] rest)
    (hf : f ∈ fragments t) : ¬IsQuoted f := by
  rintro (hq | hq)
  all_goals
    rcases mem_cases_of_noExponent h (mem_of_mem_fragments hf (List.mem_of_mem_head? hq))
      with hd | hm
    · exact absurd hd (by decide)
    · exact absurd hm (by decide)

/-- The fragments of a number without an exponent are words of it. -/
theorem exists_isWholeWord (h : IsNumber t sgn whole frac [] rest) (hf : f ∈ fragments t) :
    ∃ before after, IsWholeWord t before f after := by
  obtain ⟨ss, rs, hss⟩ := List.append_of_mem (mem_fragments_iff.1 hf)
  rcases isWholeWord_of_segments hss (not_isQuoted_of_noExponent h hf) with
    hexp | ⟨us, g, rfl, hexp⟩ | hword
  · exact absurd hexp (not_isExponential_of_noExponent h hf)
  · have hg : g ∈ fragments t := mem_fragments_iff.2 (by simp [hss])
    exact absurd hexp (not_isExponential_of_noExponent h hg)
  · exact ⟨_, _, hword⟩

/-- The fragments of a number without an exponent are runs of ASCII digits and points. -/
theorem mem_cases_of_mem_fragments (h : IsNumber t sgn whole frac [] rest) (hf : f ∈ fragments t)
    (hc : c ∈ f) : isFragmentChar c = true ∧ (isDigit c = true ∨ c = '.') := by
  obtain ⟨_, _, hword⟩ := exists_isWholeWord h hf
  have hchar : isFragmentChar c = true := hword.chars c hc
  refine ⟨hchar, (mem_cases_of_noExponent h (mem_of_mem_fragments hf hc)).imp_right fun hm => ?_⟩
  simp only [List.mem_cons, List.not_mem_nil, or_false] at hm
  -- Signs and newlines are of no word.
  rcases hm with rfl | rfl | rfl | rfl
  · exact absurd hchar (by decide)
  · exact absurd hchar (by decide)
  · rfl
  · exact absurd hchar (by decide)

/-- A number without its sign. -/
theorem isNumber_unsigned (hw : IsDigits whole) (hf : IsFraction frac) (he : IsExponent exp) :
    IsNumber (whole ++ frac ++ exp) [] whole frac exp [] where
  eq := by rw [List.nil_append, List.append_nil]
  sign := by
    obtain ⟨d, ws, rfl⟩ := List.exists_cons_of_ne_nil hw.1
    have hd : isDigit d = true := hw.2 d List.mem_cons_self
    rw [sign_of_ne]
    rintro c ⟨⟩
    exact ⟨isDigit_ne hd (by decide), isDigit_ne hd (by decide)⟩
  sign_mem := List.mem_cons_self
  whole := hw
  fraction := hf
  exponent := he
  atEnd := rfl

/-! ### Whole numbers -/

/-- Fragments of one category have this category together. -/
theorem inferAll_of_forall {x : Category} (h : ∀ f ∈ fs, fragmentCategory Γ f = .ok (some x)) :
    inferAll Γ fs = .ok (if fs = [] then .unknown else x) := by
  induction fs with
  | nil => rfl
  | cons f fs ih =>
    obtain ⟨hf, hfs⟩ := List.forall_mem_cons.1 h
    rw [if_neg (List.cons_ne_nil f fs), inferAll_cons_eq_ok_iff]
    refine ⟨some x, _, hf, ih hfs, ?_⟩
    split_ifs
    · exact (Category.join_unknown x).symm
    · exact (Category.join_self x).symm

/-- As an expression, a whole number is integral if it has an ASCII digit, and unknown otherwise. -/
theorem infer_of_isInteger (h : isInteger t = true) (Γ : SymbolTable) :
    infer Γ t = .ok (if t.any Char.isDigit then .integral else .unknown) := by
  obtain ⟨sgn, whole, rest, hn⟩ := exists_of_isInteger h
  have hdigit : ∀ f ∈ fragments t, ∀ c ∈ f, isFragmentChar c = true ∧ isDigit c = true := by
    intro f hf c hc
    obtain ⟨hchar, hd | rfl⟩ := mem_cases_of_mem_fragments hn hf hc
    · exact ⟨hchar, hd⟩
    · exact absurd (mem_of_mem_fragments hf hc) (notMem_of_isInteger h (Or.inl rfl))
  have hcategory : ∀ f ∈ fragments t, fragmentCategory Γ f = .ok (some .integral) := by
    intro f hf
    have hf' : IsDigits f := ⟨ne_nil_of_mem_fragments hf, fun c hc => (hdigit f hf c hc).2⟩
    have hnumber := (isNumber_unsigned hf' (Or.inl rfl) (Or.inl rfl)).kind?
    rw [List.append_nil, List.append_nil] at hnumber
    exact fragmentCategory_of_kind? hnumber
  have hnil : fragments t = [] ↔ ¬t.any Char.isDigit = true := by
    rw [List.any_eq_true]
    constructor
    · rintro h0 ⟨c, hc, hd⟩
      obtain ⟨f, hf, -⟩ := exists_mem_fragments hc (isFragmentChar_of_isDigit hd)
      rw [h0] at hf
      cases hf
    · intro hnone
      refine List.eq_nil_iff_forall_not_mem.2 fun f hf => ?_
      obtain ⟨c, f, rfl⟩ := List.exists_cons_of_ne_nil (ne_nil_of_mem_fragments hf)
      obtain ⟨hchar, hd⟩ := hdigit _ hf c List.mem_cons_self
      have hmem : c ∈ t := mem_of_mem_fragments hf List.mem_cons_self
      exact hnone ⟨c, hmem, isDigit_of_isFragmentChar hchar hd⟩
  rw [infer, inferAll_of_forall hcategory]
  by_cases hany : t.any Char.isDigit = true
  · rw [if_pos hany, if_neg fun h0 => hnil.1 h0 hany]
  · rw [if_neg hany, if_pos (hnil.2 hany)]

/-! ### Other numbers -/

/-- As an expression, another number is floating if one of its fragments is. -/
theorem infer_of_isFloating_iff (h : isFloating t = true) (Γ : SymbolTable) :
    infer Γ t = .ok .floating ↔ ∃ f ∈ fragments t, isFloating f = true := by
  constructor
  · intro hinfer
    obtain ⟨f, hf, hcategory⟩ := exists_of_inferAll hinfer (by decide)
    refine ⟨f, hf, ?_⟩
    -- The fragment is no variable.
    obtain ⟨d, hd, hn, hq, hq'⟩ := head?_of_mem_fragments (Or.inr h) hf
    obtain ⟨o, ho, hcases⟩ := exists_fragmentCategory_of_head? (Γ := Γ) hd hn hq hq'
    obtain rfl := Except.ok.inj (ho.symm.trans hcategory)
    rcases hcases with h0 | ⟨h0, -⟩ | ⟨-, hfloating⟩
    · cases h0
    · cases h0
    · exact hfloating
  · rintro ⟨f, hf, hfloating⟩
    obtain ⟨c, hc, hle, -⟩ := exists_infer_of_kind? (kind?_of_isFloating h) Γ
    obtain ⟨o, ho, hle'⟩ := rank_le_of_inferAll hc hf
    rw [fragmentCategory_of_kind? (kind?_of_isFloating hfloating)] at ho
    obtain rfl := Except.ok.inj ho
    rw [hc]
    cases c with
    | floating => rfl
    | string => exact absurd hle (by decide)
    | integral | boolean | unknown => exact absurd hle' (by decide)

/-- Without an exponent, a fragment that is floating has ASCII digits on both sides of the point. -/
theorem exists_point_of_mem_fragments (h : IsNumber t sgn whole frac [] rest)
    (hf : f ∈ fragments t) (hfloating : isFloating f = true) :
    ∃ u a b v, t = u ++ a :: '.' :: b :: v ∧ a.isDigit = true ∧ b.isDigit = true := by
  obtain ⟨sgn', whole', frac', exp', rest', hn, hne⟩ := exists_of_isFloating hfloating
  have hexp : exp' = [] := by
    by_contra hexp
    obtain ⟨e, s, ds, rfl, he, -⟩ := hn.exponent.resolve_left hexp
    rcases (mem_cases_of_mem_fragments h hf (c := e) (by rw [hn.eq]; simp)).2 with hd | rfl
    · rw [isDigit_of_isExponentLetter he] at hd
      cases hd
    · rcases he with he | he <;> exact absurd he (by decide)
  obtain ⟨ds, rfl, hds⟩ := hn.fraction.resolve_left (hne.resolve_right fun h0 => h0 hexp)
  obtain ⟨b, ds, rfl⟩ := List.exists_cons_of_ne_nil hds.1
  obtain ⟨ws, a, rfl⟩ := (List.eq_nil_or_concat' whole').resolve_left hn.whole.1
  have hascii : ∀ c ∈ f, isDigit c = true → c.isDigit = true := fun c hc hd =>
    isDigit_of_isFragmentChar (mem_cases_of_mem_fragments h hf hc).1 hd
  have hfeq : f = sgn' ++ ws ++ a :: '.' :: b :: (ds ++ rest') := by rw [hn.eq, hexp]; simp
  obtain ⟨before, after, hword⟩ := exists_isWholeWord h hf
  refine ⟨before ++ (sgn' ++ ws), a, b, ds ++ rest' ++ after, ?_, ?_, ?_⟩
  · rw [hword.eq, hfeq]
    simp only [List.append_assoc, List.cons_append]
  · exact hascii a (by rw [hfeq]; simp) (hn.whole.2 a (by simp))
  · exact hascii b (by rw [hfeq]; simp) (hds.2 b List.mem_cons_self)

/-- Before the point of a number stand its sign and digits, and after it digits. -/
theorem notMem_of_point (h : IsNumber t sgn whole ('.' :: ds) [] rest) :
    '.' ∉ sgn ++ whole ∧ '.' ∉ ds ++ rest := by
  have hdigits : IsDigits ds := by
    obtain ⟨ds', hds', hdigits⟩ := h.fraction.resolve_left (List.cons_ne_nil '.' ds)
    obtain rfl := (List.cons.inj hds').2
    exact hdigits
  constructor
  · refine List.not_mem_append (fun hm => ?_) fun hm => ?_
    · exact absurd (eq_of_mem_sign h.sign_mem hm) (by decide)
    · exact absurd (h.whole.2 '.' hm) (by decide)
  · refine List.not_mem_append (fun hm => ?_) fun hm => ?_
    · exact absurd (hdigits.2 '.' hm) (by decide)
    · exact absurd (eq_newline_of_mem h.atEnd hm) (by decide)

/-- A number without an exponent has one point. -/
theorem eq_of_point {u v : Text} (h : IsNumber t sgn whole ('.' :: ds) [] rest)
    (ht : t = u ++ '.' :: v) : u = sgn ++ whole ∧ v = ds ++ rest := by
  obtain ⟨hleft, hright⟩ := notMem_of_point h
  have heq : (sgn ++ whole) ++ '.' :: (ds ++ rest) = u ++ '.' :: v := by rw [← ht, h.eq]; simp
  obtain ⟨hu, -, hv⟩ := (List.append_cons_inj_of_notMem hleft hright).1 heq
  exact ⟨hu.symm, hv.symm⟩

/-- ASCII digits on both sides of the point are of one fragment, which is floating. -/
theorem exists_mem_fragments_of_point {u v : Text} {a b : Char}
    (h : IsNumber t sgn whole ('.' :: ds) [] rest) (ht : t = u ++ a :: '.' :: b :: v)
    (ha : a.isDigit = true) (hb : b.isDigit = true) :
    ∃ f ∈ fragments t, isFloating f = true := by
  obtain ⟨f, hf, hdot⟩ := exists_mem_fragments (t := t) (c := '.') (by rw [ht]; simp) (by decide)
  obtain ⟨before, after, hword⟩ := exists_isWholeWord h hf
  obtain ⟨w₁, w₂, rfl⟩ := List.append_of_mem hdot
  -- The point of the fragment is that between the two digits.
  have ht₁ : t = (u ++ [a]) ++ '.' :: (b :: v) := by rw [ht, ← List.append_cons]
  have ht₂ : t = (before ++ w₁) ++ '.' :: (w₂ ++ after) := by
    rw [hword.eq, List.append_assoc, List.append_assoc, List.cons_append]
  obtain ⟨hu, hv⟩ := eq_of_point h ht₁
  obtain ⟨hw₁, hw₂⟩ := eq_of_point h ht₂
  obtain ⟨hleft, hright⟩ := notMem_of_point h
  rw [← hw₁] at hu hleft
  rw [← hw₂] at hv hright
  have hdigit : ∀ c ∈ w₁ ++ '.' :: w₂, c ≠ '.' → isDigit c = true := fun c hc =>
    (mem_cases_of_mem_fragments h hf hc).2.resolve_right
  -- The word takes the digits with it.
  have hne₁ : w₁ ≠ [] := by
    rintro rfl
    rw [List.append_nil] at hu
    have hlast : before.getLast? = some a := by rw [← hu, List.getLast?_concat]
    have hchar := hword.left a hlast
    rw [isFragmentChar_of_isDigit ha] at hchar
    cases hchar
  have hne₂ : w₂ ≠ [] := by
    rintro rfl
    rw [List.nil_append] at hv
    have hhead : after.head? = some b := by rw [← hv, List.head?_cons]
    have hchar := hword.right b hhead
    rw [isFragmentChar_of_isDigit hb] at hchar
    cases hchar
  have hd₁ : IsDigits w₁ := ⟨hne₁, fun c hc => hdigit c (List.mem_append_left _ hc) fun hdot =>
    hleft (List.mem_append_right _ (hdot ▸ hc))⟩
  have hd₂ : IsDigits w₂ := ⟨hne₂, fun c hc => hdigit c (by simp [hc]) fun hdot =>
    hright (List.mem_append_left _ (hdot ▸ hc))⟩
  have hfloating := (isNumber_unsigned hd₁ (Or.inr ⟨w₂, rfl, hd₂⟩) (Or.inl rfl)).isFloating
    (Or.inl (List.cons_ne_nil '.' w₂))
  rw [List.append_nil] at hfloating
  exact ⟨_, hf, hfloating⟩

/-! ### Legible literals -/

/-- A literal of a given kind that an expression shows to be of this kind: of a whole number it
shows an ASCII digit, and of another number the exponent, or ASCII digits on both sides of the
point. -/
def IsLegible : LiteralKind → Text → Prop
  | .integer, t => ∃ c ∈ t, c.isDigit = true
  | .floating, t => (∃ c ∈ t, c = 'e' ∨ c = 'E') ∨
      ∃ u a b v, t = u ++ a :: '.' :: b :: v ∧ a.isDigit = true ∧ b.isDigit = true
  | _, _ => True

/-- A number that is not whole is legible if an expression has a floating fragment of it. -/
theorem isLegible_iff_of_isFloating (h : isFloating t = true) :
    IsLegible .floating t ↔ ∃ f ∈ fragments t, isFloating f = true := by
  obtain ⟨sgn, whole, frac, exp, rest, hn, hne⟩ := exists_of_isFloating h
  by_cases hexp : exp = []
  · subst hexp
    constructor
    · rintro (⟨e, he, hletter⟩ | ⟨u, a, b, v, ht, ha, hb⟩)
      · rcases mem_cases_of_noExponent hn he with hd | hm
        · rw [isDigit_of_isExponentLetter hletter] at hd
          cases hd
        · rcases hletter with rfl | rfl <;> exact absurd hm (by decide)
      · obtain ⟨ds, rfl, -⟩ := hn.fraction.resolve_left (hne.resolve_right fun h0 => h0 rfl)
        exact exists_mem_fragments_of_point hn ht ha hb
    · rintro ⟨f, hf, hfloating⟩
      exact Or.inr (exists_point_of_mem_fragments hn hf hfloating)
  · -- A number with an exponent is one fragment, whatever its digits are.
    have hfloating := (isNumber_unsigned hn.whole hn.fraction hn.exponent).isFloating (Or.inr hexp)
    have hfragments := fragments_of_exponent hn hexp
    obtain ⟨e, s, ds, rfl, he, -⟩ := hn.exponent.resolve_left hexp
    refine iff_of_true (Or.inl ⟨e, by rw [hn.eq]; simp, he⟩) ⟨_, ?_, hfloating⟩
    rw [hfragments]
    exact List.mem_cons_self

/-- A literal without digits of other scripts is legible. -/
theorem isLegible_of_ascii (h : kind? t = some k)
    (hascii : ∀ c ∈ t, isDigit c = true → c.isDigit = true) : IsLegible k t := by
  have hl := isLiteral_of_kind? h
  cases k with
  | string | char | boolean => trivial
  | integer =>
    obtain ⟨sgn, whole, rest, hn⟩ := exists_of_isInteger hl
    obtain ⟨d, ws, rfl⟩ := List.exists_cons_of_ne_nil hn.whole.1
    have hd : d ∈ t := by rw [hn.eq]; simp
    exact ⟨d, hd, hascii d hd (hn.whole.2 d List.mem_cons_self)⟩
  | floating =>
    obtain ⟨sgn, whole, frac, exp, rest, hn, hne⟩ := exists_of_isFloating hl
    rcases hn.exponent with rfl | ⟨e, s, ds, rfl, he, -⟩
    · obtain ⟨ds, rfl, hds⟩ := hn.fraction.resolve_left (hne.resolve_right fun h0 => h0 rfl)
      obtain ⟨b, ds, rfl⟩ := List.exists_cons_of_ne_nil hds.1
      obtain ⟨ws, a, rfl⟩ := (List.eq_nil_or_concat' whole).resolve_left hn.whole.1
      have ht : t = (sgn ++ ws) ++ a :: '.' :: b :: (ds ++ rest) := by rw [hn.eq]; simp
      refine Or.inr ⟨_, a, b, _, ht, ?_, ?_⟩
      · exact hascii a (by rw [ht]; simp) (hn.whole.2 a (by simp))
      · exact hascii b (by rw [ht]; simp) (hds.2 b List.mem_cons_self)
    · exact Or.inl ⟨e, by rw [hn.eq]; simp, he⟩

/-! ### Both judgements -/

/-- A kind of literals and a category fit the same types exactly if the category is that of the
kind. Characters are left out: as literals they fit one type, as expressions all numeric ones. -/
theorem forall_fits_iff {x : Category} (hk : k ≠ .char) :
    (∀ p : Primitive, k.fits p = x.fits p) ↔ x = k.category := by
  constructor
  · intro h
    have hall : ∀ p ∈ Primitive.all, k.fits p = x.fits p := fun p _ => h p
    revert hall hk
    cases k <;> cases x <;> decide
  · rintro rfl p
    cases k with
    | char => exact absurd rfl hk
    | string | boolean | integer | floating => rfl

/-- As an expression, a literal other than a character always has a category. It is that of the
literal exactly if the literal is legible, as it is if all its digits are ASCII digits; and exactly
then the literal fits the same types as the expression. -/
theorem infer_of_kind? (h : kind? t = some k) (hk : k ≠ .char) (Γ : SymbolTable) :
    ∃ x, infer Γ t = .ok x ∧ (x = k.category ↔ IsLegible k t) ∧
      ((∀ p : Primitive, k.fits p = x.fits p) ↔ IsLegible k t) ∧
      ((∀ c ∈ t, isDigit c = true → c.isDigit = true) → IsLegible k t) := by
  obtain ⟨x, hx, hiff⟩ : ∃ x, infer Γ t = .ok x ∧ (x = k.category ↔ IsLegible k t) := by
    have hl := isLiteral_of_kind? h
    cases k with
    | string =>
      obtain ⟨s, r, hs, hr, hs'⟩ := exists_fragment?_of_isString hl
      exact ⟨.string, infer_of_fragment? hs hr hs' Γ, iff_of_true rfl trivial⟩
    | char => exact absurd rfl hk
    | boolean =>
      obtain ⟨s, r, hs, hr, hs'⟩ := exists_fragment?_of_isBoolean hl
      exact ⟨.boolean, infer_of_fragment? hs hr hs' Γ, iff_of_true rfl trivial⟩
    | integer =>
      refine ⟨_, infer_of_isInteger hl Γ, ?_⟩
      rw [IsLegible, ← List.any_eq_true]
      split_ifs with hany
      · exact iff_of_true rfl hany
      · exact iff_of_false (by decide) hany
    | floating =>
      obtain ⟨x, hx, -⟩ := exists_infer_of_kind? h Γ
      refine ⟨x, hx, ?_⟩
      rw [isLegible_iff_of_isFloating hl, ← infer_of_isFloating_iff hl Γ, hx, Except.ok.injEq]
      rfl
  exact ⟨x, hx, hiff, (forall_fits_iff hk).trans hiff, isLegible_of_ascii h⟩

/-- A number with a digit of another script away from its point. -/
theorem infer_of_kind?_mixed :
    kind? "\u06631.5".toList = some .floating ∧
      infer .empty "\u06631.5".toList = .ok .floating := by
  have hkind : kind? "\u06631.5".toList = some .floating := by decide +kernel
  obtain ⟨x, hx, hcategory, -⟩ := infer_of_kind? hkind (by decide) .empty
  have hlegible : IsLegible .floating "\u06631.5".toList :=
    Or.inr ⟨"\u0663".toList, '1', '5', [], rfl, by decide, by decide⟩
  exact ⟨hkind, hx.trans (congrArg Except.ok (hcategory.2 hlegible))⟩

/-- With digits of another script only, numbers are literals of their kinds, but an expression shows
nothing of them: a whole number fits the type of characters and its expression does not, and a
number with a fraction does not fit a type of whole numbers, but its expression does. -/
theorem infer_illegible :
    (kind? "\u0663".toList = some .integer ∧ infer .empty "\u0663".toList = .ok .unknown ∧
      LiteralKind.fits .integer .char = true ∧ Category.fits .unknown .char = false) ∧
    kind? "\u0663.\u0665".toList = some .floating ∧
      infer .empty "\u0663.\u0665".toList = .ok .unknown ∧
      LiteralKind.fits .floating .int = false ∧ Category.fits .unknown .int = true := by
  decide +kernel

end VarDecl.Expression
