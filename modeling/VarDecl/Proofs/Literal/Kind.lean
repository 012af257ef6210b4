import VarDecl.Proofs.Literal.Reading
import VarDecl.Proofs.Name

/-!
# What literals are made of

* `exists_of_isInteger` and `exists_of_isFloating`: a number is a sign, digits, a fraction and an
  exponent, and `IsNumber.mem_cases` names its characters. In turn `IsNumber.kind?` says which kind
  such a text has;
* `head?_of_isString` and its neighbours: each kind of literal has first characters of its own, so
  that a name is at most a truth value (`kind?_of_isName`);
* `kind?_eq_some_iff`: the kind that is found for a text is the only one that the text has.
-/

namespace VarDecl.Literal

open Text Name

variable {t : Text} {c : Char} {k : LiteralKind}

/-! ### The shapes of literals -/

theorem exists_of_reads {reader : Text → Option (Text × Text)} (h : reads reader t = true) :
    ∃ s r, reader t = some (s, r) ∧ atEnd r = true := by
  simp only [reads, Option.any_eq_true] at h
  obtain ⟨⟨s, r⟩, hs, hr⟩ := h
  exact ⟨s, r, hs, hr⟩

/-- An optional exponent: nothing, or a letter, perhaps a sign, and digits. -/
def IsExponent (exp : Text) : Prop :=
  exp = [] ∨ ∃ e sgn ds, exp = e :: (sgn ++ ds) ∧ (e = 'e' ∨ e = 'E') ∧
    sgn ∈ [[], ['+'], ['-']] ∧ IsDigits ds

/-- A number: an optional sign, digits, an optional fraction, an optional exponent and the end. -/
structure IsNumber (t sgn whole frac exp rest : Text) : Prop where
  eq : t = sgn ++ (whole ++ frac ++ exp) ++ rest
  sign : sgn = (Literal.sign t).1
  sign_mem : sgn ∈ [[], ['+'], ['-']]
  whole : IsDigits whole
  fraction : IsFraction frac
  exponent : IsExponent exp
  atEnd : atEnd rest = true

theorem exists_of_isInteger (h : isInteger t = true) :
    ∃ sgn whole rest, IsNumber t sgn whole [] [] rest := by
  obtain ⟨ds, r, hds, hr⟩ := exists_of_reads h
  obtain ⟨hsign, hmem⟩ := sign_eq t
  obtain ⟨ht, hd, -⟩ := digits?_eq_some_iff.1 hds
  refine ⟨(sign t).1, ds, r, ?_, rfl, hmem, hd, Or.inl rfl, Or.inl rfl, hr⟩
  rw [List.append_nil, List.append_nil, List.append_assoc, ← ht, ← hsign]

theorem exists_of_isScientific (h : isScientific t = true) :
    ∃ sgn whole frac exp rest, IsNumber t sgn whole frac exp rest ∧ exp ≠ [] := by
  obtain ⟨s, r, hs, hr⟩ := exists_of_reads h
  obtain ⟨hsign, hmem⟩ := sign_eq t
  obtain ⟨whole, frac, e, sgn, ds, rfl, ht, hw, hf, he, hsgn, hds, -⟩ := exists_of_scientific? hs
  refine ⟨(sign t).1, whole, frac, e :: (sgn ++ ds), r,
    ⟨?_, rfl, hmem, hw, hf, Or.inr ⟨e, sgn, ds, rfl, he, hsgn, hds⟩, hr⟩, List.cons_ne_nil _ _⟩
  rw [List.append_assoc, ← ht, ← hsign]

theorem exists_of_isDecimal (h : isDecimal t = true) :
    ∃ sgn whole frac exp rest, IsNumber t sgn whole frac exp rest ∧ frac ≠ [] := by
  unfold isDecimal at h
  obtain ⟨hsign, hmem⟩ := sign_eq t
  split at h
  case h_1 => exact Bool.noConfusion h
  case h_2 whole r₁ hw =>
    obtain ⟨ht, hd, -⟩ := digits?_eq_some_iff.1 hw
    obtain ⟨⟨frac, r₂⟩, hf, hr⟩ := (Option.any_eq_true ..).1 h
    obtain ⟨ds, rfl, ht₁, hds, -⟩ := exists_of_fraction? hf
    simp only [Bool.or_eq_true] at hr
    -- The number ends after its fraction or goes on with an exponent.
    rcases hr with hr | hr
    · refine ⟨(sign t).1, whole, '.' :: ds, [], r₂,
        ⟨?_, rfl, hmem, hd, Or.inr ⟨ds, rfl, hds⟩, Or.inl rfl, hr⟩, List.cons_ne_nil _ _⟩
      rw [List.append_nil, List.append_assoc, List.append_assoc, ← ht₁, ← ht, ← hsign]
    · obtain ⟨exp, r₃, he, hr₃⟩ := exists_of_reads hr
      obtain ⟨e, sgn, ds', rfl, ht₂, hE, hsgn, hds', -⟩ := exists_of_exponent? he
      refine ⟨(sign t).1, whole, '.' :: ds, e :: (sgn ++ ds'), r₃,
        ⟨?_, rfl, hmem, hd, Or.inr ⟨ds, rfl, hds⟩, Or.inr ⟨e, sgn, ds', rfl, hE, hsgn, hds'⟩, hr₃⟩,
        List.cons_ne_nil _ _⟩
      rw [List.append_assoc, List.append_assoc, List.append_assoc, ← ht₂, ← ht₁, ← ht, ← hsign]

theorem exists_of_isFloating (h : isFloating t = true) :
    ∃ sgn whole frac exp rest, IsNumber t sgn whole frac exp rest ∧ (frac ≠ [] ∨ exp ≠ []) := by
  rcases Bool.or_eq_true_iff.1 h with h | h
  · obtain ⟨sgn, whole, frac, exp, rest, hn, hne⟩ := exists_of_isDecimal h
    exact ⟨sgn, whole, frac, exp, rest, hn, Or.inl hne⟩
  · obtain ⟨sgn, whole, frac, exp, rest, hn, hne⟩ := exists_of_isScientific h
    exact ⟨sgn, whole, frac, exp, rest, hn, Or.inr hne⟩

/-- Numbers of both kinds have the same shape. -/
theorem exists_isNumber (h : isInteger t = true ∨ isFloating t = true) :
    ∃ sgn whole frac exp rest, IsNumber t sgn whole frac exp rest := by
  rcases h with h | h
  · obtain ⟨sgn, whole, rest, hn⟩ := exists_of_isInteger h
    exact ⟨sgn, whole, [], [], rest, hn⟩
  · obtain ⟨sgn, whole, frac, exp, rest, hn, -⟩ := exists_of_isFloating h
    exact ⟨sgn, whole, frac, exp, rest, hn⟩

theorem isDigit_of_atEnd {rest : Text} (h : atEnd rest = true) :
    ∀ c ∈ rest.head?, isDigit c = false := by
  rcases atEnd_iff.1 h with rfl | rfl
  · rintro c ⟨⟩
  · rintro c ⟨⟩
    decide

theorem IsNumber.sign_snd {sgn whole frac exp rest : Text}
    (h : IsNumber t sgn whole frac exp rest) :
    (Literal.sign t).2 = whole ++ frac ++ exp ++ rest := by
  obtain ⟨hsign, -⟩ := sign_eq t
  have heq := h.eq
  rw [hsign, h.sign, List.append_assoc] at heq
  exact List.append_cancel_left heq

/-- A number with an exponent is a scientific one. -/
theorem IsNumber.isScientific {sgn whole frac exp rest : Text}
    (h : IsNumber t sgn whole frac exp rest) (hne : exp ≠ []) : isScientific t = true := by
  obtain ⟨e, s, ds, rfl, he, hs, hds⟩ := h.exponent.resolve_left hne
  rw [Literal.isScientific, reads, h.sign_snd,
    scientific?_append h.whole h.fraction he hs hds (isDigit_of_atEnd h.atEnd)]
  exact h.atEnd

theorem isBoolean_iff : isBoolean t = true ↔
    ∃ r, atEnd r = true ∧ (t = "true".toList ++ r ∨ t = "false".toList ++ r) := by
  simp only [isBoolean, Bool.or_eq_true, Option.any_eq_true, after?_eq_some_iff]
  constructor
  · rintro (⟨r, rfl, hr⟩ | ⟨r, rfl, hr⟩)
    · exact ⟨r, hr, Or.inl rfl⟩
    · exact ⟨r, hr, Or.inr rfl⟩
  · rintro ⟨r, hr, rfl | rfl⟩
    · exact Or.inl ⟨r, rfl, hr⟩
    · exact Or.inr ⟨r, rfl, hr⟩

/-! ### First characters -/

theorem head?_of_isString (h : isString t = true) : t.head? = some '"' := by
  obtain ⟨s, r, hs, -⟩ := exists_of_reads h
  cases t with
  | nil => simp [span?] at hs
  | cons c t =>
    simp only [span?] at hs
    split at hs
    case isTrue hc => rw [hc]; rfl
    case isFalse => simp at hs

theorem isString_of_closes {s : Text} (h : Closes '"' s) : isString ('"' :: s) = true := by
  rw [isString, reads, h.span?_eq (by decide)]
  rfl

theorem head?_of_isChar (h : isChar t = true) : t.head? = some '\'' := by
  unfold isChar at h
  split at h
  · rfl
  · rfl
  · exact Bool.noConfusion h

theorem head?_of_isBoolean (h : isBoolean t = true) : ∃ c ∈ t.head?, isNameStart c = true := by
  obtain ⟨r, -, rfl | rfl⟩ := isBoolean_iff.1 h
  · exact ⟨'t', rfl, by decide⟩
  · exact ⟨'f', rfl, by decide⟩

theorem IsNumber.head? {sgn whole frac exp rest : Text} (h : IsNumber t sgn whole frac exp rest) :
    ∃ c ∈ t.head?, c = '+' ∨ c = '-' ∨ isDigit c = true := by
  obtain ⟨d, ds, rfl⟩ := List.exists_cons_of_ne_nil h.whole.1
  have hd : isDigit d = true := h.whole.2 d List.mem_cons_self
  have hs := h.sign_mem
  simp only [List.mem_cons, List.not_mem_nil, or_false] at hs
  rcases hs with rfl | rfl | rfl
  · exact ⟨d, by rw [h.eq]; rfl, Or.inr (Or.inr hd)⟩
  · exact ⟨'+', by rw [h.eq]; rfl, Or.inl rfl⟩
  · exact ⟨'-', by rw [h.eq]; rfl, Or.inr (Or.inl rfl)⟩

/-! ### The kind of a text -/

/-- Whether a text is a literal of a given kind. -/
def isLiteral : LiteralKind → Text → Bool
  | .string => isString
  | .char => isChar
  | .boolean => isBoolean
  | .integer => isInteger
  | .floating => isFloating

/-- The kind that is found is one that the text has. -/
theorem isLiteral_of_kind? (h : kind? t = some k) : isLiteral k t = true := by
  unfold kind? at h
  split_ifs at h <;> cases h <;> assumption

/-- A text that starts like a name is at most a truth value. -/
theorem kind?_of_isNameStart {r : Text} (hc : isNameStart c = true) :
    kind? (c :: r) = if isBoolean (c :: r) then some .boolean else none := by
  have hw := isWordChar_of_isNameStart hc
  have hd := isDigit_of_isNameStart hc
  have hstring : isString (c :: r) = false := by
    refine Bool.eq_false_iff.2 fun h => ?_
    have hq : some c = some '"' := head?_of_isString h
    exact ne_of_isWordChar hw (by decide) (Option.some.inj hq)
  have hchar : isChar (c :: r) = false := by
    refine Bool.eq_false_iff.2 fun h => ?_
    have hq : some c = some '\'' := head?_of_isChar h
    exact ne_of_isWordChar hw (by decide) (Option.some.inj hq)
  have hnumber : ¬(isInteger (c :: r) = true ∨ isFloating (c :: r) = true) := by
    intro h
    obtain ⟨sgn, whole, frac, exp, rest, hn⟩ := exists_isNumber h
    obtain ⟨d, hd', h | h | h⟩ := hn.head? <;> obtain rfl := Option.some.inj hd'
    · exact ne_of_isWordChar hw (by decide) h
    · exact ne_of_isWordChar hw (by decide) h
    · rw [hd] at h
      exact Bool.noConfusion h
  rw [not_or, Bool.not_eq_true, Bool.not_eq_true] at hnumber
  obtain ⟨hinteger, hfloating⟩ := hnumber
  simp [kind?, hstring, hchar, hinteger, hfloating]

theorem isBoolean_iff_of_isName (h : IsName t) :
    isBoolean t = true ↔ t = "true".toList ∨ t = "false".toList := by
  rw [isBoolean_iff]
  constructor
  · rintro ⟨r, hr, ht⟩
    have hnl : '\n' ∉ t := h.notMem (by decide)
    have hr' : r = [] := by
      refine eq_nil_of_atEnd hr fun hm => hnl ?_
      rcases ht with rfl | rfl <;> exact List.mem_append_right _ hm
    rwa [hr', List.append_nil, List.append_nil] at ht
  · intro ht
    exact ⟨[], rfl, by rwa [List.append_nil, List.append_nil]⟩

/-- A name is a truth value or no literal. -/
theorem kind?_of_isName (h : IsName t) : kind? t =
    if t = "true".toList ∨ t = "false".toList then some .boolean else none := by
  have hb := isBoolean_iff_of_isName h
  obtain ⟨c, r, rfl, hc, -⟩ := h
  rw [kind?_of_isNameStart hc]
  exact if_congr hb rfl rfl

/-! ### The characters of numbers -/

theorem eq_of_mem_sign {s : Text} (hs : s ∈ [[], ['+'], ['-']]) (hc : c ∈ s) : c ∈ ['+', '-'] := by
  simp only [List.mem_cons, List.not_mem_nil, or_false] at hs
  rcases hs with rfl | rfl | rfl
  · cases hc
  · rw [List.mem_singleton.1 hc]
    decide
  · rw [List.mem_singleton.1 hc]
    decide

theorem mem_cases_of_isFraction {whole frac : Text} (hw : IsDigits whole) (hf : IsFraction frac)
    (hc : c ∈ whole ++ frac) : isDigit c = true ∨ (c = '.' ∧ frac ≠ []) := by
  rcases List.mem_append.1 hc with hc | hc
  · exact Or.inl (hw.2 c hc)
  · obtain ⟨ds, rfl, hds⟩ := hf.resolve_left (List.ne_nil_of_mem hc)
    rcases List.mem_cons.1 hc with rfl | hc
    · exact Or.inr ⟨rfl, List.cons_ne_nil _ _⟩
    · exact Or.inl (hds.2 c hc)

theorem mem_cases_of_isDigits {sgn ds : Text} (hs : sgn ∈ [[], ['+'], ['-']]) (hds : IsDigits ds)
    (hc : c ∈ sgn ++ ds) : isDigit c = true ∨ c ∈ ['+', '-'] :=
  (List.mem_append.1 hc).symm.imp (hds.2 c) (eq_of_mem_sign hs)

/-- The characters of a number are digits, signs, the point of its fraction and the letter of its
exponent. -/
theorem IsNumber.mem_cases {sgn whole frac exp rest : Text}
    (h : IsNumber t sgn whole frac exp rest) (hc : c ∈ t) :
    isDigit c = true ∨ c ∈ ['+', '-'] ∨ (c = '.' ∧ frac ≠ []) ∨
      ((c = 'e' ∨ c = 'E') ∧ exp ≠ []) ∨ c ∈ rest := by
  rw [h.eq, List.mem_append, List.mem_append, List.mem_append] at hc
  rcases hc with (hc | hc | hc) | hc
  · exact Or.inr (Or.inl (eq_of_mem_sign h.sign_mem hc))
  · rcases mem_cases_of_isFraction h.whole h.fraction hc with hd | hd
    · exact Or.inl hd
    · exact Or.inr (Or.inr (Or.inl hd))
  · obtain ⟨e, s, ds, rfl, he, hs, hds⟩ := h.exponent.resolve_left (List.ne_nil_of_mem hc)
    rcases List.mem_cons.1 hc with rfl | hc
    · exact Or.inr (Or.inr (Or.inr (Or.inl ⟨he, List.cons_ne_nil _ _⟩)))
    · rcases mem_cases_of_isDigits hs hds hc with hd | hd
      · exact Or.inl hd
      · exact Or.inr (Or.inl hd)
  · exact Or.inr (Or.inr (Or.inr (Or.inr hc)))

theorem eq_newline_of_mem {r : Text} (h : atEnd r = true) (hc : c ∈ r) : c = '\n' := by
  rcases atEnd_iff.1 h with rfl | rfl
  · cases hc
  · exact List.mem_singleton.1 hc

/-- A whole number has no point and no exponent letter. -/
theorem notMem_of_isInteger (h : isInteger t = true) (hc : c = '.' ∨ c = 'e' ∨ c = 'E') :
    c ∉ t := by
  intro hm
  obtain ⟨sgn, whole, rest, hn⟩ := exists_of_isInteger h
  rcases hn.mem_cases hm with hd | hd | hd | hd | hd
  · rcases hc with rfl | rfl | rfl <;> exact absurd hd (by decide)
  · rcases hc with rfl | rfl | rfl <;> exact absurd hd (by decide)
  · exact hd.2 rfl
  · exact hd.2 rfl
  · rw [eq_newline_of_mem hn.atEnd hd] at hc
    exact absurd hc (by decide)

/-- Without a point and an exponent letter there is no floating number. -/
theorem exists_mem_of_isFloating (h : isFloating t = true) :
    ∃ c ∈ t, c = '.' ∨ c = 'e' ∨ c = 'E' := by
  obtain ⟨sgn, whole, frac, exp, rest, hn, hne⟩ := exists_of_isFloating h
  rcases hne with hne | hne
  · obtain ⟨ds, rfl, -⟩ := hn.fraction.resolve_left hne
    exact ⟨'.', by rw [hn.eq]; simp, Or.inl rfl⟩
  · obtain ⟨e, s, ds, rfl, he, -⟩ := hn.exponent.resolve_left hne
    exact ⟨e, by rw [hn.eq]; simp, Or.inr he⟩

/-! ### The kind of a number -/

theorem IsNumber.isInteger {sgn whole rest : Text} (h : IsNumber t sgn whole [] [] rest) :
    isInteger t = true := by
  have hread := digits?_append h.whole (isDigit_of_atEnd h.atEnd)
  rw [Literal.isInteger, reads, h.sign_snd, List.append_nil, List.append_nil, hread]
  exact h.atEnd

theorem IsNumber.isDecimal {sgn whole frac rest : Text} (h : IsNumber t sgn whole frac [] rest)
    (hne : frac ≠ []) : isDecimal t = true := by
  obtain ⟨ds, rfl, hds⟩ := h.fraction.resolve_left hne
  have hfrac := fraction?_append hds (isDigit_of_atEnd h.atEnd)
  have hwhole : digits? (whole ++ ('.' :: ds ++ rest)) = some (whole, '.' :: ds ++ rest) :=
    digits?_append h.whole (by rintro c ⟨⟩; decide)
  rw [Literal.isDecimal, h.sign_snd, List.append_nil, List.append_assoc, hwhole]
  simp only [hfrac, Option.any_some, h.atEnd, Bool.true_or]

theorem IsNumber.isFloating {sgn whole frac exp rest : Text}
    (h : IsNumber t sgn whole frac exp rest) (hne : frac ≠ [] ∨ exp ≠ []) :
    isFloating t = true := by
  rw [Literal.isFloating, Bool.or_eq_true]
  by_cases he : exp = []
  · subst he
    exact Or.inl (h.isDecimal (hne.resolve_right (fun h0 => h0 rfl)))
  · exact Or.inr (h.isScientific he)

/-- A whole number has neither a point nor an exponent letter. -/
theorem IsNumber.eq_nil_of_isInteger {sgn whole frac exp rest : Text}
    (h : IsNumber t sgn whole frac exp rest) (hi : Literal.isInteger t = true) :
    frac = [] ∧ exp = [] := by
  constructor
  · rcases h.fraction with rfl | ⟨ds, rfl, -⟩
    · rfl
    · exact (notMem_of_isInteger hi (Or.inl rfl) (by rw [h.eq]; simp)).elim
  · rcases h.exponent with rfl | ⟨e, s, ds, rfl, he, -⟩
    · rfl
    · exact (notMem_of_isInteger hi (Or.inr he) (by rw [h.eq]; simp)).elim

/-- A number is of integer kind exactly if it has neither a fraction nor an exponent. -/
theorem IsNumber.kind? {sgn whole frac exp rest : Text} (h : IsNumber t sgn whole frac exp rest) :
    kind? t = some (if frac = [] ∧ exp = [] then .integer else .floating) := by
  -- The first character rules out the kinds that are tried before those of numbers.
  obtain ⟨c, hc, hsign⟩ := h.head?
  have hstring : ¬isString t = true := fun hs => by
    obtain rfl := Option.some.inj (hc.symm.trans (head?_of_isString hs))
    exact absurd hsign (by decide)
  have hchar : ¬isChar t = true := fun hs => by
    obtain rfl := Option.some.inj (hc.symm.trans (head?_of_isChar hs))
    exact absurd hsign (by decide)
  have hboolean : ¬isBoolean t = true := fun hs => by
    obtain ⟨d, hd, hstart⟩ := head?_of_isBoolean hs
    obtain rfl := Option.some.inj (hc.symm.trans hd)
    rcases hsign with rfl | rfl | hdigit
    · exact absurd hstart (by decide)
    · exact absurd hstart (by decide)
    · rw [isNameStart_of_isDigit hdigit] at hstart
      cases hstart
  rw [Literal.kind?, if_neg hstring, if_neg hchar, if_neg hboolean]
  by_cases hwhole : frac = [] ∧ exp = []
  · obtain ⟨rfl, rfl⟩ := hwhole
    rw [if_pos h.isInteger, if_pos ⟨rfl, rfl⟩]
  · have hinteger : ¬Literal.isInteger t = true := fun hi => hwhole (h.eq_nil_of_isInteger hi)
    rw [if_neg hinteger, if_neg hwhole, if_pos (h.isFloating (not_and_or.1 hwhole))]

/-! ### The kind of a literal -/

theorem kind?_of_isString (h : isString t = true) : kind? t = some .string := by
  rw [kind?, if_pos h]

theorem kind?_of_isChar (h : isChar t = true) : kind? t = some .char := by
  have hs : ¬isString t = true := fun hs =>
    absurd ((head?_of_isString hs).symm.trans (head?_of_isChar h)) (by decide)
  rw [kind?, if_neg hs, if_pos h]

theorem kind?_of_isBoolean (h : isBoolean t = true) : kind? t = some .boolean := by
  obtain ⟨c, hc, hstart⟩ := head?_of_isBoolean h
  obtain ⟨r, rfl⟩ := List.head?_eq_some_iff.1 hc
  rw [kind?_of_isNameStart hstart, if_pos h]

theorem kind?_of_isInteger (h : isInteger t = true) : kind? t = some .integer := by
  obtain ⟨sgn, whole, rest, hn⟩ := exists_of_isInteger h
  rw [hn.kind?, if_pos ⟨rfl, rfl⟩]

theorem kind?_of_isFloating (h : isFloating t = true) : kind? t = some .floating := by
  obtain ⟨sgn, whole, frac, exp, rest, hn, hne⟩ := exists_of_isFloating h
  rw [hn.kind?, if_neg fun h0 => hne.elim (· h0.1) (· h0.2)]

/-- Each kind that a text has is the one that is found. -/
theorem kind?_eq_some_iff : kind? t = some k ↔ isLiteral k t = true := by
  refine ⟨isLiteral_of_kind?, fun h => ?_⟩
  cases k with
  | string => exact kind?_of_isString h
  | char => exact kind?_of_isChar h
  | boolean => exact kind?_of_isBoolean h
  | integer => exact kind?_of_isInteger h
  | floating => exact kind?_of_isFloating h

end VarDecl.Literal
