import VarDecl.Literal
import VarDecl.Proofs.Text.Trim

/-!
# What the readers of literals read

* `IsLocal`: a reader that takes the same from a text whatever comes after it, as long as that does
  not go on with a digit, a letter, a point or a sign (`Stops`). The readers of numbers are local;
* `digits?_eq_some_iff` and `exists_of_scientific?` say what digits and numbers look like;
* `Closes q s`: the text `s` is the rest of a span with the quote `q`. Such a text is read whole,
  whatever comes after it (`Closes.span?_append`), and only a quote closes a span
  (`closing?_append_eq_none`).
-/

namespace VarDecl.Literal

open Text

/-- A text that starts with nothing that a number or a word could go on with. -/
def Stops (u : Text) : Prop :=
  ∀ c ∈ u.head?, isDigit c = false ∧ isWordChar c = false ∧ c ≠ '.' ∧ c ≠ '+' ∧ c ≠ '-'

/-- A reader that takes the same from a text, whatever stops it there. -/
def IsLocal (reader : Text → Option (Text × Text)) : Prop :=
  ∀ t u, Stops u → reader (t ++ u) = (reader t).map fun p => (p.1, p.2 ++ u)

variable {q c : Char} {t u s r ds : Text}

@[simp] theorem stops_nil : Stops [] := by
  intro c hc
  exact absurd hc (by simp)

theorem stops_cons : Stops (c :: u) ↔
    isDigit c = false ∧ isWordChar c = false ∧ c ≠ '.' ∧ c ≠ '+' ∧ c ≠ '-' :=
  ⟨fun h => h c rfl, fun h d hd => by rwa [← Option.some.inj hd]⟩

theorem IsLocal.or {reader reader' : Text → Option (Text × Text)} (h : IsLocal reader)
    (h' : IsLocal reader') : IsLocal fun t => (reader t).or (reader' t) := by
  intro t u hu
  simp only [h t u hu, h' t u hu]
  cases reader t <;> rfl

theorem stops_space (u : Text) : Stops (' ' :: u) :=
  stops_cons.2 ⟨by decide, by decide, by decide, by decide, by decide⟩

/-! ### Digits -/

/-- One or more digits. -/
def IsDigits (ds : Text) : Prop := ds ≠ [] ∧ ∀ c ∈ ds, isDigit c = true

theorem digits?_append (hds : IsDigits ds) (hr : ∀ c ∈ r.head?, isDigit c = false) :
    digits? (ds ++ r) = some (ds, r) := by
  obtain ⟨hne, hall⟩ := hds
  obtain ⟨d, ds, rfl⟩ := List.exists_cons_of_ne_nil hne
  have hd : isDigit d = true := hall d List.mem_cons_self
  have hds : ∀ c ∈ ds, isDigit c = true := fun c hc => hall c (List.mem_cons_of_mem d hc)
  rw [List.cons_append, digits?, if_pos hd, List.takeWhile_append_of_pos hds,
    List.dropWhile_append_of_pos hds, takeWhile_eq_nil hr, dropWhile_eq_self hr, List.append_nil]

/-- Reading digits takes all digits at the start, of which there must be one. -/
theorem digits?_eq_some_iff : digits? t = some (ds, r) ↔
    t = ds ++ r ∧ IsDigits ds ∧ ∀ c ∈ r.head?, isDigit c = false := by
  constructor
  · intro h
    cases t with
    | nil => simp [digits?] at h
    | cons c t =>
      simp only [digits?] at h
      split at h
      case isFalse => simp at h
      case isTrue hc =>
        obtain ⟨rfl, rfl⟩ := Prod.mk.inj (Option.some.inj h)
        refine ⟨by simp, ⟨by simp, fun d hd => ?_⟩, fun d hd => ?_⟩
        · rcases List.mem_cons.1 hd with rfl | hd
          · exact hc
          · exact List.mem_takeWhile_imp hd
        · have := List.head?_dropWhile_not isDigit t
          rwa [show (t.dropWhile isDigit).head? = some d from hd] at this
  · rintro ⟨rfl, hds, hr⟩
    exact digits?_append hds hr

theorem digits?_eq_none_iff : digits? t = none ↔ ∀ c ∈ t.head?, isDigit c = false := by
  cases t with
  | nil => simp [digits?]
  | cons c t => cases hc : isDigit c <;> simp [digits?, hc]

theorem isLocal_digits? : IsLocal digits? := by
  intro t u hu
  have hu' : ∀ c ∈ u.head?, isDigit c = false := fun c hc => (hu c hc).1
  cases h : digits? t with
  | none =>
    rw [digits?_eq_none_iff] at h
    rw [Option.map_none, digits?_eq_none_iff, List.head?_append]
    cases t with
    | nil => exact hu'
    | cons d t => exact h
  | some p =>
    obtain ⟨ds, r⟩ := p
    obtain ⟨rfl, hds, hr⟩ := digits?_eq_some_iff.1 h
    rw [Option.map_some, List.append_assoc, digits?_append hds]
    rw [List.head?_append]
    cases r with
    | nil => exact hu'
    | cons d r => exact hr

/-! ### Numbers -/

/-- An optional sign is at most one character. -/
theorem sign_eq (t : Text) :
    t = (sign t).1 ++ (sign t).2 ∧ (sign t).1 ∈ [[], ['+'], ['-']] := by
  unfold sign
  split <;> simp

theorem sign_of_ne (h : ∀ c ∈ t.head?, c ≠ '+' ∧ c ≠ '-') : sign t = ([], t) := by
  unfold sign
  split
  · exact absurd rfl (h _ rfl).1
  · exact absurd rfl (h _ rfl).2
  · rfl

theorem sign_append (hu : Stops u) : sign (t ++ u) = ((sign t).1, (sign t).2 ++ u) := by
  cases t with
  | nil =>
    rw [List.nil_append, sign_of_ne fun c hc => (hu c hc).2.2.2]
    rfl
  | cons c t =>
    by_cases h₁ : c = '+'
    · rw [h₁]; rfl
    · by_cases h₂ : c = '-'
      · rw [h₂]; rfl
      · have hc : ∀ d ∈ some c, d ≠ '+' ∧ d ≠ '-' := by
          rintro d ⟨⟩
          exact ⟨h₁, h₂⟩
        rw [sign_of_ne (t := c :: t) hc, List.cons_append,
          sign_of_ne (t := c :: (t ++ u)) hc]

theorem isLocal_fraction? : IsLocal fraction? := by
  intro t u hu
  cases t with
  | nil =>
    cases u with
    | nil => rfl
    | cons c u => simp [fraction?, (stops_cons.1 hu).2.2.1]
  | cons c t =>
    by_cases hc : c = '.'
    · subst hc
      simp only [List.cons_append, fraction?, isLocal_digits? t u hu, Option.map_map]
      rfl
    · simp [fraction?, hc]

theorem isLocal_exponent? : IsLocal exponent? := by
  intro t u hu
  cases t with
  | nil =>
    cases u with
    | nil => rfl
    | cons c u =>
      have hc : (c == 'e' || c == 'E') = false := by
        have hw := (stops_cons.1 hu).2.1
        by_contra h
        simp only [Bool.not_eq_false, Bool.or_eq_true, beq_iff_eq] at h
        rcases h with rfl | rfl <;> exact absurd hw (by decide)
      simp [exponent?, hc]
  | cons c t =>
    simp only [List.cons_append, exponent?, sign_append hu]
    split
    · rw [isLocal_digits? _ u hu, Option.map_map, Option.map_map]
      rfl
    · rfl

theorem isLocal_scientific? : IsLocal scientific? := by
  intro t u hu
  simp only [scientific?, isLocal_digits? t u hu]
  cases digits? t with
  | none => rfl
  | some p =>
    simp only [Option.map_some, bind, Option.bind_some, isLocal_fraction? p.2 u hu]
    cases fraction? p.2 with
    | none =>
      simp only [Option.map_none, Option.getD_none, isLocal_exponent? p.2 u hu]
      cases exponent? p.2 <;> rfl
    | some f =>
      simp only [Option.map_some, Option.getD_some, isLocal_exponent? f.2 u hu]
      cases exponent? f.2 <;> rfl

/-- An exponent is a letter, perhaps a sign, and digits. -/
theorem exists_of_exponent? (h : exponent? t = some (s, r)) :
    ∃ e sgn ds, s = e :: (sgn ++ ds) ∧ t = s ++ r ∧ (e = 'e' ∨ e = 'E') ∧
      sgn ∈ [[], ['+'], ['-']] ∧ IsDigits ds ∧ ∀ c ∈ r.head?, isDigit c = false := by
  cases t with
  | nil => simp [exponent?] at h
  | cons e t =>
    simp only [exponent?] at h
    split at h
    case isFalse => simp at h
    case isTrue he =>
      obtain ⟨⟨ds, r'⟩, hds, heq⟩ := Option.map_eq_some_iff.1 h
      obtain ⟨rfl, rfl⟩ := Prod.mk.inj heq
      obtain ⟨hsign, hmem⟩ := sign_eq t
      obtain ⟨hr, hd, hstop⟩ := digits?_eq_some_iff.1 hds
      refine ⟨e, (sign t).1, ds, rfl, ?_, by simpa using he, hmem, hd, hstop⟩
      rw [List.cons_append, List.append_assoc, ← hr, ← hsign]

/-- A fraction is a point and digits. -/
theorem exists_of_fraction? (h : fraction? t = some (s, r)) :
    ∃ ds, s = '.' :: ds ∧ t = s ++ r ∧ IsDigits ds ∧ ∀ c ∈ r.head?, isDigit c = false := by
  unfold fraction? at h
  split at h
  case h_1 t =>
    obtain ⟨⟨ds, r'⟩, hds, heq⟩ := Option.map_eq_some_iff.1 h
    obtain ⟨rfl, rfl⟩ := Prod.mk.inj heq
    obtain ⟨hr, hd, hstop⟩ := digits?_eq_some_iff.1 hds
    exact ⟨ds, rfl, by rw [List.cons_append, ← hr], hd, hstop⟩
  case h_2 => simp at h

/-- An optional fraction: nothing, or a point and digits. -/
def IsFraction (frac : Text) : Prop := frac = [] ∨ ∃ ds, frac = '.' :: ds ∧ IsDigits ds

/-- A number with an exponent: digits, perhaps a fraction, a letter, perhaps a sign, and digits. -/
theorem exists_of_scientific? (h : scientific? t = some (s, r)) :
    ∃ whole frac e sgn ds, s = whole ++ frac ++ e :: (sgn ++ ds) ∧ t = s ++ r ∧ IsDigits whole ∧
      IsFraction frac ∧ (e = 'e' ∨ e = 'E') ∧ sgn ∈ [[], ['+'], ['-']] ∧ IsDigits ds ∧
      ∀ c ∈ r.head?, isDigit c = false := by
  simp only [scientific?, bind, Option.bind_eq_some_iff, pure, Option.some.injEq,
    Prod.mk.injEq] at h
  obtain ⟨⟨whole, r₁⟩, h₁, ⟨exp, r₃⟩, h₃, rfl, rfl⟩ := h
  obtain ⟨rfl, hw, -⟩ := digits?_eq_some_iff.1 h₁
  obtain ⟨e, sgn, ds, rfl, hr₃, he, hsgn, hds, hstop⟩ := exists_of_exponent? h₃
  obtain ⟨hr₁, hfrac⟩ : r₁ = ((fraction? r₁).getD ([], r₁)).1 ++ ((fraction? r₁).getD ([], r₁)).2 ∧
      IsFraction ((fraction? r₁).getD ([], r₁)).1 := by
    cases hf : fraction? r₁ with
    | none => exact ⟨rfl, Or.inl rfl⟩
    | some f =>
      obtain ⟨ds', hs, ht, hd, -⟩ := exists_of_fraction? (s := f.1) (r := f.2) hf
      exact ⟨ht, Or.inr ⟨ds', hs, hd⟩⟩
  refine ⟨whole, ((fraction? r₁).getD ([], r₁)).1, e, sgn, ds, rfl, ?_, hw, hfrac, he, hsgn, hds,
    hstop⟩
  simp only at hr₃
  rw [List.append_assoc, List.append_assoc, ← hr₃, ← hr₁]

theorem exponent?_append {e : Char} {sgn : Text} (he : e = 'e' ∨ e = 'E')
    (hsgn : sgn ∈ [[], ['+'], ['-']]) (hds : IsDigits ds) (hr : ∀ c ∈ r.head?, isDigit c = false) :
    exponent? (e :: (sgn ++ ds) ++ r) = some (e :: (sgn ++ ds), r) := by
  have he' : (e == 'e' || e == 'E') = true := by simpa using he
  have hsign : sign (sgn ++ ds ++ r) = (sgn, ds ++ r) := by
    obtain ⟨d, ds, rfl⟩ := List.exists_cons_of_ne_nil hds.1
    have hd : isDigit d = true := hds.2 d List.mem_cons_self
    simp only [List.mem_cons, List.not_mem_nil, or_false] at hsgn
    rcases hsgn with rfl | rfl | rfl
    · refine sign_of_ne fun c hc => ?_
      obtain rfl := Option.some.inj hc
      constructor <;> (rintro rfl; exact absurd hd (by decide))
    · rfl
    · rfl
  rw [List.cons_append, exponent?, if_pos he', hsign]
  simp only [digits?_append hds hr, Option.map_some]

theorem fraction?_append (hds : IsDigits ds) (hr : ∀ c ∈ r.head?, isDigit c = false) :
    fraction? ('.' :: ds ++ r) = some ('.' :: ds, r) := by
  rw [List.cons_append, fraction?, digits?_append hds hr, Option.map_some]

theorem isDigit_of_isExponentLetter {e : Char} (he : e = 'e' ∨ e = 'E') : isDigit e = false := by
  rcases he with rfl | rfl <;> decide

/-- A number with an exponent is read up to where its digits end. -/
theorem scientific?_append {whole frac sgn : Text} {e : Char} (hw : IsDigits whole)
    (hf : IsFraction frac) (he : e = 'e' ∨ e = 'E') (hsgn : sgn ∈ [[], ['+'], ['-']])
    (hds : IsDigits ds) (hr : ∀ c ∈ r.head?, isDigit c = false) :
    scientific? (whole ++ frac ++ e :: (sgn ++ ds) ++ r)
      = some (whole ++ frac ++ e :: (sgn ++ ds), r) := by
  have hstop : ∀ c ∈ (e :: (sgn ++ ds) ++ r).head?, isDigit c = false := by
    rintro c ⟨⟩
    exact isDigit_of_isExponentLetter he
  have hexp := exponent?_append he hsgn hds hr
  rcases hf with rfl | ⟨ds', rfl, hds'⟩
  · have hfrac : fraction? (e :: (sgn ++ ds) ++ r) = none := by
      rcases he with rfl | rfl <;> rfl
    have hwhole := digits?_append hw hstop
    rw [List.append_nil, List.append_assoc]
    simp only [scientific?, hwhole, bind, Option.bind_some, hfrac, Option.getD_none, hexp,
      List.append_nil, pure]
  · have hfrac := fraction?_append hds' hstop
    have hwhole : digits? (whole ++ ('.' :: ds' ++ (e :: (sgn ++ ds) ++ r)))
        = some (whole, '.' :: ds' ++ (e :: (sgn ++ ds) ++ r)) :=
      digits?_append hw (by rintro c ⟨⟩; decide)
    rw [List.append_assoc, List.append_assoc]
    simp only [scientific?, hwhole, bind, Option.bind_some, hfrac, Option.getD_some, hexp, pure,
      List.append_assoc]

/-! ### Quoted spans -/

/-- A character that is no backslash closes the span or belongs to it. -/
theorem closing?_cons_of_ne (hc : c ≠ '\\') : closing? q (c :: t) =
    if c = q then some ([c], t) else (closing? q t).map fun p => (c :: p.1, p.2) := by
  rw [closing?]
  rintro d r rfl
  exact absurd rfl hc

/-- What is left of a span: characters and escapes up to the quote that closes it. -/
inductive Closes (q : Char) : Text → Prop
  | close : Closes q [q]
  | escape {c : Char} {s : Text} : c ≠ '\n' → Closes q s → Closes q ('\\' :: c :: s)
  | plain {c : Char} {s : Text} : c ≠ q → c ≠ '\\' → Closes q s → Closes q (c :: s)

/-- What is read closes the span. -/
theorem closes_of_closing? (h : closing? q t = some (s, r)) : Closes q s := by
  fun_induction closing? q t generalizing s r with
  | case1 => simp at h
  | case2 => simp at h
  | case3 c t hc ih =>
    obtain ⟨⟨s', r'⟩, hp, heq⟩ := Option.map_eq_some_iff.1 h
    obtain ⟨rfl, rfl⟩ := Prod.mk.inj heq
    exact .escape hc (ih hp)
  | case4 t =>
    obtain ⟨rfl, rfl⟩ := Prod.mk.inj (Option.some.inj h)
    exact .close
  | case5 c t hne hc ih =>
    obtain ⟨⟨s', r'⟩, hp, heq⟩ := Option.map_eq_some_iff.1 h
    obtain ⟨rfl, rfl⟩ := Prod.mk.inj heq
    have hc' : c ≠ '\\' := by
      rintro rfl
      cases t with
      | nil => simp [closing?] at hp
      | cons d t => exact hne d t rfl rfl
    exact .plain hc hc' (ih hp)

/-- A span ends with its quote. -/
theorem getLast?_of_closes (h : Closes q s) : s.getLast? = some q := by
  induction h with
  | close => rfl
  | @escape c s _ hs ih => rw [List.getLast?_cons, List.getLast?_cons, ih]; rfl
  | @plain c s _ _ hs ih => rw [List.getLast?_cons, ih]; rfl

/-- What closes a span is read, whatever comes after it. -/
theorem Closes.closing?_append (hq : q ≠ '\\') (h : Closes q s) (u : Text) :
    closing? q (s ++ u) = some (s, u) := by
  induction h with
  | close => rw [List.singleton_append, closing?_cons_of_ne hq, if_pos rfl]
  | escape hc _ ih => simp only [List.cons_append, closing?, if_neg hc, ih, Option.map_some]
  | plain hc hc' _ ih =>
    rw [List.cons_append, closing?_cons_of_ne hc', if_neg hc, ih, Option.map_some]

theorem Closes.span?_append (hq : q ≠ '\\') (h : Closes q s) (u : Text) :
    span? q (q :: s ++ u) = some (q :: s, u) := by
  rw [List.cons_append, span?, if_pos rfl, h.closing?_append hq, Option.map_some]

theorem Closes.span?_eq (hq : q ≠ '\\') (h : Closes q s) : span? q (q :: s) = some (q :: s, []) := by
  have hspan := h.span?_append hq []
  rwa [List.append_nil] at hspan

/-- What comes after a span does not change where it closes. -/
theorem closing?_append_of_some (hq : q ≠ '\\') (h : closing? q t = some (s, r)) (u : Text) :
    closing? q (t ++ u) = some (s, r ++ u) := by
  rw [← append_of_closing? h, List.append_assoc]
  exact (closes_of_closing? h).closing?_append hq (r ++ u)

/-- Without a quote nothing closes. -/
theorem closing?_eq_none (h : q ∉ t) : closing? q t = none := by
  fun_induction closing? q t with
  | case1 => rfl
  | case2 => rfl
  | case3 c t hc ih => rw [ih fun hm => h (by simp [hm]), Option.map_none]
  | case4 t => exact absurd List.mem_cons_self h
  | case5 c t _ _ ih => rw [ih fun hm => h (List.mem_cons_of_mem c hm), Option.map_none]

/-- A span that is open stays open without a quote. -/
theorem closing?_append_eq_none (h : closing? q t = none) (hu : q ∉ u) :
    closing? q (t ++ u) = none := by
  fun_induction closing? q t with
  | case1 => exact closing?_eq_none hu
  | case2 t => rfl
  | case3 c t hc ih =>
    simp only [List.cons_append, closing?, if_neg hc, ih (Option.map_eq_none_iff.1 h),
      Option.map_none]
  | case4 t => simp at h
  | case5 c t hne hc ih =>
    -- A last backslash escapes the first character of what follows.
    by_cases hb : c = '\\' ∧ t = []
    · obtain ⟨rfl, rfl⟩ := hb
      refine closing?_eq_none fun hm => ?_
      rcases List.mem_cons.1 hm with rfl | hm
      · exact hc rfl
      · exact hu hm
    · have hc' : c ≠ '\\' := by
        rintro rfl
        cases t with
        | nil => exact hb ⟨rfl, rfl⟩
        | cons d t => exact hne d t rfl rfl
      rw [List.cons_append, closing?_cons_of_ne hc', if_neg hc,
        ih (Option.map_eq_none_iff.1 h), Option.map_none]

theorem span?_append_of_some (hq : q ≠ '\\') (h : span? q t = some (s, r)) (u : Text) :
    span? q (t ++ u) = some (s, r ++ u) := by
  cases t with
  | nil => simp [span?] at h
  | cons c t =>
    simp only [span?] at h
    split at h
    case isFalse => simp at h
    case isTrue hc =>
      obtain ⟨⟨s', r'⟩, hp, heq⟩ := Option.map_eq_some_iff.1 h
      obtain ⟨rfl, rfl⟩ := Prod.mk.inj heq
      simp only [List.cons_append, span?, if_pos hc, closing?_append_of_some hq hp, Option.map_some]

theorem span?_append_eq_none (h : span? q t = none) (hu : q ∉ u) : span? q (t ++ u) = none := by
  cases t with
  | nil =>
    cases u with
    | nil => rfl
    | cons c u =>
      rw [List.nil_append, span?, if_neg fun hc => hu (by rw [hc]; exact List.mem_cons_self)]
  | cons c t =>
    simp only [List.cons_append, span?] at h ⊢
    split
    case isFalse => rfl
    case isTrue hc =>
      rw [if_pos hc, Option.map_eq_none_iff] at h
      rw [closing?_append_eq_none h hu, Option.map_none]

end VarDecl.Literal
