import VarDecl.Expression.Fragment
import VarDecl.Proofs.Literal.Kind
import VarDecl.Proofs.Expression.Fragments
import VarDecl.Proofs.Program.Checker

/-!
# The texts of constants

* `closes_flatMap_render`: the glyphs of a quoted constant and its last quote close a span;
* `Numeral.isNumber`: a number has the shape of a number;
* `Constant.kind?_render`: the text of a constant is a literal of its kind;
* `Numeral.fragment?_append`: a number without its sign is one fragment.
-/

namespace VarDecl.Program

open Text Literal Expression

variable {quote c : Char} {r : Text}

/-! ### Quoted constants -/

theorem closes_flatMap_render (gs : List (Glyph quote)) :
    Closes quote (gs.flatMap Glyph.render ++ [quote]) := by
  induction gs with
  | nil => exact .close
  | cons g gs ih =>
    rw [List.flatMap_cons, List.append_assoc]
    cases g with
    | plain c h => exact .plain h.1 h.2.1 ih
    | escaped c h => exact .escape h ih

theorem Glyph.noNewline (g : Glyph quote) : '\n' ∉ g.render := by
  cases g with
  | plain c h =>
    intro hm
    exact h.2.2 (List.mem_singleton.1 hm).symm
  | escaped c h =>
    intro hm
    rcases List.mem_cons.1 hm with hm | hm
    · exact absurd hm (by decide)
    · exact h (List.mem_singleton.1 hm).symm

/-- What is left of a quoted constant after its first quote. -/
theorem Constant.exists_closes_of_quoted :
    (∀ gs, ∃ s, Constant.render (.string gs) = '"' :: s ∧ Closes '"' s ∧ '\n' ∉ s) ∧
      ∀ g, ∃ s, Constant.render (.char g) = '\'' :: s ∧ Closes '\'' s ∧ '\n' ∉ s := by
  constructor
  · intro gs
    refine ⟨_, rfl, closes_flatMap_render gs, fun hm => ?_⟩
    rcases List.mem_append.1 hm with hm | hm
    · obtain ⟨g, -, hg⟩ := List.mem_flatMap.1 hm
      exact g.noNewline hg
    · exact absurd (List.mem_singleton.1 hm) (by decide)
  · intro g
    refine ⟨_, rfl, ?_, fun hm => ?_⟩
    · have := closes_flatMap_render [g]
      rwa [List.flatMap_cons, List.flatMap_nil, List.append_nil] at this
    · rcases List.mem_append.1 hm with hm | hm
      · exact g.noNewline hm
      · exact absurd (List.mem_singleton.1 hm) (by decide)

/-! ### Numbers -/

theorem Digits.isDigits (ds : Digits) : IsDigits ds.text :=
  ⟨ds.ne_nil, fun c hc => isDigit_of_ascii (ds.isDigit c hc)⟩

theorem Sign.mem (s : Sign) : s.render ∈ [[], ['+'], ['-']] := by cases s <;> decide

theorem Numeral.isFraction (n : Numeral) : IsFraction n.fractionText := by
  unfold Numeral.fractionText
  split
  case h_1 ds _ => exact Or.inr ⟨ds.text, rfl, ds.isDigits⟩
  case h_2 => exact Or.inl rfl

theorem Numeral.isExponent (n : Numeral) : IsExponent n.exponentText := by
  unfold Numeral.exponentText
  split
  case h_1 e _ =>
    refine Or.inr ⟨_, e.sign.render, e.digits.text, rfl, ?_, e.sign.mem, e.digits.isDigits⟩
    cases e.capital
    · exact Or.inl rfl
    · exact Or.inr rfl
  case h_2 => exact Or.inl rfl

theorem Numeral.head?_magnitude (n : Numeral) : ∃ d ∈ n.magnitude.head?, isDigit d = true := by
  obtain ⟨d, ds, hd⟩ := List.exists_cons_of_ne_nil n.whole.ne_nil
  refine ⟨d, by rw [Numeral.magnitude, hd]; rfl, n.whole.isDigits.2 d ?_⟩
  rw [hd]
  exact List.mem_cons_self

theorem Numeral.sign_render (n : Numeral) :
    Literal.sign (n.sign.render ++ n.magnitude) = (n.sign.render, n.magnitude) := by
  cases n.sign with
  | plus => rfl
  | minus => rfl
  | none =>
    refine sign_of_ne fun c hc => ?_
    obtain ⟨d, hd, hdigit⟩ := n.head?_magnitude
    obtain rfl := Option.some.inj (hd.symm.trans hc)
    exact ⟨isDigit_ne hdigit (by decide), isDigit_ne hdigit (by decide)⟩

/-- A number has the shape of a number. -/
theorem Numeral.isNumber (n : Numeral) :
    IsNumber (n.sign.render ++ n.magnitude) n.sign.render n.whole.text n.fractionText n.exponentText
      [] where
  eq := by rw [List.append_nil, Numeral.magnitude]
  sign := by rw [n.sign_render]
  sign_mem := n.sign.mem
  whole := n.whole.isDigits
  fraction := n.isFraction
  exponent := n.isExponent
  atEnd := rfl

theorem Numeral.kind?_render (n : Numeral) :
    kind? (n.sign.render ++ n.magnitude) = some (Constant.number n).kind := by
  rw [n.isNumber.kind?, Constant.kind, Numeral.fractionText, Numeral.exponentText]
  cases n.fraction with
  | some ds => rfl
  | none =>
    cases n.exponent with
    | some e => rfl
    | none => rfl

/-- The sign of a number does not change its kind. -/
theorem Numeral.kind?_magnitude (n : Numeral) :
    kind? n.magnitude = some (Constant.number n).kind :=
  Numeral.kind?_render { n with sign := .none }

/-- The text of a constant is a literal of its kind. -/
theorem Constant.kind?_render (c : Constant) : kind? c.render = some c.kind := by
  cases c with
  | string gs =>
    obtain ⟨s, hs, hcloses, -⟩ := Constant.exists_closes_of_quoted.1 gs
    rw [hs, Literal.kind?, if_pos (isString_of_closes hcloses)]
    rfl
  | char g =>
    have hstring : ¬isString (Constant.render (.char g)) = true := fun h => by
      cases (head?_of_isString h)
    have hchar : isChar (Constant.render (.char g)) = true := by
      cases g with
      | plain c h => simp [Constant.render, Glyph.render, isChar, h.1, h.2.1]
      | escaped c h => simp [Constant.render, Glyph.render, isChar, h]
    rw [Literal.kind?, if_neg hstring, if_pos hchar]
    rfl
  | boolean b => cases b <;> decide
  | number n => exact n.kind?_render

/-! ### Numbers as fragments -/

theorem exponent?_of_stops (hr : Stops r) : exponent? r = none := by
  have := isLocal_exponent? [] r hr
  rwa [List.nil_append] at this

/-- Without an exponent, a number is a run of word characters and points. -/
theorem Numeral.wordRun?_append (n : Numeral) (h : n.exponentText = []) (hr : Stops r) :
    wordRun? (n.magnitude ++ r) = some (n.magnitude, r) := by
  have hall : ∀ c ∈ n.magnitude, isFragmentChar c = true := by
    intro c hc
    rw [Numeral.magnitude, h, List.append_nil] at hc
    rcases List.mem_append.1 hc with hc | hc
    · exact isFragmentChar_of_isDigit (n.whole.isDigit c hc)
    · unfold Numeral.fractionText at hc
      split at hc
      case h_1 ds _ =>
        rcases List.mem_cons.1 hc with rfl | hc
        · decide
        · exact isFragmentChar_of_isDigit (ds.isDigit c hc)
      case h_2 => cases hc
  have hne : n.magnitude ≠ [] := by
    obtain ⟨d, hd, -⟩ := n.head?_magnitude
    rintro h0
    rw [h0] at hd
    cases hd
  have hword : wordRun? n.magnitude = some (n.magnitude, []) := by
    simp [wordRun?, List.takeWhile_eq_self_iff.2 hall, List.dropWhile_eq_nil_iff.2 hall, hne]
  rw [isLocal_wordRun? n.magnitude r hr, hword]
  rfl

theorem Numeral.scientific?_append (n : Numeral) (hr : Stops r) :
    scientific? (n.magnitude ++ r) =
      if n.exponentText = [] then none else some (n.magnitude, r) := by
  have hdigit : ∀ c ∈ r.head?, isDigit c = false := fun c hc => (hr c hc).1
  split
  case isTrue h =>
    -- After the digits and the fraction there is no exponent letter.
    rw [Numeral.magnitude, h, List.append_nil]
    rcases n.isFraction with hf | ⟨ds, hf, hds⟩
    · have hfrac : fraction? r = none := by
        have := isLocal_fraction? [] r hr
        rwa [List.nil_append] at this
      rw [hf, List.append_nil]
      simp only [scientific?, digits?_append n.whole.isDigits hdigit, hfrac, bind,
        Option.bind_some, Option.getD_none, exponent?_of_stops hr, Option.bind_none]
    · have hwhole : digits? (n.whole.text ++ ('.' :: ds ++ r))
          = some (n.whole.text, '.' :: ds ++ r) :=
        digits?_append n.whole.isDigits (by rintro c ⟨⟩; decide)
      rw [hf, List.append_assoc]
      simp only [scientific?, hwhole, fraction?_append hds hdigit, bind, Option.bind_some,
        Option.getD_some, exponent?_of_stops hr, Option.bind_none]
  case isFalse h =>
    obtain ⟨e, sgn, ds, he, hletter, hsgn, hds⟩ := n.isExponent.resolve_left h
    rw [Numeral.magnitude, he]
    exact Literal.scientific?_append n.whole.isDigits n.isFraction hletter hsgn hds hdigit

/-- A number without its sign is one fragment. -/
theorem Numeral.fragment?_append (n : Numeral) (hr : Stops r) :
    fragment? (n.magnitude ++ r) = some (n.magnitude, r) := by
  have hsci := n.scientific?_append hr
  obtain ⟨d, hd, hdigit⟩ := n.head?_magnitude
  have hor : fragment? (n.magnitude ++ r)
      = (scientific? (n.magnitude ++ r)).or (wordRun? (n.magnitude ++ r)) := by
    cases hm : n.magnitude with
    | nil =>
      rw [hm] at hd
      cases hd
    | cons d' ds =>
      rw [hm] at hd
      obtain rfl := Option.some.inj hd
      exact fragment?_of_ne_quote (isDigit_ne hdigit (by decide)) (isDigit_ne hdigit (by decide))
  rw [hor, hsci]
  -- A number without an exponent is left to the reader of words.
  by_cases he : n.exponentText = []
  · rw [if_pos he, Option.none_or, n.wordRun?_append he hr]
  · rw [if_neg he, Option.some_or]

end VarDecl.Program
