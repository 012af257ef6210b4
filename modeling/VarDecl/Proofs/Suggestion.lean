import Mathlib.Algebra.Order.Group.Int
import Mathlib.Data.Prod.Lex
import Mathlib.Tactic.NormNum.Ineq
import VarDecl.Suggestion

/-!
# Suggestions and their floor

A higher floor forbids suggestions and brings no new ones: the best candidate is the same wherever
the search for it starts, as long as it reaches the floor.

* `ScoreOrder`: what the search needs to know about the order of scores. Not all scores have to be
  comparable, and floating numbers are such an order (`rank`, `le_iff`);
* `Raised`: how far the searches from two floors are, after the same candidates;
* `closest?_of_le`, `suggest?_of_le`: what is found from the higher floor;
* `mem_of_suggest?`: a suggestion is one of the candidates.
-/

namespace VarDecl.Suggestion

/-! ### Orders of scores -/

/-- An order in which scores may be incomparable. Those above a third one are comparable. -/
class ScoreOrder (β : Type) [LE β] [LT β] : Prop where
  le_trans {x y z : β} : x ≤ y → y ≤ z → x ≤ z
  le_or_le {x y z : β} : x ≤ y → x ≤ z → y ≤ z ∨ z ≤ y
  lt_iff {x y : β} : x < y ↔ x ≤ y ∧ ¬ y ≤ x

section ScoreOrder

variable {β : Type} [LE β] [LT β] [ScoreOrder β] {x y z : β}

theorem lt_of_lt_of_le (hxy : x < y) (hyz : y ≤ z) : x < z := by
  obtain ⟨hle, hnot⟩ := ScoreOrder.lt_iff.1 hxy
  refine ScoreOrder.lt_iff.2 ⟨ScoreOrder.le_trans hle hyz, fun hzx => ?_⟩
  exact hnot (ScoreOrder.le_trans hyz hzx)

/-- Above a common score, scores are less or greater. -/
theorem lt_of_not_le (hy : x ≤ y) (hz : x ≤ z) (h : ¬ z ≤ y) : y < z :=
  ScoreOrder.lt_iff.2 ⟨(ScoreOrder.le_or_le hy hz).resolve_right h, h⟩

end ScoreOrder

/-! ### Floating numbers -/

section Floating

open Float.Model

/-- Where a floating number stands among all of them; what is not a number stands nowhere. -/
def rank : UnpackedFloat → Option (ℤ ×ₗ ℤ ×ₗ ℤ)
  | .notANumber => none
  | .infinity .negative => some (toLex (-2, toLex (0, 0)))
  | .finite .negative m e _ => some (toLex (-1, toLex (-e, -m)))
  | .zero _ => some (toLex (0, toLex (0, 0)))
  | .finite .positive m e _ => some (toLex (1, toLex (e, m)))
  | .infinity .positive => some (toLex (2, toLex (0, 0)))

theorem isLE_then_compare {d e : ℤ} {m n : ℕ} :
    ((compare d e).then (compare m n)).isLE = true ↔ d < e ∨ d = e ∧ m ≤ n := by
  rw [Ordering.isLE_then_iff_or, compare_lt_iff_lt, compare_eq_iff_eq, Std.isLE_compare]

theorem compare_swap (a b : UnpackedFloat) : b.compare a = (a.compare b).map Ordering.swap := by
  cases a with
  | notANumber => cases b <;> rfl
  | infinity s =>
    cases s <;> cases b with
    | infinity t => cases t <;> rfl
    | finite t _ _ _ => cases t <;> rfl
    | _ => rfl
  | zero s =>
    cases b with
    | infinity t => cases t <;> rfl
    | finite t _ _ _ => cases t <;> rfl
    | _ => rfl
  | finite s m e hm =>
    cases s <;> cases b with
    | infinity t => cases t <;> rfl
    | finite t n d hn =>
      cases t <;> dsimp only [UnpackedFloat.compare] <;>
        simp [Ordering.swap_then, ← Std.OrientedOrd.eq_swap]
    | _ => rfl

/-- Floating numbers are ordered by their ranks. -/
theorem le_iff (a b : UnpackedFloat) :
    a.le b = true ↔ ∃ i ∈ rank a, ∃ j ∈ rank b, i ≤ j := by
  rw [UnpackedFloat.le]
  cases a with
  | notANumber =>
    have hcompare : UnpackedFloat.notANumber.compare b = none := by cases b <;> rfl
    have hrank : rank .notANumber = none := rfl
    simp [hcompare, hrank]
  | infinity s =>
    cases s <;> cases b with
    | infinity t =>
      cases t <;> dsimp only [UnpackedFloat.compare, rank] <;>
        simp [Prod.Lex.toLex_le_toLex] <;> decide
    | finite t _ _ _ =>
      cases t <;> dsimp only [UnpackedFloat.compare, rank] <;> simp [Prod.Lex.toLex_le_toLex]
    | _ => dsimp only [UnpackedFloat.compare, rank]; simp [Prod.Lex.toLex_le_toLex]
  | zero s =>
    cases b with
    | infinity t | finite t _ _ _ =>
      cases t <;> dsimp only [UnpackedFloat.compare, rank] <;> simp [Prod.Lex.toLex_le_toLex]
    | _ => dsimp only [UnpackedFloat.compare, rank]; simp
  | finite s m e hm =>
    cases s <;> cases b with
    | infinity t =>
      cases t <;> dsimp only [UnpackedFloat.compare, rank] <;> simp [Prod.Lex.toLex_le_toLex]
    | finite t n d hn =>
      -- Numbers of one sign are compared by exponent and mantissa, negative ones the other way.
      cases t <;> dsimp only [UnpackedFloat.compare, rank] <;>
        simp [Prod.Lex.toLex_le_toLex, Ordering.swap_then, ← Std.OrientedOrd.eq_swap,
          isLE_then_compare, @eq_comm _ d e]
    | _ => dsimp only [UnpackedFloat.compare, rank]; simp [Prod.Lex.toLex_le_toLex]

theorem float_le_iff (x y : Float) :
    x ≤ y ↔ ∃ i ∈ rank x.toModel.unpack, ∃ j ∈ rank y.toModel.unpack, i ≤ j := by
  rw [← le_iff]
  exact decide_eq_true_iff

theorem float_lt_iff (x y : Float) : x < y ↔ x ≤ y ∧ ¬ y ≤ x := by
  have hlt : x < y ↔ x.toModel.unpack.lt y.toModel.unpack = true := decide_eq_true_iff
  have hle : ∀ u v : Float, u ≤ v ↔ u.toModel.unpack.le v.toModel.unpack = true := fun _ _ =>
    decide_eq_true_iff
  rw [hlt, hle, hle, UnpackedFloat.lt, UnpackedFloat.le, UnpackedFloat.le,
    compare_swap x.toModel.unpack]
  cases x.toModel.unpack.compare y.toModel.unpack with
  | none => simp
  | some o => cases o <;> simp

/-- Floating numbers are comparable unless one is not a number. -/
instance : ScoreOrder Float where
  le_trans := by
    intro x y z hxy hyz
    obtain ⟨i, hi, j, hj, hij⟩ := (float_le_iff x y).1 hxy
    obtain ⟨j', hj', k, hk, hjk⟩ := (float_le_iff y z).1 hyz
    obtain rfl := Option.mem_unique hj hj'
    exact (float_le_iff x z).2 ⟨i, hi, k, hk, hij.trans hjk⟩
  le_or_le := by
    intro x y z hxy hxz
    obtain ⟨-, -, j, hj, -⟩ := (float_le_iff x y).1 hxy
    obtain ⟨-, -, k, hk, -⟩ := (float_le_iff x z).1 hxz
    refine (le_total j k).imp (fun h => ?_) fun h => ?_
    · exact (float_le_iff y z).2 ⟨j, hj, k, hk, h⟩
    · exact (float_le_iff z y).2 ⟨k, hk, j, hj, h⟩
  lt_iff := float_lt_iff _ _

end Floating

/-! ### Two floors -/

section Closest

variable {α β : Type} [LE β] [LT β] [DecidableLE β] [DecidableLT β]
  {score : α → β} {floor : β} {s t : Option α × β}

/-- How far two searches are. The second one has started from `floor`, the first one below it, and
both have seen the same candidates. -/
inductive Raised (score : α → β) (floor : β) : Option α × β → Option α × β → Prop
  | unset {v : β} (h : v ≤ floor) : Raised score floor (none, v) (none, floor)
  | below {c : α} (h : score c < floor) : Raised score floor (some c, score c) (none, floor)
  | above {c : α} (h : floor ≤ score c) :
      Raised score floor (some c, score c) (some c, score c)

/-- One more candidate. -/
theorem Raised.better [ScoreOrder β] (h : Raised score floor s t) (c : α) :
    Raised score floor (better score s c) (better score t c) := by
  cases h with
  | @unset v h =>
    by_cases hfloor : floor ≤ score c
    · have hv : v ≤ score c := ScoreOrder.le_trans h hfloor
      simp only [Suggestion.better, hfloor, hv, Option.isNone_none, true_or, and_self, if_true]
      exact .above hfloor
    · simp only [Suggestion.better, hfloor, false_and, if_false]
      split_ifs with hv
      · exact .below (lt_of_not_le hv.1 h hfloor)
      · exact .unset h
  | @below b h =>
    by_cases hfloor : floor ≤ score c
    · have hlt : score b < score c := lt_of_lt_of_le h hfloor
      have hle : score b ≤ score c := (ScoreOrder.lt_iff.1 hlt).1
      simp only [Suggestion.better, hfloor, hle, hlt, Option.isNone_none, true_or, or_true,
        and_self, if_true]
      exact .above hfloor
    · simp only [Suggestion.better, hfloor, false_and, if_false]
      split_ifs with hb
      · exact .below (lt_of_not_le hb.1 (ScoreOrder.lt_iff.1 h).1 hfloor)
      · exact .below h
  | @above b h =>
    simp only [Suggestion.better]
    split_ifs with hb
    · exact .above (ScoreOrder.le_trans h hb.1)
    · exact .above h

theorem Raised.foldl [ScoreOrder β] (h : Raised score floor s t) (cs : List α) :
    Raised score floor (cs.foldl (Suggestion.better score) s)
      (cs.foldl (Suggestion.better score) t) := by
  induction cs generalizing s t with
  | nil => exact h
  | cons c cs ih => exact ih (h.better c)

omit [DecidableLT β] in
/-- The second search has the candidate of the first one, if it reaches the floor. -/
theorem Raised.fst_eq [ScoreOrder β] (h : Raised score floor s t) :
    t.1 = s.1.filter fun c => floor ≤ score c := by
  cases h with
  | unset => rfl
  | below h => simp [Option.filter, (ScoreOrder.lt_iff.1 h).2]
  | above h => simp [Option.filter, h]

/-- From a higher floor, the same candidate is found or none. -/
theorem closest?_of_le [ScoreOrder β] {floor' : β} (h : floor ≤ floor') (cs : List α) :
    closest? score floor' cs = (closest? score floor cs).filter fun c => floor' ≤ score c :=
  ((Raised.unset h).foldl cs).fst_eq

/-- What a search finds it had found before, or it is a candidate. -/
theorem mem_of_mem_foldl {c : α} {cs : List α}
    (h : c ∈ (cs.foldl (Suggestion.better score) s).1) : c ∈ s.1 ∨ c ∈ cs := by
  induction cs generalizing s with
  | nil => exact Or.inl h
  | cons b cs ih =>
    rcases ih h with hb | hc
    · unfold Suggestion.better at hb
      split at hb
      case isTrue => exact Or.inr (List.mem_cons.2 (Or.inl (Option.some.inj hb).symm))
      case isFalse => exact Or.inl hb
    · exact Or.inr (List.mem_cons_of_mem b hc)

end Closest

/-- A suggestion is one of the known names. -/
theorem mem_of_suggest? {θ : Float} {name c : Text} {cs : List Text} (h : c ∈ suggest? θ name cs) :
    c ∈ cs :=
  (mem_of_mem_foldl h).elim (fun hnone => by cases hnone) fun hc => (List.mem_filter.1 hc).1

theorem suggest?_of_le {θ θ' : Float} (h : θ ≤ θ') (name : Text) (cs : List Text) :
    suggest? θ' name cs = (suggest? θ name cs).filter fun c => θ' ≤ similarity name c :=
  closest?_of_le h _

/-- A suggestion for a higher threshold is one for a lower threshold. -/
theorem suggest?_eq_none_or {θ θ' : Float} (h : θ ≤ θ') (name : Text) (cs : List Text) :
    suggest? θ' name cs = none ∨ suggest? θ' name cs = suggest? θ name cs := by
  rw [suggest?_of_le h]
  cases suggest? θ name cs with
  | none => exact Or.inl rfl
  | some c =>
    rw [Option.filter]
    split_ifs
    · exact Or.inr rfl
    · exact Or.inl rfl

end VarDecl.Suggestion
