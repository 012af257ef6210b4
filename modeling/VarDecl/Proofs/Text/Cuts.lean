import VarDecl.Proofs.Text.Trim

/-!
# Where a text is cut

Two texts that agree are cut at the same place if the place shows.

* `append_inj_of_head`: a run of characters of one class ends at the first that is not of it, so
  `append_cons_inj_of_notMem`: at the first `c`;
* `ofNat_append_inj`: a decimal number ends where its digits do;
* `map_inj_of_mem`: rows of texts tell the rows that they are about, if each text does.
-/

namespace VarDecl.Text

variable {p : Char → Bool} {c : Char} {t u r s : Text} {m n : Nat}

/-- Two runs of a class, each with something else behind it, are the same if the texts are. -/
theorem append_inj_of_head (ht : ∀ c ∈ t, p c = true) (hu : ∀ c ∈ u, p c = true)
    (hr : ∀ c ∈ r.head?, p c = false) (hs : ∀ c ∈ s.head?, p c = false) (h : t ++ r = u ++ s) :
    t = u ∧ r = s := by
  have htu : t = u := by
    have hrun := congrArg (List.takeWhile p) h
    rwa [List.takeWhile_append_of_pos ht, List.takeWhile_append_of_pos hu, takeWhile_eq_nil hr,
      takeWhile_eq_nil hs, List.append_nil, List.append_nil] at hrun
  subst htu
  exact ⟨rfl, List.append_cancel_left h⟩

/-- What comes before the first `c`, and behind it. -/
theorem append_cons_inj_of_notMem (ht : c ∉ t) (hu : c ∉ u) (h : t ++ c :: r = u ++ c :: s) :
    t = u ∧ r = s := by
  have hne : ∀ {v : Text}, c ∉ v → ∀ d ∈ v, (d != c) = true := fun hv d hd =>
    bne_iff_ne.2 fun hdc => hv (hdc ▸ hd)
  have hhead : ∀ {v : Text}, ∀ d ∈ (c :: v).head?, (d != c) = false := by
    rintro v d ⟨rfl⟩
    exact bne_self_eq_false c
  obtain ⟨rfl, hrs⟩ := append_inj_of_head (hne ht) (hne hu) hhead hhead h
  exact ⟨rfl, List.tail_eq_of_cons_eq hrs⟩

/-! ### Decimal numbers -/

/-- What may follow a number without being read as part of it. -/
def EndsNumber (t : Text) : Prop := ∀ c ∈ t.head?, c.isDigit = false

theorem isDigit_of_mem_ofNat (h : c ∈ ofNat n) : c.isDigit = true :=
  Nat.isDigit_of_mem_toDigits (by decide) (by decide) h

/-- A number holds only digits. -/
theorem notMem_ofNat (hc : c.isDigit = false) (n : Nat) : c ∉ ofNat n := fun hm =>
  Bool.noConfusion ((isDigit_of_mem_ofNat hm).symm.trans hc)

theorem ofNat_ne_nil (n : Nat) : ofNat n ≠ [] := Nat.toDigits_ne_nil

theorem ofNat_injective : Function.Injective ofNat := fun m n h => by
  have hread := congrArg (fun t => Nat.ofDigitChars 10 t 0) h
  simpa [ofNat, Nat.ofDigitChars_ten_toDigits] using hread

theorem ofNat_append_inj (hr : EndsNumber r) (hs : EndsNumber s)
    (h : ofNat m ++ r = ofNat n ++ s) : m = n ∧ r = s := by
  obtain ⟨hmn, hrs⟩ := append_inj_of_head (fun _ => isDigit_of_mem_ofNat)
    (fun _ => isDigit_of_mem_ofNat) hr hs h
  exact ⟨ofNat_injective hmn, hrs⟩

/-! ### Rows -/

theorem map_inj_of_mem {α β : Type} {f : α → β} {as bs : List α}
    (hf : ∀ a ∈ as, ∀ b ∈ bs, f a = f b → a = b) (h : as.map f = bs.map f) : as = bs := by
  induction as generalizing bs with
  | nil => exact (List.map_eq_nil_iff.1 h.symm).symm
  | cons a as ih =>
    cases bs with
    | nil => cases h
    | cons b bs =>
      obtain ⟨hab, has⟩ := List.cons.inj h
      rw [hf a List.mem_cons_self b List.mem_cons_self hab,
        ih (fun x hx y hy => hf x (List.mem_cons_of_mem a hx) y (List.mem_cons_of_mem b hy)) has]

end VarDecl.Text
