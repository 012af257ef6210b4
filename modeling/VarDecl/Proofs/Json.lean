import VarDecl.Json
import VarDecl.Proofs.Text.Cuts

/-!
# Reading documents back

The text of a document determines the document. Each lemma `…_append_inj` says of one kind of text
that it shows its own end: if two texts agree that begin with such texts, the beginnings are the
same and so is what follows.

* `escapeChar_append_inj`, `quote_append_inj`: characters and strings, where `units_append_inj`
  reads UTF-16 units;
* `exists_renderAt_eq_cons`: the first character of a value tells its form;
* `renderAt_append_inj`: a value ends where no digit follows, by recursion on the value together
  with the items of an array and the fields of an object;
* `render_injective`: different documents have different texts.
-/

namespace VarDecl.Json

open Text

variable {c d : Char} {t u r s : Text} {m n : Nat}

/-! ### Hexadecimal units -/

theorem digitChar_inj : ∀ m < 16, ∀ n < 16, Nat.digitChar m = Nat.digitChar n → m = n := by decide

theorem escapeUnit_append (n : Nat) (r : Text) : escapeUnit n ++ r =
    '\\' :: 'u' :: Nat.digitChar (n / 16 / 16 / 16 % 16) :: Nat.digitChar (n / 16 / 16 % 16)
      :: Nat.digitChar (n / 16 % 16) :: Nat.digitChar (n % 16) :: r := rfl

theorem escapeUnit_append_inj (hm : m < 0x10000) (hn : n < 0x10000)
    (h : escapeUnit m ++ r = escapeUnit n ++ s) : m = n ∧ r = s := by
  have hdigit : ∀ {i j : Nat}, Nat.digitChar (i % 16) = Nat.digitChar (j % 16) → i % 16 = j % 16 :=
    digitChar_inj _ (Nat.mod_lt _ (by decide)) _ (Nat.mod_lt _ (by decide))
  simp only [escapeUnit_append, List.cons.injEq, true_and] at h
  obtain ⟨h₃, h₂, h₁, h₀, hrs⟩ := h
  have := hdigit h₃
  have := hdigit h₂
  have := hdigit h₁
  have := hdigit h₀
  exact ⟨by omega, hrs⟩

/-- A character is one unit that is no surrogate, or two that are. -/
theorem units_cases (c : Char) :
    (units c.toNat = [c.toNat] ∧ c.toNat < 0x10000 ∧ ¬(0xD800 ≤ c.toNat ∧ c.toNat < 0xE000)) ∨
    ∃ k < 0x100000, c.toNat = 0x10000 + k ∧
      units c.toNat = [0xD800 + k / 0x400, 0xDC00 + k % 0x400] := by
  have hvalid : c.toNat < 0xD800 ∨ (0xDFFF < c.toNat ∧ c.toNat < 0x110000) := c.valid
  by_cases hc : c.toNat < 0x10000
  · exact Or.inl ⟨if_pos hc, hc, by omega⟩
  · exact Or.inr ⟨c.toNat - 0x10000, by omega, by omega, if_neg hc⟩

theorem units_append_inj (h : (units c.toNat).flatMap escapeUnit ++ r
    = (units d.toNat).flatMap escapeUnit ++ s) : c = d ∧ r = s := by
  rcases units_cases c with ⟨hu, hc, hsur⟩ | ⟨k, hk, hck, hu⟩ <;>
    rcases units_cases d with ⟨hv, hd, hsur'⟩ | ⟨l, hl, hdl, hv⟩ <;>
    rw [hu, hv] at h <;>
    simp only [List.flatMap_cons, List.flatMap_nil, List.append_nil, List.append_assoc] at h
  · obtain ⟨hcd, hrs⟩ := escapeUnit_append_inj hc hd h
    exact ⟨Char.toNat_inj.1 hcd, hrs⟩
  · obtain ⟨hhigh, -⟩ := escapeUnit_append_inj hc (by omega) h
    omega
  · obtain ⟨hhigh, -⟩ := escapeUnit_append_inj (by omega) hd h
    omega
  · obtain ⟨hhigh, h⟩ := escapeUnit_append_inj (by omega) (by omega) h
    obtain ⟨hlow, hrs⟩ := escapeUnit_append_inj (by omega) (by omega) h
    exact ⟨Char.toNat_inj.1 (by omega), hrs⟩

/-! ### Strings -/

/-- The characters with a short escape, and its letter. -/
def shortEscapes : List (Char × Char) :=
  [('"', '"'), ('\\', '\\'), ('\n', 'n'), ('\r', 'r'), ('\t', 't'), ('\x0c', 'f'), ('\x08', 'b')]

/-- The letters are distinct, and none is that of a unit. -/
theorem shortEscapes_inj :
    ∀ e ∈ shortEscapes, e.2 ≠ 'u' ∧ ∀ e' ∈ shortEscapes, e.2 = e'.2 → e.1 = e'.1 := by
  decide

theorem escapeChar_of_mem_shortEscapes : ∀ e ∈ shortEscapes, escapeChar e.1 = ['\\', e.2] := by
  decide

theorem exists_flatMap_units_eq (c : Char) :
    ∃ v, (units c.toNat).flatMap escapeUnit = '\\' :: 'u' :: v := by
  rcases units_cases c with ⟨hu, -⟩ | ⟨k, -, -, hu⟩ <;> rw [hu] <;> exact ⟨_, rfl⟩

/-- A character has a short escape, stands for itself, or is escaped by its units. -/
theorem escapeChar_cases (c : Char) : (∃ a, (c, a) ∈ shortEscapes ∧ escapeChar c = ['\\', a]) ∨
    (c ≠ '"' ∧ c ≠ '\\' ∧ escapeChar c = [c]) ∨
    escapeChar c = (units c.toNat).flatMap escapeUnit := by
  by_cases hshort : ∃ a, (c, a) ∈ shortEscapes
  · obtain ⟨a, ha⟩ := hshort
    exact Or.inl ⟨a, ha, escapeChar_of_mem_shortEscapes _ ha⟩
  · have hne : ∀ e ∈ shortEscapes, c ≠ e.1 := fun e he hc => hshort ⟨e.2, hc ▸ he⟩
    simp only [shortEscapes, List.forall_mem_cons] at hne
    obtain ⟨h₁, h₂, h₃, h₄, h₅, h₆, h₇, -⟩ := hne
    rw [escapeChar, if_neg h₁, if_neg h₂, if_neg h₃, if_neg h₄, if_neg h₅, if_neg h₆, if_neg h₇]
    split
    case isTrue => exact Or.inr (Or.inl ⟨h₁, h₂, rfl⟩)
    case isFalse => exact Or.inr (Or.inr rfl)

theorem escapeChar_append_inj (h : escapeChar c ++ r = escapeChar d ++ s) : c = d ∧ r = s := by
  obtain ⟨v, hv⟩ := exists_flatMap_units_eq c
  obtain ⟨w, hw⟩ := exists_flatMap_units_eq d
  rcases escapeChar_cases c with ⟨a, ha, hc⟩ | ⟨-, hc', hc⟩ | hc <;>
    rcases escapeChar_cases d with ⟨b, hb, hd⟩ | ⟨-, hd', hd⟩ | hd <;>
    rw [hc, hd] at h
  · obtain ⟨hab, rfl⟩ := List.cons_eq_cons.1 (List.cons_eq_cons.1 h).2
    exact ⟨(shortEscapes_inj _ ha).2 _ hb hab, rfl⟩
  · exact absurd (List.cons_eq_cons.1 h).1.symm hd'
  · rw [hw] at h
    exact absurd (List.cons_eq_cons.1 (List.cons_eq_cons.1 h).2).1 (shortEscapes_inj _ ha).1
  · exact absurd (List.cons_eq_cons.1 h).1 hc'
  · exact List.cons_eq_cons.1 h
  · rw [hw] at h
    exact absurd (List.cons_eq_cons.1 h).1 hc'
  · rw [hv] at h
    exact absurd (List.cons_eq_cons.1 (List.cons_eq_cons.1 h).2).1.symm (shortEscapes_inj _ hb).1
  · rw [hv] at h
    exact absurd (List.cons_eq_cons.1 h).1.symm hd'
  · exact units_append_inj h

/-- The text of a character does not start with a quote. -/
theorem exists_escapeChar_eq_cons (c : Char) : ∃ a v, escapeChar c = a :: v ∧ a ≠ '"' := by
  obtain ⟨v, hv⟩ := exists_flatMap_units_eq c
  rcases escapeChar_cases c with ⟨a, -, hc⟩ | ⟨hquote, -, hc⟩ | hc
  · exact ⟨_, _, hc, by decide⟩
  · exact ⟨_, _, hc, hquote⟩
  · exact ⟨_, _, hc.trans hv, by decide⟩

theorem flatMap_escapeChar_append_inj
    (h : t.flatMap escapeChar ++ '"' :: r = u.flatMap escapeChar ++ '"' :: s) : t = u ∧ r = s := by
  induction t generalizing u with
  | nil =>
    cases u with
    | nil => exact ⟨rfl, (List.cons_eq_cons.1 h).2⟩
    | cons d u =>
      obtain ⟨a, v, hd, hquote⟩ := exists_escapeChar_eq_cons d
      rw [List.flatMap_cons, hd] at h
      exact absurd (List.cons_eq_cons.1 h).1.symm hquote
  | cons c t ih =>
    cases u with
    | nil =>
      obtain ⟨a, v, hc, hquote⟩ := exists_escapeChar_eq_cons c
      rw [List.flatMap_cons, hc] at h
      exact absurd (List.cons_eq_cons.1 h).1 hquote
    | cons d u =>
      rw [List.flatMap_cons, List.flatMap_cons, List.append_assoc, List.append_assoc] at h
      obtain ⟨rfl, htu⟩ := escapeChar_append_inj h
      obtain ⟨rfl, hrs⟩ := ih htu
      exact ⟨rfl, hrs⟩

theorem quote_append_inj (h : quote t ++ r = quote u ++ s) : t = u ∧ r = s := by
  simp only [quote, List.cons_append, List.append_assoc, List.nil_append] at h
  exact flatMap_escapeChar_append_inj (List.cons_eq_cons.1 h).2

/-! ### Values -/

/-- The forms of values. -/
inductive Form
  | null
  | bool
  | num
  | str
  | arr
  | obj

/-- The form that the first character of a text shows. -/
def Form.ofChar (c : Char) : Form :=
  if c.isDigit then num
  else if c = 'n' then null
  else if c = '"' then str
  else if c = '[' then arr
  else if c = '\x7b' then obj
  else bool

/-- The form of a value. -/
def form : Json → Form
  | null => .null
  | bool _ => .bool
  | num _ => .num
  | str _ => .str
  | arr _ => .arr
  | obj _ => .obj

theorem exists_renderAt_eq_cons (level : Nat) (j : Json) :
    ∃ c t, renderAt level j = c :: t ∧ Form.ofChar c = j.form := by
  cases j with
  | null => exact ⟨_, _, rfl, rfl⟩
  | bool b => cases b <;> exact ⟨_, _, rfl, rfl⟩
  | num n =>
    obtain ⟨c, t, ht⟩ := List.exists_cons_of_ne_nil (ofNat_ne_nil n)
    refine ⟨c, t, ht, if_pos (isDigit_of_mem_ofNat (n := n) ?_)⟩
    rw [ht]
    exact List.mem_cons_self
  | str t => exact ⟨_, _, rfl, rfl⟩
  | arr items => cases items <;> exact ⟨_, _, rfl, rfl⟩
  | obj fields => cases fields <;> exact ⟨_, _, rfl, rfl⟩

theorem form_eq_of_append {level : Nat} {j k : Json}
    (h : renderAt level j ++ r = renderAt level k ++ s) : j.form = k.form := by
  obtain ⟨c, t, hj, hc⟩ := exists_renderAt_eq_cons level j
  obtain ⟨d, u, hk, hd⟩ := exists_renderAt_eq_cons level k
  rw [hj, hk] at h
  rw [← hc, ← hd, (List.cons_eq_cons.1 h).1]

theorem endsNumber_renderItems (level : Nat) (is : List Json) (t : Text) :
    EndsNumber (renderItems level is ++ '\n' :: t) := by
  cases is <;> (rintro c ⟨rfl⟩; rfl)

theorem endsNumber_renderFields (level : Nat) (fs : List (Text × Json)) (t : Text) :
    EndsNumber (renderFields level fs ++ '\n' :: t) := by
  cases fs <;> (rintro c ⟨rfl⟩; rfl)

/-- But for its first character, an array is a row of items and a bracket on a line of its own. -/
theorem comma_cons_tail_arr (level : Nat) (i : Json) (is : List Json) (t : Text) :
    ',' :: (renderAt level (arr (i :: is)) ++ t).tail = renderItems (level + 1) (i :: is)
      ++ '\n' :: (List.replicate (2 * level) ' ' ++ ']' :: t) := by
  simp [renderAt, renderItems, newline]

theorem comma_cons_tail_obj (level : Nat) (f : Text × Json) (fs : List (Text × Json)) (t : Text) :
    ',' :: (renderAt level (obj (f :: fs)) ++ t).tail = renderFields (level + 1) (f :: fs)
      ++ '\n' :: (List.replicate (2 * level) ' ' ++ '\x7d' :: t) := by
  simp [renderAt, renderFields, newline]

mutual

theorem renderAt_append_inj (level : Nat) (j k : Json) (r s : Text) (hr : EndsNumber r)
    (hs : EndsNumber s) (h : renderAt level j ++ r = renderAt level k ++ s) : j = k ∧ r = s := by
  have hform := form_eq_of_append h
  cases j with
  | null =>
    cases k with
    | null => exact ⟨rfl, List.append_cancel_left h⟩
    | _ => cases hform
  | bool a =>
    cases k with
    | bool b =>
      cases a <;> cases b
      · exact ⟨rfl, List.append_cancel_left h⟩
      · simp [renderAt] at h
      · simp [renderAt] at h
      · exact ⟨rfl, List.append_cancel_left h⟩
    | _ => cases hform
  | num m =>
    cases k with
    | num n =>
      obtain ⟨rfl, hrs⟩ := ofNat_append_inj hr hs h
      exact ⟨rfl, hrs⟩
    | _ => cases hform
  | str t =>
    cases k with
    | str u =>
      obtain ⟨rfl, hrs⟩ := quote_append_inj h
      exact ⟨rfl, hrs⟩
    | _ => cases hform
  | arr is =>
    cases k with
    | arr js =>
      match is, js with
      | [], [] => exact ⟨rfl, List.append_cancel_left h⟩
      | [], j :: js => cases h
      | i :: is, [] => cases h
      | i :: is, j :: js =>
        have hitems := congrArg (fun t => ',' :: t.tail) h
        simp only [comma_cons_tail_arr] at hitems
        obtain ⟨heq, hend⟩ := renderItems_append_inj (level + 1) (i :: is) (j :: js) _ _ hitems
        exact ⟨congrArg arr heq, (List.cons.inj (List.append_cancel_left hend)).2⟩
    | _ => cases hform
  | obj fs =>
    cases k with
    | obj gs =>
      match fs, gs with
      | [], [] => exact ⟨rfl, List.append_cancel_left h⟩
      | [], g :: gs => cases h
      | f :: fs, [] => cases h
      | f :: fs, g :: gs =>
        have hfields := congrArg (fun t => ',' :: t.tail) h
        simp only [comma_cons_tail_obj] at hfields
        obtain ⟨heq, hend⟩ := renderFields_append_inj (level + 1) (f :: fs) (g :: gs) _ _ hfields
        exact ⟨congrArg obj heq, (List.cons.inj (List.append_cancel_left hend)).2⟩
    | _ => cases hform

theorem renderItems_append_inj (level : Nat) (is js : List Json) (r s : Text)
    (h : renderItems level is ++ '\n' :: r = renderItems level js ++ '\n' :: s) :
    is = js ∧ r = s := by
  match is, js with
  | [], [] => exact ⟨rfl, (List.cons.inj h).2⟩
  | [], j :: js => cases h
  | i :: is, [] => cases h
  | i :: is, j :: js =>
    simp only [renderItems, newline, List.append_assoc, List.cons_append] at h
    have hitem := List.append_cancel_left (List.cons.inj (List.cons.inj h).2).2
    obtain ⟨rfl, hrest⟩ := renderAt_append_inj level i j _ _
      (endsNumber_renderItems _ _ _) (endsNumber_renderItems _ _ _) hitem
    obtain ⟨rfl, hrs⟩ := renderItems_append_inj level is js _ _ hrest
    exact ⟨rfl, hrs⟩

theorem renderFields_append_inj (level : Nat) (fs gs : List (Text × Json)) (r s : Text)
    (h : renderFields level fs ++ '\n' :: r = renderFields level gs ++ '\n' :: s) :
    fs = gs ∧ r = s := by
  match fs, gs with
  | [], [] => exact ⟨rfl, (List.cons.inj h).2⟩
  | [], g :: gs => cases h
  | f :: fs, [] => cases h
  | (key, v) :: fs, (key', w) :: gs =>
    simp only [renderFields, newline, List.append_assoc, List.cons_append, List.nil_append] at h
    have hkey := List.append_cancel_left (List.cons.inj (List.cons.inj h).2).2
    obtain ⟨rfl, hcolon⟩ := quote_append_inj hkey
    obtain ⟨rfl, hrest⟩ := renderAt_append_inj level v w _ _
      (endsNumber_renderFields _ _ _) (endsNumber_renderFields _ _ _)
      (List.cons.inj (List.cons.inj hcolon).2).2
    obtain ⟨rfl, hrs⟩ := renderFields_append_inj level fs gs _ _ hrest
    exact ⟨rfl, hrs⟩

end

/-- Different documents have different texts. -/
theorem render_injective : Function.Injective render := fun j k h => by
  have hnil : EndsNumber [] := fun _ hc => by cases hc
  exact (renderAt_append_inj 0 j k [] [] hnil hnil (congrArg (· ++ []) h)).1

end VarDecl.Json
