import Mathlib.Data.List.Basic
import Mathlib.Data.List.Shortlex
import VarDecl.File.Path
import VarDecl.Proofs.Text.Trim

/-!
# Names and paths

* `Text.Before`, `Path.NamesBefore`: the strict orders behind `Text.le` and `Path.namesLe`
  (`le_iff`, `namesLe_iff`), the second one name by name;
* `IsEntryName`: a name that an entry of a directory can have. Such names can be read off the path
  that they make (`splitOn_join`), which is read back as written (`ofText_render`).
-/

namespace VarDecl

/-! ### Orders -/

theorem isStrictTotalOrder_lex {α : Type} (r : α → α → Prop) [IsStrictTotalOrder α r] :
    IsStrictTotalOrder (List α) (List.Lex r) :=
  { isStrictWeakOrder_of_isOrderConnected with }

namespace Text

variable {s t : Text}

/-- One text comes before another one in the order of code points. -/
def Before : Text → Text → Prop := List.Lex fun a b => a.toNat < b.toNat

instance : DecidableRel Before :=
  inferInstanceAs (DecidableRel (List.Lex fun a b : Char => a.toNat < b.toNat))

instance : IsStrictTotalOrder Char fun a b => a.toNat < b.toNat where
  irrefl a := Nat.lt_irrefl a.toNat
  trans _ _ _ := Nat.lt_trans
  trichotomous _ _ h h' := Char.toNat_inj.1 (by omega)

instance : IsStrictTotalOrder Text Before := isStrictTotalOrder_lex _

theorem le_iff : le s t = true ↔ s = t ∨ Before s t := by
  fun_induction le s t with
  | case1 t =>
    cases t with
    | nil => exact ⟨fun _ => Or.inl rfl, fun _ => rfl⟩
    | cons c t => exact ⟨fun _ => Or.inr List.Lex.nil, fun _ => rfl⟩
  | case2 c s => exact ⟨nofun, fun h => h.elim nofun nofun⟩
  | case3 a s t ih => rw [ih, List.cons.injEq, Before, List.lex_cons_iff, eq_self, true_and]
  | case4 a s b t hne =>
    rw [decide_eq_true_iff]
    constructor
    · exact fun h => Or.inr (List.Lex.rel h)
    · rintro (h | h)
      · exact absurd (List.cons.inj h).1 hne
      · cases h with
        | cons h => exact absurd rfl hne
        | rel h => exact h

end Text

namespace File.Path

variable {p q : List Text}

/-- One row of names comes before another one, name by name. -/
def NamesBefore : List Text → List Text → Prop := List.Lex Text.Before

instance : DecidableRel NamesBefore := inferInstanceAs (DecidableRel (List.Lex Text.Before))

instance : IsStrictTotalOrder (List Text) NamesBefore := isStrictTotalOrder_lex _

theorem namesLe_iff : namesLe p q = true ↔ p = q ∨ NamesBefore p q := by
  fun_induction namesLe p q with
  | case1 q =>
    cases q with
    | nil => exact ⟨fun _ => Or.inl rfl, fun _ => rfl⟩
    | cons n q => exact ⟨fun _ => Or.inr List.Lex.nil, fun _ => rfl⟩
  | case2 n p => exact ⟨nofun, fun h => h.elim nofun nofun⟩
  | case3 n p q ih => rw [ih, List.cons.injEq, NamesBefore, List.lex_cons_iff, eq_self, true_and]
  | case4 n p m q hne =>
    rw [Text.le_iff]
    constructor
    · rintro (h | h)
      · exact absurd h hne
      · exact Or.inr (List.Lex.rel h)
    · rintro (h | h)
      · exact absurd (List.cons.inj h).1 hne
      · cases h with
        | cons h => exact absurd rfl hne
        | rel h => exact Or.inr h

theorem namesLe_trans {r : List Text} (h : namesLe p q = true) (h' : namesLe q r = true) :
    namesLe p r = true := by
  rw [namesLe_iff] at h h' ⊢
  obtain rfl | h := h
  · exact h'
  · obtain rfl | h' := h'
    · exact Or.inr h
    · exact Or.inr (trans_of NamesBefore h h')

theorem namesLe_total (p q : List Text) : (namesLe p q || namesLe q p) = true := by
  rw [Bool.or_eq_true, namesLe_iff, namesLe_iff]
  obtain h | h | h := trichotomous_of NamesBefore p q
  · exact Or.inl (Or.inr h)
  · exact Or.inl (Or.inl h)
  · exact Or.inr (Or.inr h)

/-! ### Names with slashes between them -/

theorem join_append (hp : p ≠ []) (hq : q ≠ []) : join (p ++ q) = join p ++ '/' :: join q := by
  induction p with
  | nil => exact absurd rfl hp
  | cons n p ih =>
    unfold join at ih ⊢
    cases p with
    | nil =>
      rw [List.singleton_append, List.intercalate_cons_of_ne_nil hq, List.intercalate_singleton,
        List.append_assoc, List.singleton_append]
    | cons m p =>
      rw [List.cons_append, List.intercalate_cons_of_ne_nil (List.cons_ne_nil m p),
        List.intercalate_cons_of_ne_nil (List.append_ne_nil_of_left_ne_nil (List.cons_ne_nil m p) q),
        ih (List.cons_ne_nil m p)]
      simp only [List.append_assoc]

theorem splitOn_join (h : ∀ n ∈ p, '/' ∉ n) (hp : p ≠ []) : (join p).splitOn '/' = p :=
  List.splitOn_intercalate '/' h hp

theorem join_splitOn (t : Text) : join (t.splitOn '/') = t := List.intercalate_splitOn '/'

/-- A text starts with another one and a slash if its names start with those of the other one, and
there are more of them. -/
theorem eq_append_slash_iff {t s r : Text} : t = s ++ '/' :: r ↔
    ∃ after, after ≠ [] ∧ t.splitOn '/' = s.splitOn '/' ++ after ∧ r = join after := by
  constructor
  · rintro rfl
    exact ⟨r.splitOn '/', List.splitOn_ne_nil '/' r, List.splitOn_append_cons_self s r,
      (join_splitOn r).symm⟩
  · rintro ⟨after, hne, ht, rfl⟩
    rw [← join_splitOn t, ht, join_append (List.splitOn_ne_nil '/' s) hne, join_splitOn]

/-! ### Names of entries -/

/-- A name that an entry of a directory can have. -/
structure IsEntryName (n : Text) : Prop where
  ne_nil : n ≠ []
  noSlash : '/' ∉ n
  noNull : '\x00' ∉ n
  ne_dot : n ≠ ['.']
  ne_dots : n ≠ ['.', '.']
  short : isLongName n = false

instance (n : Text) : Decidable (IsEntryName n) :=
  decidable_of_iff (n ≠ [] ∧ '/' ∉ n ∧ '\x00' ∉ n ∧ n ≠ ['.'] ∧ n ≠ ['.', '.']
      ∧ isLongName n = false)
    ⟨fun ⟨h₁, h₂, h₃, h₄, h₅, h₆⟩ => ⟨h₁, h₂, h₃, h₄, h₅, h₆⟩,
      fun ⟨h₁, h₂, h₃, h₄, h₅, h₆⟩ => ⟨h₁, h₂, h₃, h₄, h₅, h₆⟩⟩

theorem exists_join_cons (n : Text) (p : List Text) : ∃ r, join (n :: p) = n ++ r := by
  unfold join
  cases p with
  | nil => exact ⟨[], by rw [List.intercalate_singleton, List.append_nil]⟩
  | cons m p => exact ⟨_, by rw [List.intercalate_cons_cons, List.append_assoc]⟩

theorem exists_join_concat (p : List Text) (n : Text) : ∃ r, join (p ++ [n]) = r ++ n := by
  cases p with
  | nil => exact ⟨[], List.intercalate_singleton⟩
  | cons m p =>
    rw [join_append (List.cons_ne_nil m p) (List.cons_ne_nil n [])]
    exact ⟨join (m :: p) ++ ['/'], by simp [join]⟩

/-- Proper names make no path with a slash at one of its ends. -/
theorem head?_join (h : ∀ n ∈ p, IsEntryName n) : ∀ c ∈ (join p).head?, c ≠ '/' := by
  cases p with
  | nil => nofun
  | cons n p =>
    obtain ⟨r, hr⟩ := exists_join_cons n p
    obtain ⟨c, n, rfl⟩ := List.exists_cons_of_ne_nil (h n List.mem_cons_self).ne_nil
    rw [hr]
    rintro _ ⟨rfl⟩ rfl
    exact (h _ List.mem_cons_self).noSlash List.mem_cons_self

theorem getLast?_join (h : ∀ n ∈ p, IsEntryName n) : ∀ c ∈ (join p).getLast?, c ≠ '/' := by
  rcases List.eq_nil_or_concat p with rfl | ⟨p, n, rfl⟩
  · nofun
  · rw [List.concat_eq_append] at h ⊢
    have hn := h n (List.mem_append_right _ List.mem_cons_self)
    obtain ⟨r, hr⟩ := exists_join_concat p n
    rw [hr, List.getLast?_append_of_ne_nil _ hn.ne_nil]
    rintro c hc rfl
    exact hn.noSlash (List.mem_of_getLast? hc)

theorem join_ne_nil (h : ∀ n ∈ p, IsEntryName n) (hp : p ≠ []) : join p ≠ [] := by
  obtain ⟨n, p, rfl⟩ := List.exists_cons_of_ne_nil hp
  obtain ⟨r, hr⟩ := exists_join_cons n p
  rw [hr]
  exact List.append_ne_nil_of_left_ne_nil (h n List.mem_cons_self).ne_nil r

/-- Proper names can be read off their path. -/
theorem join_injective (hp : ∀ n ∈ p, IsEntryName n) (hq : ∀ n ∈ q, IsEntryName n)
    (h : join p = join q) : p = q := by
  by_cases hp' : p = []
  · subst hp'
    by_contra hne
    exact join_ne_nil hq (Ne.symm hne) h.symm
  · have hq' : q ≠ [] := by
      rintro rfl
      exact join_ne_nil hp hp' h
    rw [← splitOn_join (fun n hn => (hp n hn).noSlash) hp',
      ← splitOn_join (fun n hn => (hq n hn).noSlash) hq', h]

end File.Path

end VarDecl
