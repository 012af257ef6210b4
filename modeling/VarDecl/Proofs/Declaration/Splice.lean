import VarDecl.Proofs.Declaration.Suffix
import VarDecl.Proofs.Name

/-!
# Names with array suffixes

A name is written before its array suffixes, but suffixes are deleted wherever they stand.

* `Spliced u t`: the text `t` is `u` with suffixes put in at any places. What is left of a text
  without its suffixes is spliced into it (`spliced_eraseSuffixes`);
* `IsWritten name t`: the text `t` is the name and after it only suffixes, with or without blanks
  before each;
* `isWritten_iff`: a name that is left of a text is written there exactly if no character of a name
  comes after the first bracket.
-/

namespace VarDecl.Declaration

open Text Name

variable {c : Char} {r s t u v name : Text}

/-! ### Suffixes -/

/-- An array suffix: square brackets with only blanks between them. -/
def IsBrackets (s : Text) : Prop :=
  ∃ gap, s = '[' :: (gap ++ [']']) ∧ ∀ c ∈ gap, isBlank c = true

/-- Array suffixes, with or without blanks before each. -/
inductive Suffixes : Text → Prop
  | nil : Suffixes []
  | cons {gap s r : Text} : (∀ c ∈ gap, isBlank c = true) → IsBrackets s → Suffixes r →
    Suffixes (gap ++ (s ++ r))

/-- A text into which array suffixes have been put. -/
inductive Spliced : Text → Text → Prop
  | nil : Spliced [] []
  | keep {c : Char} {u t : Text} : Spliced u t → Spliced (c :: u) (c :: t)
  | suffix {s u t : Text} : IsBrackets s → Spliced u t → Spliced u (s ++ t)

/-- A name with its array suffixes after it. -/
def IsWritten (name t : Text) : Prop := ∃ r, t = name ++ r ∧ Suffixes r

theorem exists_isBrackets (h : suffix? t = some r) : ∃ s, IsBrackets s ∧ t = s ++ r := by
  unfold suffix? at h
  split at h
  case h_2 => cases h
  case h_1 u =>
    split at h
    case h_2 => cases h
    case h_1 rest heq =>
      obtain rfl := Option.some.inj h
      obtain ⟨gap, hu, hgap⟩ := exists_eq_append_trimLeft u
      refine ⟨'[' :: (gap ++ [']']), ⟨gap, rfl, hgap⟩, ?_⟩
      rw [hu, heq]
      simp only [List.append_assoc, List.cons_append, List.nil_append]

theorem IsBrackets.head (h : IsBrackets s) (r : Text) :
    ∀ c ∈ (s ++ r).head?, isBlank c = false := by
  obtain ⟨gap, rfl, -⟩ := h
  rintro c ⟨⟩
  rfl

theorem IsBrackets.isWordChar (h : IsBrackets s) (hc : c ∈ s) : isWordChar c = false := by
  obtain ⟨gap, rfl, hgap⟩ := h
  simp only [List.mem_cons, List.mem_append, List.not_mem_nil, or_false] at hc
  rcases hc with rfl | hc | rfl
  · rfl
  · exact isWordChar_of_isBlank (hgap c hc)
  · rfl

/-- Suffixes have no characters of names. -/
theorem Suffixes.isWordChar (h : Suffixes s) (hc : c ∈ s) : isWordChar c = false := by
  induction h with
  | nil => exact absurd hc List.not_mem_nil
  | cons hgap hs _ ih =>
    simp only [List.mem_append] at hc
    rcases hc with hc | hc | hc
    · exact isWordChar_of_isBlank (hgap c hc)
    · exact hs.isWordChar hc
    · exact ih hc

/-- A blank may come before suffixes. -/
theorem Suffixes.cons_blank (hb : isBlank c = true) (h : Suffixes s) (hne : s ≠ []) :
    Suffixes (c :: s) := by
  cases h with
  | nil => exact absurd rfl hne
  | @cons gap b r hgap hs hr =>
    have hgap' : ∀ a ∈ c :: gap, isBlank a = true := List.forall_mem_cons.2 ⟨hb, hgap⟩
    exact .cons hgap' hs hr

/-! ### Deleting suffixes -/

/-- What is left of a text without its suffixes is spliced into it. -/
theorem spliced_eraseSuffixes (t : Text) : Spliced (eraseSuffixes t) t := by
  fun_induction eraseSuffixes t with
  | case1 => exact .nil
  | case2 c t r h ih =>
    obtain ⟨s, hs, heq⟩ := exists_isBrackets h
    rw [heq]
    exact .suffix hs ih
  | case3 c t h ih => exact .keep ih

/-- Before the first bracket nothing is deleted. -/
theorem eraseSuffixes_append (h : '[' ∉ u) (v : Text) :
    eraseSuffixes (u ++ v) = u ++ eraseSuffixes v := by
  induction u with
  | nil => rfl
  | cons d u ih =>
    obtain ⟨hd, hu⟩ := List.ne_and_not_mem_of_not_mem_cons h
    have hnone : suffix? (d :: (u ++ v)) = none := suffix?_of_ne fun c hc => by
      obtain rfl := Option.some.inj hc
      exact hd.symm
    rw [List.cons_append, eraseSuffixes_cons_of_none hnone, ih hu, List.cons_append]

/-- A text of which only blanks are left is suffixes and blanks. -/
theorem exists_suffixes_of_blank (h : ∀ c ∈ eraseSuffixes t, isBlank c = true) :
    ∃ s gap, t = s ++ gap ∧ Suffixes s ∧ ∀ c ∈ gap, isBlank c = true := by
  fun_induction eraseSuffixes t with
  | case1 => exact ⟨[], [], rfl, .nil, List.forall_mem_nil _⟩
  | case2 c t r hr ih =>
    obtain ⟨b, hb, heq⟩ := exists_isBrackets hr
    obtain ⟨s, gap, rfl, hs, hgap⟩ := ih h
    refine ⟨b ++ s, gap, by rw [heq, List.append_assoc], ?_, hgap⟩
    have hnil : ∀ a ∈ ([] : Text), isBlank a = true := List.forall_mem_nil _
    exact .cons hnil hb hs
  | case3 c t hnone ih =>
    obtain ⟨hc, ht⟩ := List.forall_mem_cons.1 h
    obtain ⟨s, gap, rfl, hs, hgap⟩ := ih ht
    by_cases hne : s = []
    · rw [hne]
      exact ⟨[], c :: gap, rfl, .nil, List.forall_mem_cons.2 ⟨hc, hgap⟩⟩
    · exact ⟨c :: s, gap, rfl, hs.cons_blank hc hne, hgap⟩

/-! ### Names -/

/-- If no character of a name comes behind the first bracket, a name that is left of a text stands
at its start. -/
theorem exists_eq_append_of_trim_eraseSuffixes (hname : IsName name) (ht : trim t = t)
    (h : trim (eraseSuffixes t) = name)
    (hrest : ∀ c ∈ t.dropWhile (· != '['), isWordChar c = false) :
    ∃ r, t = name ++ r ∧ ∀ c ∈ eraseSuffixes r, isBlank c = true := by
  obtain ⟨u, v, rfl, hu, hv⟩ : ∃ u v, t = u ++ v ∧ '[' ∉ u ∧ ∀ c ∈ v, isWordChar c = false :=
    ⟨_, _, List.takeWhile_append_dropWhile.symm,
      fun hm => absurd (List.mem_takeWhile_imp hm) (by decide), hrest⟩
  have hnone : ∀ c ∈ name, c ∉ eraseSuffixes v := fun c hc hm => by
    have hw := hv c ((eraseSuffixes_sublist v).subset hm)
    rw [hname.isWordChar hc] at hw
    cases hw
  rw [eraseSuffixes_append hu] at h
  obtain ⟨l, b, hlb, hl, hb⟩ := exists_eq_append_trim (u ++ eraseSuffixes v)
  rw [h, List.append_assoc] at hlb
  obtain ⟨d, hd⟩ := List.exists_mem_of_ne_nil name hname.ne_nil
  -- The name starts where `u` does, since `u` does not start with a blank.
  obtain rfl : l = [] := by
    rcases List.append_eq_append_iff.1 hlb with ⟨a, -, he⟩ | ⟨a, rfl, -⟩
    · refine absurd ?_ (hnone d hd)
      rw [he]
      exact List.mem_append_right a (List.mem_append_left b hd)
    · rw [List.append_assoc] at ht
      exact eq_nil_of_append_trim ht hl
  -- It ends there too, and nothing but blanks is left of what comes after it.
  rw [List.nil_append] at hlb
  rcases List.append_eq_append_iff.1 hlb with ⟨a, hname', he⟩ | ⟨a, rfl, hb'⟩
  · obtain rfl : a = [] := List.eq_nil_iff_forall_not_mem.2 fun c hc =>
      hnone c (by rw [hname']; exact List.mem_append_right u hc)
        (by rw [he]; exact List.mem_append_left b hc)
    exact ⟨v, by rw [hname', List.append_nil], fun c hc => hb c (by rwa [he] at hc)⟩
  · refine ⟨a ++ v, List.append_assoc name a v, fun c hc => hb c ?_⟩
    rw [eraseSuffixes_append fun hm => hu (List.mem_append_right name hm)] at hc
    rwa [hb']

/-- A name that is left of a text is written there exactly if no character of a name comes behind
the first bracket. -/
theorem isWritten_iff (hname : IsName name) (ht : trim t = t) (h : trim (eraseSuffixes t) = name) :
    IsWritten name t ↔ ∀ c ∈ t.dropWhile (· != '['), isWordChar c = false := by
  constructor
  · rintro ⟨r, rfl, hr⟩ c hc
    have hbracket : ∀ d ∈ name, (d != '[') = true := fun d hd =>
      bne_iff_ne.2 (ne_of_isWordChar (hname.isWordChar hd) rfl)
    rw [List.dropWhile_append_of_pos hbracket] at hc
    exact hr.isWordChar ((List.dropWhile_sublist _).subset hc)
  · intro hrest
    obtain ⟨r, rfl, hr⟩ := exists_eq_append_of_trim_eraseSuffixes hname ht h hrest
    obtain ⟨s, gap, rfl, hs, hgap⟩ := exists_suffixes_of_blank hr
    rw [← List.append_assoc] at ht
    obtain rfl := eq_nil_of_trim_append ht hgap
    exact ⟨s, by rw [List.append_nil], hs⟩

end VarDecl.Declaration
