import Mathlib.Data.Bool.AllAny
import VarDecl.Expression.Fragment
import VarDecl.Expression.Parens
import VarDecl.Proofs.Literal.Kind

/-!
# Fragments of expressions in context

* `fragment?_append`: what follows a text does not change its first fragment, if it stops the text
  and closes no quote;
* `fragments_append_of_inert`, `fragments_cons_of_inert`: blanks, semicolons and parentheses at the
  ends do not matter, and so neither do enclosing parentheses (`fragments_stripParens`);
* `flatten_fragments_sublist`: the fragments stand in the text one after the other.
-/

namespace VarDecl.Expression

open Text Literal

variable {c : Char} {t u s r f : Text}

/-! ### One fragment -/

theorem isFragmentChar_of_isDigit (h : c.isDigit = true) : isFragmentChar c = true := by
  simp [isFragmentChar, isWordChar, Char.isAlphanum, h]

theorem isLocal_wordRun? : IsLocal wordRun? := by
  intro t u hu
  have hu' : ∀ c ∈ u.head?, isFragmentChar c = false := fun c hc => by
    obtain ⟨-, h₁, h₂, -⟩ := hu c hc
    simp [isFragmentChar, h₁, h₂]
  have h₁ : (t ++ u).takeWhile isFragmentChar = t.takeWhile isFragmentChar := by
    rw [List.takeWhile_append, takeWhile_eq_nil hu', List.append_nil]
    split
    case isTrue h => exact ((List.takeWhile_prefix _).eq_of_length h).symm
    case isFalse => rfl
  have h₂ : (t ++ u).dropWhile isFragmentChar = t.dropWhile isFragmentChar ++ u := by
    rw [List.dropWhile_append, dropWhile_eq_self hu']
    split
    case isTrue h => rw [List.isEmpty_iff.1 h, List.nil_append]
    case isFalse => rfl
  simp only [wordRun?, h₁, h₂]
  split <;> rfl

theorem span?_of_ne {q : Char} (h : c ≠ q) : span? q (c :: t) = none := by
  rw [span?, if_neg h]

/-- At a quote only a quoted span can start. -/
theorem fragment?_of_quote (hc : c = '"' ∨ c = '\'') : fragment? (c :: t) = span? c (c :: t) := by
  have hsci : scientific? (c :: t) = none := by
    have hd : digits? (c :: t) = none := digits?_eq_none_iff.2 fun d hd => by
      obtain rfl := Option.some.inj hd
      rcases hc with rfl | rfl <;> decide
    simp [scientific?, hd]
  have hword : wordRun? (c :: t) = none := by
    have hf : isFragmentChar c = false := by rcases hc with rfl | rfl <;> decide
    simp [wordRun?, hf]
  rw [fragment?, hsci, hword, Option.none_or, Option.or_none]
  rcases hc with rfl | rfl
  · rw [span?_of_ne (by decide : '"' ≠ '\''), Option.or_none]
  · rw [span?_of_ne (by decide : '\'' ≠ '"'), Option.none_or]

/-- At any other character a number or a run of word characters can start. -/
theorem fragment?_of_ne_quote (h₁ : c ≠ '"') (h₂ : c ≠ '\'') :
    fragment? (c :: t) = (scientific? (c :: t)).or (wordRun? (c :: t)) := by
  rw [fragment?, span?_of_ne h₁, span?_of_ne h₂, Option.none_or, Option.none_or]

/-- What stops a text that does not start with a quote does not change its first fragment. -/
theorem fragment?_append_of_ne_quote (h₁ : c ≠ '"') (h₂ : c ≠ '\'') (hu : Stops u) :
    fragment? (c :: t ++ u) = (fragment? (c :: t)).map fun p => (p.1, p.2 ++ u) := by
  rw [List.cons_append, fragment?_of_ne_quote h₁ h₂, fragment?_of_ne_quote h₁ h₂]
  exact (isLocal_scientific?.or isLocal_wordRun?) (c :: t) u hu

/-- What follows a text does not change its first fragment, if it stops the text and closes no
quote that is open there. -/
theorem fragment?_append (hne : t ≠ []) (hu : Stops u)
    (h : (fragment? t).isSome = true ∨ ('"' ∉ u ∧ '\'' ∉ u)) :
    fragment? (t ++ u) = (fragment? t).map fun p => (p.1, p.2 ++ u) := by
  obtain ⟨c, t, rfl⟩ := List.exists_cons_of_ne_nil hne
  by_cases hc : c = '"' ∨ c = '\''
  · rw [fragment?_of_quote hc] at h
    rw [List.cons_append, fragment?_of_quote hc, fragment?_of_quote hc, ← List.cons_append]
    have hq : c ≠ '\\' := by rcases hc with rfl | rfl <;> decide
    -- A span that closes does so at the same place, and one that does not is not closed by `u`.
    cases hs : span? c (c :: t) with
    | some p => exact span?_append_of_some hq hs u
    | none =>
      have hu' : c ∉ u := by
        rw [hs] at h
        rcases hc with rfl | rfl
        · exact (h.resolve_left (by simp)).1
        · exact (h.resolve_left (by simp)).2
      exact span?_append_eq_none hs hu'
  · rw [not_or] at hc
    exact fragment?_append_of_ne_quote hc.1 hc.2 hu

theorem append_of_wordRun? (h : wordRun? t = some (s, r)) :
    t = s ++ r ∧ s ≠ [] ∧ (∀ c ∈ s, isFragmentChar c = true) ∧
      ∀ c ∈ r.head?, isFragmentChar c = false := by
  simp only [wordRun?] at h
  split at h
  case isTrue => simp at h
  case isFalse hne =>
    obtain ⟨rfl, rfl⟩ := Prod.mk.inj (Option.some.inj h)
    refine ⟨List.takeWhile_append_dropWhile.symm, fun h0 => hne (List.isEmpty_iff.2 h0),
      fun c hc => List.mem_takeWhile_imp hc, fun c hc => ?_⟩
    have := List.head?_dropWhile_not isFragmentChar t
    rwa [show (t.dropWhile isFragmentChar).head? = some c from hc] at this

theorem append_of_span? {q : Char} (h : span? q t = some (s, r)) :
    t = s ++ r ∧ ∃ s', s = q :: s' ∧ closing? q (s' ++ r) = some (s', r) := by
  cases t with
  | nil => simp [span?] at h
  | cons c t =>
    simp only [span?] at h
    split at h
    case isFalse => simp at h
    case isTrue hc =>
      obtain ⟨⟨s', r'⟩, hp, heq⟩ := Option.map_eq_some_iff.1 h
      obtain ⟨rfl, rfl⟩ := Prod.mk.inj heq
      have ht := append_of_closing? hp
      exact ⟨by rw [List.cons_append, ht], s', by rw [hc], by rw [ht]; exact hp⟩

/-- A fragment is what was read from the text, less the rest. -/
theorem append_of_fragment? (h : fragment? t = some (s, r)) : t = s ++ r := by
  simp only [fragment?, Option.or_eq_some_iff] at h
  rcases h with h | ⟨-, h | ⟨-, h | ⟨-, h⟩⟩⟩
  · exact (append_of_span? h).1
  · exact (append_of_span? h).1
  · obtain ⟨_, _, _, _, _, -, ht, -⟩ := exists_of_scientific? h
    exact ht
  · exact (append_of_wordRun? h).1

/-! ### All fragments -/

/-- The fragments stand in the text one after the other. -/
theorem flatten_fragments_sublist (t : Text) : (fragments t).flatten.Sublist t := by
  fun_induction fragments t with
  | case1 => exact List.Sublist.refl _
  | case2 d t s r h ih =>
    rw [append_of_fragment? h, List.flatten_cons]
    exact (List.Sublist.refl s).append ih
  | case3 d t h ih => exact ih.cons d

theorem sublist_of_mem_fragments (hf : f ∈ fragments t) : f.Sublist t :=
  (List.sublist_flatten_of_mem hf).trans (flatten_fragments_sublist t)

/-- A fragment is made of characters of the text. -/
theorem mem_of_mem_fragments (hf : f ∈ fragments t) (hc : c ∈ f) : c ∈ t :=
  (sublist_of_mem_fragments hf).subset hc

/-- A character that is of no fragment and opens none. -/
def IsInert (c : Char) : Prop :=
  isDigit c = false ∧ isFragmentChar c = false ∧ c ≠ '"' ∧ c ≠ '\''

instance (c : Char) : Decidable (IsInert c) := inferInstanceAs (Decidable (_ ∧ _))

theorem fragment?_cons_of_inert (h : IsInert c) : fragment? (c :: t) = none := by
  obtain ⟨hd, hf, h₁, h₂⟩ := h
  have hd : digits? (c :: t) = none := digits?_eq_none_iff.2 fun d hd' => by
    rw [← Option.some.inj hd']
    exact hd
  rw [fragment?_of_ne_quote h₁ h₂]
  simp [scientific?, wordRun?, hd, hf]

/-- An inert character at the start is skipped. -/
theorem fragments_cons_of_inert (h : IsInert c) : fragments (c :: t) = fragments t :=
  fragments_cons_of_none (fragment?_cons_of_inert h)

theorem fragments_append_of_inert_left (h : ∀ c ∈ u, IsInert c) :
    fragments (u ++ t) = fragments t := by
  induction u with
  | nil => rfl
  | cons c u ih =>
    rw [List.cons_append, fragments_cons_of_inert (h c List.mem_cons_self)]
    exact ih fun d hd => h d (List.mem_cons_of_mem c hd)

theorem fragments_of_inert (h : ∀ c ∈ u, IsInert c) : fragments u = [] := by
  have := fragments_append_of_inert_left (t := []) h
  rwa [List.append_nil, fragments_nil] at this

/-- The fragments of a text and of one that stops it and closes no quote are found separately. -/
theorem fragments_append (hu : Stops u) (hq : '"' ∉ u ∧ '\'' ∉ u) :
    fragments (t ++ u) = fragments t ++ fragments u := by
  fun_induction fragments t with
  | case1 => rfl
  | case2 c t s r h ih =>
    have h' := fragment?_append (List.cons_ne_nil c t) hu (Or.inr hq)
    rw [h, Option.map_some] at h'
    rw [fragments_of_fragment? h', ih, List.cons_append]
  | case3 c t h ih =>
    have h' := fragment?_append (List.cons_ne_nil c t) hu (Or.inr hq)
    rw [h, Option.map_none] at h'
    exact (fragments_cons_of_none h').trans ih

/-- Inert characters at the end do not matter, if the first of them is no sign. -/
theorem fragments_append_of_inert_right (h : ∀ c ∈ u, IsInert c)
    (hs : ∀ c ∈ u.head?, c ≠ '+' ∧ c ≠ '-') : fragments (t ++ u) = fragments t := by
  rw [fragments_append, fragments_of_inert h, List.append_nil]
  · intro c hc
    obtain ⟨hd, hf, -⟩ := h c (List.mem_of_mem_head? hc)
    simp only [isFragmentChar, Bool.or_eq_false_iff, beq_eq_false_iff_ne] at hf
    exact ⟨hd, hf.1, hf.2, hs c hc⟩
  · exact ⟨fun hm => (h _ hm).2.2.1 rfl, fun hm => (h _ hm).2.2.2 rfl⟩

/-! ### Enclosing parentheses -/

theorem isInert_of_isBlank (h : isBlank c = true) : IsInert c := by
  have hw : isWordChar c = false := by
    refine Bool.eq_false_iff.2 fun hw => ?_
    rw [isBlank_of_isWordChar hw] at h
    exact Bool.noConfusion h
  have hdot : c ≠ '.' := isBlank_ne h (by decide)
  exact ⟨isDigit_of_isBlank h, by simp [isFragmentChar, hw, hdot], isBlank_ne h (by decide),
    isBlank_ne h (by decide)⟩

/-- Blanks at both ends do not matter. -/
theorem fragments_trim (t : Text) : fragments (trim t) = fragments t := by
  obtain ⟨l, r, ht, hl, hr⟩ := exists_eq_append_trim t
  conv_rhs => rw [ht]
  have hr' : ∀ c ∈ r.head?, c ≠ '+' ∧ c ≠ '-' := fun c hc =>
    have hb := hr c (List.mem_of_mem_head? hc)
    ⟨isBlank_ne hb (by decide), isBlank_ne hb (by decide)⟩
  rw [fragments_append_of_inert_right (fun c hc => isInert_of_isBlank (hr c hc)) hr',
    fragments_append_of_inert_left fun c hc => isInert_of_isBlank (hl c hc)]

/-- The closing index points at a closing parenthesis. -/
theorem getElem?_of_closingIndexFrom {st : Scan} {i j : Nat}
    (h : closingIndexFrom st i t = some j) : ∃ k, j = i + k ∧ t[k]? = some ')' := by
  induction t generalizing st i with
  | nil => simp [closingIndexFrom] at h
  | cons c t ih =>
    simp only [closingIndexFrom] at h
    split at h
    case isTrue hc =>
      obtain rfl := Option.some.inj h
      exact ⟨0, rfl, by rw [hc.2.1]; rfl⟩
    case isFalse =>
      obtain ⟨k, hk, ht⟩ := ih h
      exact ⟨k + 1, by omega, by rwa [List.getElem?_cons_succ]⟩

/-- An enclosed text stands between its first and its last character, which are parentheses. -/
theorem eq_of_isEnclosed (h : isEnclosed t = true) : t = '(' :: (inner t ++ [')']) := by
  simp only [isEnclosed, Bool.and_eq_true, beq_iff_eq] at h
  obtain ⟨hhead, hclose⟩ := h
  obtain ⟨k, hk, hk'⟩ := getElem?_of_closingIndexFrom hclose
  have hlast : t.getLast? = some ')' := by
    rw [List.getLast?_eq_getElem?, hk, Nat.zero_add, hk']
  cases t with
  | nil => simp at hhead
  | cons c t =>
    obtain rfl := Option.some.inj hhead
    cases t using List.reverseRecOn with
    | nil => exact absurd hlast (by decide)
    | append_singleton t d =>
      have hd : d = ')' := Option.some.inj ((List.getLast?_concat (l := '(' :: t)).symm.trans hlast)
      rw [inner, List.tail_cons, List.dropLast_concat, hd]

/-- Enclosing parentheses and the blanks around them do not matter. -/
theorem fragments_stripParens (t : Text) : fragments (stripParens t) = fragments t := by
  fun_induction stripParens t with
  | case1 t h ih =>
    have hpair : fragments ('(' :: (inner t.trim ++ [')'])) = fragments (inner t.trim) := by
      have hclose : ∀ c ∈ [')'], IsInert c := List.forall_mem_singleton.2 (by decide)
      rw [fragments_cons_of_inert (by decide), fragments_append_of_inert_right hclose]
      intro c hc
      obtain rfl : ')' = c := Option.some.inj hc
      decide
    rw [ih, ← hpair, ← eq_of_isEnclosed h, fragments_trim]
  | case2 t h => exact fragments_trim t

end VarDecl.Expression
