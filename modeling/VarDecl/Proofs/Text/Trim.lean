import Mathlib.Data.List.DropRight
import VarDecl.Text.Basic

/-!
# Trimming and words

What trimming leaves, and how the first word of a text is found.

* `exists_eq_append_trim`: a text is its trimmed text between blanks;
* `trim_eq_self`: a text without blanks at its ends stays;
* `trim_append_of_blank`, `trim_blank_append`: blanks at the ends do not matter;
* `flatten_words`: the words of a text hold all of it but the blanks;
* `words_append`: a run of characters that are not blank is one word;
* `words_trim`: blanks at the ends belong to no word;
* `exists_of_words_eq_cons`: the first word of a text stands after the blanks at its start;
* `words_eq_pair`, `exists_of_words_eq_pair`: texts of two words.
-/

namespace VarDecl.Text

variable {p : Char → Bool} {t u w : Text} {c : Char}

/-! ### Characters at the start -/

theorem takeWhile_eq_nil (h : ∀ c ∈ t.head?, p c = false) : t.takeWhile p = [] := by
  cases t with
  | nil => rfl
  | cons c t => exact List.takeWhile_cons_of_neg (by rw [h c rfl]; exact Bool.false_ne_true)

theorem dropWhile_eq_self (h : ∀ c ∈ t.head?, p c = false) : t.dropWhile p = t := by
  cases t with
  | nil => rfl
  | cons c t => exact List.dropWhile_cons_of_neg (by rw [h c rfl]; exact Bool.false_ne_true)

/-! ### Characters at the end -/

theorem atEnd_iff : atEnd t = true ↔ t = [] ∨ t = ['\n'] := by
  unfold atEnd
  split <;> simp_all

theorem eq_nil_of_atEnd (h : atEnd t = true) (ht : '\n' ∉ t) : t = [] := by
  rcases atEnd_iff.1 h with rfl | rfl
  · rfl
  · exact absurd List.mem_cons_self ht

theorem dropTrailing_eq_rdropWhile (p : Char → Bool) (t : Text) :
    dropTrailing p t = t.rdropWhile p := rfl

theorem dropTrailing_prefix (p : Char → Bool) (t : Text) : dropTrailing p t <+: t :=
  List.rdropWhile_prefix p t

/-- What is removed at the end satisfies the predicate. -/
theorem exists_eq_dropTrailing_append (p : Char → Bool) (t : Text) :
    ∃ u, t = dropTrailing p t ++ u ∧ ∀ c ∈ u, p c = true := by
  refine ⟨t.rtakeWhile p, List.rdropWhile_append_rtakeWhile.symm, fun c hc => ?_⟩
  exact List.mem_rtakeWhile_imp hc

theorem dropTrailing_eq_self (h : ∀ c ∈ t.getLast?, p c = false) : dropTrailing p t = t := by
  rw [dropTrailing_eq_rdropWhile, List.rdropWhile_eq_self_iff]
  intro hne
  rw [h _ (List.getLast?_eq_some_getLast hne)]
  exact Bool.false_ne_true

theorem dropTrailing_append_of_forall (h : ∀ c ∈ u, p c = true) :
    dropTrailing p (t ++ u) = dropTrailing p t := by
  have hu : ∀ c ∈ u.reverse, p c = true := fun c hc => h c (List.mem_reverse.1 hc)
  simp only [dropTrailing, List.reverse_append]
  rw [List.dropWhile_append_of_pos hu]

theorem getLast?_dropTrailing (h : c ∈ (dropTrailing p t).getLast?) : p c = false := by
  have hne : t.rdropWhile p ≠ [] := by
    rintro h0
    rw [dropTrailing_eq_rdropWhile, h0] at h
    exact absurd h (by simp)
  have hlast := List.rdropWhile_last_not p t hne
  rw [dropTrailing_eq_rdropWhile, List.getLast?_eq_some_getLast hne] at h
  rw [← Option.some.inj h]
  exact Bool.eq_false_iff.2 hlast

/-! ### Blanks at both ends -/

theorem isBlank_of_mem_space : ∀ c ∈ [' '], isBlank c = true := List.forall_mem_singleton.2 rfl

theorem trimLeft_eq_self (h : ∀ c ∈ t.head?, isBlank c = false) : trimLeft t = t :=
  dropWhile_eq_self h

theorem head?_trimLeft (h : c ∈ (trimLeft t).head?) : isBlank c = false := by
  have := List.head?_dropWhile_not isBlank t
  rw [show (t.dropWhile isBlank).head? = some c from h] at this
  exact this

theorem exists_eq_append_trimLeft (t : Text) :
    ∃ l, t = l ++ trimLeft t ∧ ∀ c ∈ l, isBlank c = true :=
  ⟨t.takeWhile isBlank, List.takeWhile_append_dropWhile.symm, fun _ hc => List.mem_takeWhile_imp hc⟩

theorem trimLeft_append_of_blank (h : ∀ c ∈ u, isBlank c = true) :
    trimLeft (u ++ t) = trimLeft t :=
  List.dropWhile_append_of_pos h

/-- A text is its trimmed text between blanks. -/
theorem exists_eq_append_trim (t : Text) :
    ∃ l r, t = l ++ trim t ++ r ∧ (∀ c ∈ l, isBlank c = true) ∧ ∀ c ∈ r, isBlank c = true := by
  obtain ⟨l, hl, hlb⟩ := exists_eq_append_trimLeft t
  obtain ⟨r, hr, hrb⟩ := exists_eq_dropTrailing_append isBlank (trimLeft t)
  refine ⟨l, r, ?_, hlb, hrb⟩
  rw [List.append_assoc, trim, trimRight, ← hr, ← hl]

theorem trim_eq_self (h₁ : ∀ c ∈ t.head?, isBlank c = false)
    (h₂ : ∀ c ∈ t.getLast?, isBlank c = false) : trim t = t := by
  rw [trim, trimLeft_eq_self h₁, trimRight, dropTrailing_eq_self h₂]

theorem trim_cons_of_blank (h : isBlank c = true) : trim (c :: t) = trim t := by
  rw [trim, trim, show trimLeft (c :: t) = trimLeft t from List.dropWhile_cons_of_pos h]

theorem trim_blank_append (h : ∀ c ∈ u, isBlank c = true) : trim (u ++ t) = trim t := by
  rw [trim, trim, trimLeft_append_of_blank h]

theorem trim_append_of_blank (h : ∀ c ∈ u, isBlank c = true) : trim (t ++ u) = trim t := by
  by_cases ht : ∀ c ∈ t, isBlank c = true
  · have hall : ∀ c ∈ t ++ u, isBlank c = true := fun c hc =>
      (List.mem_append.1 hc).elim (ht c) (h c)
    rw [trim, trim, trimLeft, trimLeft, List.dropWhile_eq_nil_iff.2 ht,
      List.dropWhile_eq_nil_iff.2 hall]
  · have hne : (t.dropWhile isBlank).isEmpty = false := by
      rw [List.isEmpty_eq_false_iff, Ne, List.dropWhile_eq_nil_iff]
      exact ht
    rw [trim, trim, trimLeft, List.dropWhile_append, hne, trimRight, trimRight]
    exact dropTrailing_append_of_forall h

theorem head?_trim (h : c ∈ (trim t).head?) : isBlank c = false := by
  obtain ⟨r, hr⟩ := dropTrailing_prefix isBlank (trimLeft t)
  apply head?_trimLeft (t := t)
  rw [← hr, List.head?_append]
  rw [show (dropTrailing isBlank (trimLeft t)).head? = some c from h]
  rfl

theorem getLast?_trim (h : c ∈ (trim t).getLast?) : isBlank c = false :=
  getLast?_dropTrailing h

@[simp] theorem trim_trim (t : Text) : trim (trim t) = trim t :=
  trim_eq_self (fun _ => head?_trim) fun _ => getLast?_trim

/-- A text without blanks at its ends does not end in blanks. -/
theorem eq_nil_of_trim_append (h : trim (t ++ u) = t ++ u) (hu : ∀ c ∈ u, isBlank c = true) :
    u = [] := by
  rcases List.eq_nil_or_concat' u with rfl | ⟨w, c, rfl⟩
  · rfl
  · have hlast : isBlank c = false := getLast?_trim (t := t ++ (w ++ [c])) (by
      rw [h, ← List.append_assoc, List.getLast?_concat]
      rfl)
    rw [hu c (List.mem_append_right w (List.mem_singleton_self c))] at hlast
    cases hlast

/-- Nor does it start with blanks. -/
theorem eq_nil_of_append_trim (h : trim (t ++ u) = t ++ u) (ht : ∀ c ∈ t, isBlank c = true) :
    t = [] := by
  cases t with
  | nil => rfl
  | cons c t =>
    have hhead : isBlank c = false := head?_trim (t := c :: (t ++ u)) (by
      rw [← List.cons_append, h]
      rfl)
    rw [ht c List.mem_cons_self] at hhead
    cases hhead

theorem trim_trimLeft (t : Text) : trim (trimLeft t) = trim t := by
  rw [trim, trim, trimLeft_eq_self fun _ => head?_trimLeft]

theorem trim_sublist (t : Text) : (trim t).Sublist t := by
  have h := dropTrailing_prefix isBlank (trimLeft t)
  exact h.sublist.trans (List.dropWhile_sublist isBlank)

/-- Trimming invents no characters. -/
theorem mem_of_mem_trim (h : c ∈ trim t) : c ∈ t := (trim_sublist t).subset h

/-! ### Words -/

/-- Between the separators stands what is no separator. -/
theorem flatten_splitOnP {α : Type} (p : α → Bool) (l : List α) :
    (l.splitOnP p).flatten = l.filter fun a => !p a := by
  induction l with
  | nil => rfl
  | cons a l ih =>
    rw [List.splitOnP_cons_eq_if_modifyHead, List.filter_cons]
    by_cases ha : p a = true
    · simp [ha, ih]
    · obtain ⟨w, ws, hw⟩ := List.exists_cons_of_ne_nil (List.splitOnP_ne_nil p l)
      rw [hw, List.flatten_cons] at ih
      simp [ha, hw, ih]

/-- The words of a text are its characters that are not blank. -/
theorem flatten_words (t : Text) : (words t).flatten = t.filter fun c => !isBlank c := by
  rw [← flatten_splitOnP, words]
  exact List.flatten_filter_not_isEmpty

theorem sublist_of_mem_words (h : w ∈ words t) : w.Sublist t := by
  have hw : w.Sublist (words t).flatten := List.sublist_flatten_of_mem h
  rw [flatten_words] at hw
  exact hw.trans List.filter_sublist

theorem isBlank_of_words_eq_nil (h : words t = []) : ∀ c ∈ t, isBlank c = true := by
  have hf := flatten_words t
  rw [h, List.flatten_nil, eq_comm, List.filter_eq_nil_iff] at hf
  exact fun c hc => by simpa using hf c hc

@[simp] theorem words_nil : words [] = [] := rfl

theorem words_cons_of_blank (h : isBlank c = true) : words (c :: t) = words t := by
  simp [words, List.splitOnP_cons_eq_if_modifyHead, h]

theorem words_append_of_blank (h : ∀ c ∈ u, isBlank c = true) : words (u ++ t) = words t := by
  induction u with
  | nil => rfl
  | cons c u ih =>
    rw [List.cons_append, words_cons_of_blank (h c List.mem_cons_self)]
    exact ih fun d hd => h d (List.mem_cons_of_mem c hd)

/-- A run of characters that are not blank, with a blank or nothing after it, is one word. -/
theorem words_append (hne : w ≠ []) (hw : ∀ c ∈ w, isBlank c = false)
    (ht : ∀ c ∈ t.head?, isBlank c = true) : words (w ++ t) = w :: words t := by
  have hw' : w.isEmpty = false := List.isEmpty_eq_false_iff.2 hne
  cases t with
  | nil => simp [words, List.splitOnP_eq_singleton hw, hw']
  | cons b t =>
    have hb : isBlank b = true := ht b rfl
    rw [words_cons_of_blank hb, words, List.splitOnP_append_cons_of_forall_mem hw b hb]
    simp [words, hw']

theorem words_eq_singleton (hne : w ≠ []) (hw : ∀ c ∈ w, isBlank c = false) : words w = [w] := by
  have h := words_append (t := []) hne hw (by simp)
  rwa [List.append_nil, words_nil] at h

theorem words_append_blank_cons (h : isBlank c = true) (t u : Text) :
    words (t ++ c :: u) = words t ++ words u := by
  rw [words, List.splitOnP_append_cons _ _ h, List.filter_append]
  rfl

theorem words_eq_nil_of_blank (h : ∀ c ∈ t, isBlank c = true) : words t = [] := by
  have ht := words_append_of_blank (t := []) h
  rwa [List.append_nil, words_nil] at ht

/-- Blanks at the end belong to no word. -/
theorem words_append_eq_self (h : ∀ c ∈ u, isBlank c = true) : words (t ++ u) = words t := by
  cases u with
  | nil => rw [List.append_nil]
  | cons c u =>
    obtain ⟨hc, hu⟩ := List.forall_mem_cons.1 h
    rw [words_append_blank_cons hc, words_eq_nil_of_blank hu, List.append_nil]

theorem words_trim (t : Text) : words (trim t) = words t := by
  obtain ⟨l, r, ht, hl, hr⟩ := exists_eq_append_trim t
  conv_rhs => rw [ht]
  rw [words_append_eq_self hr, words_append_of_blank hl]

/-- The first word of a text stands after the blanks at its start, and the other words after it. -/
theorem exists_of_words_eq_cons {ws : List Text} (h : words t = w :: ws) :
    ∃ l r, t = l ++ w ++ r ∧ (∀ c ∈ l, isBlank c = true) ∧ w ≠ [] ∧
      (∀ c ∈ w, isBlank c = false) ∧ (∀ c ∈ r.head?, isBlank c = true) ∧ words r = ws := by
  obtain ⟨l, hl, hlb⟩ := exists_eq_append_trimLeft t
  let v := (trimLeft t).takeWhile fun c => !isBlank c
  let r := (trimLeft t).dropWhile fun c => !isBlank c
  have hvr : trimLeft t = v ++ r := List.takeWhile_append_dropWhile.symm
  have hv : ∀ c ∈ v, isBlank c = false := fun c hc => by simpa using List.mem_takeWhile_imp hc
  have hr : ∀ c ∈ r.head?, isBlank c = true := fun c hc => by
    have := List.head?_dropWhile_not (fun c => !isBlank c) (trimLeft t)
    rw [show ((trimLeft t).dropWhile fun c => !isBlank c).head? = some c from hc] at this
    simpa using this
  have hne : v ≠ [] := by
    -- Otherwise the first character after the blanks would be one more blank.
    intro h0
    have htl : trimLeft t = r := by rw [hvr, h0, List.nil_append]
    cases hc : r with
    | nil =>
      rw [hl, words_append_of_blank hlb, htl, hc] at h
      exact absurd h (by simp)
    | cons c r' =>
      have h₁ : isBlank c = false := head?_trimLeft (t := t) (by rw [htl, hc]; rfl)
      rw [hr c (by rw [hc]; rfl)] at h₁
      exact Bool.noConfusion h₁
  rw [hl, words_append_of_blank hlb, hvr, words_append hne hv hr] at h
  obtain ⟨rfl, hws⟩ := List.cons.inj h
  exact ⟨l, r, by rw [List.append_assoc, ← hvr, ← hl], hlb, hne, hv, hr, hws⟩

/-- Blanks that part two words. -/
def IsSpacing (gap : Text) : Prop := gap ≠ [] ∧ ∀ c ∈ gap, isBlank c = true

theorem isSpacing_space : IsSpacing [' '] := ⟨List.cons_ne_nil ' ' [], isBlank_of_mem_space⟩

theorem IsSpacing.head {gap : Text} (h : IsSpacing gap) (r : Text) :
    ∀ c ∈ (gap ++ r).head?, isBlank c = true := by
  intro c hc
  rw [List.head?_append_of_ne_nil _ h.1] at hc
  exact h.2 c (List.mem_of_mem_head? hc)

/-- A text of two words is both words with blanks before, between and after them. -/
theorem exists_of_words_eq_pair {v w : Text} (h : t.words = [v, w]) :
    ∃ l m r, t = l ++ (v ++ (m ++ (w ++ r))) ∧ (∀ c ∈ l, isBlank c = true) ∧
      (v ≠ [] ∧ ∀ c ∈ v, isBlank c = false) ∧ IsSpacing m ∧ (∀ c ∈ w, isBlank c = false) ∧
      ∀ c ∈ r, isBlank c = true := by
  obtain ⟨l, r, rfl, hl, hv, hvb, hr, hwords⟩ := exists_of_words_eq_cons h
  obtain ⟨m, r', rfl, hm, hw, hwb, -, hr'⟩ := exists_of_words_eq_cons hwords
  refine ⟨l, m, r', by simp only [List.append_assoc], hl, ⟨hv, hvb⟩, ⟨?_, hm⟩, hwb,
    isBlank_of_words_eq_nil hr'⟩
  -- Without blanks between them the two words would be one.
  rintro rfl
  obtain ⟨c, w, rfl⟩ := List.exists_cons_of_ne_nil hw
  have h₁ := hr c rfl
  rw [hwb c List.mem_cons_self] at h₁
  exact Bool.noConfusion h₁

/-- Two words with blanks between them, and blanks behind them. -/
theorem words_eq_pair {v gap r : Text} (hu : u ≠ []) (hub : ∀ c ∈ u, isBlank c = false)
    (hgap : IsSpacing gap) (hv : v ≠ []) (hvb : ∀ c ∈ v, isBlank c = false)
    (hr : ∀ c ∈ r, isBlank c = true) : words (u ++ (gap ++ (v ++ r))) = [u, v] := by
  rw [words_append hu hub (hgap.head _), words_append_of_blank hgap.2, words_append_eq_self hr,
    words_eq_singleton hv hvb]

end VarDecl.Text
