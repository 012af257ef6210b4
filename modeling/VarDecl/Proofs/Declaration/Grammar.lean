import VarDecl.Proofs.Declaration.Header
import VarDecl.Proofs.Declaration.Splice
import VarDecl.Proofs.Text.Cuts

/-!
# The grammar of declaration lines

A declaration line is modifiers, a primitive type, array suffixes, blanks, declarators and a
semicolon (`IsCut`). A line can be cut in several ways, as blanks and suffixes may also stand in the
declarators, but into one type only.

* `modifier?_eq_some_iff`, `mem_suffixRests_iff`, `declarators?_eq_some_iff`: what the readers of
  the parts take from a text;
* `isCut_of_ofLine?`, `exists_ofLine?`: what is recognised is such a cut, and a line that can be cut
  is recognised;
* `ofLine?_grammar`: a line is recognised exactly if it can be cut. It is then cut into its type and
  declarators that start with no blank, unless they are only blanks.
-/

namespace VarDecl.Declaration.Header

open Text Name

variable {p : Primitive} {c : Char} {r s t u ms ss gap ds : Text}

/-! ### The grammar -/

/-- Modifiers, with blanks behind each. -/
inductive Modifiers : Text → Prop
  | nil : Modifiers []
  | cons {m gap r : Text} : m ∈ modifiers → IsSpacing gap → Modifiers r →
    Modifiers (m ++ (gap ++ r))

/-- A way to cut a line: modifiers, a type, array suffixes, blanks, declarators and a semicolon. -/
def IsCut (t : Text) (p : Primitive) (ds : Text) : Prop :=
  ∃ ms ss gap, t = ms ++ (p.name ++ (ss ++ (gap ++ (ds ++ [';'])))) ∧
    Modifiers ms ∧ Suffixes ss ∧ IsSpacing gap ∧ ds ≠ []

/-! ### Modifiers -/

theorem isName_of_mem_modifiers {m : Text} (h : m ∈ modifiers) : IsName m := by
  have hall : ∀ m ∈ modifiers, isIdentifier m = true ∧ '\n' ∉ m := by decide
  exact (isIdentifier_iff_isName (hall m h).2).1 (hall m h).1

theorem exists_of_modifier? (h : modifier? t = some r) : ∃ m gap, m ∈ modifiers ∧ IsSpacing gap ∧
    t = m ++ (gap ++ r) ∧ ∀ c ∈ r.head?, isBlank c = false := by
  obtain ⟨m, hm, hr⟩ := List.exists_of_findSome?_eq_some h
  split at hr
  case h_2 => cases hr
  case h_1 c rest heq =>
    split_ifs at hr with hc
    obtain rfl := Option.some.inj hr
    obtain ⟨l, hl, hlb⟩ := exists_eq_append_trimLeft rest
    refine ⟨m, c :: l, hm, ⟨List.cons_ne_nil c l, List.forall_mem_cons.2 ⟨hc, hlb⟩⟩, ?_,
      fun d hd => head?_trimLeft hd⟩
    rw [after?_eq_some_iff.1 heq, List.cons_append, ← hl]

/-- A modifier is read with all blanks behind it. -/
theorem modifier?_eq_some_iff : modifier? t = some r ↔ ∃ m gap, m ∈ modifiers ∧ IsSpacing gap ∧
    t = m ++ (gap ++ r) ∧ ∀ c ∈ r.head?, isBlank c = false := by
  refine ⟨exists_of_modifier?, ?_⟩
  rintro ⟨m, gap, hm, hgap, rfl, hr⟩
  have hsome : (modifier? (m ++ (gap ++ r))).isSome = true := by
    obtain ⟨b, gap, rfl⟩ := List.exists_cons_of_ne_nil hgap.1
    refine List.findSome?_isSome_iff.2 ⟨m, hm, ?_⟩
    rw [after?_eq_some_iff.2 rfl]
    simp [hgap.2 b List.mem_cons_self]
  obtain ⟨r', hr'⟩ := Option.isSome_iff_exists.1 hsome
  obtain ⟨m', gap', hm', hgap', heq, hhead⟩ := exists_of_modifier? hr'
  -- The first word ends at the first blank, and the blanks behind it at the next word.
  have hsolid : ∀ {m : Text}, m ∈ modifiers → ∀ c ∈ m, (!isBlank c) = true := fun hm c hc => by
    rw [(isName_of_mem_modifiers hm).isBlank hc]
    rfl
  have hspacing : ∀ {g u : Text}, IsSpacing g → ∀ c ∈ (g ++ u).head?, (!isBlank c) = false :=
    fun hg c hc => by
      rw [hg.head _ c hc]
      rfl
  obtain ⟨-, hrest⟩ := append_inj_of_head (hsolid hm) (hsolid hm') (hspacing hgap)
    (hspacing hgap') heq
  obtain ⟨-, rfl⟩ := append_inj_of_head hgap.2 hgap'.2 hr hhead hrest
  exact hr'

theorem exists_modifiers (t : Text) : ∃ ms, t = ms ++ dropModifiers t ∧ Modifiers ms := by
  fun_induction dropModifiers t with
  | case1 t r h ih =>
    obtain ⟨m, gap, hm, hgap, rfl, -⟩ := modifier?_eq_some_iff.1 h
    obtain ⟨ms, hr, hms⟩ := ih
    refine ⟨m ++ (gap ++ ms), ?_, .cons hm hgap hms⟩
    rw [List.append_assoc, List.append_assoc, ← hr]
  | case2 t h => exact ⟨[], rfl, .nil⟩

theorem dropModifiers_of_some (h : modifier? t = some r) : dropModifiers t = dropModifiers r := by
  rw [dropModifiers]
  split <;> simp_all

theorem Modifiers.head (h : Modifiers ms) (p : Primitive) (u : Text) :
    ∀ c ∈ (ms ++ (p.name ++ u)).head?, isBlank c = false := by
  cases h with
  | nil => exact (isName_name p).head u
  | cons hm _ _ =>
    rw [List.append_assoc]
    exact (isName_of_mem_modifiers hm).head _

/-- All modifiers are dropped, and no type is taken for one. -/
theorem dropModifiers_append (h : Modifiers ms) (p : Primitive) (u : Text) :
    dropModifiers (ms ++ (p.name ++ u)) = p.name ++ u := by
  induction h with
  | nil => exact dropModifiers_of_none (modifier?_name p)
  | @cons m gap r hm hgap hr ih =>
    rw [List.append_assoc, List.append_assoc, dropModifiers_of_some, ih]
    exact modifier?_eq_some_iff.2 ⟨m, gap, hm, hgap, rfl, hr.head p u⟩

/-! ### Array suffixes -/

theorem suffix?_append (h : IsBrackets s) (r : Text) : suffix? (s ++ r) = some r := by
  obtain ⟨gap, rfl, hgap⟩ := h
  have hleft : trimLeft (gap ++ (']' :: r)) = ']' :: r := by
    rw [trimLeft_append_of_blank hgap]
    exact trimLeft_eq_self fun c hc => by
      obtain rfl := Option.some.inj hc
      rfl
  rw [List.cons_append, List.append_assoc, List.singleton_append, suffix?, hleft]
  rfl

theorem suffixRests_of_some (h : suffix? (trimLeft t) = some u) :
    suffixRests t = suffixRests u ++ [t] := by
  rw [suffixRests]
  split <;> simp_all

theorem self_mem_suffixRests (t : Text) : t ∈ suffixRests t := by
  rw [suffixRests]
  split <;> simp

/-- What may remain of a text is what comes behind any of its first suffixes. -/
theorem mem_suffixRests_iff : r ∈ suffixRests t ↔ ∃ ss, t = ss ++ r ∧ Suffixes ss := by
  constructor
  · intro h
    fun_induction suffixRests t with
    | case1 t u hu ih =>
      rcases List.mem_append.1 h with h | h
      · obtain ⟨ss, rfl, hss⟩ := ih h
        obtain ⟨s, hs, hleft⟩ := exists_isBrackets hu
        obtain ⟨l, hl, hlb⟩ := exists_eq_append_trimLeft t
        refine ⟨l ++ (s ++ ss), ?_, .cons hlb hs hss⟩
        rw [List.append_assoc, List.append_assoc, ← hleft, ← hl]
      · obtain rfl := List.mem_singleton.1 h
        exact ⟨[], rfl, .nil⟩
    | case2 t hnone =>
      obtain rfl := List.mem_singleton.1 h
      exact ⟨[], rfl, .nil⟩
  · rintro ⟨ss, rfl, hss⟩
    induction hss with
    | nil => exact self_mem_suffixRests r
    | @cons gap s ss hgap hs _ ih =>
      have hleft : trimLeft (gap ++ (s ++ ss) ++ r) = s ++ (ss ++ r) := by
        rw [List.append_assoc, List.append_assoc, trimLeft_append_of_blank hgap,
          trimLeft_eq_self (hs.head _)]
      rw [suffixRests_of_some (by rw [hleft, suffix?_append hs])]
      exact List.mem_append_left _ ih

/-! ### Declarators -/

/-- The blanks before the declarators are as long as can be, or leave one blank for them. -/
def IsSplit (gap ds : Text) : Prop :=
  IsSpacing gap ∧ ds ≠ [] ∧
    ((∀ c ∈ ds.head?, isBlank c = false) ∨ ∃ b, ds = [b] ∧ isBlank b = true)

theorem declarators?_of_head (h : ∀ c ∈ t.head?, isBlank c = false) : declarators? t = none := by
  simp [declarators?, takeWhile_eq_nil h]

/-- Before a lone semicolon the last of several blanks is the list. -/
theorem declarators?_blanks (hgap : ∀ c ∈ gap, isBlank c = true) (hnl : '\n' ∉ gap) :
    declarators? (gap ++ [';']) = gap.tail.getLast?.map ([·]) := by
  have hhead : ∀ c ∈ [';'].head?, isBlank c = false := by
    rintro c ⟨⟩
    rfl
  have htake : (gap ++ [';']).takeWhile isBlank = gap := by
    rw [List.takeWhile_append_of_pos hgap, takeWhile_eq_nil hhead, List.append_nil]
  have hdrop : (gap ++ [';']).dropWhile isBlank = [';'] := by
    rw [List.dropWhile_append_of_pos hgap, dropWhile_eq_self hhead]
  have hright : trimRight [';'] = [';'] := by decide
  simp only [declarators?, htake, hdrop, hright]
  cases gap with
  | nil => rfl
  | cons a gap =>
    cases hb : gap.getLast? with
    | none => simp [hb]
    | some b =>
      have hne : '\n' ≠ b := fun h => hnl (h ▸ List.mem_cons_of_mem a (List.mem_of_getLast? hb))
      simp [hb, hne]

/-- Declarators are found only between blanks and a semicolon at the end. -/
theorem exists_of_declarators? (hlast : ∀ c ∈ t.getLast?, isBlank c = false)
    (h : declarators? t = some ds) : ∃ gap mid, t = gap ++ (mid ++ [';']) ∧ IsSpacing gap ∧
      ∀ c ∈ (mid ++ [';']).head?, isBlank c = false := by
  obtain ⟨gap, hgap, hgapb⟩ := exists_eq_append_trimLeft t
  have hright : trimRight (trimLeft t) = trimLeft t := dropTrailing_eq_self fun c hc => by
    refine hlast c ?_
    rwa [hgap, List.getLast?_append_of_ne_nil _ fun h0 => by rw [h0] at hc; cases hc]
  obtain ⟨mid, hmid⟩ : ∃ mid, trimLeft t = mid ++ [';'] := by
    rw [← List.getLast?_eq_some_iff, ← hright]
    by_contra hne
    have hnone : declarators? t = none := by
      simp only [declarators?, show t.dropWhile isBlank = trimLeft t from rfl]
      rw [if_pos (by simp [hne])]
    rw [hnone] at h
    cases h
  have hhead : ∀ c ∈ (mid ++ [';']).head?, isBlank c = false := fun c hc =>
    head?_trimLeft (t := t) (by rwa [hmid])
  refine ⟨gap, mid, hmid ▸ hgap, ⟨fun hne => ?_, hgapb⟩, hhead⟩
  rw [hgap, hmid, hne, List.nil_append, declarators?_of_head hhead] at h
  cases h

/-- The last of several blanks, with the others before it. -/
theorem exists_isSplit_of_getLast? (hgap : ∀ c ∈ gap, isBlank c = true)
    (h : gap.tail.getLast?.map ([·]) = some ds) : ∃ gap', gap = gap' ++ ds ∧ IsSplit gap' ds := by
  obtain ⟨b, hb, rfl⟩ := Option.map_eq_some_iff.1 h
  obtain ⟨l, hl⟩ := List.getLast?_eq_some_iff.1 hb
  cases gap with
  | nil => cases hb
  | cons a gap =>
    obtain rfl : gap = l ++ [b] := hl
    have hblanks : ∀ c ∈ a :: l, isBlank c = true := fun c hc =>
      hgap c (List.mem_append_left [b] hc)
    exact ⟨a :: l, rfl, ⟨List.cons_ne_nil a l, hblanks⟩, List.cons_ne_nil b [],
      Or.inr ⟨b, rfl, hgap b (by simp)⟩⟩

/-- Declarators are found exactly where a text can be split so. -/
theorem declarators?_eq_some_iff (hlast : ∀ c ∈ t.getLast?, isBlank c = false) (hnl : '\n' ∉ t) :
    declarators? t = some ds ↔ ∃ gap, t = gap ++ (ds ++ [';']) ∧ IsSplit gap ds := by
  constructor
  · intro h
    obtain ⟨gap, mid, rfl, hgap, hhead⟩ := exists_of_declarators? hlast h
    by_cases hlone : mid = []
    · subst hlone
      rw [List.nil_append, declarators?_blanks hgap.2 fun hm => hnl (by simp [hm])] at h
      obtain ⟨gap, rfl, hsplit⟩ := exists_isSplit_of_getLast? hgap.2 h
      exact ⟨gap, by simp, hsplit⟩
    · have hmid : ∀ c ∈ mid.head?, isBlank c = false := fun c hc => hhead c (by
        rwa [List.head?_append_of_ne_nil _ hlone])
      rw [declarators?_append hgap.1 hgap.2 hlone hmid fun hm => hnl (by simp [hm])] at h
      obtain rfl := Option.some.inj h
      exact ⟨gap, rfl, hgap, hlone, Or.inl hmid⟩
  · rintro ⟨gap, rfl, hgap, hds, hhead | ⟨b, rfl, hb⟩⟩
    · exact declarators?_append hgap.1 hgap.2 hds hhead fun hm => hnl (by simp [hm])
    · have hblanks : ∀ c ∈ gap ++ [b], isBlank c = true := fun c hc =>
        (List.mem_append.1 hc).elim (hgap.2 c) fun hc => List.mem_singleton.1 hc ▸ hb
      obtain ⟨a, l, rfl⟩ := List.exists_cons_of_ne_nil hgap.1
      rw [← List.append_assoc, declarators?_blanks hblanks fun hm =>
        hnl (by rw [← List.append_assoc]; exact List.mem_append_left [';'] hm)]
      simp

/-- Wherever blanks and declarators are, they can be split so. -/
theorem exists_isSplit (hgap : IsSpacing gap) (hds : ds ≠ []) :
    ∃ gap' ds', gap ++ ds = gap' ++ ds' ∧ IsSplit gap' ds' := by
  obtain ⟨l, hl, hlb⟩ := exists_eq_append_trimLeft ds
  have happend : ∀ {l : Text}, (∀ c ∈ l, isBlank c = true) → IsSpacing (gap ++ l) := fun hl =>
    ⟨List.append_ne_nil_of_left_ne_nil hgap.1 _, fun c hc =>
      (List.mem_append.1 hc).elim (hgap.2 c) (hl c)⟩
  by_cases hblank : trimLeft ds = []
  · rw [hblank, List.append_nil] at hl
    subst hl
    obtain ⟨l, b, rfl⟩ := (List.eq_nil_or_concat' ds).resolve_left hds
    have hl : ∀ c ∈ l, isBlank c = true := fun c hc => hlb c (List.mem_append_left [b] hc)
    exact ⟨gap ++ l, [b], (List.append_assoc _ _ _).symm, happend hl, List.cons_ne_nil b [],
      Or.inr ⟨b, rfl, hlb b (List.mem_append_right l (List.mem_singleton_self b))⟩⟩
  · refine ⟨gap ++ l, trimLeft ds, ?_, happend hlb, hblank, Or.inl fun c hc => head?_trimLeft hc⟩
    rw [List.append_assoc, ← hl]

/-! ### The whole line -/

/-- What is recognised in a line without newlines and without a blank at its end is a way to cut
it. -/
theorem isCut_of_ofLine? {h : Header} (ht : trim t = t) (hnl : '\n' ∉ t)
    (hl : ofLine? t = some h) :
    IsCut t h.type h.declarators ∧ ∃ gap, IsSplit gap h.declarators := by
  obtain ⟨rest, htype, hfind⟩ := ofLine?_eq_some_iff.1 hl
  obtain ⟨r, hr, hds⟩ := List.exists_of_findSome?_eq_some hfind
  obtain ⟨ss, rfl, hss⟩ := mem_suffixRests_iff.1 hr
  obtain ⟨ms, hms, hmods⟩ := exists_modifiers t
  rw [trimLeft_eq_self fun c hc => head?_trim (t := t) (by rwa [ht])] at htype
  rw [htype] at hms
  have hlast : ∀ c ∈ r.getLast?, isBlank c = false := fun c hc => by
    refine getLast?_trim (t := t) ?_
    have hne : r ≠ [] := fun h0 => by rw [h0] at hc; cases hc
    rwa [ht, hms, ← List.append_assoc, ← List.append_assoc, List.getLast?_append_of_ne_nil _ hne]
  have hnl' : '\n' ∉ r := fun hm => hnl (by rw [hms]; simp [hm])
  obtain ⟨gap, rfl, hsplit⟩ := (declarators?_eq_some_iff hlast hnl').1 hds
  exact ⟨⟨ms, ss, gap, hms, hmods, hss, hsplit.1, hsplit.2.1⟩, gap, hsplit⟩

/-- A line without newlines that can be cut is recognised, with the type of the cut. -/
theorem exists_ofLine? (hnl : '\n' ∉ t) (hcut : IsCut t p ds) :
    ∃ ds', ofLine? t = some ⟨p, ds'⟩ := by
  obtain ⟨ms, ss, gap, rfl, hms, hss, hgap, hds⟩ := hcut
  obtain ⟨gap', ds', heq, hsplit⟩ := exists_isSplit hgap hds
  have hrest : gap ++ (ds ++ [';']) = gap' ++ (ds' ++ [';']) := by
    rw [← List.append_assoc, heq, List.append_assoc]
  have hlast : ∀ c ∈ (gap ++ (ds ++ [';'])).getLast?, isBlank c = false := fun c hc => by
    rw [← List.append_assoc, List.getLast?_concat] at hc
    obtain rfl := Option.some.inj hc
    rfl
  have hdeclarators : declarators? (gap ++ (ds ++ [';'])) = some ds' :=
    (declarators?_eq_some_iff hlast fun hm => hnl (by simp [hm])).2 ⟨gap', hrest, hsplit⟩
  have hsome :
      ((suffixRests (ss ++ (gap ++ (ds ++ [';'])))).findSome? declarators?).isSome = true :=
    List.findSome?_isSome_iff.2
      ⟨_, mem_suffixRests_iff.2 ⟨ss, rfl, hss⟩, Option.isSome_of_eq_some hdeclarators⟩
  obtain ⟨found, hfound⟩ := Option.isSome_iff_exists.1 hsome
  refine ⟨found, ofLine?_eq_some_iff.2 ⟨_, ?_, hfound⟩⟩
  rw [trimLeft_eq_self (hms.head p _), dropModifiers_append hms]

/-- A trimmed line without newlines is recognised exactly if it can be cut. It is then cut so, into
the only type that is possible and declarators that start with no blank, unless they are only
blanks. -/
theorem ofLine?_grammar (ht : trim t = t) (hnl : '\n' ∉ t) :
    ((ofLine? t).isSome = true ↔ ∃ p ds, IsCut t p ds) ∧
      ∀ h, ofLine? t = some h → IsCut t h.type h.declarators ∧
        (∀ p ds, IsCut t p ds → p = h.type) ∧
        ((∃ c ∈ h.declarators.head?, isBlank c = true) →
          ∀ c ∈ h.declarators, isBlank c = true) := by
  refine ⟨⟨fun hsome => ?_, ?_⟩, fun h hl => ?_⟩
  · obtain ⟨h, hl⟩ := Option.isSome_iff_exists.1 hsome
    exact ⟨h.type, h.declarators, (isCut_of_ofLine? ht hnl hl).1⟩
  · rintro ⟨p, ds, hcut⟩
    obtain ⟨ds', hl⟩ := exists_ofLine? hnl hcut
    exact Option.isSome_of_eq_some hl
  · obtain ⟨hcut, gap, hsplit⟩ := isCut_of_ofLine? ht hnl hl
    refine ⟨hcut, fun p ds hcut' => ?_, ?_⟩
    · obtain ⟨ds', hl'⟩ := exists_ofLine? hnl hcut'
      exact congrArg Header.type (Option.some.inj (hl'.symm.trans hl))
    · rintro ⟨c, hc, hblank⟩
      rcases hsplit.2.2 with hhead | ⟨b, hb, hbblank⟩
      · rw [hhead c hc] at hblank
        cases hblank
      · rw [hb]
        exact List.forall_mem_singleton.2 hbblank

/-- The second suffix is left to the declarators, as nothing else would be. -/
theorem ofLine?_grammar_suffix :
    ofLine? "final int [] [] ;".toList = some ⟨.int, "[] ".toList⟩ ∧
      IsCut "final int [] [] ;".toList .int "[] ".toList := by
  have hl : ofLine? "final int [] [] ;".toList = some ⟨.int, "[] ".toList⟩ := by decide +kernel
  exact ⟨hl, ((ofLine?_grammar (by decide +kernel) (by decide)).2 _ hl).1⟩

end VarDecl.Declaration.Header
