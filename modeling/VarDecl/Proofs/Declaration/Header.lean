import VarDecl.Declaration.Header
import VarDecl.Proofs.Declaration.Suffix

/-!
# Plain declaration lines

* `line`: a primitive type, a space, a list of declarators and a semicolon;
* `ofLine?_append`: a primitive type, blanks, a list of declarators that starts neither with a blank
  nor with a bracket, and a semicolon are a declaration line, which is cut after the blanks;
* `notMem_of_ofLine?`: the declarators of any declaration line have no newline;
* `sublist_of_ofLine?`: the type and the declarators stand one after the other on the line.
-/

namespace VarDecl.Declaration.Header

open Text

variable {t ds blanks : Text}

/-! ### The start of a line -/

/-- No modifier starts a type. -/
theorem modifier?_name (p : Primitive) : modifier? (p.name ++ t) = none := by
  cases p <;> rfl

theorem dropModifiers_of_none (h : modifier? t = none) : dropModifiers t = t := by
  rw [dropModifiers]
  split <;> simp_all

/-- No type starts another one. -/
theorem ofStart?_name (p : Primitive) : Primitive.ofStart? (p.name ++ t) = some (p, t) := by
  cases p <;> rfl

theorem ofStart?_eq_some_iff {p : Primitive} {r : Text} :
    Primitive.ofStart? t = some (p, r) ↔ t = p.name ++ r := by
  constructor
  · intro h
    obtain ⟨q, -, hq⟩ := List.exists_of_findSome?_eq_some h
    obtain ⟨rest, hafter, heq⟩ := Option.map_eq_some_iff.1 hq
    obtain ⟨rfl, rfl⟩ := Prod.mk.inj heq
    exact after?_eq_some_iff.1 hafter
  · rintro rfl
    exact ofStart?_name p

theorem suffixRests_of_none (h : suffix? (trimLeft t) = none) : suffixRests t = [t] := by
  rw [suffixRests]
  split <;> simp_all

/-! ### The declarators -/

/-- The declarators stand between the blanks and the semicolon. -/
theorem declarators?_append (hne : blanks ≠ []) (hb : ∀ c ∈ blanks, isBlank c = true)
    (hds : ds ≠ []) (hhead : ∀ c ∈ ds.head?, isBlank c = false) (hnl : '\n' ∉ ds) :
    declarators? (blanks ++ (ds ++ [';'])) = some ds := by
  have hhead' : ∀ c ∈ (ds ++ [';']).head?, isBlank c = false := by
    obtain ⟨d, ds, rfl⟩ := List.exists_cons_of_ne_nil hds
    exact hhead
  have htake : (blanks ++ (ds ++ [';'])).takeWhile isBlank = blanks := by
    rw [List.takeWhile_append_of_pos hb, takeWhile_eq_nil hhead', List.append_nil]
  have hdrop : (blanks ++ (ds ++ [';'])).dropWhile isBlank = ds ++ [';'] := by
    rw [List.dropWhile_append_of_pos hb, dropWhile_eq_self hhead']
  have hright : trimRight (ds ++ [';']) = ds ++ [';'] := dropTrailing_eq_self fun c hc => by
    rw [List.getLast?_concat] at hc
    obtain rfl := Option.some.inj hc
    decide
  have hlength : ds.length ≠ 0 := fun h => hds (List.length_eq_zero_iff.1 h)
  simp [declarators?, htake, hdrop, hright, hne, hds, hnl, hlength]

theorem notMem_of_declarators? (h : declarators? t = some ds) : '\n' ∉ ds := by
  simp only [declarators?, Option.ite_none_left_eq_some, Option.some.injEq] at h
  obtain ⟨-, hl, rfl⟩ := h
  intro hm
  rw [List.contains_iff_mem.2 hm, Bool.or_true] at hl
  exact hl rfl

/-! ### The whole line -/

/-- A line is recognised by its type behind the modifiers, and the declarators behind the longest
row of suffixes that leaves any. -/
theorem ofLine?_eq_some_iff {h : Header} : ofLine? t = some h ↔
    ∃ rest, dropModifiers (trimLeft t) = h.type.name ++ rest ∧
      (suffixRests rest).findSome? declarators? = some h.declarators := by
  simp only [ofLine?, bind, Option.bind_eq_some_iff, pure, Option.some.injEq]
  constructor
  · rintro ⟨⟨p, rest⟩, htype, ds, hds, rfl⟩
    exact ⟨rest, ofStart?_eq_some_iff.1 htype, hds⟩
  · rintro ⟨rest, htype, hds⟩
    exact ⟨(h.type, rest), ofStart?_eq_some_iff.2 htype, h.declarators, hds, rfl⟩

/-- A type, blanks, declarators and a semicolon are a declaration line. -/
theorem ofLine?_append (p : Primitive) (hne : blanks ≠ [])
    (hb : ∀ c ∈ blanks, isBlank c = true) (hds : ds ≠ [])
    (hhead : ∀ c ∈ ds.head?, isBlank c = false ∧ c ≠ '[') (hnl : '\n' ∉ ds) :
    ofLine? (p.name ++ (blanks ++ (ds ++ [';']))) = some ⟨p, ds⟩ := by
  have hleft : trimLeft (p.name ++ (blanks ++ (ds ++ [';'])))
      = p.name ++ (blanks ++ (ds ++ [';'])) := by
    refine trimLeft_eq_self fun c hc => ?_
    cases p <;> (obtain rfl := Option.some.inj hc; decide)
  have hmodifiers : dropModifiers (p.name ++ (blanks ++ (ds ++ [';'])))
      = p.name ++ (blanks ++ (ds ++ [';'])) :=
    dropModifiers_of_none (modifier?_name p)
  have hhead' : ∀ c ∈ (ds ++ [';']).head?, isBlank c = false ∧ c ≠ '[' := by
    obtain ⟨d, ds, rfl⟩ := List.exists_cons_of_ne_nil hds
    exact hhead
  have hrests : suffixRests (blanks ++ (ds ++ [';'])) = [blanks ++ (ds ++ [';'])] := by
    apply suffixRests_of_none
    rw [trimLeft_append_of_blank hb, trimLeft_eq_self fun c hc => (hhead' c hc).1]
    exact suffix?_of_ne fun c hc => (hhead' c hc).2
  have hdeclarators := declarators?_append hne hb hds (fun c hc => (hhead c hc).1) hnl
  simp [ofLine?, hleft, hmodifiers, ofStart?_name, hrests, hdeclarators]

/-- A type, a space, a list of declarators and a semicolon. -/
def line (p : Primitive) (ds : Text) : Text := p.name ++ ' ' :: (ds ++ [';'])

theorem line_noNewline (p : Primitive) (h : '\n' ∉ ds) : '\n' ∉ line p ds := by
  have hname : '\n' ∉ p.name := by cases p <;> decide
  refine List.not_mem_append hname (List.not_mem_cons_of_ne_of_not_mem (by decide) ?_)
  exact List.not_mem_append h (by decide)

/-- Such a line has no blanks at its ends. -/
theorem trim_line (p : Primitive) (ds : Text) : trim (line p ds) = line p ds := by
  refine trim_eq_self (fun c hc => ?_) fun c hc => ?_
  · cases p <;> (obtain rfl := Option.some.inj hc; decide)
  · rw [line, List.getLast?_append_of_ne_nil _ (List.cons_ne_nil _ _), ← List.cons_append,
      List.getLast?_concat] at hc
    obtain rfl := Option.some.inj hc
    decide

/-- The declarators of such a line start after all blanks, if no bracket comes first. -/
theorem ofLine?_line (p : Primitive) (hhead : ∃ c ∈ (trimLeft ds).head?, c ≠ '[')
    (hnl : '\n' ∉ ds) : ofLine? (line p ds) = some ⟨p, trimLeft ds⟩ := by
  obtain ⟨blanks, hds, hblanks⟩ := exists_eq_append_trimLeft ds
  obtain ⟨c, hc, hbracket⟩ := hhead
  have hline : line p ds = p.name ++ (' ' :: blanks ++ (trimLeft ds ++ [';'])) := by
    conv_lhs => rw [line, hds]
    simp only [List.append_assoc, List.cons_append]
  rw [hline]
  apply ofLine?_append p (List.cons_ne_nil _ _)
  · exact List.forall_mem_cons.2 ⟨by decide, hblanks⟩
  · exact fun h0 => by
      rw [h0] at hc
      cases hc
  · intro d hd
    obtain rfl := Option.some.inj (hc.symm.trans hd)
    exact ⟨head?_trimLeft hd, hbracket⟩
  · exact fun hm => hnl ((List.dropWhile_sublist isBlank).subset hm)

/-- The declarators of a declaration line have no newline. -/
theorem notMem_of_ofLine? {h : Header} (hl : ofLine? t = some h) : '\n' ∉ h.declarators := by
  obtain ⟨rest, -, hds⟩ := ofLine?_eq_some_iff.1 hl
  obtain ⟨r, -, hr⟩ := List.exists_of_findSome?_eq_some hds
  exact notMem_of_declarators? hr

/-! ### What a header takes from its line -/

theorem isSuffix_of_modifier? {r : Text} (h : modifier? t = some r) : r <:+ t := by
  obtain ⟨m, -, hm⟩ := List.exists_of_findSome?_eq_some h
  split at hm
  case h_1 c rest heq =>
    split_ifs at hm
    obtain rfl := Option.some.inj hm
    have hrest : c :: rest <:+ t := ⟨m, (after?_eq_some_iff.1 heq).symm⟩
    exact ((List.dropWhile_suffix isBlank).trans (List.suffix_cons c rest)).trans hrest
  case h_2 => cases hm

theorem dropModifiers_isSuffix (t : Text) : dropModifiers t <:+ t := by
  fun_induction dropModifiers t with
  | case1 t r h ih => exact ih.trans (isSuffix_of_modifier? h)
  | case2 t h => exact List.suffix_rfl

theorem isSuffix_of_mem_suffixRests {r : Text} (h : r ∈ suffixRests t) : r <:+ t := by
  fun_induction suffixRests t with
  | case1 t u hu ih =>
    rcases List.mem_append.1 h with h | h
    · exact (ih h).trans ((isSuffix_of_suffix? hu).trans (List.dropWhile_suffix isBlank))
    · obtain rfl := List.mem_singleton.1 h
      exact List.suffix_rfl
  | case2 t h' =>
    obtain rfl := List.mem_singleton.1 h
    exact List.suffix_rfl

theorem sublist_of_declarators? (h : declarators? t = some ds) : ds.Sublist t := by
  simp only [declarators?, Option.ite_none_left_eq_some, Option.some.injEq] at h
  obtain ⟨-, -, rfl⟩ := h
  split
  case isTrue =>
    -- The list is one of the blanks at the start.
    refine List.Sublist.trans ?_ (List.takeWhile_sublist isBlank)
    cases hb : (t.takeWhile isBlank).tail.getLast? with
    | none => exact List.nil_sublist _
    | some b =>
      exact List.singleton_sublist.2 (List.mem_of_mem_tail (List.mem_of_getLast? hb))
  case isFalse =>
    have hright := dropTrailing_prefix isBlank (t.dropWhile isBlank)
    exact ((List.dropLast_sublist _).trans hright.sublist).trans (List.dropWhile_sublist isBlank)

/-- The type and the declarators stand one after the other on the line. -/
theorem sublist_of_ofLine? {h : Header} (hl : ofLine? t = some h) :
    (h.type.name ++ h.declarators).Sublist t := by
  obtain ⟨rest, htype, hfind⟩ := ofLine?_eq_some_iff.1 hl
  obtain ⟨r, hr, hds⟩ := List.exists_of_findSome?_eq_some hfind
  have hline : h.type.name ++ rest <:+ t := by
    rw [← htype]
    exact (dropModifiers_isSuffix _).trans (List.dropWhile_suffix isBlank)
  have hrest := (sublist_of_declarators? hds).trans (isSuffix_of_mem_suffixRests hr).sublist
  exact ((List.Sublist.refl h.type.name).append hrest).trans hline.sublist

end VarDecl.Declaration.Header
