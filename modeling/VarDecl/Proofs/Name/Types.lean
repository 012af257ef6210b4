import VarDecl.Proofs.Name

/-!
# The grammar of type names

What may stand where a declaration names its type, for words without blanks.

* `HasSuffix t`: a name with a bracketed suffix behind it, from an opening bracket to a closing one
  at the end;
* `isGenericType_iff`: the suffix of a generic type ends at its first closing bracket;
* `isTypeName_grammar`: accepted are names, generic types, and primitive types with an opening
  bracket and anything behind it. Of these the last may lack a closing bracket, as `int<` does
  (`isTypeName_unclosed`); all others are names or have a suffix.
-/

namespace VarDecl.Name

open Text

variable {t r : Text}

/-- A name and a suffix, which starts with `<` and ends with `>`. -/
def HasSuffix (t : Text) : Prop := ∃ n s, IsName n ∧ t = n ++ '<' :: (s ++ ['>'])

/-- A primitive type and an opening bracket, in a text that does not end with a closing one. -/
def IsUnclosed (t : Text) : Prop :=
  ∃ (p : Primitive) (r : Text), t = p.name ++ '<' :: r ∧ t.getLast? ≠ some '>'

/-! ### Generic types -/

/-- From an opening bracket to the first closing one, which is the last character. -/
def IsBracketed (r : Text) : Prop := ∃ s, r = '<' :: (s ++ ['>']) ∧ '>' ∉ s

theorem isGenericSuffix_iff (h : '\n' ∉ r) :
    isGenericSuffix r = true ↔ r = [] ∨ IsBracketed r := by
  constructor
  · intro hr
    unfold isGenericSuffix at hr
    split at hr
    case h_1 u =>
      have hhead := List.head?_dropWhile_not (· != '>') u
      have hsplit : u = u.takeWhile (· != '>') ++ u.dropWhile (· != '>') :=
        List.takeWhile_append_dropWhile.symm
      split at hr
      case h_2 => cases hr
      case h_1 c rest hdrop =>
        rw [hdrop] at hhead hsplit
        obtain rfl : c = '>' := by simpa using hhead
        obtain rfl : rest = [] := eq_nil_of_atEnd hr fun hm => h (by rw [hsplit]; simp [hm])
        exact Or.inr ⟨_, congrArg ('<' :: ·) hsplit,
          fun hm => absurd (List.mem_takeWhile_imp hm) (by decide)⟩
    case h_2 => exact Or.inl (eq_nil_of_atEnd hr h)
  · rintro (rfl | ⟨s, rfl, hs⟩)
    · rfl
    · have hne : ∀ c ∈ s, (c != '>') = true := fun c hc => bne_iff_ne.2 fun h0 => hs (h0 ▸ hc)
      rw [isGenericSuffix, List.dropWhile_append_of_pos hne]
      rfl

theorem isWordChar_of_isBracketed (h : r = [] ∨ IsBracketed r) :
    ∀ c ∈ r.head?, isWordChar c = false := by
  rintro c hc
  rcases h with rfl | ⟨s, rfl, -⟩
  · cases hc
  · obtain rfl := Option.some.inj hc
    rfl

/-- A generic type is a name, perhaps with a suffix that ends at its first closing bracket. -/
theorem isGenericType_iff (h : '\n' ∉ t) : isGenericType t = true ↔
    ∃ n r, t = n ++ r ∧ IsName n ∧ (r = [] ∨ IsBracketed r) := by
  constructor
  · intro ht
    cases t with
    | nil => cases ht
    | cons c u =>
      simp only [isGenericType, Bool.and_eq_true] at ht
      have hsplit : u = u.takeWhile isWordChar ++ u.dropWhile isWordChar :=
        List.takeWhile_append_dropWhile.symm
      refine ⟨c :: u.takeWhile isWordChar, u.dropWhile isWordChar, congrArg (c :: ·) hsplit, ?_, ?_⟩
      · exact ⟨c, _, rfl, ht.1, fun d hd => List.mem_takeWhile_imp hd⟩
      · refine (isGenericSuffix_iff fun hm => h (List.mem_cons_of_mem c ?_)).1 ht.2
        exact (List.dropWhile_subset _) hm
  · rintro ⟨n, r, rfl, ⟨c, u, rfl, hc, hu⟩, hr⟩
    have hnl : '\n' ∉ r := fun hm => h (List.mem_append_right _ hm)
    rw [List.cons_append, isGenericType, hc, List.dropWhile_append_of_pos hu,
      dropWhile_eq_self (isWordChar_of_isBracketed hr), (isGenericSuffix_iff hnl).2 hr]
    rfl

theorem startsLikeGeneric_iff :
    startsLikeGeneric t = true ↔ ∃ (p : Primitive) (r : Text), t = p.name ++ '<' :: r := by
  simp only [startsLikeGeneric, Primitive.names, List.any_map, List.any_eq_true,
    Function.comp_apply, Option.isSome_iff_exists, after?_eq_some_iff, List.append_assoc,
    List.singleton_append]
  constructor
  · rintro ⟨p, -, r, h⟩
    exact ⟨p, r, h⟩
  · rintro ⟨p, r, h⟩
    exact ⟨p, Primitive.mem_all p, r, h⟩

/-! ### Type names -/

theorem isSome_ofName?_iff :
    (Primitive.ofName? t).isSome = true ↔ ∃ p : Primitive, t = p.name := by
  simp only [Option.isSome_iff_exists, Primitive.ofName?_eq_some_iff]

/-- A word is accepted as a type exactly if it is a name, a generic type, or starts with a primitive
type and an opening bracket. -/
theorem isTypeName_iff (h : '\n' ∉ t) : isTypeName t = true ↔
    IsName t ∨ (∃ n r, t = n ++ r ∧ IsName n ∧ IsBracketed r) ∨
      ∃ (p : Primitive) (r : Text), t = p.name ++ '<' :: r := by
  rw [isTypeName, Bool.or_eq_true, Bool.or_eq_true, isSome_ofName?_iff, startsLikeGeneric_iff,
    isGenericType_iff h]
  constructor
  · rintro ((⟨p, rfl⟩ | hp) | ⟨n, r, rfl, hn, rfl | hr⟩)
    · exact Or.inl (isName_name p)
    · exact Or.inr (Or.inr hp)
    · rw [List.append_nil]
      exact Or.inl hn
    · exact Or.inr (Or.inl ⟨n, r, rfl, hn, hr⟩)
  · rintro (hn | ⟨n, r, rfl, hn, hr⟩ | hp)
    · exact Or.inr ⟨t, [], (List.append_nil t).symm, hn, Or.inl rfl⟩
    · exact Or.inr ⟨n, r, rfl, hn, Or.inr hr⟩
    · exact Or.inl (Or.inr hp)

theorem hasSuffix_of_isBracketed {n : Text} (hn : IsName n) (hr : IsBracketed r) :
    HasSuffix (n ++ r) := by
  obtain ⟨s, rfl, -⟩ := hr
  exact ⟨n, s, hn, rfl⟩

/-- A bracket behind a primitive type is the start of a suffix, or is not closed. -/
theorem hasSuffix_or_isUnclosed (p : Primitive) (r : Text) :
    HasSuffix (p.name ++ '<' :: r) ∨ IsUnclosed (p.name ++ '<' :: r) := by
  by_cases hlast : (p.name ++ '<' :: r).getLast? = some '>'
  · refine Or.inl ⟨p.name, r.dropLast, isName_name p, ?_⟩
    rw [List.getLast?_append_of_ne_nil _ (List.cons_ne_nil _ _)] at hlast
    cases r with
    | nil => cases hlast
    | cons c r =>
      rw [List.getLast?_cons_cons] at hlast
      rw [List.dropLast_append_getLast? _ hlast]
  · exact Or.inr ⟨p, r, rfl, hlast⟩

/-- With an opening bracket and no closing one at its end, a text is neither a name nor a name with
a suffix. -/
theorem IsUnclosed.not_isName_or_hasSuffix (h : IsUnclosed t) : ¬(IsName t ∨ HasSuffix t) := by
  obtain ⟨p, r, rfl, hlast⟩ := h
  rintro (hname | ⟨n, s, -, heq⟩)
  · exact hname.notMem (c := '<') rfl (by simp)
  · refine hlast ?_
    rw [heq, ← List.cons_append, ← List.append_assoc, List.getLast?_concat]

/-- A word without blanks that is accepted as a type is a name, or a name with a suffix, unless it
is a primitive type with a bracket that is not closed. Accepted are all names, suffixes that end at
their first closing bracket, and anything behind a primitive type and an opening bracket. -/
theorem isTypeName_grammar (h : ∀ c ∈ t, isBlank c = false) :
    (isTypeName t = true → (IsName t ∨ HasSuffix t ↔ ¬IsUnclosed t)) ∧
      (isTypeName t = true ↔ IsName t ∨ (∃ n r, t = n ++ r ∧ IsName n ∧ IsBracketed r) ∨
        ∃ (p : Primitive) (r : Text), t = p.name ++ '<' :: r) := by
  have hnl : '\n' ∉ t := fun hm => absurd (h _ hm) (by decide)
  refine ⟨fun ht => ⟨fun hformed hopen => hopen.not_isName_or_hasSuffix hformed, fun hclosed => ?_⟩,
    isTypeName_iff hnl⟩
  rcases (isTypeName_iff hnl).1 ht with hname | ⟨n, r, rfl, hn, hr⟩ | ⟨p, r, rfl⟩
  · exact Or.inl hname
  · exact Or.inr (hasSuffix_of_isBracketed hn hr)
  · exact Or.inr ((hasSuffix_or_isUnclosed p r).resolve_right hclosed)

/-- Behind a primitive type a suffix may close twice. -/
theorem isTypeName_grammar_twice :
    isTypeName "int<a>b>".toList = true ∧
      (IsName "int<a>b>".toList ∨ HasSuffix "int<a>b>".toList) := by
  have hblank : "int<a>b>".toList.all (fun c => !isBlank c) = true := by decide +kernel
  obtain ⟨hformed, haccepted⟩ := @isTypeName_grammar "int<a>b>".toList fun c hc => by
    simpa using List.all_eq_true.1 hblank c hc
  have ht : isTypeName "int<a>b>".toList = true :=
    haccepted.2 (Or.inr (Or.inr ⟨.int, "a>b>".toList, rfl⟩))
  refine ⟨ht, (hformed ht).2 ?_⟩
  rintro ⟨p, r, -, hlast⟩
  exact hlast rfl

/-- A bracket that is opened behind a primitive type need not be closed. -/
theorem isTypeName_unclosed : isTypeName "int<".toList = true ∧
    (∀ c ∈ "int<".toList, isBlank c = false) ∧
      ¬(IsName "int<".toList ∨ HasSuffix "int<".toList) := by
  have hopen : IsUnclosed "int<".toList := ⟨.int, [], rfl, by decide⟩
  have hblank : "int<".toList.all (fun c => !isBlank c) = true := by decide
  exact ⟨by decide, fun c hc => by simpa using List.all_eq_true.1 hblank c hc,
    hopen.not_isName_or_hasSuffix⟩

end VarDecl.Name
