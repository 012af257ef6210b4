import VarDecl.Analysis.Grammatical
import VarDecl.Proofs.Name
import VarDecl.Proofs.Text.Marks
import VarDecl.Proofs.Text.Trim

/-!
# The grammar of grammatical lines

The checks of the grammatical stage accept a line exactly if it is `type name;` or
`type name = value;`.

* `IsLine t p` is the grammar: two words with blanks between them, the first a type and the second
  a name, then perhaps an equals sign and a value that is trimmed and not empty, and a semicolon at
  the end. Two equals signs never stand side by side;
* `checkWords_eq_ok_iff`, `checkBody_eq_ok_iff`, `checkText_eq_ok_iff`: what each check accepts;
* `Layout`, `exists_layout`: an accepted line with all blanks in and around it.
-/

namespace VarDecl.Analysis.Grammatical

open Text

variable {θ : Float} {t u v : Text} {p : Parts} {valid : Text → Bool}

/-! ### The grammar -/

/-- A valid word: it has no blanks, and no equals sign ends it. -/
structure IsWord (valid : Text → Bool) (w : Text) : Prop where
  notBlank : ∀ c ∈ w, isBlank c = false
  noEquals : '=' ∉ w
  valid : valid w = true

/-- What follows the name: nothing, or an equals sign with blanks around it and a value. -/
inductive IsRest : Text → Option Text → Prop
  | bare : IsRest [] none
  | assigned {l r v : Text} : (∀ c ∈ l, isBlank c = true) → (∀ c ∈ r, isBlank c = true) →
    v ≠ [] → trim v = v → IsRest (l ++ '=' :: (r ++ v)) (some v)

/-- A line without its last semicolon: a type, blanks, a name and perhaps a value. -/
structure IsBody (t : Text) (p : Parts) : Prop where
  type : IsWord Name.isTypeName p.typeName
  name : IsWord Name.isIdentifier p.name
  cut : ∃ gap rest, t = p.typeName ++ (gap ++ (p.name ++ rest)) ∧
    IsSpacing gap ∧ IsRest rest p.initializer

/-- A line of the grammar, with its parts. -/
def IsLine (t : Text) (p : Parts) : Prop :=
  ∃ b, t = b ++ [';'] ∧ ¬['=', '='] <:+: trim b ∧ IsBody (trim b) p

theorem IsWord.ne_nil (h : IsWord valid u) (hnil : valid [] = false) : u ≠ [] := by
  rintro rfl
  exact Bool.false_ne_true (hnil.symm.trans h.valid)

theorem IsBody.typeName_ne_nil (h : IsBody t p) : p.typeName ≠ [] := h.type.ne_nil rfl

theorem IsBody.name_ne_nil (h : IsBody t p) : p.name ≠ [] := h.name.ne_nil rfl

/-! ### Two words -/

theorem checkWords_eq_ok_iff {type name : Text} : checkWords θ t = .ok (type, name) ↔
    t.words = [type, name] ∧ Name.isIdentifier name = true ∧ Name.isTypeName type = true := by
  constructor
  · intro h
    unfold checkWords at h
    split at h
    case h_1 heq =>
      split_ifs at h with hname htype
      obtain ⟨rfl, rfl⟩ := Prod.mk.inj (Except.ok.inj h)
      exact ⟨heq, by simpa using hname, by simpa using htype⟩
    all_goals cases h
  · rintro ⟨hwords, hname, htype⟩
    simp [checkWords, hwords, hname, htype]

/-! ### The body of a line -/

/-- What the check of a body asks for, around its first equals sign. -/
theorem checkBody_eq_ok_iff_cut : checkBody θ t = .ok p ↔
    ¬['=', '='] <:+: t ∧ (cutAt '=' t).2.map trim = p.initializer ∧ p.initializer ≠ some [] ∧
      (cutAt '=' t).1.words = [p.typeName, p.name] ∧ Name.isIdentifier p.name = true ∧
      Name.isTypeName p.typeName = true := by
  have hwords : ∀ {type name}, checkWords θ (trim (cutAt '=' t).1) = .ok (type, name) ↔
      (cutAt '=' t).1.words = [type, name] ∧ Name.isIdentifier name = true ∧
        Name.isTypeName type = true := by
    intro type name
    rw [checkWords_eq_ok_iff, words_trim]
  rw [← hasDouble_eq_true_iff]
  simp only [checkBody]
  constructor
  · intro h
    split_ifs at h with hdouble hempty
    cases hw : checkWords θ (trim (cutAt '=' t).1) with
    | error e => rw [hw] at h; cases h
    | ok w =>
      rw [hw] at h
      obtain rfl := Except.ok.inj h
      exact ⟨hdouble, rfl, hempty, hwords.1 hw⟩
  · rintro ⟨hdouble, hvalue, hempty, hw⟩
    rw [if_neg hdouble, hvalue, if_neg hempty, hwords.2 hw]
    rfl

/-- A body with an equals sign is cut at the first of them. -/
theorem isBody_of_cut (ht : trim t = t) (hvalue : (cutAt '=' t).2.map trim = p.initializer)
    (hempty : p.initializer ≠ some []) (hwords : (cutAt '=' t).1.words = [p.typeName, p.name])
    (hname : Name.isIdentifier p.name = true) (htype : Name.isTypeName p.typeName = true) :
    IsBody t p := by
  obtain ⟨l, gap, r, hbefore, hl, ⟨-, hT⟩, hgap, hN, hr⟩ := exists_of_words_eq_pair hwords
  have hequals : '=' ∉ (cutAt '=' t).1 := fun hm => absurd (List.mem_takeWhile_imp hm) (by decide)
  have hTequals : '=' ∉ p.typeName := fun hm => hequals (by rw [hbefore]; simp [hm])
  have hNequals : '=' ∉ p.name := fun hm => hequals (by rw [hbefore]; simp [hm])
  refine ⟨⟨hT, hTequals, htype⟩, ⟨hN, hNequals, hname⟩, ?_⟩
  by_cases hm : '=' ∈ t
  · obtain ⟨before, v, rfl, hbefore'⟩ := List.eq_append_cons_of_mem hm
    rw [cutAt_of_notMem hbefore'] at hvalue hbefore
    obtain rfl : before = l ++ (p.typeName ++ (gap ++ (p.name ++ r))) := hbefore
    obtain rfl : l = [] := by
      rw [List.append_assoc] at ht
      exact eq_nil_of_append_trim ht hl
    obtain ⟨g, g', hv, hg, hg'⟩ := exists_eq_append_trim v
    obtain rfl : g' = [] := by
      rw [hv, ← List.cons_append, ← List.cons_append, ← List.append_assoc] at ht
      exact eq_nil_of_trim_append ht hg'
    have hrest : IsRest (r ++ '=' :: (g ++ trim v)) (some (trim v)) := by
      refine .assigned hr hg (fun hnil => hempty ?_) (trim_trim v)
      rw [← hvalue, Option.map_some, hnil]
    rw [← hvalue, Option.map_some]
    refine ⟨gap, _, ?_, hgap, hrest⟩
    conv_lhs => rw [hv]
    simp only [List.append_assoc, List.nil_append, List.append_nil]
  · rw [cutAt_eq_self hm] at hvalue hbefore
    obtain rfl : l = [] := by
      rw [show t = l ++ _ from hbefore] at ht
      exact eq_nil_of_append_trim ht hl
    obtain rfl : r = [] := by
      rw [show t = _ from hbefore] at ht
      refine eq_nil_of_trim_append (t := p.typeName ++ (gap ++ p.name)) ?_ hr
      simpa only [List.append_assoc, List.nil_append] using ht
    rw [← hvalue]
    exact ⟨gap, [], hbefore, hgap, .bare⟩

theorem IsBody.cutAt_eq (h : IsBody t p) : (cutAt '=' t).2.map trim = p.initializer ∧
    p.initializer ≠ some [] ∧ (cutAt '=' t).1.words = [p.typeName, p.name] := by
  obtain ⟨gap, rest, rfl, hgap, hrest⟩ := h.cut
  have hgapEquals : ∀ {g : Text}, (∀ c ∈ g, isBlank c = true) → '=' ∉ g := fun hg hm =>
    absurd (hg _ hm) (by decide)
  have hwords : ∀ {r : Text}, (∀ c ∈ r, isBlank c = true) →
      words (p.typeName ++ (gap ++ (p.name ++ r))) = [p.typeName, p.name] := fun hr =>
    words_eq_pair h.typeName_ne_nil h.type.notBlank hgap h.name_ne_nil h.name.notBlank hr
  have hequals : ∀ {r : Text}, (∀ c ∈ r, isBlank c = true) →
      '=' ∉ p.typeName ++ (gap ++ (p.name ++ r)) := fun hr => by
    simp [h.type.noEquals, h.name.noEquals, hgapEquals hgap.2, hgapEquals hr]
  generalize p.initializer = i at hrest
  cases hrest with
  | bare =>
    have hnil : ∀ c ∈ ([] : Text), isBlank c = true := List.forall_mem_nil _
    rw [cutAt_eq_self (hequals hnil)]
    exact ⟨rfl, by simp, hwords hnil⟩
  | @assigned l r v hl hr hv htrim =>
    have hcut : p.typeName ++ (gap ++ (p.name ++ (l ++ '=' :: (r ++ v))))
        = p.typeName ++ (gap ++ (p.name ++ l)) ++ '=' :: (r ++ v) := by
      simp only [List.append_assoc]
    have hvalue : trim (r ++ v) = v := by rw [trim_blank_append hr, htrim]
    rw [hcut, cutAt_of_notMem (hequals hl)]
    refine ⟨congrArg some hvalue, fun hnil => hv (Option.some.inj hnil), hwords hl⟩

/-- A body is accepted exactly if it is one of the grammar without two equals signs side by side. -/
theorem checkBody_eq_ok_iff (ht : trim t = t) :
    checkBody θ t = .ok p ↔ ¬['=', '='] <:+: t ∧ IsBody t p := by
  rw [checkBody_eq_ok_iff_cut]
  constructor
  · rintro ⟨hdouble, hvalue, hempty, hwords, hname, htype⟩
    exact ⟨hdouble, isBody_of_cut ht hvalue hempty hwords hname htype⟩
  · rintro ⟨hdouble, hbody⟩
    obtain ⟨hvalue, hempty, hwords⟩ := hbody.cutAt_eq
    exact ⟨hdouble, hvalue, hempty, hwords, hbody.name.valid, hbody.type.valid⟩

/-! ### The line -/

/-- A text is accepted exactly if it is a line of the grammar. -/
theorem checkText_eq_ok_iff : checkText θ t = .ok p ↔ IsLine t p := by
  rw [checkText, IsLine]
  constructor
  · intro h
    split_ifs at h with hlast
    exact ⟨t.dropLast, (List.dropLast_append_getLast? ';' hlast).symm,
      (checkBody_eq_ok_iff (trim_trim _)).1 h⟩
  · rintro ⟨b, rfl, hb⟩
    rw [if_pos List.getLast?_concat, List.dropLast_concat]
    exact (checkBody_eq_ok_iff (trim_trim b)).2 hb

/-! ### The blanks of a line -/

/-- What follows the name of an accepted line: nothing, or an equals sign and a value. -/
def IsAssignment (rest : Text) (value : Option Text) : Prop :=
  (rest = [] ∧ value = none) ∨ ∃ v, rest = '=' :: v ∧ value = some (trim v)

theorem IsRest.exists_isAssignment {rest : Text} {value : Option Text} (h : IsRest rest value) :
    ∃ gap rest', rest = gap ++ rest' ∧ (∀ c ∈ gap, isBlank c = true) ∧
      IsAssignment rest' value := by
  cases h with
  | bare => exact ⟨[], [], rfl, List.forall_mem_nil _, Or.inl ⟨rfl, rfl⟩⟩
  | @assigned l r v hl hr _ htrim =>
    refine ⟨l, '=' :: (r ++ v), rfl, hl, Or.inr ⟨r ++ v, rfl, ?_⟩⟩
    rw [trim_blank_append hr, htrim]

/-- An accepted line, cut into its parts: a type, blanks, a name, blanks, perhaps an equals sign
and a value, and the last semicolon, with blanks around all of it. -/
structure Layout (t : Text) (p : Parts) (lead blanks gap rest trail : Text) : Prop where
  eq : t = lead ++ (p.typeName ++ (blanks ++ (p.name ++ (gap ++ (rest ++ (trail ++ [';']))))))
  lead : ∀ c ∈ lead, isBlank c = true
  type : p.typeName ≠ [] ∧ ∀ c ∈ p.typeName, isBlank c = false
  blanks : blanks ≠ [] ∧ ∀ c ∈ blanks, isBlank c = true
  name : Name.isIdentifier p.name = true ∧ ∀ c ∈ p.name, isBlank c = false
  gap : ∀ c ∈ gap, isBlank c = true
  rest : IsAssignment rest p.initializer
  trail : ∀ c ∈ trail, isBlank c = true

/-- Each accepted line has such parts. -/
theorem exists_layout (h : checkText θ t = .ok p) :
    ∃ lead blanks gap rest trail, Layout t p lead blanks gap rest trail := by
  obtain ⟨b, rfl, -, hbody⟩ := checkText_eq_ok_iff.1 h
  obtain ⟨blanks, rest, hb, hblanks, hrest⟩ := hbody.cut
  obtain ⟨gap, rest', rfl, hgap, hrest'⟩ := hrest.exists_isAssignment
  obtain ⟨lead, trail, ht, hlead, htrail⟩ := exists_eq_append_trim b
  refine ⟨lead, blanks, gap, rest', trail, ?_, hlead, ⟨hbody.typeName_ne_nil, hbody.type.notBlank⟩,
    hblanks, ⟨hbody.name.valid, hbody.name.notBlank⟩, hgap, hrest', htrail⟩
  rw [ht, hb]
  simp only [List.append_assoc]

end VarDecl.Analysis.Grammatical
