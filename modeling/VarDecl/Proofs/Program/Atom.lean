import VarDecl.Proofs.Comment
import VarDecl.Proofs.Expression.Inference
import VarDecl.Proofs.Expression.TopLevel
import VarDecl.Proofs.Program.Constant

/-!
# The texts of atoms

* `Atom.closes_or_isSolid`: an atom is a quoted literal or has none of the characters that mean
  something outside literals, so it is cut nowhere (`Atom.isClosed`), holds no comment
  (`Atom.transparent`) and has no blanks at its ends (`Atom.isTrimmed`);
* `Atom.fragments_append`: an atom is one fragment, without its sign if it is a number;
* `inferAll_map_fragment`: judging these fragments gives the first variable outside the scope, or
  the highest category of the atoms.
-/

namespace VarDecl.Program

open Text Literal Expression Comment

variable {c d : Char} {r t u : Text} {Γ : Scope}

/-! ### Characters -/

/-- A character of numbers and names. -/
def IsSolid (c : Char) : Prop := isDigit c = true ∨ isWordChar c = true ∨ c ∈ ['+', '-', '.']

instance (c : Char) : Decidable (IsSolid c) := inferInstanceAs (Decidable (_ ∨ _))

theorem IsSolid.ne (h : IsSolid c) (hd : ¬IsSolid d) : c ≠ d := by
  rintro rfl
  exact hd h

theorem IsSolid.isBlank (h : IsSolid c) : isBlank c = false := by
  refine Bool.eq_false_iff.2 fun hb => ?_
  rcases h with h | h | h
  · rw [isDigit_of_isBlank hb] at h
    cases h
  · rw [isBlank_of_isWordChar h] at hb
    cases hb
  · simp only [List.mem_cons, List.not_mem_nil, or_false] at h
    rcases h with rfl | rfl | rfl <;> exact absurd hb (by decide)

theorem isSolid_of_isName (h : Name.IsName t) : ∀ c ∈ t, IsSolid c := fun _ hc =>
  Or.inr (Or.inl (h.isWordChar hc))

theorem Numeral.isSolid (n : Numeral) : ∀ c ∈ n.sign.render ++ n.magnitude, IsSolid c := by
  intro c hc
  rcases n.isNumber.mem_cases hc with h | h | h | h | h
  · exact Or.inl h
  · simp only [List.mem_cons, List.not_mem_nil, or_false] at h
    rcases h with rfl | rfl <;> decide
  · rw [h.1]
    decide
  · rcases h.1 with rfl | rfl <;> decide
  · cases h

/-- An atom is a quoted literal, or is made of solid characters. -/
theorem Atom.closes_or_isSolid (a : Atom) :
    (∃ q s, (q = '"' ∨ q = '\'') ∧ a.render = q :: s ∧ Closes q s ∧ '\n' ∉ s) ∨
      (a.render ≠ [] ∧ ∀ c ∈ a.render, IsSolid c) := by
  cases a with
  | reference x h => exact Or.inr ⟨x.isName.ne_nil, isSolid_of_isName x.isName⟩
  | constant c =>
    cases c with
    | string gs =>
      obtain ⟨s, hs, hcloses, hnl⟩ := Constant.exists_closes_of_quoted.1 gs
      exact Or.inl ⟨_, s, Or.inl rfl, hs, hcloses, hnl⟩
    | char g =>
      obtain ⟨s, hs, hcloses, hnl⟩ := Constant.exists_closes_of_quoted.2 g
      exact Or.inl ⟨_, s, Or.inr rfl, hs, hcloses, hnl⟩
    | boolean b =>
      obtain ⟨htrue, hfalse⟩ := isName_truthValue
      cases b
      · exact Or.inr ⟨hfalse.ne_nil, isSolid_of_isName hfalse⟩
      · exact Or.inr ⟨htrue.ne_nil, isSolid_of_isName htrue⟩
    | number n =>
      refine Or.inr ⟨fun h0 => ?_, n.isSolid⟩
      obtain ⟨d, hd, -⟩ := n.head?_magnitude
      rw [(List.append_eq_nil_iff.1 h0).2] at hd
      cases hd

/-! ### Texts that are cut nowhere -/

theorem isClosed_of_isSolid {p : Char → Bool} (h : ∀ c ∈ t, IsSolid c)
    (hp : ∀ c, p c = true → ¬IsSolid c) : IsClosed p t := by
  refine isClosed_of_forall fun c hc => ⟨?_, Bool.eq_false_iff.2 fun h0 => hp c h0 (h c hc)⟩
  exact ⟨(h c hc).ne (by decide), (h c hc).ne (by decide), (h c hc).ne (by decide),
    (h c hc).ne (by decide)⟩

theorem transparent_of_isSolid (h : ∀ c ∈ t, IsSolid c) : Transparent t :=
  transparent_of_forall fun c hc =>
    ⟨(h c hc).ne (by decide), (h c hc).ne (by decide), (h c hc).ne (by decide)⟩

theorem Atom.isClosed (a : Atom) : IsClosed (· == ',') a.render := by
  rcases a.closes_or_isSolid with ⟨q, s, hq, ha, hs, -⟩ | ⟨-, hsolid⟩
  · rw [ha]
    exact isClosed_of_closes hq hs
  · refine isClosed_of_isSolid hsolid fun c hc => ?_
    rw [beq_iff_eq.1 hc]
    decide

theorem Atom.transparent (a : Atom) : Transparent a.render := by
  rcases a.closes_or_isSolid with ⟨q, s, hq, ha, hs, hnl⟩ | ⟨-, hsolid⟩
  · rw [ha]
    exact transparent_of_closes hq hs hnl
  · exact transparent_of_isSolid hsolid

theorem Atom.noNewline (a : Atom) : '\n' ∉ a.render := by
  rcases a.closes_or_isSolid with ⟨q, s, hq, ha, hs, hnl⟩ | ⟨-, hsolid⟩
  · rw [ha]
    intro hm
    rcases List.mem_cons.1 hm with rfl | hm
    · rcases hq with hq | hq <;> exact absurd hq (by decide)
    · exact hnl hm
  · exact fun hm => (hsolid _ hm).ne (by decide) rfl

/-- A text that starts and ends with what is neither a blank nor removed from expressions. -/
structure IsTrimmed (t : Text) : Prop where
  head : ∃ c ∈ t.head?, isBlank c = false ∧ c ≠ '('
  last : ∃ c ∈ t.getLast?, isBlank c = false ∧ c ≠ ';'

theorem IsTrimmed.ne_nil (h : IsTrimmed t) : t ≠ [] := by
  obtain ⟨c, hc, -⟩ := h.head
  rintro rfl
  cases hc

/-- Only the two ends matter. -/
theorem IsTrimmed.append (ht : IsTrimmed t) (hu : IsTrimmed u) (m : Text) :
    IsTrimmed (t ++ m ++ u) := by
  constructor
  · rw [List.append_assoc, List.head?_append_of_ne_nil _ ht.ne_nil]
    exact ht.head
  · rw [List.getLast?_append_of_ne_nil _ hu.ne_nil]
    exact hu.last

theorem IsTrimmed.trim (h : IsTrimmed t) : trim t = t := by
  obtain ⟨⟨c, hc, hcb, -⟩, ⟨d, hd, hdb, -⟩⟩ := h
  refine trim_eq_self (fun c' hc' => ?_) fun d' hd' => ?_
  · obtain rfl := Option.some.inj (hc.symm.trans hc')
    exact hcb
  · obtain rfl := Option.some.inj (hd.symm.trans hd')
    exact hdb

theorem isTrimmed_of_isSolid (hne : t ≠ []) (h : ∀ c ∈ t, IsSolid c) : IsTrimmed t := by
  constructor
  · have hc := List.head?_eq_some_head hne
    have hs := h _ (List.mem_of_mem_head? hc)
    exact ⟨_, hc, hs.isBlank, hs.ne (by decide)⟩
  · have hc := List.getLast?_eq_some_getLast hne
    have hs := h _ (List.mem_of_getLast? hc)
    exact ⟨_, hc, hs.isBlank, hs.ne (by decide)⟩

theorem Atom.isTrimmed (a : Atom) : IsTrimmed a.render := by
  rcases a.closes_or_isSolid with ⟨q, s, hq, ha, hs, -⟩ | ⟨hne, hsolid⟩
  · have hq' : Text.isBlank q = false ∧ q ≠ '(' ∧ q ≠ ';' := by rcases hq with rfl | rfl <;> decide
    rw [ha]
    exact ⟨⟨q, rfl, hq'.1, hq'.2.1⟩,
      ⟨q, by rw [List.getLast?_cons, getLast?_of_closes hs]; rfl, hq'.1, hq'.2.2⟩⟩
  · exact isTrimmed_of_isSolid hne hsolid

/-! ### Fragments -/

/-- The fragment that an atom is found as. -/
def Atom.fragment : Atom → Text
  | constant (.number n) => n.magnitude
  | a => a.render

/-- After its sign, an atom is one fragment. -/
theorem Atom.exists_fragment?_append (a : Atom) (hr : Stops r) :
    ∃ sgn, a.render = sgn ++ a.fragment ∧ (∀ c ∈ sgn, IsInert c) ∧
      fragment? (a.fragment ++ r) = some (a.fragment, r) := by
  have hword : ∀ c ∈ r.head?, isFragmentChar c = false := fun c hc => by
    obtain ⟨-, h₁, h₂, -⟩ := hr c hc
    simp [isFragmentChar, h₁, h₂]
  have hquoted : ∀ {q : Char} {s : Text}, (q = '"' ∨ q = '\'') → Closes q s →
      fragment? (q :: s ++ r) = some (q :: s, r) := fun {q s} hq hs => by
    have hne : q ≠ '\\' := by rcases hq with rfl | rfl <;> decide
    rw [List.cons_append, fragment?_of_quote hq, ← List.cons_append, hs.span?_append hne]
  cases a with
  | reference x h => exact ⟨[], rfl, by simp, fragment?_of_isName x.isName hword⟩
  | constant c =>
    cases c with
    | string gs =>
      obtain ⟨s, hs, hcloses, -⟩ := Constant.exists_closes_of_quoted.1 gs
      refine ⟨[], rfl, by simp, ?_⟩
      show fragment? (Constant.render (.string gs) ++ r) = some (Constant.render (.string gs), r)
      rw [hs]
      exact hquoted (Or.inl rfl) hcloses
    | char g =>
      obtain ⟨s, hs, hcloses, -⟩ := Constant.exists_closes_of_quoted.2 g
      refine ⟨[], rfl, by simp, ?_⟩
      show fragment? (Constant.render (.char g) ++ r) = some (Constant.render (.char g), r)
      rw [hs]
      exact hquoted (Or.inr rfl) hcloses
    | boolean b =>
      refine ⟨[], rfl, by simp, ?_⟩
      cases b
      · exact fragment?_of_isName isName_truthValue.2 hword
      · exact fragment?_of_isName isName_truthValue.1 hword
    | number n =>
      refine ⟨n.sign.render, rfl, ?_, n.fragment?_append hr⟩
      cases n.sign <;> exact List.all_iff_forall_prop.1 (by decide)

theorem Atom.fragments_append (a : Atom) (hr : Stops r) :
    fragments (a.render ++ r) = a.fragment :: fragments r := by
  obtain ⟨sgn, ha, hsgn, hfrag⟩ := a.exists_fragment?_append hr
  rw [ha, List.append_assoc, fragments_append_of_inert_left hsgn, fragments_of_fragment? hfrag]

/-- The first fragment of a text that goes on after an atom does not reach its end. -/
theorem Atom.atEnd_of_fragment? (a : Atom) (hr : Stops r) (hend : atEnd r = false) :
    ∀ s u, fragment? (a.render ++ r) = some (s, u) → atEnd u = false := by
  obtain ⟨sgn, ha, hsgn, hfrag⟩ := a.exists_fragment?_append hr
  intro s u h
  rw [ha, List.append_assoc] at h
  cases sgn with
  | nil =>
    rw [List.nil_append, hfrag] at h
    cases h
    exact hend
  | cons c sgn =>
    rw [List.cons_append, fragment?_cons_of_inert (hsgn c List.mem_cons_self)] at h
    cases h

/-! ### Categories -/

theorem Scope.find?_table (Γ : Scope) (x : Identifier) :
    Γ.table.find? x.text = (Γ.type? x).map Primitive.name := by
  rw [SymbolTable.find?, Scope.table, Scope.type?]
  induction Γ with
  | nil => rfl
  | cons e Γ ih =>
    rw [List.map_cons, List.lookup_cons, List.find?_cons]
    by_cases h : x.text = e.1.text
    · rw [beq_iff_eq.2 h, beq_iff_eq.2 h.symm]
      rfl
    · rw [beq_eq_false_iff_ne.2 h, beq_eq_false_iff_ne.2 (Ne.symm h)]
      exact ih

@[simp] theorem Scope.names_table (Γ : Scope) : Γ.table.names = Γ.names := by
  rw [SymbolTable.names, Scope.table, List.map_map]
  rfl

/-- The fragment of an atom is judged like the atom. -/
theorem Atom.fragmentCategory_fragment (Γ : Scope) (a : Atom) :
    fragmentCategory Γ.table a.fragment =
      match a.undeclared? Γ with
      | some u => .error ⟨u⟩
      | none => .ok (a.category? Γ) := by
  cases a with
  | constant c =>
    have hkind : kind? (Atom.fragment (.constant c)) = some c.kind := by
      cases c with
      | string gs => exact Constant.kind?_render (.string gs)
      | char g => exact Constant.kind?_render (.char g)
      | boolean b => exact Constant.kind?_render (.boolean b)
      | number n => exact n.kind?_magnitude
    exact fragmentCategory_of_kind? hkind
  | reference x h =>
    have href : IsReference x.text :=
      ⟨by rw [kind?_of_isName x.isName, if_neg (not_or.2 h)], x.isName.isIdentifier⟩
    show fragmentCategory Γ.table x.text = _
    rw [fragmentCategory_of_isReference href, Γ.find?_table, Atom.undeclared?, Atom.category?]
    cases Γ.type? x with
    | none => rfl
    | some p => simp

theorem highest_cons (c : Category) (cs : List Category) :
    highest (c :: cs) = c.join (highest cs) := by
  by_cases h₁ : Category.string ∈ cs <;> by_cases h₂ : Category.floating ∈ cs <;>
    by_cases h₃ : Category.integral ∈ cs <;> by_cases h₄ : Category.boolean ∈ cs <;>
      cases c <;> simp [highest, precedence, h₁, h₂, h₃, h₄, Category.join, Category.rank]

/-- The fragments of atoms are judged like the atoms. -/
theorem inferAll_map_fragment (Γ : Scope) (as : List Atom) :
    inferAll Γ.table (as.map Atom.fragment) =
      match as.findSome? (Atom.undeclared? Γ) with
      | some u => .error ⟨u⟩
      | none => .ok (highest (as.filterMap (Atom.category? Γ))) := by
  induction as with
  | nil => rfl
  | cons a as ih =>
    rw [List.map_cons, inferAll, a.fragmentCategory_fragment, List.findSome?_cons]
    cases hu : a.undeclared? Γ with
    | some u => rfl
    | none =>
      have hcat : ∃ c, a.category? Γ = some c := by
        cases a with
        | constant c => exact ⟨_, rfl⟩
        | reference x h =>
          rw [Atom.undeclared?] at hu
          cases ht : Γ.type? x with
          | none => simp [ht] at hu
          | some p => exact ⟨p.category, by rw [Atom.category?, ht]; rfl⟩
      obtain ⟨c, hc⟩ := hcat
      simp only [ih, hc, List.filterMap_cons, highest_cons]
      cases as.findSome? (Atom.undeclared? Γ) <;> rfl

end VarDecl.Program
