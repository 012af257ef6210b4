import Mathlib.Data.List.Forall2
import VarDecl.Proofs.Analysis.Semantic
import VarDecl.Proofs.Program.Checker
import VarDecl.Proofs.Program.Rendering

/-!
# The semantic stage on rendered programs

`analyze_render`: the semantic stage finds in the text of a program what checking the tree finds,
whatever the settings.

* `Renders`: a declarator of the text comes from one of the tree. Both are then judged alike
  (`outcome_of_renders`), in a scope and in its table;
* `analysis_step` and `analysis_foldl_step`: this goes on along a run;
* `forall₂_flatMap_itemsOfLine`: the declarators of the text come from those of the tree, in order.
-/

namespace VarDecl.Program

open Text Expression Declaration Analysis

variable {θ : Float} {Γ : Scope} {p : Placed} {i : Semantic.Item}

/-! ### Initializers -/

theorem Expr.infer_render (Γ : Scope) (e : Expr) : infer Γ.table e.render =
    match e.atoms.findSome? (Atom.undeclared? Γ) with
    | some u => .error ⟨u⟩
    | none => .ok (highest (e.atoms.filterMap (Atom.category? Γ))) := by
  rw [infer, e.fragments_render]
  exact inferAll_map_fragment Γ e.atoms

/-- What is no lone constant is judged by its atoms. -/
theorem Expr.initializerFault?_of_kind? {e : Expr} (h : Literal.kind? e.render = none)
    (θ : Float) (Γ : Scope) (type : Primitive) (target : Text) :
    Semantic.initializerFault? θ Γ.table type target e.render =
      match e.atoms.findSome? (Atom.undeclared? Γ) with
      | some u => some (.undefined u target, Suggestion.suggest? θ u Γ.names)
      | none =>
        let c := highest (e.atoms.filterMap (Atom.category? Γ))
        if c.fits type then none else some (.expressionMismatch c type target, none) := by
  simp only [Semantic.initializerFault?, e.expression_render, h, e.infer_render, Scope.names_table]
  cases e.atoms.findSome? (Atom.undeclared? Γ) <;> rfl

theorem Expr.initializerFault?_render (θ : Float) (Γ : Scope) (type : Primitive) (target : Text)
    (e : Expr) :
    Semantic.initializerFault? θ Γ.table type target e.render = e.fault? θ Γ type target := by
  obtain ⟨a, rest⟩ := e
  cases rest with
  | cons r rest =>
    rw [initializerFault?_of_kind? (Expr.kind?_eq_none _ (List.cons_ne_nil r rest))]
    cases a <;> rfl
  | nil =>
    have hkind := Expr.kind?_render_singleton a
    cases a with
    | constant c =>
      simp only [Semantic.initializerFault?, Expr.expression_render, hkind]
      rfl
    | reference x h =>
      rw [initializerFault?_of_kind? hkind]
      rfl

/-! ### One declarator -/

/-- A declarator of the text that comes from one of the tree, perhaps with blanks around it. -/
def Renders (p : Placed) (i : Semantic.Item) : Prop :=
  ∃ t, i = .declarator ⟨p.line, p.type, t⟩ ∧ trim t = p.declarator.render

theorem declaration_of_trim_eq {d : Semantic.Declarator} (hline : d.line = p.line)
    (htype : d.type = p.type) (h : trim d.text = p.declarator.render) :
    d.declaration = p.declaration := by
  obtain ⟨hname, hinit⟩ := cut_of_trim_eq h
  rw [Semantic.Declarator.declaration, Placed.declaration, hname, hinit, hline, htype]

theorem fault?_of_trim_eq {d : Semantic.Declarator} (htype : d.type = p.type)
    (h : trim d.text = p.declarator.render) :
    Semantic.fault? θ Γ.table d = p.fault? θ Γ := by
  obtain ⟨hname, hinit⟩ := cut_of_trim_eq h
  have hne : ¬(trim d.text).isEmpty = true := by
    rw [h, List.isEmpty_iff]
    exact p.declarator.isTrimmed.ne_nil
  have hid : ¬(!Name.isIdentifier p.declarator.name.text) = true := by
    rw [p.declarator.name.isName.isIdentifier]
    decide
  have htaken : (Γ.table.find? p.declarator.name.text).isSome = true ↔
      p.declarator.name.text ∈ Γ.names := by
    rw [← Scope.names_table, ← not_iff_not, ← Semantic.find?_eq_none_iff,
      Option.not_isSome_iff_eq_none]
  rw [Semantic.fault?, if_neg hne, hname, if_neg hid, Placed.fault?, hinit, htype]
  by_cases hmem : p.declarator.name.text ∈ Γ.names
  · rw [if_pos (htaken.2 hmem), if_pos hmem]
  · rw [if_neg (mt htaken.1 hmem), if_neg hmem]
    cases hi : p.declarator.initializer with
    | none => rfl
    | some e =>
      show _ = e.fault? θ Γ p.type p.declarator.name.text
      rw [← e.initializerFault?_render]
      -- the initializer has text, so it is not taken for a missing one
      obtain ⟨c, t, hrender⟩ := List.exists_cons_of_ne_nil e.isTrimmed.ne_nil
      rw [Option.map_some, hrender]

/-- The two declarators are judged alike. -/
theorem outcome_of_renders (h : Renders p i) : Semantic.outcome θ Γ.table i =
    match p.fault? θ Γ with
    | some (fault, suggestion) => .error ⟨some p.line, fault, suggestion⟩
    | none => .ok p.declaration := by
  obtain ⟨t, rfl, ht⟩ := h
  rw [Semantic.outcome, Semantic.check, fault?_of_trim_eq rfl ht]
  cases p.fault? θ Γ with
  | some f => rfl
  | none => exact congrArg Except.ok (declaration_of_trim_eq rfl rfl ht)

/-! ### Runs -/

/-- The analysis that a state is. -/
def State.analysis (s : State) : Analysis :=
  ⟨.semantic s.declarations s.scope.table, s.diagnostics⟩

theorem notMem_names_of_fault? (h : p.fault? θ Γ = none) : p.declarator.name.text ∉ Γ.names := by
  intro hmem
  rw [Placed.fault?, if_pos hmem] at h
  cases h

/-- A new variable goes to the end of the table. -/
theorem declare_table (h : p.declarator.name.text ∉ Γ.names) :
    Semantic.declare Γ.table p.declaration = Scope.table (Γ ++ [(p.declarator.name, p.type)]) := by
  rw [← Scope.names_table, ← Semantic.find?_eq_none_iff] at h
  rw [Semantic.declare, Placed.declaration, SymbolTable.insert_of_find?_eq_none h]
  simp [Scope.table]

/-- One step does what the outcome of the declarator says. -/
theorem analysis_step (s : State) (h : Renders p i) :
    let o := Semantic.outcome θ s.scope.table i
    (s.step θ p).analysis =
      ⟨.semantic (s.declarations ++ accepted [o]) (Semantic.after s.scope.table o),
        s.diagnostics ++ rejected [o]⟩ := by
  intro o
  have ho : o = _ := outcome_of_renders h
  rw [State.step]
  cases hfault : p.fault? θ s.scope with
  | some f =>
    rw [hfault] at ho
    rw [ho]
    simp [State.analysis, Semantic.after]
  | none =>
    rw [hfault] at ho
    rw [ho]
    simp [State.analysis, Semantic.after, declare_table (notMem_names_of_fault? hfault)]

/-- A run from a state does what the outcomes of the declarators say. -/
theorem analysis_foldl_step (s : State) {ps : List Placed} {is : List Semantic.Item}
    (h : List.Forall₂ Renders ps is) :
    let os := Semantic.outcomes θ s.scope.table is
    (ps.foldl (State.step θ) s).analysis =
      ⟨.semantic (s.declarations ++ accepted os) (Semantic.tableAfter θ s.scope.table is),
        s.diagnostics ++ rejected os⟩ := by
  induction h generalizing s with
  | nil => simp [State.analysis, Semantic.outcomes, Semantic.tableAfter]
  | @cons p i ps is hi _ ih =>
    -- One step changes each part of the state as the first outcome says; the rest goes on there.
    have hstep := analysis_step (θ := θ) s hi
    simp only [State.analysis, Analysis.mk.injEq, Findings.semantic.injEq] at hstep
    obtain ⟨⟨hdecls, htable⟩, hdiags⟩ := hstep
    have hrun := ih (s.step θ p)
    rw [hdecls, htable, hdiags] at hrun
    rw [List.foldl_cons, hrun]
    simp only [Semantic.outcomes, Semantic.tableAfter, List.append_assoc, ← accepted_append,
      ← rejected_append, List.singleton_append]

/-! ### The declarators of a text -/

theorem renders_of_trim_eq {n : Nat} {type : Primitive} {d : Declarator} {t : Text}
    (h : trim t = d.render) : Renders ⟨n, type, d⟩ (.declarator ⟨n, type, t⟩) :=
  ⟨t, rfl, h⟩

theorem itemsOfLine_render (n : Nat) (l : Line) :
    Semantic.itemsOfLine ⟨n, l.render⟩ =
      (l.first.render :: l.rest.map fun d => ' ' :: d.render).map
        fun t => .declarator ⟨n, l.type, t⟩ := by
  have htext : SourceLine.text ⟨n, l.render⟩ = l.render := l.trim_render
  simp only [Semantic.itemsOfLine, htext, l.ofLine?_render, l.split_list]

/-- A line of the text has the declarators of its line of the tree. -/
theorem forall₂_itemsOfLine (n : Nat) (l : Line) :
    List.Forall₂ Renders (l.declarators.map (⟨n, l.type, ·⟩))
      (Semantic.itemsOfLine ⟨n, l.render⟩) := by
  rw [itemsOfLine_render, Line.declarators, List.map_cons, List.map_cons, List.map_map]
  refine .cons (renders_of_trim_eq l.first.isTrimmed.trim) ?_
  rw [List.forall₂_map_left_iff, List.forall₂_map_right_iff, List.forall₂_same]
  intro d _
  apply renders_of_trim_eq
  rw [trim_cons_of_blank (by decide), d.isTrimmed.trim]

theorem forall₂_flatMap_itemsOfLine (n : Nat) (ls : List Line) :
    List.Forall₂ Renders (placedFrom n ls)
      ((Source.numberFrom n (ls.map Line.render)).flatMap Semantic.itemsOfLine) := by
  induction ls generalizing n with
  | nil => exact .nil
  | cons l ls ih => exact List.rel_append (forall₂_itemsOfLine n l) (ih (n + 1))

/-- Declarators count in either mode. -/
theorem filter_counts_eq_self {strict : Bool} {ps : List Placed} {is : List Semantic.Item}
    (h : List.Forall₂ Renders ps is) : is.filter (·.counts strict) = is := by
  induction h with
  | nil => rfl
  | cons hi _ ih =>
    obtain ⟨t, rfl, -⟩ := hi
    rw [List.filter_cons_of_pos rfl, ih]

/-! ### The lines of a text -/

theorem Line.render_ne_nil (l : Line) : l.render ≠ [] := fun h =>
  (name_isSolid l.type).1 (List.append_eq_nil_iff.1 h).1

/-- No line of a program is blank, and none holds a comment. -/
theorem nonblankLines_render (stripComments : Bool) (P : Program) :
    Source.nonblankLines stripComments P.render =
      Source.numberFrom 1 (P.lines.map Line.render) := by
  have htext : (if stripComments then Comment.strip P.render else P.render) = P.render := by
    rw [strip_render, ite_self]
  rw [Source.nonblankLines, Source.lines, htext, lines_render]
  refine List.filter_eq_self.2 fun w hw => ?_
  obtain ⟨l, -, hl⟩ := List.mem_map.1 (Source.raw_mem_of_mem_numberFrom hw)
  rw [SourceLine.isBlank, SourceLine.text, ← hl, l.trim_render]
  simpa using l.render_ne_nil

/-- A program starts with the type of its first line. -/
theorem exists_render_eq (P : Program) : ∃ t, P.render = P.first.type.name ++ t := by
  rw [render, lines, List.map_cons]
  cases P.rest.map Line.render with
  | nil => exact ⟨_, List.intercalate_singleton⟩
  | cons u us =>
    rw [List.intercalate_cons_cons, Line.render, List.append_assoc, List.append_assoc]
    exact ⟨_, rfl⟩

theorem isEmpty_render (P : Program) : Source.isEmpty P.render = false := by
  obtain ⟨t, ht⟩ := P.exists_render_eq
  obtain ⟨hne, hsolid⟩ := name_isSolid P.first.type
  obtain ⟨c, u, hname⟩ := List.exists_cons_of_ne_nil hne
  have hc : Text.isBlank c = false := (hsolid c (by rw [hname]; exact List.mem_cons_self)).isBlank
  rw [ht, hname, Source.isEmpty, List.cons_append, List.all_cons, hc, Bool.false_and]

theorem any_isDeclarationLine_render (P : Program) :
    (Source.numberFrom 1 (P.lines.map Line.render)).any Semantic.isDeclarationLine = true := by
  have htext : SourceLine.text ⟨1, P.first.render⟩ = P.first.render := P.first.trim_render
  have hfirst : Semantic.isDeclarationLine ⟨1, P.first.render⟩ = true := by
    rw [Semantic.isDeclarationLine, htext, P.first.ofLine?_render]
    rfl
  exact List.any_eq_true.2 ⟨_, List.mem_cons_self, hfirst⟩

/-! ### Agreement -/

/-- The semantic stage finds in the text of a program what checking the program finds. -/
theorem analyze_render (settings : Settings) (P : Program) :
    Semantic.analyze settings P.render = P.check settings.threshold := by
  have hitems := forall₂_flatMap_itemsOfLine 1 P.lines
  have hrun := analysis_foldl_step (θ := settings.threshold) ⟨[], [], []⟩ hitems
  show _ = ((placedFrom 1 P.lines).foldl (State.step settings.threshold) ⟨[], [], []⟩).analysis
  rw [hrun, Semantic.analyze, isEmpty_render, if_neg Bool.false_ne_true]
  simp only [nonblankLines_render, any_isDeclarationLine_render, Semantic.items,
    filter_counts_eq_self hitems, Bool.not_true, Bool.and_false]
  rw [noDeclarationsIf, if_neg Bool.false_ne_true, List.append_nil]
  rfl

end VarDecl.Program
