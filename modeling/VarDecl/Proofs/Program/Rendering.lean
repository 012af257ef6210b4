import VarDecl.Analysis.Semantic
import VarDecl.Proofs.Analysis.Declarators
import VarDecl.Proofs.Declaration.Header
import VarDecl.Proofs.Program.Atom
import VarDecl.Proofs.Source

/-!
# Reading rendered programs

Each cut that the semantic stage makes in the text of a program gives the parts of the tree.

* `Expr.fragments_render` and `Expr.kind?_render`: an expression has the fragments of its atoms, and
  is a literal only if it is a lone constant;
* `cut_of_trim_eq`: a declarator is cut into its name and its expression;
* `Line.ofLine?_render` and `Line.split_list`: a line is cut into its declarators;
* `strip_render` and `lines_render`: a program holds no comments and has the lines of its tree.
-/

namespace VarDecl.Program

open Text Literal Expression Comment Declaration

variable {t : Text}

/-! ### Operators -/

/-- An operator between its spaces. -/
def Operator.spaced (op : Operator) : Text := ' ' :: (op.render ++ [' '])

theorem Operator.isInert (op : Operator) : ∀ c ∈ op.spaced, IsInert c := by
  cases op <;> exact List.all_iff_forall_prop.1 (by decide)

theorem Operator.noNewline (op : Operator) : '\n' ∉ op.spaced := by cases op <;> decide

theorem Operator.isClosed (op : Operator) : IsClosed (· == ',') op.spaced := by
  apply isClosed_of_forall
  cases op <;> exact List.all_iff_forall_prop.1 (by decide)

/-- The space after a slash keeps it from starting a comment. -/
theorem Operator.transparent (op : Operator) : Transparent op.spaced := by
  by_cases hop : op = .div
  · subst hop
    intro r
    show stripFrom .code (' ' :: '/' :: ' ' :: r) = ' ' :: '/' :: ' ' :: stripFrom .code r
    simp [stripFrom, Mode.afterCode]
  · apply transparent_of_forall
    cases op with
    | div => exact absurd rfl hop
    | _ => exact List.all_iff_forall_prop.1 (by decide)

theorem renderRest_cons (op : Operator) (a : Atom) (rest : List (Operator × Atom)) :
    renderRest ((op, a) :: rest) = op.spaced ++ a.render ++ renderRest rest := by
  simp [renderRest, Operator.spaced]

/-! ### Expressions -/

theorem stops_renderRest (rest : List (Operator × Atom)) : Stops (renderRest rest) := by
  cases rest with
  | nil => exact stops_nil
  | cons e rest => exact stops_space _

theorem fragments_renderRest (rest : List (Operator × Atom)) :
    fragments (renderRest rest) = rest.map fun e => e.2.fragment := by
  induction rest with
  | nil => exact fragments_nil
  | cons e rest ih =>
    obtain ⟨op, a⟩ := e
    rw [renderRest_cons, List.append_assoc, fragments_append_of_inert_left op.isInert,
      a.fragments_append (stops_renderRest rest), ih, List.map_cons]

/-- The fragments of an expression are those of its atoms. -/
theorem Expr.fragments_render (e : Expr) : fragments e.render = e.atoms.map Atom.fragment := by
  rw [Expr.render, e.first.fragments_append (stops_renderRest e.rest), fragments_renderRest,
    Expr.atoms, List.map_cons, List.map_map]
  rfl

theorem isTrimmed_append_renderRest (h : IsTrimmed t) (rest : List (Operator × Atom)) :
    IsTrimmed (t ++ renderRest rest) := by
  induction rest generalizing t with
  | nil =>
    rw [renderRest, List.flatMap_nil, List.append_nil]
    exact h
  | cons e rest ih =>
    obtain ⟨op, a⟩ := e
    rw [renderRest_cons, ← List.append_assoc, ← List.append_assoc]
    exact ih (h.append a.isTrimmed op.spaced)

theorem Expr.isTrimmed (e : Expr) : IsTrimmed e.render :=
  isTrimmed_append_renderRest e.first.isTrimmed e.rest

/-- What holds of atoms and operators, and of texts in a row, holds of expressions. -/
theorem Expr.render_induction {motive : Text → Prop} (e : Expr)
    (hatom : ∀ a : Atom, motive a.render) (hop : ∀ op : Operator, motive op.spaced)
    (happend : ∀ {t u}, motive t → motive u → motive (t ++ u)) : motive e.render := by
  obtain ⟨first, rest⟩ := e
  have hrest : ∀ {t}, motive t → motive (t ++ renderRest rest) := by
    induction rest with
    | nil =>
      intro t ht
      rw [renderRest, List.flatMap_nil, List.append_nil]
      exact ht
    | cons e rest ih =>
      intro t ht
      obtain ⟨op, a⟩ := e
      rw [renderRest_cons, ← List.append_assoc]
      exact ih (happend ht (happend (hop op) (hatom a)))
  exact hrest (hatom first)

theorem Expr.isClosed (e : Expr) : IsClosed (· == ',') e.render :=
  e.render_induction Atom.isClosed Operator.isClosed IsClosed.append

theorem Expr.transparent (e : Expr) : Transparent e.render :=
  e.render_induction Atom.transparent Operator.transparent Transparent.append

theorem Expr.noNewline (e : Expr) : '\n' ∉ e.render :=
  e.render_induction (motive := fun t => '\n' ∉ t) Atom.noNewline Operator.noNewline
    List.not_mem_append

/-- Nothing has to be removed from a trimmed text. -/
theorem IsTrimmed.expression (h : IsTrimmed t) : Analysis.Semantic.expression t = t := by
  have hlast : dropTrailing (· == ';') t = t := dropTrailing_eq_self fun c hc => by
    obtain ⟨d, hd, -, hne⟩ := h.last
    obtain rfl := Option.some.inj (hd.symm.trans hc)
    exact beq_eq_false_iff_ne.2 hne
  have hparens : ¬isEnclosed t = true := by
    obtain ⟨d, hd, -, hne⟩ := h.head
    rw [isEnclosed, show t.head? = some d from hd]
    simp [hne]
  rw [Analysis.Semantic.expression, hlast, h.trim, stripParens, h.trim, if_neg hparens]

/-- Nothing has to be removed from an expression. -/
theorem Expr.expression_render (e : Expr) :
    Analysis.Semantic.expression e.render = e.render := e.isTrimmed.expression

theorem Expr.kind?_eq_none (e : Expr) (h : e.rest ≠ []) : kind? e.render = none := by
  obtain ⟨a, rest⟩ := e
  obtain ⟨⟨op, b⟩, rest, rfl⟩ := List.exists_cons_of_ne_nil h
  -- The text goes on with a space after the first atom, which holds the first fragment.
  refine Expression.kind?_eq_none ?_ (a.atEnd_of_fragment? (stops_renderRest _) ?_)
  · rw [Expr.render, renderRest_cons]
    simp [Operator.spaced]
  · rw [Bool.eq_false_iff]
    intro hend
    rcases atEnd_iff.1 hend with h0 | h0
    · cases h0
    · exact absurd (List.cons.inj h0).1 (by decide)

/-- An expression of one atom is a literal if the atom is a constant. -/
theorem Expr.kind?_render_singleton (a : Atom) : kind? (Expr.render ⟨a, []⟩) =
    match a with
    | .constant c => some c.kind
    | .reference _ _ => none := by
  rw [Expr.render, renderRest, List.flatMap_nil, List.append_nil]
  cases a with
  | constant c => exact c.kind?_render
  | reference x h =>
    show kind? x.text = none
    rw [kind?_of_isName x.isName, if_neg (not_or.2 h)]

/-! ### Declarators -/

theorem Identifier.isTrimmed (x : Identifier) : IsTrimmed x.text :=
  isTrimmed_of_isSolid x.isName.ne_nil (isSolid_of_isName x.isName)

theorem Declarator.render_of_some {d : Declarator} {e : Expr} (h : d.initializer = some e) :
    d.render = d.name.text ++ " = ".toList ++ e.render := by
  rw [Declarator.render, h]

theorem Declarator.render_of_none {d : Declarator} (h : d.initializer = none) :
    d.render = d.name.text := by
  rw [Declarator.render, h]

theorem Declarator.isTrimmed (d : Declarator) : IsTrimmed d.render := by
  cases h : d.initializer with
  | some e =>
    rw [d.render_of_some h]
    exact d.name.isTrimmed.append e.isTrimmed _
  | none =>
    rw [d.render_of_none h]
    exact d.name.isTrimmed

/-- What holds of the name, of the equals sign and of expressions, and of texts in a row, holds of a
declarator. -/
theorem Declarator.render_induction {motive : Text → Prop} (d : Declarator)
    (hname : motive d.name.text) (hequals : motive " = ".toList)
    (hexpr : ∀ e : Expr, motive e.render)
    (happend : ∀ {t u}, motive t → motive u → motive (t ++ u)) : motive d.render := by
  cases h : d.initializer with
  | some e =>
    rw [d.render_of_some h]
    exact happend (happend hname hequals) (hexpr e)
  | none =>
    rw [d.render_of_none h]
    exact hname

theorem Declarator.isClosed (d : Declarator) : IsClosed (· == ',') d.render := by
  refine d.render_induction ?_ (isClosed_of_forall (List.all_iff_forall_prop.1 (by decide)))
    Expr.isClosed IsClosed.append
  refine isClosed_of_isSolid (isSolid_of_isName d.name.isName) fun c hc => ?_
  rw [beq_iff_eq.1 hc]
  decide

theorem Declarator.transparent (d : Declarator) : Transparent d.render :=
  d.render_induction (transparent_of_isSolid (isSolid_of_isName d.name.isName))
    (transparent_of_forall (List.all_iff_forall_prop.1 (by decide))) Expr.transparent
    Transparent.append

theorem Declarator.noNewline (d : Declarator) : '\n' ∉ d.render :=
  d.render_induction (motive := fun t => '\n' ∉ t) (d.name.isName.notMem (by decide)) (by decide)
    Expr.noNewline List.not_mem_append

/-- The head of a declarator is that of its name. -/
theorem Declarator.head?_render (d : Declarator) : d.render.head? = d.name.text.head? := by
  cases h : d.initializer with
  | some e =>
    rw [d.render_of_some h, List.append_assoc,
      List.head?_append_of_ne_nil _ d.name.isName.ne_nil]
  | none => rw [d.render_of_none h]

section Cut

variable {d : Declarator} {s : Analysis.Semantic.Declarator}

/-- A declarator is cut into its name and its expression. -/
theorem cut_of_trim_eq (h : trim s.text = d.render) :
    s.name = d.name.text ∧ s.initializer = d.initializer.map Expr.render := by
  cases hi : d.initializer with
  | none =>
    rw [d.render_of_none hi] at h
    exact Analysis.Semantic.name_of_trim_eq d.name.isName h
  | some e =>
    have htext : d.render = d.name.text ++ [' '] ++ '=' :: ' ' :: e.render := by
      rw [d.render_of_some hi]
      simp
    have hspace : ∀ c ∈ [' '], Text.isBlank c = true := List.forall_mem_singleton.2 (by decide)
    obtain ⟨hname, hvalue⟩ :=
      Analysis.Semantic.assignment_of_trim_eq d.name.isName hspace (h.trans htext)
    refine ⟨hname, hvalue.trans ?_⟩
    rw [trim_cons_of_blank (by decide), e.isTrimmed.trim]
    rfl

end Cut

/-! ### Lines -/

theorem Line.list_eq (l : Line) :
    l.list = l.first.render ++ (l.rest.map fun d => ' ' :: d.render).flatMap (',' :: ·) := by
  rw [Line.list, List.flatMap_map]
  rfl

/-- A list of declarators is cut at the commas between them. -/
theorem Line.split_list (l : Line) : split (· == ',') l.list
    = l.first.render :: l.rest.map fun d => ' ' :: d.render := by
  have hspace : IsClosed (· == ',') [' '] :=
    isClosed_of_forall (List.forall_mem_singleton.2 (by decide))
  rw [l.list_eq]
  apply split_flatMap rfl rfl l.first.isClosed
  · intro u hu
    obtain ⟨d, -, rfl⟩ := List.mem_map.1 hu
    exact hspace.append d.isClosed
  · intro u hu
    rcases List.mem_cons.1 hu with rfl | hu
    · exact l.first.isTrimmed.ne_nil
    · obtain ⟨d, -, rfl⟩ := List.mem_map.1 hu
      exact List.cons_ne_nil _ _

theorem Line.list_noNewline (l : Line) : '\n' ∉ l.list := by
  refine List.not_mem_append l.first.noNewline fun hm => ?_
  obtain ⟨d, -, hd⟩ := List.mem_flatMap.1 hm
  exact List.not_mem_append (by decide) d.noNewline hd

/-- A line is a declaration line. -/
theorem Line.ofLine?_render (l : Line) : Header.ofLine? l.render = some ⟨l.type, l.list⟩ := by
  have hne := l.first.isTrimmed.ne_nil
  have hlist : l.list ≠ [] := fun h0 => hne (List.append_eq_nil_iff.1 h0).1
  have hblank : ∀ c ∈ [' '], Text.isBlank c = true := List.forall_mem_singleton.2 (by decide)
  refine Header.ofLine?_append l.type (List.cons_ne_nil _ _) hblank hlist (fun c hc => ?_)
    l.list_noNewline
  rw [Line.list, List.head?_append_of_ne_nil _ hne, l.first.head?_render] at hc
  have hsolid := isSolid_of_isName l.first.name.isName c (List.mem_of_mem_head? hc)
  exact ⟨hsolid.isBlank, hsolid.ne (by decide)⟩

theorem name_isSolid (p : Primitive) : p.name ≠ [] ∧ ∀ c ∈ p.name, IsSolid c :=
  ⟨(Name.isName_name p).ne_nil, isSolid_of_isName (Name.isName_name p)⟩

theorem Line.transparent (l : Line) : Transparent l.render := by
  have hname := transparent_of_isSolid (name_isSolid l.type).2
  have hcomma : Transparent ", ".toList :=
    transparent_of_forall (List.all_iff_forall_prop.1 (by decide))
  have hrest : Transparent (l.rest.flatMap fun d => ", ".toList ++ d.render) :=
    Transparent.flatMap fun d _ => hcomma.append d.transparent
  have hspace : Transparent [' '] := transparent_of_forall (List.all_iff_forall_prop.1 (by decide))
  have hend : Transparent [';'] := transparent_of_forall (List.all_iff_forall_prop.1 (by decide))
  exact hname.append (hspace.append ((l.first.transparent.append hrest).append hend))

theorem Line.noNewline (l : Line) : '\n' ∉ l.render := Header.line_noNewline l.type l.list_noNewline

/-- A line has no blanks at its ends. -/
theorem Line.trim_render (l : Line) : trim l.render = l.render := Header.trim_line l.type l.list

/-! ### Programs -/

theorem transparent_intercalate {ts : List Text} (h : ∀ t ∈ ts, Transparent t) :
    Transparent (List.intercalate ['\n'] ts) := by
  induction ts with
  | nil => exact transparent_nil
  | cons t ts ih =>
    have ht := h t List.mem_cons_self
    have hts := ih fun u hu => h u (List.mem_cons_of_mem t hu)
    cases ts with
    | nil =>
      rw [List.intercalate_singleton]
      exact ht
    | cons u us =>
      rw [List.intercalate_cons_cons]
      exact (ht.append (transparent_of_forall (List.all_iff_forall_prop.1 (by decide)))).append hts

/-- A program holds no comments. -/
theorem strip_render (P : Program) : strip P.render = P.render := by
  refine (transparent_intercalate fun t ht => ?_).strip
  obtain ⟨l, -, rfl⟩ := List.mem_map.1 ht
  exact l.transparent

/-- The lines of the text are those of the tree. -/
theorem lines_render (P : Program) : P.render.lines = P.lines.map Line.render := by
  refine lines_intercalate (fun t ht => ?_) (by simp [lines])
  obtain ⟨l, -, rfl⟩ := List.mem_map.1 ht
  exact l.noNewline

end VarDecl.Program
