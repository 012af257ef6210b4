import VarDecl.Proofs.Analysis.Declarators
import VarDecl.Proofs.Analysis.Passing
import VarDecl.Proofs.Analysis.Renumbering

/-!
# Lists of declarators

A line with a list of declarators says the same as lines of one declarator each, whether they are
accepted or not.

* `IsPart d`: a text that can stand between the commas of a list;
* `split_list`, `itemsOfLine_list`: the parts of a list are found again, but for the blanks before
  the first one;
* `outcomes_map_trim`: blanks around declarators change no outcome;
* `analyze_list`: the line and the lines have the same analysis, up to the numbers of lines.
-/

namespace VarDecl.Analysis.Semantic

open Text Expression Declaration

variable {strict : Bool} {θ : Float} {Γ : SymbolTable} {p : Primitive} {n : Nat} {d : Text}
  {ds : List Text}

/-! ### Parts of a list -/

/-- A text that stands on one line, starts with something but a bracket when it is trimmed, as with
a letter or an underscore, has no comma on its top level and leaves no literal or parenthesis
open. -/
structure IsPart (d : Text) : Prop where
  noNewline : '\n' ∉ d
  ne_nil : trim d ≠ []
  noBracket : (trim d).head? ≠ some '['
  noComma : ∀ ic ∈ topLevel d, ic.2 ≠ ','
  noQuote : (Scan.start.run d).quote = none
  depth : (Scan.start.run d).depth = 0

instance (d : Text) : Decidable (IsPart d) :=
  decidable_of_iff ('\n' ∉ d ∧ trim d ≠ [] ∧ (trim d).head? ≠ some '[' ∧
      (∀ ic ∈ topLevel d, ic.2 ≠ ',') ∧
      (Scan.start.run d).quote = none ∧ (Scan.start.run d).depth = 0)
    ⟨fun ⟨h₁, h₂, h₃, h₄, h₅, h₆⟩ => ⟨h₁, h₂, h₃, h₄, h₅, h₆⟩,
      fun ⟨h₁, h₂, h₃, h₄, h₅, h₆⟩ => ⟨h₁, h₂, h₃, h₄, h₅, h₆⟩⟩

theorem IsPart.isClosed (h : IsPart d) : IsClosed (· == ',') d :=
  isClosed_of_topLevel h.noQuote h.depth h.noComma

theorem IsPart.head_trimLeft (h : IsPart d) : ∃ c ∈ (trimLeft d).head?, c ≠ '[' := by
  obtain ⟨c, t, hct⟩ := List.exists_cons_of_ne_nil h.ne_nil
  have hc : (trim d).head? = some c := by rw [hct, List.head?_cons]
  refine ⟨c, ?_, fun hbracket => h.noBracket (hbracket ▸ hc)⟩
  obtain ⟨r, hr⟩ := dropTrailing_prefix isBlank (trimLeft d)
  rw [← hr, List.head?_append]
  rw [show (dropTrailing isBlank (trimLeft d)).head? = some c from hc]
  rfl

theorem IsPart.trimLeft_ne_nil (h : IsPart d) : trimLeft d ≠ [] := by
  obtain ⟨c, hc, -⟩ := h.head_trimLeft
  intro h0
  rw [h0] at hc
  cases hc

theorem IsPart.isClosed_trimLeft (h : IsPart d) : IsClosed (· == ',') (trimLeft d) := by
  obtain ⟨blanks, hd, hblanks⟩ := exists_eq_append_trimLeft d
  refine IsClosed.of_append (isClosed_of_blank hblanks fun c hc => ?_) (hd ▸ h.isClosed)
  rw [beq_iff_eq.1 hc]
  decide

/-! ### The list -/

/-- A list is its first part and the others, each behind a comma. -/
theorem intercalate_cons (d : Text) (ds : List Text) :
    List.intercalate [','] (d :: ds) = d ++ ds.flatMap (',' :: ·) := by
  induction ds generalizing d with
  | nil => rw [List.intercalate_singleton, List.flatMap_nil, List.append_nil]
  | cons e ds ih =>
    rw [List.intercalate_cons_cons, ih, List.flatMap_cons, List.append_assoc]
    rfl

theorem trimLeft_list (hd : IsPart d) (ds : List Text) :
    trimLeft (List.intercalate [','] (d :: ds)) = trimLeft d ++ ds.flatMap (',' :: ·) := by
  have hne : (d.dropWhile isBlank).isEmpty = false := List.isEmpty_eq_false_iff.2 hd.trimLeft_ne_nil
  rw [intercalate_cons, trimLeft, List.dropWhile_append, hne]
  rfl

/-- The parts of a list are found again. -/
theorem split_list (hd : IsPart d) (hds : ∀ e ∈ ds, IsPart e) :
    split (· == ',') (trimLeft (List.intercalate [','] (d :: ds))) = trimLeft d :: ds := by
  rw [trimLeft_list hd]
  apply split_flatMap rfl rfl hd.isClosed_trimLeft fun e he => (hds e he).isClosed
  refine List.forall_mem_cons.2 ⟨hd.trimLeft_ne_nil, fun e he h0 => ?_⟩
  exact (hds e he).trimLeft_ne_nil (by rw [h0]; rfl)

theorem list_noNewline (hds : ∀ e ∈ ds, IsPart e) : '\n' ∉ List.intercalate [','] ds := by
  cases ds with
  | nil => exact List.not_mem_nil
  | cons d ds =>
    obtain ⟨hd, hds⟩ := List.forall_mem_cons.1 hds
    rw [intercalate_cons]
    refine List.not_mem_append hd.noNewline fun hm => ?_
    obtain ⟨e, he, hm⟩ := List.mem_flatMap.1 hm
    exact List.not_mem_cons_of_ne_of_not_mem (by decide) (hds e he).noNewline hm

/-- A line with a list is a declaration line. -/
theorem ofLine?_list (p : Primitive) (hd : IsPart d) (hds : ∀ e ∈ ds, IsPart e) :
    Header.ofLine? (Header.line p (List.intercalate [','] (d :: ds)))
      = some ⟨p, trimLeft (List.intercalate [','] (d :: ds))⟩ := by
  apply Header.ofLine?_line p
  · rw [trimLeft_list hd, List.head?_append_of_ne_nil _ hd.trimLeft_ne_nil]
    exact hd.head_trimLeft
  · exact list_noNewline (List.forall_mem_cons.2 ⟨hd, hds⟩)

/-- Its items are the parts of the list. -/
theorem itemsFrom_list (strict : Bool) (n : Nat) (p : Primitive) (hd : IsPart d)
    (hds : ∀ e ∈ ds, IsPart e) :
    itemsFrom strict n [Header.line p (List.intercalate [','] (d :: ds))]
      = (trimLeft d :: ds).map fun t => .declarator ⟨n, p, t⟩ := by
  have htext : SourceLine.text ⟨n, Header.line p (List.intercalate [','] (d :: ds))⟩
      = Header.line p (List.intercalate [','] (d :: ds)) := Header.trim_line p _
  have hblank :
      SourceLine.isBlank ⟨n, Header.line p (List.intercalate [','] (d :: ds))⟩ = false := by
    rw [SourceLine.isBlank, htext]
    cases p <;> rfl
  rw [itemsFrom, Source.numberFrom, Source.numberFrom,
    List.filter_cons_of_pos (by rw [hblank]; rfl), List.filter_nil, items,
    List.flatMap_singleton, itemsOfLine, htext, ofLine?_list p hd hds]
  simp only [split_list hd hds]
  refine List.filter_eq_self.2 fun i hi => ?_
  obtain ⟨t, -, rfl⟩ := List.mem_map.1 hi
  rfl

/-! ### Blanks around declarators -/

theorem check_trim (θ : Float) (Γ : SymbolTable) (n : Nat) (p : Primitive) (t : Text) :
    check θ Γ ⟨n, p, trim t⟩ = check θ Γ ⟨n, p, t⟩ := by
  have hcut : Declarator.cut ⟨n, p, trim t⟩ = Declarator.cut ⟨n, p, t⟩ := by
    simp only [Declarator.cut, trim_trim]
  have hname : Declarator.name ⟨n, p, trim t⟩ = Declarator.name ⟨n, p, t⟩ := by
    rw [Declarator.name, hcut, Declarator.name]
  have hvalue : Declarator.initializer ⟨n, p, trim t⟩ = Declarator.initializer ⟨n, p, t⟩ := by
    rw [Declarator.initializer, hcut, Declarator.initializer]
  have hfault : fault? θ Γ ⟨n, p, trim t⟩ = fault? θ Γ ⟨n, p, t⟩ := by
    rw [fault?, fault?, hname, hvalue, trim_trim]
  rw [check, check, hfault, Declarator.declaration, Declarator.declaration, hname, hvalue]

/-- Blanks around declarators change no outcome. -/
theorem outcomes_map_trim (θ : Float) (Γ : SymbolTable) (n : Nat) (p : Primitive)
    (ts : List Text) : outcomes θ Γ ((ts.map trim).map fun t => .declarator ⟨n, p, t⟩)
      = outcomes θ Γ (ts.map fun t => .declarator ⟨n, p, t⟩) := by
  induction ts generalizing Γ with
  | nil => rfl
  | cons t ts ih =>
    simp only [List.map_cons, outcomes, outcome, check_trim]
    rw [ih]

/-! ### The line and the lines -/

/-- Lines of one declarator each have the items of the list, on other lines. -/
theorem map_renumber_itemsFrom (strict : Bool) (n : Nat) (p : Primitive)
    (hds : ∀ e ∈ ds, IsPart e) :
    (itemsFrom strict n (ds.map fun d => Header.line p d)).map (·.renumber fun _ => 1)
      = (ds.map trimLeft).map fun t => .declarator ⟨1, p, t⟩ := by
  induction ds generalizing n with
  | nil => rfl
  | cons d ds ih =>
    obtain ⟨hd, hds⟩ := List.forall_mem_cons.1 hds
    have hline := itemsFrom_list strict n p hd (List.forall_mem_nil IsPart)
    rw [List.intercalate_singleton] at hline
    rw [List.map_cons, ← List.singleton_append, itemsFrom_append, List.map_append, hline, ih _ hds]
    rfl

/-- The outcomes of a list are those of its parts, each on a line of its own. -/
theorem outcomes_list (strict : Bool) (θ : Float) (Γ : SymbolTable) (p : Primitive)
    (hd : IsPart d) (hds : ∀ e ∈ ds, IsPart e) :
    outcomes θ Γ (itemsFrom strict 1 [Header.line p (List.intercalate [','] (d :: ds))])
      = (outcomes θ Γ (itemsFrom strict 1 ((d :: ds).map fun e => Header.line p e))).map
          (renumberOutcome (·.renumber fun _ => 1) fun _ => 1) := by
  have htrim : (trimLeft d :: ds).map trim = ((d :: ds).map trimLeft).map trim := by
    simp only [List.map_cons, List.map_map, Function.comp_def, trim_trimLeft]
  rw [← outcomes_renumber, map_renumber_itemsFrom strict 1 p (List.forall_mem_cons.2 ⟨hd, hds⟩),
    itemsFrom_list strict 1 p hd hds, ← outcomes_map_trim, htrim, outcomes_map_trim]

/-- A source whose first line has a list is judged by the outcomes. -/
theorem analyze_of_lines {source : Text} {ws : List Text} (hd : IsPart d)
    (hds : ∀ e ∈ ds, IsPart e)
    (h : source.lines = Header.line p (List.intercalate [','] (d :: ds)) :: ws) :
    analyze ⟨false, strict, θ⟩ source
      = ⟨.semantic (accepted (outcomesOf ⟨false, strict, θ⟩ source))
          (tableOf (accepted (outcomesOf ⟨false, strict, θ⟩ source))),
            rejected (outcomesOf ⟨false, strict, θ⟩ source)⟩ := by
  have htext : SourceLine.text ⟨1, Header.line p (List.intercalate [','] (d :: ds))⟩
      = Header.line p (List.intercalate [','] (d :: ds)) := Header.trim_line p _
  have hlines : Source.lines false source
      = ⟨1, Header.line p (List.intercalate [','] (d :: ds))⟩ :: Source.numberFrom 2 ws := by
    rw [Source.lines, if_neg Bool.false_ne_true, h]
    rfl
  apply analyze_of_isDeclarationLine (l := ⟨1, Header.line p (List.intercalate [','] (d :: ds))⟩)
  · rw [Source.nonblankLines, hlines, List.mem_filter, SourceLine.isBlank, htext]
    refine ⟨List.mem_cons_self, ?_⟩
    cases p <;> rfl
  · rw [isDeclarationLine, htext, ofLine?_list p hd hds]
    rfl

/-- A line with a list of declarators and lines with one of them each have the same analysis, but
for the numbers of the lines. -/
theorem analyze_list (strict : Bool) (θ : Float) (p : Primitive) (hne : ds ≠ [])
    (hds : ∀ d ∈ ds, IsPart d) :
    analyze ⟨false, strict, θ⟩ (Header.line p (List.intercalate [','] ds))
      = (analyze ⟨false, strict, θ⟩
          (List.intercalate ['\n'] (ds.map fun d => Header.line p d))).renumber fun _ => 1 := by
  obtain ⟨d, ds, rfl⟩ := List.exists_cons_of_ne_nil hne
  obtain ⟨hd, hrest⟩ := List.forall_mem_cons.1 hds
  have hline : lines (Header.line p (List.intercalate [','] (d :: ds)))
      = [Header.line p (List.intercalate [','] (d :: ds))] :=
    lines_eq_singleton (Header.line_noNewline p (list_noNewline hds))
  have hlines : lines (List.intercalate ['\n'] ((d :: ds).map fun e => Header.line p e))
      = Header.line p (List.intercalate [','] [d]) :: ds.map fun e => Header.line p e := by
    rw [List.intercalate_singleton]
    refine lines_intercalate (fun w hw => ?_) (List.cons_ne_nil _ _)
    obtain ⟨e, he, rfl⟩ := List.mem_map.1 hw
    exact Header.line_noNewline p (hds e he).noNewline
  have houtcomes : outcomesOf ⟨false, strict, θ⟩ (Header.line p (List.intercalate [','] (d :: ds)))
      = (outcomesOf ⟨false, strict, θ⟩
          (List.intercalate ['\n'] ((d :: ds).map fun e => Header.line p e))).map
        (renumberOutcome (·.renumber fun _ => 1) fun _ => 1) := by
    show outcomes θ .empty (itemsFrom strict 1 (lines (Header.line p _)))
      = (outcomes θ .empty (itemsFrom strict 1 (lines (List.intercalate _ _)))).map _
    rw [hline, hlines, List.intercalate_singleton]
    exact outcomes_list strict θ .empty p hd hrest
  rw [analyze_of_lines hd hrest hline, analyze_of_lines hd (List.forall_mem_nil _) hlines,
    houtcomes, accepted_map_renumberOutcome, rejected_map_renumberOutcome, tableOf_map_renumber]
  rfl

/-- A list of two declarators, of which the second does not fit its type and holds a comma. -/
theorem analyze_list_comma :
    analyze ⟨false, false, Suggestion.defaultThreshold⟩ "int a = 1, b = \",\";".toList
      = (analyze ⟨false, false, Suggestion.defaultThreshold⟩
          "int a = 1;\nint  b = \",\";".toList).renumber fun _ => 1 := by
  have h := @analyze_list ["a = 1".toList, " b = \",\"".toList] false Suggestion.defaultThreshold
    .int (List.cons_ne_nil _ _) (by decide +kernel)
  have hline : Header.line .int (List.intercalate [','] ["a = 1".toList, " b = \",\"".toList])
      = "int a = 1, b = \",\";".toList := by decide +kernel
  have hlines : List.intercalate ['\n'] (["a = 1".toList, " b = \",\"".toList].map fun d =>
      Header.line .int d) = "int a = 1;\nint  b = \",\";".toList := by decide +kernel
  rwa [hline, hlines] at h

end VarDecl.Analysis.Semantic
