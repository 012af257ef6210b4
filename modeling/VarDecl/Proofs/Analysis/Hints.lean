import VarDecl.Proofs.Analysis.Passing
import VarDecl.Proofs.Suggestion

/-!
# Suggestions and analyses

Suggestions are for the reader: nothing that is declared, and no fault, depends on them. So two
analyses of a source with different thresholds agree but for their suggestions, and what holds of
the suggestions for each name holds of those of the analyses.

* `Answers R θ θ'`: the suggestions for two thresholds are in relation `R`;
* `Alike`: two outcomes that agree but for what they report, which is in relation;
* `Lexical.checkLine_alike`, `Grammatical.checkLine_alike`, `Semantic.outcomes_alike`: the outcomes
  of each stage;
* `AgreeBut R`: two analyses that agree but for their suggestions, which are in relation `R`
  (`analyze_agreeBut`);
* `hints_only`: any two thresholds, and a higher one.
-/

namespace VarDecl

variable {α β ε : Type} {R : Option Text → Option Text → Prop} {θ θ' : Float}

/-- What is suggested for a name with one threshold and with another one is in relation, and so is
to suggest nothing. -/
structure Suggestion.Answers (R : Option Text → Option Text → Prop) (θ θ' : Float) : Prop where
  none : R none none
  suggest? : ∀ name candidates, R (suggest? θ name candidates) (suggest? θ' name candidates)

/-- Two diagnostics of the same fault on the same line. -/
structure Diagnostic.AgreeBut (R : Option Text → Option Text → Prop) (d d' : Diagnostic) :
    Prop where
  line : d.line = d'.line
  fault : d.fault = d'.fault
  suggestion : R d.suggestion d'.suggestion

namespace Analysis

open Suggestion (Answers)

/-- The same fault with suggestions in relation. -/
def SameFault (R : Option Text → Option Text → Prop) (f f' : Fault × Option Text) : Prop :=
  f.1 = f'.1 ∧ R f.2 f'.2

/-- Two results that are the same, or errors in relation. -/
inductive Alike (E : ε → ε → Prop) : Except ε α → Except ε α → Prop
  | ok (a : α) : Alike E (.ok a) (.ok a)
  | error {e e' : ε} (h : E e e') : Alike E (.error e) (.error e')

theorem Alike.map {E : ε → ε → Prop} {x y : Except ε α} (h : Alike E x y) (f : α → β) :
    Alike E (x.map f) (y.map f) := by
  cases h with
  | ok a => exact .ok (f a)
  | error h => exact .error h

/-- Two analyses that agree but for their suggestions. -/
structure AgreeBut (R : Option Text → Option Text → Prop) (a a' : Analysis) : Prop where
  findings : a.findings = a'.findings
  diagnostics : List.Forall₂ (Diagnostic.AgreeBut R) a.diagnostics a'.diagnostics

/-! ### The first two stages -/

theorem Lexical.checkLine_alike (h : Answers R θ θ') (l : SourceLine) :
    Alike (Diagnostic.AgreeBut R) (Lexical.checkLine θ l) (Lexical.checkLine θ' l) := by
  have hsuggestion : R (Lexical.suggestion? θ l.text) (Lexical.suggestion? θ' l.text) := by
    rw [Lexical.suggestion?, Lexical.suggestion?]
    cases l.text.words.head? with
    | none => exact h.none
    | some w => exact h.suggest? w _
  rw [Lexical.checkLine, Lexical.checkLine]
  split_ifs
  · exact .ok _
  · exact .error ⟨rfl, rfl, hsuggestion⟩

namespace Grammatical

theorem checkWords_alike (h : Answers R θ θ') (t : Text) :
    Alike (SameFault R) (checkWords θ t) (checkWords θ' t) := by
  unfold checkWords
  split
  case h_1 type name _ =>
    split_ifs
    · exact .error ⟨rfl, h.none⟩
    · exact .error ⟨rfl, h.suggest? type _⟩
    · exact .ok _
  all_goals exact .error ⟨rfl, h.none⟩

theorem checkBody_alike (h : Answers R θ θ') (t : Text) :
    Alike (SameFault R) (checkBody θ t) (checkBody θ' t) := by
  simp only [checkBody]
  split_ifs
  · exact .error ⟨rfl, h.none⟩
  · exact .error ⟨rfl, h.none⟩
  · exact (checkWords_alike h _).map _

theorem checkText_alike (h : Answers R θ θ') (t : Text) :
    Alike (SameFault R) (checkText θ t) (checkText θ' t) := by
  unfold checkText
  split_ifs
  · exact checkBody_alike h _
  · exact .error ⟨rfl, h.none⟩

theorem checkLine_alike (h : Answers R θ θ') (l : SourceLine) :
    Alike (Diagnostic.AgreeBut R) (checkLine θ l) (checkLine θ' l) := by
  have htext := checkText_alike h l.text
  unfold checkLine
  generalize checkText θ l.text = x at htext ⊢
  generalize checkText θ' l.text = y at htext ⊢
  cases htext with
  | ok p => exact .ok _
  | error hf => exact .error ⟨rfl, hf.1, hf.2⟩

end Grammatical

/-! ### The semantic stage -/

namespace Semantic

variable {Γ : SymbolTable}

theorem initializerFault?_alike (h : Answers R θ θ') (type : Primitive) (target v : Text) :
    Option.Rel (SameFault R) (initializerFault? θ Γ type target v)
      (initializerFault? θ' Γ type target v) := by
  simp only [initializerFault?]
  split
  case h_1 k _ =>
    split_ifs
    · exact .none
    · exact .some ⟨rfl, h.none⟩
  case h_2 =>
    split
    case h_1 u _ => exact .some ⟨rfl, h.suggest? u.name _⟩
    case h_2 c _ =>
      split_ifs
      · exact .none
      · exact .some ⟨rfl, h.none⟩

theorem fault?_alike (h : Answers R θ θ') (d : Declarator) :
    Option.Rel (SameFault R) (fault? θ Γ d) (fault? θ' Γ d) := by
  unfold fault?
  split_ifs
  · exact .some ⟨rfl, h.none⟩
  · exact .some ⟨rfl, h.none⟩
  · exact .some ⟨rfl, h.none⟩
  · split
    case h_1 | h_2 => exact .none
    case h_3 => exact initializerFault?_alike h _ _ _

theorem outcome_alike (h : Answers R θ θ') (i : Item) :
    Alike (Diagnostic.AgreeBut R) (outcome θ Γ i) (outcome θ' Γ i) := by
  cases i with
  | stray line text => exact .error ⟨rfl, rfl, h.none⟩
  | declarator d =>
    have hfault := fault?_alike (Γ := Γ) h d
    rw [outcome, outcome, check, check]
    generalize fault? θ Γ d = x at hfault ⊢
    generalize fault? θ' Γ d = y at hfault ⊢
    cases hfault with
    | none => exact .ok _
    | some hf => exact .error ⟨rfl, hf.1, hf.2⟩

theorem after_eq_of_alike {x y : Except Diagnostic Declaration}
    (h : Alike (Diagnostic.AgreeBut R) x y) : after Γ x = after Γ y := by
  cases h <;> rfl

/-- Item by item, both rows meet the same table. -/
theorem outcomes_alike (h : Answers R θ θ') (is : List Item) :
    List.Forall₂ (Alike (Diagnostic.AgreeBut R)) (outcomes θ Γ is) (outcomes θ' Γ is) := by
  induction is generalizing Γ with
  | nil => exact .nil
  | cons i is ih =>
    have hi := outcome_alike (Γ := Γ) h i
    refine .cons hi ?_
    rw [← after_eq_of_alike hi]
    exact ih

end Semantic

/-! ### Analyses -/

section Outcomes

variable {os os' : List (Except Diagnostic α)}

theorem accepted_eq_of_alike (h : List.Forall₂ (Alike (Diagnostic.AgreeBut R)) os os') :
    accepted os = accepted os' := by
  induction h with
  | nil => rfl
  | cons ho _ ih =>
    cases ho with
    | ok a => rw [accepted_ok, accepted_ok, ih]
    | error => rw [accepted_error, accepted_error, ih]

theorem rejected_alike (h : List.Forall₂ (Alike (Diagnostic.AgreeBut R)) os os') :
    List.Forall₂ (Diagnostic.AgreeBut R) (rejected os) (rejected os') := by
  induction h with
  | nil => exact .nil
  | cons ho _ ih =>
    cases ho with
    | ok a => exact ih
    | error hd => exact .cons hd ih

theorem ofSource_agreeBut (h : R none none) (φ : Fault) :
    (Diagnostic.ofSource φ).AgreeBut R (.ofSource φ) := ⟨rfl, rfl, h⟩

/-- Analyses that are made of such outcomes agree but for their suggestions. -/
theorem agreeBut_of_outcomes (h : R none none)
    (hos : List.Forall₂ (Alike (Diagnostic.AgreeBut R)) os os') (f : List α → Findings)
    (b : List α → Bool) :
    AgreeBut R ⟨f (accepted os), rejected os ++ noDeclarationsIf (b (accepted os))⟩
      ⟨f (accepted os'), rejected os' ++ noDeclarationsIf (b (accepted os'))⟩ := by
  rw [← accepted_eq_of_alike hos]
  refine ⟨rfl, List.rel_append (rejected_alike hos) ?_⟩
  cases b (accepted os) with
  | false => exact .nil
  | true => exact .cons (ofSource_agreeBut h _) .nil

theorem forall₂_map_alike {f g : SourceLine → Except Diagnostic α}
    (h : ∀ l, Alike (Diagnostic.AgreeBut R) (f l) (g l)) (ls : List SourceLine) :
    List.Forall₂ (Alike (Diagnostic.AgreeBut R)) (ls.map f) (ls.map g) :=
  List.forall₂_map_left_iff.2 (List.forall₂_map_right_iff.2 (List.forall₂_same.2 fun l _ => h l))

end Outcomes

theorem ofEmptySource_agreeBut (h : R none none) (s : Stage) :
    (ofEmptySource s).AgreeBut R (ofEmptySource s) :=
  ⟨rfl, .cons (ofSource_agreeBut h _) .nil⟩

/-- The analyses of a source with two thresholds agree but for their suggestions. -/
theorem analyze_agreeBut (h : Answers R θ θ') (s : Stage) (strip strict : Bool) (source : Text) :
    (s.analyze ⟨strip, strict, θ⟩ source).AgreeBut R (s.analyze ⟨strip, strict, θ'⟩ source) := by
  cases he : Source.isEmpty source with
  | true =>
    rw [analyze_of_isEmpty s he, analyze_of_isEmpty s he]
    exact ofEmptySource_agreeBut h.none s
  | false =>
    cases s with
    | lexical =>
      have hos := forall₂_map_alike (Lexical.checkLine_alike h) (Source.nonblankLines strip source)
      have hagree := agreeBut_of_outcomes h.none hos .lexical List.isEmpty
      simpa only [Stage.analyze, Lexical.analyze_eq he, Lexical.outcomes] using hagree
    | grammatical =>
      have hos := forall₂_map_alike (Grammatical.checkLine_alike h)
        (Source.nonblankLines strip source)
      have hagree := agreeBut_of_outcomes h.none hos .grammatical fun _ =>
        (Source.nonblankLines strip source).isEmpty
      simpa only [Stage.analyze, Grammatical.analyze_eq he, Grammatical.outcomes,
        List.isEmpty_map] using hagree
    | semantic =>
      have hos := Semantic.outcomes_alike (Γ := .empty) h
        (Semantic.items strict (Source.nonblankLines strip source))
      have hagree := agreeBut_of_outcomes h.none hos
        (fun δs => .semantic δs (Semantic.tableOf δs)) fun _ =>
          strict && !(Source.nonblankLines strip source).any Semantic.isDeclarationLine
      simpa only [Stage.analyze, Semantic.analyze_eq he, Semantic.outcomesOf] using hagree

/-- No threshold changes anything but suggestions, and with a higher threshold each diagnostic
suggests what it suggested, or nothing. -/
theorem hints_only (s : Stage) (strip strict : Bool) (source : Text) (θ θ' : Float) :
    ((s.analyze ⟨strip, strict, θ⟩ source).AgreeBut (fun _ _ => True)
      (s.analyze ⟨strip, strict, θ'⟩ source)) ∧
    (s.analyze ⟨strip, strict, θ⟩ source).passed = (s.analyze ⟨strip, strict, θ'⟩ source).passed ∧
    (θ ≤ θ' → (s.analyze ⟨strip, strict, θ⟩ source).AgreeBut (fun o o' => o' = none ∨ o' = o)
      (s.analyze ⟨strip, strict, θ'⟩ source)) := by
  have hany : (s.analyze ⟨strip, strict, θ⟩ source).AgreeBut (fun _ _ => True)
      (s.analyze ⟨strip, strict, θ'⟩ source) :=
    analyze_agreeBut ⟨trivial, fun _ _ => trivial⟩ s strip strict source
  refine ⟨hany, ?_, fun h => ?_⟩
  · rw [Bool.eq_iff_iff, passed_iff, passed_iff, ← List.length_eq_zero_iff,
      hany.diagnostics.length_eq, List.length_eq_zero_iff]
  · exact analyze_agreeBut ⟨Or.inl rfl, Suggestion.suggest?_eq_none_or h⟩ s strip strict source

/-- A suggestion that only the lower threshold allows. -/
theorem hints_only_higher :
    (Stage.semantic.analyze ⟨true, false, 0.6⟩ "int total = 1;\nint b = totla;".toList).AgreeBut
        (fun o o' => o' = none ∨ o' = o)
        (Stage.semantic.analyze ⟨true, false, 0.9⟩ "int total = 1;\nint b = totla;".toList) ∧
      (Stage.semantic.analyze ⟨true, false, 0.6⟩
        "int total = 1;\nint b = totla;".toList).diagnostics.map Diagnostic.suggestion
          = [some "total".toList] ∧
      (Stage.semantic.analyze ⟨true, false, 0.9⟩
        "int total = 1;\nint b = totla;".toList).diagnostics.map Diagnostic.suggestion
          = [none] := by
  obtain ⟨-, -, h⟩ :=
    hints_only .semantic true false "int total = 1;\nint b = totla;".toList 0.6 0.9
  refine ⟨h (by decide +kernel), ?_, ?_⟩
  · decide +kernel
  · decide +kernel

end Analysis

end VarDecl
