import VarDecl.Proofs.Analysis.Omission
import VarDecl.Proofs.Gate

/-!
# The strict policy

The strict policy reports the lines that are no declarations, and that there is none. It changes
nothing else: the lines that it reports declare nothing, so without the policy the same declarators
meet the same tables, and its reports are told by their wording.

* `Diagnostic.isStrict`: the reports of the strict policy. No other message is worded like them,
  whatever texts of the source it quotes (`Diagnostic.isStrict_eq`);
* `fault?_cases`: all that can be wrong with a declarator;
* `omits_strays`: the declarators of a row are the row without the items that only the strict policy
  reports;
* `strict_conservative`: the strict analysis of a source and the other one.
-/

namespace VarDecl

open Text Expression

/-! ### The reports of the strict policy -/

/-- A report that only the strict policy makes, by its wording: that a line is no declaration, or
that no line is one. -/
def Diagnostic.isStrict (d : Diagnostic) : Bool :=
  "Not a variable declaration: ".toList.isPrefixOf d.fault.message
    || d.line.isNone && d.fault.message == "No variable declarations found".toList

/-- Only the message of one fault starts like this. -/
theorem Fault.isPrefixOf_message (φ : Fault) :
    "Not a variable declaration: ".toList.isPrefixOf φ.message
      = match φ with
        | .notDeclaration _ => true
        | _ => false := by
  cases φ with
  | expressionMismatch category type target => cases category <;> rfl
  | _ => rfl

/-- Only the message of one fault is this. -/
theorem Fault.message_beq_noDeclarations (φ : Fault) :
    (φ.message == "No variable declarations found".toList) = (φ == .noDeclarations) := by
  cases φ with
  | expressionMismatch category type target => cases category <;> rfl
  | _ => rfl

/-- The wording tells the fault. -/
theorem Diagnostic.isStrict_eq (d : Diagnostic) :
    d.isStrict = match d.fault with
      | .notDeclaration _ => true
      | .noDeclarations => d.line.isNone
      | _ => false := by
  rw [isStrict, Fault.isPrefixOf_message, Fault.message_beq_noDeclarations]
  cases d.fault <;> simp

namespace Analysis.Semantic

variable {θ : Float} {Γ : SymbolTable} {d : Declarator} {φ : Fault} {o : Option Text}
  {ε : Diagnostic} {is : List Item}

/-! ### One item -/

/-- What can be wrong with an initializer. -/
theorem initializerFault?_cases {type : Primitive} {target v : Text}
    (h : initializerFault? θ Γ type target v = some (φ, o)) :
    (∃ u, φ = .undefined u target) ∨ (∃ k, φ = .literalMismatch k type target) ∨
      ∃ c, φ = .expressionMismatch c type target := by
  simp only [initializerFault?] at h
  split at h
  case h_1 k _ =>
    split_ifs at h
    cases h
    exact Or.inr (Or.inl ⟨k, rfl⟩)
  case h_2 =>
    split at h
    case h_1 u _ =>
      cases h
      exact Or.inl ⟨u.name, rfl⟩
    case h_2 c _ =>
      split_ifs at h
      cases h
      exact Or.inr (Or.inr ⟨c, rfl⟩)

/-- What can be wrong with a declarator. -/
theorem fault?_cases (h : fault? θ Γ d = some (φ, o)) :
    φ = .emptyDeclarator ∨ φ = .invalidName d.name ∨ φ = .alreadyDeclared d.name ∨
      (∃ u, φ = .undefined u d.name) ∨ (∃ k, φ = .literalMismatch k d.type d.name) ∨
      ∃ c, φ = .expressionMismatch c d.type d.name := by
  unfold fault? at h
  split_ifs at h
  · cases h
    exact Or.inl rfl
  · cases h
    exact Or.inr (Or.inl rfl)
  · cases h
    exact Or.inr (Or.inr (Or.inl rfl))
  · split at h
    case h_1 | h_2 => cases h
    case h_3 v _ _ => exact Or.inr (Or.inr (Or.inr (initializerFault?_cases h)))

/-- A report about a declarator is not one of the strict policy. -/
theorem isStrict_of_check (h : check θ Γ d = .error ε) : ε.isStrict = false := by
  unfold check at h
  split at h
  case h_2 => cases h
  case h_1 φ o hφ =>
    obtain rfl := Except.error.inj h
    rw [Diagnostic.isStrict_eq]
    obtain rfl | rfl | rfl | ⟨u, rfl⟩ | ⟨k, rfl⟩ | ⟨c, rfl⟩ := fault?_cases hφ <;> rfl

/-! ### Rows of items -/

/-- Items that only the strict policy counts can be left out. -/
theorem omits_strays (θ : Float) (Γ : SymbolTable) (is : List Item) :
    Omits θ (fun ε => !ε.isStrict) Γ is (is.filter (·.counts false)) := by
  induction is generalizing Γ with
  | nil => exact .nil Γ
  | cons i is ih =>
    cases i with
    | stray line text =>
      refine .drop rfl ?_ (ih Γ)
      rw [Diagnostic.isStrict_eq]
      rfl
    | declarator d =>
      refine .keep (fun ε hε => ?_) (ih _)
      rw [isStrict_of_check hε]
      rfl

theorem items_false (ls : List SourceLine) :
    items false ls = (items true ls).filter (·.counts false) := by
  rw [items, items, List.filter_filter]
  refine List.filter_congr fun i _ => ?_
  cases i <;> rfl

theorem omits_outcomesOf (strip : Bool) (θ : Float) (source : Text) :
    Omits θ (fun ε => !ε.isStrict) .empty
      (items true (Source.nonblankLines strip source))
      (items false (Source.nonblankLines strip source)) := by
  rw [items_false]
  exact omits_strays θ .empty _

/-- What a line holds that is no declaration. -/
theorem itemsOfLine_of_not_isDeclarationLine {l : SourceLine} (h : isDeclarationLine l = false) :
    itemsOfLine l = [.stray l.number l.text] := by
  have hnone : Declaration.Header.ofLine? l.text = none := by simpa [isDeclarationLine] using h
  rw [itemsOfLine, hnone]

/-- A line that is no declaration is reported. -/
theorem mem_rejected_of_not_isDeclarationLine {ls : List SourceLine} {l : SourceLine} (hl : l ∈ ls)
    (h : isDeclarationLine l = false) :
    .atLine l.number (.notDeclaration l.text) ∈ rejected (outcomes θ Γ (items true ls)) := by
  have hitem : .stray l.number l.text ∈ items true ls := by
    rw [items, List.mem_filter, List.mem_flatMap]
    refine ⟨⟨l, hl, ?_⟩, rfl⟩
    rw [itemsOfLine_of_not_isDeclarationLine h]
    exact List.mem_singleton_self _
  obtain ⟨is₁, is₂, his⟩ := List.append_of_mem hitem
  rw [his, outcomes_append, outcomes, mem_rejected]
  exact List.mem_append_right _ List.mem_cons_self

/-! ### Both policies -/

theorem filter_noDeclarationsIf (b : Bool) :
    (noDeclarationsIf b).filter (fun ε => !ε.isStrict) = [] := by
  cases b with
  | false => rfl
  | true => exact List.filter_cons_of_neg (by rw [Diagnostic.isStrict_eq]; exact Bool.false_ne_true)

/-- The strict analysis finds the same, and reports the same beside what it alone reports. -/
theorem analyze_strict_eq (strip : Bool) (θ : Float) (source : Text) :
    (analyze ⟨strip, true, θ⟩ source).findings = (analyze ⟨strip, false, θ⟩ source).findings ∧
      (analyze ⟨strip, false, θ⟩ source).diagnostics
        = (analyze ⟨strip, true, θ⟩ source).diagnostics.filter fun ε => !ε.isStrict := by
  cases he : Source.isEmpty source with
  | true =>
    have hempty : ∀ strict : Bool, analyze ⟨strip, strict, θ⟩ source = ofEmptySource .semantic :=
      fun _ => analyze_of_isEmpty .semantic he
    have hother : (Diagnostic.ofSource .noSource).isStrict = false := by
      rw [Diagnostic.isStrict_eq]
      rfl
    rw [hempty, hempty]
    refine ⟨rfl, ?_⟩
    simp [ofEmptySource, hother]
  | false =>
    have homits := omits_outcomesOf strip θ source
    rw [analyze_eq he, analyze_lenient he rfl]
    refine ⟨?_, ?_⟩
    · rw [outcomesOf, outcomesOf, homits.accepted_eq]
    · rw [List.filter_append, filter_noDeclarationsIf, List.append_nil, outcomesOf, outcomesOf,
        homits.rejected_eq]

/-- What the strict policy asks for beyond the other one. -/
theorem passed_strict_iff {strip : Bool} {θ : Float} {source : Text} :
    (analyze ⟨strip, true, θ⟩ source).passed = true ↔
      (analyze ⟨strip, false, θ⟩ source).passed = true ∧
        (∀ l ∈ Source.nonblankLines strip source, isDeclarationLine l = true) ∧
        ∃ l ∈ Source.nonblankLines strip source, isDeclarationLine l = true := by
  constructor
  · intro h
    obtain ⟨-, hreports, hsome⟩ := passed_iff.1 h
    refine ⟨?_, fun l hl => ?_, hsome rfl⟩
    · rw [Analysis.passed_iff, (analyze_strict_eq strip θ source).2, Analysis.passed_iff.1 h,
        List.filter_nil]
    · by_contra hdecl
      have hmem := mem_rejected_of_not_isDeclarationLine (θ := θ) (Γ := .empty) hl
        (eq_false_of_ne_true hdecl)
      rw [outcomesOf] at hreports
      rw [hreports] at hmem
      cases hmem
  · rintro ⟨h, hall, l, hl, -⟩
    rwa [analyze_strict hall (List.ne_nil_of_mem hl)]

/-- The strict policy and the other one find the same in each source. The diagnostics of the other
one, hints included, are those of the strict one without the ones that it is told by. A source of
blanks has the same diagnostic in both; any other one passes the strict policy exactly if it passes
the other one, all its lines that are not blank are declaration lines, and there is one. -/
theorem strict_conservative (strip : Bool) (θ : Float) (source : Text) :
    (analyze ⟨strip, true, θ⟩ source).findings = (analyze ⟨strip, false, θ⟩ source).findings ∧
    (analyze ⟨strip, false, θ⟩ source).diagnostics
      = ((analyze ⟨strip, true, θ⟩ source).diagnostics.filter fun ε => !ε.isStrict) ∧
    (Source.isEmpty source = true →
      ∀ strict : Bool, (analyze ⟨strip, strict, θ⟩ source).diagnostics = [.ofSource .noSource]) ∧
    (Source.isEmpty source = false →
      ((analyze ⟨strip, true, θ⟩ source).passed = true ↔
        (analyze ⟨strip, false, θ⟩ source).passed = true ∧
          (∀ l ∈ Source.nonblankLines strip source, isDeclarationLine l = true) ∧
          ∃ l ∈ Source.nonblankLines strip source, isDeclarationLine l = true)) := by
  obtain ⟨hfindings, hdiagnostics⟩ := analyze_strict_eq strip θ source
  refine ⟨hfindings, hdiagnostics, fun he strict => ?_, fun _ => passed_strict_iff⟩
  exact congrArg Analysis.diagnostics (analyze_of_isEmpty (σ := ⟨strip, strict, θ⟩) .semantic he)

/-- A source of blanks, and one that passes both policies. -/
theorem strict_conservative_passed :
    (analyze ⟨false, true, Suggestion.defaultThreshold⟩ " \n".toList).diagnostics
        = [.ofSource .noSource] ∧
      (analyze ⟨false, true, Suggestion.defaultThreshold⟩
        "int a = 1;\nint b = a;".toList).passed = true := by
  obtain ⟨-, -, hblank, -⟩ :=
    strict_conservative false Suggestion.defaultThreshold " \n".toList
  obtain ⟨-, -, -, hpassed⟩ :=
    strict_conservative false Suggestion.defaultThreshold "int a = 1;\nint b = a;".toList
  refine ⟨hblank (by decide) true, (hpassed (by decide)).2 ⟨?_, ?_, ?_⟩⟩
  · decide +kernel
  · decide +kernel
  · decide +kernel

end Analysis.Semantic

end VarDecl
