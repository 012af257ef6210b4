import VarDecl.Proofs.Analysis.Quotation
import VarDecl.Proofs.Analysis.References
import VarDecl.Proofs.Analysis.Strictness
import VarDecl.Proofs.Diagnostic
import VarDecl.Proofs.Gate.Sequence
import VarDecl.Proofs.Suggestion

/-!
# What stages report can be read

Each diagnostic of a stage is one that its text tells: it stands on one line, its suggestion is a
name on one line, and no quoted text runs into the words behind it (`Diagnostic.IsReadable`).

* `Fault.notMem_message`: a message stands on one line if what it quotes does, which is so for all
  that comes from a line;
* `Lexical.of_checkLine_eq_error`, `Grammatical.of_checkLine_eq_error`: suggestions are primitive
  types. `Semantic.mem_names_of_check`: they are names that are declared;
* `Semantic.isClear_of_check`: texts that words follow on are names;
* `isReadable_of_mem_diagnostics`: all diagnostics of a stage.
-/

namespace VarDecl

open Text Expression Declaration

theorem Primitive.notMem_of_mem_names {c : Char} {x : Text} (hc : isWordChar c = false)
    (hx : x ∈ Primitive.names) : c ∉ x := by
  obtain ⟨p, -, rfl⟩ := List.mem_map.1 hx
  exact (Name.isName_name p).notMem hc

namespace Fault

variable {φ : Fault}

theorem notMem_literalWords (kind : LiteralKind) (type : Primitive) :
    '\n' ∉ literalWords kind type := by
  have hall : ∀ kind ∈ literalKinds, ∀ type ∈ Primitive.all, '\n' ∉ literalWords kind type := by
    decide +kernel
  exact hall kind (mem_literalKinds kind) type type.mem_all

/-- A message stands on one line if the texts that it quotes do. -/
theorem notMem_message (h : ∀ q ∈ φ.quotes, '\n' ∉ q) : '\n' ∉ φ.message := by
  have hopening : '\n' ∉ φ.opening := by
    rw [← opening_shape]
    exact (opening_of_mem_shapes _ (shape_mem_shapes φ)).1
  rw [message_eq, List.mem_append, not_or]
  refine ⟨hopening, ?_⟩
  cases φ with
  | notCandidate t | notDeclaration t => exact h t List.mem_cons_self
  | tooManyWords t | invalidName t | invalidType t | alreadyDeclared t =>
    have ht := h t List.mem_cons_self
    simpa [quotation] using ht
  | undefined reference target =>
    have hreference := h reference List.mem_cons_self
    have htarget := h target (List.mem_cons_of_mem _ List.mem_cons_self)
    simpa [quotation, quoted] using ⟨hreference, htarget⟩
  | literalMismatch kind type target =>
    have htarget := h target (List.mem_cons_of_mem _ List.mem_cons_self)
    simpa [quotation] using ⟨notMem_literalWords kind type, htarget⟩
  | expressionMismatch category type target =>
    have htype := h type.name List.mem_cons_self
    have htarget := h target (List.mem_cons_of_mem _ List.mem_cons_self)
    cases category <;> simpa [quotation] using ⟨htarget, htype⟩
  | _ => exact List.not_mem_nil

end Fault

/-- A diagnostic that can be read back from a line for it and a line for its suggestion. -/
structure Diagnostic.IsReadable (d : Diagnostic) : Prop where
  clear : d.fault.IsClear
  message : '\n' ∉ d.fault.message
  suggestion : ∀ x ∈ d.suggestion, '\n' ∉ x

namespace Analysis

variable {θ : Float} {σ : Settings} {source : Text} {l : SourceLine} {d : Diagnostic}

/-- What holds of a suggestion holds if there is none. -/
theorem forall_mem_none {p : Text → Prop} : ∀ x ∈ (none : Option Text), p x := fun x hx =>
  absurd hx (Option.not_mem_none x)

theorem isReadable_ofSource {φ : Fault} (hclear : φ.IsClear) (hφ : ∀ q ∈ φ.quotes, '\n' ∉ q) :
    (Diagnostic.ofSource φ).IsReadable :=
  ⟨hclear, Fault.notMem_message hφ, forall_mem_none⟩

/-- The message about a line stands on one line. -/
theorem notMem_message_of_isAbout (hl : l ∈ Source.nonblankLines σ.stripComments source)
    (hd : d.IsAbout l) : '\n' ∉ d.fault.message :=
  Fault.notMem_message fun q hq hm =>
    (Source.text_of_mem_nonblankLines hl).2.1 ((hd.quotes q hq).subset hm)

/-- A diagnostic about a line that suggests a primitive type if anything. -/
theorem isReadable_of_isAbout (hl : l ∈ Source.nonblankLines σ.stripComments source)
    (habout : d.IsAbout l) (h : d.fault.IsClear ∧ ∀ x ∈ d.suggestion, x ∈ Primitive.names) :
    d.IsReadable :=
  ⟨h.1, notMem_message_of_isAbout hl habout, fun x hx =>
    Primitive.notMem_of_mem_names (by decide) (h.2 x hx)⟩

/-! ### The first two stages -/

theorem Lexical.of_checkLine_eq_error (h : Lexical.checkLine θ l = .error d) :
    d.fault.IsClear ∧ ∀ x ∈ d.suggestion, x ∈ Primitive.names := by
  unfold Lexical.checkLine at h
  split at h
  case isTrue => cases h
  case isFalse =>
    cases h
    refine ⟨trivial, fun x hx => ?_⟩
    obtain ⟨w, -, hw⟩ := Option.bind_eq_some_iff.1 hx
    exact Suggestion.mem_of_suggest? hw

namespace Grammatical

variable {φ : Fault} {o : Option Text} {line : Text}

theorem of_checkWords_eq_error (h : checkWords θ line = .error (φ, o)) :
    φ.IsClear ∧ ∀ x ∈ o, x ∈ Primitive.names := by
  unfold checkWords at h
  split at h
  case h_1 type name _ =>
    split_ifs at h
    · cases h
      exact ⟨trivial, forall_mem_none⟩
    · cases h
      exact ⟨trivial, fun x => Suggestion.mem_of_suggest?⟩
  all_goals
    cases h
    exact ⟨trivial, forall_mem_none⟩

theorem of_checkText_eq_error (h : checkText θ line = .error (φ, o)) :
    φ.IsClear ∧ ∀ x ∈ o, x ∈ Primitive.names := by
  unfold checkText at h
  split at h
  case isFalse =>
    cases h
    exact ⟨trivial, forall_mem_none⟩
  case isTrue =>
    simp only [checkBody] at h
    split_ifs at h
    · cases h
      exact ⟨trivial, forall_mem_none⟩
    · cases h
      exact ⟨trivial, forall_mem_none⟩
    · cases hw : checkWords θ (trim (cutAt '=' (trim line.dropLast)).1) with
      | ok w => rw [hw] at h; cases h
      | error e =>
        rw [hw] at h
        obtain rfl : e = (φ, o) := Except.error.inj h
        exact of_checkWords_eq_error hw

theorem of_checkLine_eq_error (h : checkLine θ l = .error d) :
    d.fault.IsClear ∧ ∀ x ∈ d.suggestion, x ∈ Primitive.names := by
  unfold checkLine at h
  split at h
  case h_1 => cases h
  case h_2 φ o hφ =>
    cases h
    exact of_checkText_eq_error hφ

end Grammatical

/-! ### The semantic stage -/

namespace Semantic

variable {Γ : SymbolTable} {e : Declarator} {φ : Fault} {o : Option Text}

theorem mem_names_of_initializerFault? {type : Primitive} {target v : Text}
    (h : initializerFault? θ Γ type target v = some (φ, o)) : ∀ x ∈ o, x ∈ Γ.names := by
  simp only [initializerFault?] at h
  split at h
  case h_1 =>
    split_ifs at h
    cases h
    exact forall_mem_none
  case h_2 =>
    split at h
    case h_1 =>
      cases h
      exact fun x => Suggestion.mem_of_suggest?
    case h_2 =>
      split_ifs at h
      cases h
      exact forall_mem_none

/-- What is suggested for a declarator is declared. -/
theorem mem_names_of_check (h : check θ Γ e = .error d) : ∀ x ∈ d.suggestion, x ∈ Γ.names := by
  unfold check at h
  split at h
  case h_2 => cases h
  case h_1 φ o hφ =>
    cases h
    unfold fault? at hφ
    split_ifs at hφ
    · cases hφ
      exact forall_mem_none
    · cases hφ
      exact forall_mem_none
    · cases hφ
      exact forall_mem_none
    · split at hφ
      case h_1 | h_2 => cases hφ
      case h_3 => exact mem_names_of_initializerFault? hφ

theorem isIdentifier_of_fault? {c : Category} {type : Primitive} {target : Text}
    (h : fault? θ Γ e = some (.expressionMismatch c type target, o)) :
    Name.isIdentifier e.name = true := by
  unfold fault? at h
  split_ifs at h with _ hname
  · cases h
  · cases h
  · cases h
  · simpa using hname

/-- Where a report about a declarator goes on behind a quoted text, the text is a name. -/
theorem isClear_of_check (hnl : '\n' ∉ e.text) (h : check θ Γ e = .error d) : d.fault.IsClear := by
  have hcheck := h
  unfold check at h
  split at h
  case h_2 => cases h
  case h_1 φ o hφ =>
    cases h
    obtain rfl | rfl | rfl | ⟨u, rfl⟩ | ⟨k, rfl⟩ | ⟨c, rfl⟩ := fault?_cases hφ
    · trivial
    · trivial
    · trivial
    · obtain ⟨-, v, -, before, rest, -, huse, -⟩ := isFirstUndeclared_of_check hnl hcheck rfl
      exact huse.1.notMem (by decide)
    · trivial
    · have hname := (Name.isIdentifier_iff_isName fun hm => hnl (mem_text_of_mem_name hm)).1
        (isIdentifier_of_fault? hφ)
      exact hname.notMem (by decide)

theorem isReadable_of_mem_outcomesOf (h : .error d ∈ outcomesOf σ source) : d.IsReadable := by
  have hmessage : '\n' ∉ d.fault.message := by
    obtain ⟨l, hl, hd⟩ := outcomes_isFrom σ.threshold .empty σ.strict _ _ h
    exact notMem_message_of_isAbout hl hd
  obtain ⟨os₁, os₂, hos⟩ := List.append_of_mem h
  obtain ⟨is₁, i, is₂, his, hos₁, hi⟩ := exists_of_outcomes_eq_append hos
  cases i with
  | stray line text =>
    cases hi
    exact ⟨trivial, hmessage, forall_mem_none⟩
  | declarator e =>
    have hmem : .declarator e ∈ items σ.strict (Source.nonblankLines σ.stripComments source) := by
      rw [his]
      exact List.mem_append_right _ List.mem_cons_self
    refine ⟨isClear_of_check (notMem_text_of_mem_items hmem) hi, hmessage, fun x hx hm => ?_⟩
    have hname := mem_names_of_check hi x hx
    rw [tableAfter_eq, names_tableOf] at hname
    obtain ⟨δ, hδ, rfl⟩ := List.mem_map.1 hname
    have hok : .ok δ ∈ outcomesOf σ source := by
      rw [hos]
      exact List.mem_append_left _ (hos₁ ▸ mem_accepted.1 hδ)
    obtain ⟨l, hl, hδl⟩ := outcomes_isFrom σ.threshold .empty σ.strict _ _ hok
    have hsub : δ.name.Sublist l.text :=
      ((List.sublist_append_left _ _).trans (List.sublist_append_right _ _)).trans hδl.parts
    exact (Source.text_of_mem_nonblankLines hl).2.1 (hsub.subset hm)

end Semantic

/-! ### All stages -/

theorem isReadable_of_mem_noDeclarationsIf {b : Bool} (h : d ∈ noDeclarationsIf b) :
    d.IsReadable := by
  unfold noDeclarationsIf at h
  split at h
  case isTrue =>
    rw [List.mem_singleton.1 h]
    exact isReadable_ofSource trivial fun q hq => by cases hq
  case isFalse => cases h

/-- Every diagnostic of a stage can be read back. -/
theorem isReadable_of_mem_diagnostics (s : Stage) (h : d ∈ (s.analyze σ source).diagnostics) :
    d.IsReadable := by
  cases he : Source.isEmpty source with
  | true =>
    rw [analyze_of_isEmpty s he] at h
    rw [List.mem_singleton.1 h]
    exact isReadable_ofSource trivial fun q hq => by cases hq
  | false =>
    cases s with
    | lexical =>
      rw [Stage.analyze, Lexical.analyze_eq he] at h
      refine (List.mem_append.1 h).elim (fun h => ?_) isReadable_of_mem_noDeclarationsIf
      obtain ⟨l, hl, hd⟩ := List.mem_map.1 (mem_rejected.1 h)
      have habout := Lexical.checkLine_isFrom σ.threshold l
      rw [hd] at habout
      exact isReadable_of_isAbout hl habout (Lexical.of_checkLine_eq_error hd)
    | grammatical =>
      rw [Stage.analyze, Grammatical.analyze_eq he] at h
      refine (List.mem_append.1 h).elim (fun h => ?_) isReadable_of_mem_noDeclarationsIf
      obtain ⟨l, hl, hd⟩ := List.mem_map.1 (mem_rejected.1 h)
      have habout := Grammatical.checkLine_isFrom σ.threshold l
      rw [hd] at habout
      exact isReadable_of_isAbout hl habout (Grammatical.of_checkLine_eq_error hd)
    | semantic =>
      rw [Stage.analyze, Semantic.analyze_eq he] at h
      exact (List.mem_append.1 h).elim
        (fun h => Semantic.isReadable_of_mem_outcomesOf (mem_rejected.1 h))
        isReadable_of_mem_noDeclarationsIf

/-! ### Findings -/

/-- The findings of a stage with these lines or these declarations. -/
def findingsOf (s : Stage) (ls : List TokenizedLine) (δs : List Declaration) : Findings :=
  match s with
  | .lexical => .lexical ls
  | .grammatical => .grammatical δs
  | .semantic => .semantic δs (Semantic.tableOf δs)

/-- An analysis whose parts can be read back from texts about them. -/
structure IsReadable (a : Analysis) : Prop where
  diagnostics : ∀ d ∈ a.diagnostics, d.IsReadable
  findings : a.findings = findingsOf a.stage a.findings.lines a.findings.declarations
  lexemes : ∀ t ∈ a.findings.lines, ∀ x ∈ t.lexemes, '\n' ∉ x.text
  symbols : ∀ e ∈ a.findings.symbols.entries, Name.IsName e.1 ∧ '\n' ∉ e.2

theorem findings_eq_findingsOf (s : Stage) (σ : Settings) (source : Text) :
    (s.analyze σ source).findings = findingsOf s (s.analyze σ source).findings.lines
      (s.analyze σ source).findings.declarations := by
  cases s with
  | lexical | grammatical =>
    cases he : Source.isEmpty source with
    | true => rw [analyze_of_isEmpty _ he]; rfl
    | false => simp only [Stage.analyze, Lexical.analyze_eq he, Grammatical.analyze_eq he]; rfl
  | semantic =>
    rw [Stage.analyze, Semantic.findings_analyze, Semantic.tableAfter_eq]
    rfl

theorem symbols_of_mem (s : Stage) (σ : Settings) (source : Text) {e : Text × Text}
    (he : e ∈ (s.analyze σ source).findings.symbols.entries) : Name.IsName e.1 ∧ '\n' ∉ e.2 := by
  rw [findings_eq_findingsOf] at he
  cases s with
  | lexical | grammatical => cases he
  | semantic =>
    obtain ⟨δ, hδ, rfl⟩ := List.mem_map.1 he
    obtain ⟨before, hsound⟩ := (Semantic.isSound_of_declarations σ source).isSound_of_mem hδ
    obtain ⟨p, hp⟩ := hsound.primitive
    refine ⟨hsound.isName, ?_⟩
    rw [hp]
    exact (Name.isName_name p).notMem (by decide)

theorem isReadable_analyze (s : Stage) (σ : Settings) (source : Text) :
    (s.analyze σ source).IsReadable where
  diagnostics _ := isReadable_of_mem_diagnostics s
  findings := by
    rw [Stage.stage_analyze]
    exact findings_eq_findingsOf s σ source
  lexemes t ht x hx hm := by
    obtain ⟨l, hl, hfrom⟩ := (analyze_isFrom s σ source).lines t ht
    exact (Source.text_of_mem_nonblankLines hl).2.1
      (hfrom.lexemes.subset (List.mem_flatMap.2 ⟨x, hx, hm⟩))
  symbols _ := symbols_of_mem s σ source

end Analysis

end VarDecl
