import VarDecl.Gate
import VarDecl.Proofs.Analysis.Grammatical
import VarDecl.Proofs.Analysis.Registration
import VarDecl.Proofs.Lexeme
import VarDecl.Proofs.Source.Numbering

/-!
# Places and quotations

Whatever a stage reports with a line number comes from that line of the source.

* `Fault.quotes` are the texts that a message quotes;
* `Diagnostic.IsAbout`, `TokenizedLine.IsFrom`, `Declaration.IsFrom`: the number is that of the line
  and the texts are sublists of it. Each stage has a lemma for one line: `Lexical.checkLine_isFrom`,
  `Grammatical.checkLine_isFrom` and, through the declarators of a line, `Semantic.outcome_isFrom`;
* `lines_in_place` puts them together with what stripping does to the lines.
-/

namespace VarDecl

open Text Expression Declaration

/-! ### Quotations -/

namespace Fault

variable {φ : Fault} {q : Text}

/-- The texts of the source that a message quotes. -/
def quotes : Fault → List Text
  | notCandidate line | notDeclaration line => [line]
  | tooManyWords declarator => [declarator]
  | invalidName name | invalidType name | alreadyDeclared name => [name]
  | undefined reference target => [reference, target]
  | literalMismatch _ type target | expressionMismatch _ type target => [type.name, target]
  | noSource | noDeclarations | missingSemicolon | equalityOperator | emptyValue
  | missingTypeOrName | emptyDeclarator => []

theorem isInfix_append_quoted (t u : Text) : t <:+: u ++ quoted t :=
  ⟨u ++ ['\''], ['\''], by simp [quoted]⟩

/-- A message holds the texts that it quotes. -/
theorem isInfix_message (h : q ∈ φ.quotes) : q <:+: φ.message := by
  have left : ∀ {u v : Text}, q <:+: u → q <:+: u ++ v := fun h =>
    h.trans (List.prefix_append _ _).isInfix
  cases φ with
  | notCandidate line | notDeclaration line =>
    rw [List.mem_singleton.1 h]
    exact (List.suffix_append _ _).isInfix
  | tooManyWords name | invalidName name | invalidType name =>
    rw [List.mem_singleton.1 h]
    exact isInfix_append_quoted _ _
  | alreadyDeclared name =>
    obtain rfl := List.mem_singleton.1 h
    exact left (isInfix_append_quoted _ _)
  | undefined reference target =>
    rcases List.mem_pair.1 h with rfl | rfl
    · exact left (left (isInfix_append_quoted _ _))
    · exact isInfix_append_quoted _ _
  | literalMismatch kind type target =>
    rcases List.mem_pair.1 h with rfl | rfl
    · exact left (left (List.suffix_append _ _).isInfix)
    · exact isInfix_append_quoted _ _
  | expressionMismatch category type target =>
    rcases List.mem_pair.1 h with rfl | rfl
    · cases category <;> exact (List.suffix_append _ _).isInfix
    · cases category <;> exact left (left (isInfix_append_quoted _ _))
  | _ => exact absurd h List.not_mem_nil

end Fault

/-! ### One line -/

/-- A diagnostic about a line: it has the number of the line and quotes parts of it. -/
structure Diagnostic.IsAbout (l : SourceLine) (d : Diagnostic) : Prop where
  line : d.line = some l.number
  quotes : ∀ q ∈ d.fault.quotes, q.Sublist l.text

/-- The lexemes of a line have its number and stand on it one after the other. -/
structure TokenizedLine.IsFrom (l : SourceLine) (t : TokenizedLine) : Prop where
  line : t.line = l.number
  lexemes : (t.lexemes.flatMap Lexeme.text).Sublist l.text

/-- A declaration of a line has its number, and its type, name and value stand on it one after the
other. -/
structure Declaration.IsFrom (l : SourceLine) (δ : Declaration) : Prop where
  line : δ.line = l.number
  parts : (δ.typeName ++ (δ.name ++ δ.initializer.getD [])).Sublist l.text

namespace Analysis

variable {θ : Float} {l : SourceLine} {d : Diagnostic} {t : TokenizedLine} {δ : Declaration}

/-- An outcome that comes from a line, whether it is accepted or reported. -/
def IsFromLine {α : Type} (IsFrom : SourceLine → α → Prop) (l : SourceLine) :
    Except Diagnostic α → Prop
  | .ok a => IsFrom l a
  | .error d => d.IsAbout l

theorem Lexical.checkLine_isFrom (θ : Float) (l : SourceLine) :
    IsFromLine TokenizedLine.IsFrom l (Lexical.checkLine θ l) := by
  unfold Lexical.checkLine
  split
  case isTrue => exact ⟨rfl, Lexeme.flatMap_text_ofLine_sublist l.text⟩
  case isFalse =>
    exact ⟨rfl, fun q hq => by rw [List.mem_singleton.1 hq]⟩

/-! ### The grammatical stage -/

namespace Grammatical

variable {φ : Fault} {o : Option Text} {line q : Text} {p : Parts}

theorem sublist_of_checkWords (h : checkWords θ line = .error (φ, o)) (hq : q ∈ φ.quotes) :
    q.Sublist line := by
  unfold checkWords at h
  split at h
  case h_1 type name hwords =>
    split_ifs at h
    · cases h
      obtain rfl := List.mem_singleton.1 hq
      exact sublist_of_mem_words (by simp [hwords])
    · cases h
      obtain rfl := List.mem_singleton.1 hq
      exact sublist_of_mem_words (by simp [hwords])
  case h_4 =>
    cases h
    rw [List.mem_singleton.1 hq]
  all_goals
    cases h
    cases hq

theorem sublist_of_checkBody (h : checkBody θ line = .error (φ, o)) (hq : q ∈ φ.quotes) :
    q.Sublist line := by
  simp only [checkBody] at h
  split_ifs at h
  · cases h
    cases hq
  · cases h
    cases hq
  · cases hw : checkWords θ (trim (cutAt '=' line).1) with
    | ok w => rw [hw] at h; cases h
    | error e =>
      rw [hw] at h
      obtain rfl : e = (φ, o) := Except.error.inj h
      have hbefore : (trim (cutAt '=' line).1).Sublist line :=
        (trim_sublist _).trans (List.takeWhile_sublist _)
      exact (sublist_of_checkWords hw hq).trans hbefore

theorem sublist_of_checkText (h : checkText θ line = .error (φ, o)) (hq : q ∈ φ.quotes) :
    q.Sublist line := by
  unfold checkText at h
  split at h
  case isTrue =>
    exact (sublist_of_checkBody h hq).trans ((trim_sublist _).trans (List.dropLast_sublist _))
  case isFalse =>
    cases h
    cases hq

theorem IsAssignment.sublist {rest : Text} {value : Option Text} (h : IsAssignment rest value) :
    (value.getD []).Sublist rest := by
  rcases h with ⟨rfl, rfl⟩ | ⟨v, rfl, rfl⟩
  · exact List.Sublist.refl _
  · exact (trim_sublist v).cons '='

/-- The parts of an accepted line stand on it one after the other. -/
theorem sublist_of_checkText_ok (h : checkText θ line = .ok p) :
    (p.typeName ++ (p.name ++ p.initializer.getD [])).Sublist line := by
  obtain ⟨lead, blanks, gap, rest, trail, hl⟩ := exists_layout h
  have hrest : (p.initializer.getD []).Sublist (gap ++ (rest ++ (trail ++ [';']))) :=
    (hl.rest.sublist.trans (List.sublist_append_left _ _)).trans (List.sublist_append_right _ _)
  have hname := (List.Sublist.refl p.name).append hrest
  have htype := (List.Sublist.refl p.typeName).append
    (hname.trans (List.sublist_append_right blanks _))
  rw [hl.eq]
  exact htype.trans (List.sublist_append_right lead _)

theorem checkLine_isFrom (θ : Float) (l : SourceLine) :
    IsFromLine Declaration.IsFrom l (checkLine θ l) := by
  unfold checkLine
  split
  case h_1 p hp => exact ⟨rfl, sublist_of_checkText_ok hp⟩
  case h_2 φ o hφ => exact ⟨rfl, fun q hq => sublist_of_checkText hφ hq⟩

end Grammatical

/-! ### The semantic stage -/

namespace Semantic

variable {Γ : SymbolTable} {φ : Fault} {o : Option Text} {q : Text} {e : Declarator} {i : Item}

theorem sublist_of_initializerFault? {type : Primitive} {target v : Text}
    (h : initializerFault? θ Γ type target v = some (φ, o)) (hq : q ∈ φ.quotes) :
    q = type.name ∨ q = target ∨ q.Sublist v := by
  simp only [initializerFault?] at h
  split at h
  case h_1 k hk =>
    split_ifs at h
    cases h
    exact (List.mem_pair.1 hq).imp_right Or.inl
  case h_2 =>
    split at h
    case h_1 u hu =>
      cases h
      rcases List.mem_pair.1 hq with rfl | rfl
      · obtain ⟨before, after, hfs, -⟩ := inferAll_eq_error hu
        refine Or.inr (Or.inr (sublist_of_mem_fragments ?_))
        rw [← fragments_expression, hfs]
        exact List.mem_append_right _ List.mem_cons_self
      · exact Or.inr (Or.inl rfl)
    case h_2 =>
      split_ifs at h
      cases h
      exact (List.mem_pair.1 hq).imp_right Or.inl

/-- A report about a declarator quotes its type or parts of its text. -/
theorem sublist_of_fault? (h : fault? θ Γ e = some (φ, o)) (hq : q ∈ φ.quotes) :
    q.Sublist (e.type.name ++ e.text) := by
  have hname : e.name.Sublist (e.type.name ++ e.text) :=
    ((List.sublist_append_left _ _).trans (sublist_declarator e)).trans
      (List.sublist_append_right _ _)
  unfold fault? at h
  split_ifs at h
  · cases h
    cases hq
  · cases h
    rw [List.mem_singleton.1 hq]
    exact hname
  · cases h
    rw [List.mem_singleton.1 hq]
    exact hname
  · split at h
    case h_1 | h_2 => cases h
    case h_3 v _ hv =>
      rcases sublist_of_initializerFault? h hq with rfl | rfl | hsub
      · exact List.sublist_append_left _ _
      · exact hname
      · have hvalue := sublist_declarator e
        rw [hv] at hvalue
        exact ((hsub.trans (List.sublist_append_right _ _)).trans hvalue).trans
          (List.sublist_append_right _ _)

/-- What a line holds has its number, and stands on it. -/
def Item.IsFrom (l : SourceLine) : Item → Prop
  | .declarator e => e.line = l.number ∧ (e.type.name ++ e.text).Sublist l.text
  | .stray line text => line = l.number ∧ text = l.text

theorem isFrom_of_mem_itemsOfLine (h : i ∈ itemsOfLine l) : i.IsFrom l := by
  unfold itemsOfLine at h
  split at h
  case h_1 hd hhd =>
    obtain ⟨part, hpart, rfl⟩ := List.mem_map.1 h
    refine ⟨rfl, List.Sublist.trans ?_ (Header.sublist_of_ofLine? hhd)⟩
    exact (List.Sublist.refl _).append (sublist_of_mem_split hpart)
  case h_2 =>
    rw [List.mem_singleton.1 h]
    exact ⟨rfl, rfl⟩

theorem outcome_isFrom (θ : Float) (Γ : SymbolTable) (h : i.IsFrom l) :
    IsFromLine Declaration.IsFrom l (outcome θ Γ i) := by
  cases i with
  | stray line text =>
    obtain ⟨rfl, rfl⟩ := h
    exact ⟨rfl, fun q hq => by rw [List.mem_singleton.1 hq]⟩
  | declarator e =>
    obtain ⟨hline, hsub⟩ := h
    rw [outcome, check]
    split
    case h_1 φ o hφ =>
      exact ⟨by rw [hline], fun q hq => (sublist_of_fault? hφ hq).trans hsub⟩
    case h_2 =>
      exact ⟨hline, ((List.Sublist.refl _).append (sublist_declarator e)).trans hsub⟩

theorem exists_of_mem_outcomes {is : List Item} {x : Except Diagnostic Declaration}
    (h : x ∈ outcomes θ Γ is) : ∃ i ∈ is, ∃ Δ, outcome θ Δ i = x := by
  obtain ⟨os₁, os₂, hos⟩ := List.append_of_mem h
  obtain ⟨is₁, i, is₂, rfl, -, hi⟩ := exists_of_outcomes_eq_append hos
  exact ⟨i, List.mem_append_right _ List.mem_cons_self, _, hi⟩

end Semantic

/-! ### A stage -/

section Stage

variable {α : Type} {R : SourceLine → α → Prop} {ls : List SourceLine}
  {os : List (Except Diagnostic α)}

theorem exists_of_mem_accepted (h : ∀ x ∈ os, ∃ l ∈ ls, IsFromLine R l x) {a : α}
    (ha : a ∈ accepted os) : ∃ l ∈ ls, R l a :=
  h _ (mem_accepted.1 ha)

theorem exists_of_mem_rejected (h : ∀ x ∈ os, ∃ l ∈ ls, IsFromLine R l x) {b : Bool}
    (hd : d ∈ rejected os ++ noDeclarationsIf b) : d.line = none ∨ ∃ l ∈ ls, d.IsAbout l := by
  rcases List.mem_append.1 hd with hd | hd
  · exact Or.inr (h _ (mem_rejected.1 hd))
  · unfold noDeclarationsIf at hd
    split at hd
    · rw [List.mem_singleton.1 hd]
      exact Or.inl rfl
    · cases hd

/-- An analysis of which each part comes from one of some lines, but for the diagnostics about the
whole source. -/
structure IsFrom (ls : List SourceLine) (a : Analysis) : Prop where
  diagnostics : ∀ d ∈ a.diagnostics, d.line = none ∨ ∃ l ∈ ls, d.IsAbout l
  lines : ∀ t ∈ a.findings.lines, ∃ l ∈ ls, t.IsFrom l
  declarations : ∀ δ ∈ a.findings.declarations, ∃ l ∈ ls, δ.IsFrom l

theorem ofEmptySource_isFrom (s : Stage) (ls : List SourceLine) : IsFrom ls (ofEmptySource s) := by
  refine ⟨fun d hd => ?_, fun t ht => ?_, fun δ hδ => ?_⟩
  · rw [List.mem_singleton.1 hd]
    exact Or.inl rfl
  · cases s <;> cases ht
  · cases s <;> cases hδ

end Stage

theorem Lexical.outcomes_isFrom (σ : Settings) (source : Text) :
    ∀ x ∈ Lexical.outcomes σ source, ∃ l ∈ Source.nonblankLines σ.stripComments source,
      IsFromLine TokenizedLine.IsFrom l x := by
  intro x hx
  obtain ⟨l, hl, rfl⟩ := List.mem_map.1 hx
  exact ⟨l, hl, Lexical.checkLine_isFrom σ.threshold l⟩

theorem Grammatical.outcomes_isFrom (σ : Settings) (source : Text) :
    ∀ x ∈ Grammatical.outcomes σ source, ∃ l ∈ Source.nonblankLines σ.stripComments source,
      IsFromLine Declaration.IsFrom l x := by
  intro x hx
  obtain ⟨l, hl, rfl⟩ := List.mem_map.1 hx
  exact ⟨l, hl, Grammatical.checkLine_isFrom σ.threshold l⟩

theorem Semantic.outcomes_isFrom (θ : Float) (Γ : SymbolTable) (strict : Bool)
    (ls : List SourceLine) : ∀ x ∈ Semantic.outcomes θ Γ (Semantic.items strict ls),
      ∃ l ∈ ls, IsFromLine Declaration.IsFrom l x := by
  intro x hx
  obtain ⟨i, hi, Δ, rfl⟩ := Semantic.exists_of_mem_outcomes hx
  obtain ⟨l, hl, hil⟩ := List.mem_flatMap.1 (List.mem_filter.1 hi).1
  exact ⟨l, hl, Semantic.outcome_isFrom θ Δ (Semantic.isFrom_of_mem_itemsOfLine hil)⟩

/-- All that a stage reports comes from the lines that it reads. -/
theorem analyze_isFrom (s : Stage) (settings : Settings) (source : Text) :
    IsFrom (Source.nonblankLines settings.stripComments source) (s.analyze settings source) := by
  cases s with
  | lexical =>
    simp only [Stage.analyze, Lexical.analyze]
    split
    case isTrue => exact ofEmptySource_isFrom .lexical _
    case isFalse =>
      have h := Lexical.outcomes_isFrom settings source
      exact ⟨fun d => exists_of_mem_rejected h, fun t => exists_of_mem_accepted h,
        fun δ hδ => absurd hδ List.not_mem_nil⟩
  | grammatical =>
    simp only [Stage.analyze, Grammatical.analyze]
    split
    case isTrue => exact ofEmptySource_isFrom .grammatical _
    case isFalse =>
      have h := Grammatical.outcomes_isFrom settings source
      exact ⟨fun d => exists_of_mem_rejected h, fun t ht => absurd ht List.not_mem_nil,
        fun δ => exists_of_mem_accepted h⟩
  | semantic =>
    simp only [Stage.analyze, Semantic.analyze]
    split
    case isTrue => exact ofEmptySource_isFrom .semantic _
    case isFalse =>
      have h := Semantic.outcomes_isFrom settings.threshold .empty settings.strict
        (Source.nonblankLines settings.stripComments source)
      exact ⟨fun d => exists_of_mem_rejected h, fun t ht => absurd ht List.not_mem_nil,
        fun δ => exists_of_mem_accepted h⟩

/-- A line that a stage reads is a sublist of the line of the source that has its number. -/
theorem exists_isLine_of_mem_nonblankLines {strip : Bool} {source : Text}
    (h : l ∈ Source.nonblankLines strip source) :
    ∃ raw, Source.IsLine source l.number raw ∧ l.text.Sublist raw := by
  obtain ⟨raw, hraw, hsub⟩ := Source.exists_isLine_of_mem_lines (List.mem_of_mem_filter h)
  exact ⟨raw, hraw, (trim_sublist l.raw).trans hsub⟩

/-- Stripping keeps all lines in place, each line losing characters only. So what a stage reports
with the number of a line, with or without comments, is found on that line of the source. -/
theorem lines_in_place (source : Text) :
    (Comment.strip source).count '\n' = source.count '\n' ∧
    List.Forall₂ List.Sublist (Comment.strip source).lines source.lines ∧
    ∀ (s : Stage) (settings : Settings),
      (∀ d ∈ (s.analyze settings source).diagnostics, ∀ n, d.line = some n →
        ∃ raw, Source.IsLine source n raw ∧
          ∀ q ∈ d.fault.quotes, q <:+: d.fault.message ∧ q.Sublist raw) ∧
      (∀ t ∈ (s.analyze settings source).findings.lines,
        ∃ raw, Source.IsLine source t.line raw ∧
          (t.lexemes.flatMap Lexeme.text).Sublist raw) ∧
      ∀ δ ∈ (s.analyze settings source).findings.declarations,
        ∃ raw, Source.IsLine source δ.line raw ∧
          (δ.typeName ++ (δ.name ++ δ.initializer.getD [])).Sublist raw := by
  refine ⟨Comment.count_newline_strip source, Comment.forall₂_lines_strip source,
    fun s settings => ?_⟩
  have h := analyze_isFrom s settings source
  refine ⟨fun d hd n hn => ?_, fun t ht => ?_, fun δ hδ => ?_⟩
  · rcases h.diagnostics d hd with hnone | ⟨l, hl, hdl⟩
    · rw [hn] at hnone
      cases hnone
    · obtain ⟨raw, hraw, hsub⟩ := exists_isLine_of_mem_nonblankLines hl
      obtain rfl : n = l.number := Option.some.inj (hn.symm.trans hdl.line)
      exact ⟨raw, hraw, fun q hq => ⟨Fault.isInfix_message hq, (hdl.quotes q hq).trans hsub⟩⟩
  · obtain ⟨l, hl, htl⟩ := h.lines t ht
    obtain ⟨raw, hraw, hsub⟩ := exists_isLine_of_mem_nonblankLines hl
    exact ⟨raw, htl.line ▸ hraw, htl.lexemes.trans hsub⟩
  · obtain ⟨l, hl, hδl⟩ := h.declarations δ hδ
    obtain ⟨raw, hraw, hsub⟩ := exists_isLine_of_mem_nonblankLines hl
    exact ⟨raw, hδl.line ▸ hraw, hδl.parts.trans hsub⟩

/-- The report about the second line, which starts in a comment, quotes parts of it. -/
theorem lines_in_place_second :
    ∃ raw, Source.IsLine "int a; /* x\ny */ int b = true;".toList 2 raw ∧
      ∀ q ∈ ["int".toList, "b".toList], q.Sublist raw := by
  obtain ⟨-, -, h⟩ := lines_in_place "int a; /* x\ny */ int b = true;".toList
  obtain ⟨raw, hraw, hq⟩ := (h .semantic .default).1
    ⟨some 2, .literalMismatch .boolean .int "b".toList, none⟩ (by decide +kernel) 2 rfl
  exact ⟨raw, hraw, fun q hmem => (hq q hmem).2⟩

end Analysis

end VarDecl
