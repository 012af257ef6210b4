import Mathlib.Algebra.Ring.Nat
import VarDecl.Proofs.Analysis.Strictness
import VarDecl.Proofs.Gate.Prefix

/-!
# Every line once

An outcome is either found or reported, so the lines of the outcomes of a stage are parted into
those of its findings and those of its diagnostics, in their order.

* `Parted`: two lists of numbers that a third one is parted into, and what that says about numbers
  that increase (`Parted.once`) and about those that come more than once (`Parted.count`);
* `parted_of_outcomes`: the lines of a row of outcomes;
* `every_line_once`: what each stage makes of the lines that are not blank. The first two find or
  report each of them, the third each declarator.
-/

namespace VarDecl.Analysis

open Text Declaration Expression

/-- The lines that a stage has found something on, one for each finding. -/
def foundLines (a : Analysis) : List Nat :=
  match a.findings with
  | .lexical τs => τs.map TokenizedLine.line
  | .grammatical δs | .semantic δs _ => δs.map Declaration.line

/-- The lines of the diagnostics that are about a line. -/
def reportedLines (a : Analysis) : List Nat := a.diagnostics.filterMap Diagnostic.line

/-! ### Numbers in two lists -/

/-- Two lists that the numbers of a third one are parted into, in their order. -/
structure Parted (found reported numbers : List Nat) : Prop where
  found_sublist : found.Sublist numbers
  reported_sublist : reported.Sublist numbers
  perm : (found ++ reported).Perm numbers

/-- Each number is in one of two lists, once, and not in the other one. -/
structure Once (found reported numbers : List Nat) : Prop where
  found_lt : found.Pairwise (· < ·)
  reported_lt : reported.Pairwise (· < ·)
  disjoint : found.Disjoint reported
  covered : ∀ n, n ∈ numbers ↔ n ∈ found ∨ n ∈ reported

section Parted

variable {n : Nat} {fs rs ns : List Nat}

theorem Parted.cons_found (h : Parted fs rs ns) (n : Nat) : Parted (n :: fs) rs (n :: ns) :=
  ⟨h.found_sublist.cons_cons n, h.reported_sublist.cons n, h.perm.cons n⟩

theorem Parted.cons_reported (h : Parted fs rs ns) (n : Nat) : Parted fs (n :: rs) (n :: ns) :=
  ⟨h.found_sublist.cons n, h.reported_sublist.cons_cons n, List.perm_middle.trans (h.perm.cons n)⟩

theorem Parted.count (h : Parted fs rs ns) (n : Nat) : fs.count n + rs.count n = ns.count n := by
  rw [← List.count_append]
  exact h.perm.count_eq n

theorem Parted.covered (h : Parted fs rs ns) : n ∈ ns ↔ n ∈ fs ∨ n ∈ rs := by
  rw [← h.perm.mem_iff, List.mem_append]

/-- Numbers that increase are parted into numbers that increase. -/
theorem Parted.once (h : Parted fs rs ns) (hns : ns.Pairwise (· < ·)) : Once fs rs ns := by
  refine ⟨hns.sublist h.found_sublist, hns.sublist h.reported_sublist, ?_, fun n => h.covered⟩
  have hnodup : ns.Nodup := hns.imp Nat.ne_of_lt
  exact (List.nodup_append'.1 (h.perm.nodup_iff.2 hnodup)).2.2

end Parted

/-! ### Outcomes -/

section Outcomes

variable {α : Type} {line : α → Nat} {R : SourceLine → α → Prop} {l : SourceLine}
  {x : Except Diagnostic α} {os : List (Except Diagnostic α)} {ns : List Nat}

/-- The line of an outcome. -/
def outcomeLine? (line : α → Nat) : Except Diagnostic α → Option Nat
  | .ok a => some (line a)
  | .error d => d.line

theorem outcomeLine?_of_isFromLine (hR : ∀ l a, R l a → line a = l.number) (h : IsFromLine R l x) :
    outcomeLine? line x = some l.number := by
  cases x with
  | error d =>
    have habout : d.IsAbout l := h
    exact habout.line
  | ok a => exact congrArg some (hR l a h)

/-- The lines of the outcomes are those of what is accepted and those of what is rejected. -/
theorem parted_of_outcomes (h : os.map (outcomeLine? line) = ns.map some) :
    Parted ((accepted os).map line) ((rejected os).filterMap Diagnostic.line) ns := by
  induction os generalizing ns with
  | nil =>
    obtain rfl := List.map_eq_nil_iff.1 h.symm
    exact ⟨.slnil, .slnil, .nil⟩
  | cons o os ih =>
    obtain ⟨n, ns, rfl, ho, hos⟩ := List.map_eq_cons_iff.1 h.symm
    cases o with
    | error d =>
      have hd : d.line = some n := ho.symm
      rw [accepted_error, rejected_error, List.filterMap_cons_some hd]
      exact (ih hos.symm).cons_reported n
    | ok a =>
      obtain rfl : n = line a := Option.some.inj ho
      rw [accepted_ok, rejected_ok, List.map_cons]
      exact (ih hos.symm).cons_found (line a)

/-- A diagnostic about the whole source has no line. -/
theorem filterMap_line_append (ds : List Diagnostic) (b : Bool) :
    (ds ++ noDeclarationsIf b).filterMap Diagnostic.line = ds.filterMap Diagnostic.line := by
  cases b <;> simp [noDeclarationsIf, Diagnostic.ofSource]

end Outcomes

/-! ### The first two stages -/

variable {σ : Settings} {source : Text} {l : SourceLine}

/-- Where each line has one outcome, each line is found or reported. -/
theorem once_of_outcomes {α : Type} {line : α → Nat} {R : SourceLine → α → Prop}
    {f : SourceLine → Except Diagnostic α} (hR : ∀ l a, R l a → line a = l.number)
    (hf : ∀ l, IsFromLine R l (f l)) (strip : Bool) (source : Text) (b : Bool) :
    Once ((accepted ((Source.nonblankLines strip source).map f)).map line)
      ((rejected ((Source.nonblankLines strip source).map f) ++ noDeclarationsIf b).filterMap
        Diagnostic.line)
      ((Source.nonblankLines strip source).map SourceLine.number) := by
  rw [filterMap_line_append]
  refine (parted_of_outcomes ?_).once
    (List.pairwise_map.2 (Source.pairwise_nonblankLines strip source))
  rw [List.map_map, List.map_map]
  exact List.map_congr_left fun l _ => outcomeLine?_of_isFromLine hR (hf l)

/-- The lexical stage finds or reports each line that is not blank, and reports that it has found
nothing. -/
structure Lexical.Accounts (σ : Settings) (source : Text) (a : Analysis) : Prop where
  once : Once a.foundLines a.reportedLines
    ((Source.nonblankLines σ.stripComments source).map SourceLine.number)
  lexemes : ∀ τ ∈ a.findings.lines, ∃ l ∈ Source.nonblankLines σ.stripComments source,
    τ = ⟨l.number, Lexeme.ofLine l.text⟩
  tokenCount : a.findings.tokenCount = (a.findings.lines.map (·.lexemes.length)).sum
  diagnostics : a.diagnostics = a.lineDiagnostics ++ noDeclarationsIf a.findings.lines.isEmpty

theorem Lexical.accounts (h : Source.isEmpty source = false) :
    Lexical.Accounts σ source (Lexical.analyze σ source) := by
  rw [Lexical.analyze_eq h]
  constructor
  · exact once_of_outcomes (fun _ _ hτ => hτ.line) (Lexical.checkLine_isFrom _) _ _ _
  · intro τ hτ
    obtain ⟨l, hl, hcheck⟩ := List.mem_map.1 (mem_accepted.1 hτ)
    exact ⟨l, hl, (Lexical.of_checkLine_eq_ok hcheck).2⟩
  · exact List.length_flatMap
  · rw [lineDiagnostics_eq (Lexical.outcomes_isFrom σ source)]
    rfl

/-- The grammatical stage finds or reports each line that is not blank, and reports that there is
none. -/
structure Grammatical.Accounts (σ : Settings) (source : Text) (a : Analysis) : Prop where
  once : Once a.foundLines a.reportedLines
    ((Source.nonblankLines σ.stripComments source).map SourceLine.number)
  diagnostics : a.diagnostics = a.lineDiagnostics
    ++ noDeclarationsIf ((Source.lines σ.stripComments source).all SourceLine.isBlank)

theorem Grammatical.isEmpty_outcomes (σ : Settings) (source : Text) :
    (Grammatical.outcomes σ source).isEmpty
      = (Source.lines σ.stripComments source).all SourceLine.isBlank := by
  rw [Bool.eq_iff_iff, List.isEmpty_iff, Grammatical.outcomes, List.map_eq_nil_iff,
    Source.nonblankLines, List.filter_eq_nil_iff, List.all_eq_true]
  simp

theorem Grammatical.accounts (h : Source.isEmpty source = false) :
    Grammatical.Accounts σ source (Grammatical.analyze σ source) := by
  rw [Grammatical.analyze_eq h]
  constructor
  · exact once_of_outcomes (fun _ _ hδ => hδ.line) (Grammatical.checkLine_isFrom _) _ _ _
  · rw [lineDiagnostics_eq (Grammatical.outcomes_isFrom σ source), ← isEmpty_outcomes]

/-! ### The semantic stage -/

namespace Semantic

variable {strict : Bool} {ls : List SourceLine}

/-- The line of an item. -/
def Item.line : Item → Nat
  | .declarator d => d.line
  | .stray line _ => line

theorem Item.IsFrom.line_eq {i : Item} (h : i.IsFrom l) : i.line = l.number := by
  cases i with
  | declarator d => exact h.1
  | stray line text => exact h.1

theorem outcomeLine?_outcome (θ : Float) (Γ : SymbolTable) (i : Item) :
    outcomeLine? Declaration.line (outcome θ Γ i) = some i.line := by
  cases i with
  | stray line text => rfl
  | declarator d =>
    simp only [outcome, check]
    split <;> rfl

theorem map_outcomeLine?_outcomes (θ : Float) (Γ : SymbolTable) (is : List Item) :
    (outcomes θ Γ is).map (outcomeLine? Declaration.line) = (is.map Item.line).map some := by
  induction is generalizing Γ with
  | nil => rfl
  | cons i is ih =>
    rw [outcomes, List.map_cons, outcomeLine?_outcome, ih]
    rfl

/-- The items of a line that count. -/
def lineItems (strict : Bool) (l : SourceLine) : List Item :=
  (itemsOfLine l).filter (·.counts strict)

theorem items_eq_flatMap (strict : Bool) (ls : List SourceLine) :
    items strict ls = ls.flatMap (lineItems strict) := List.filter_flatMap

theorem line_of_mem_lineItems {i : Item} (h : i ∈ lineItems strict l) : i.line = l.number :=
  (isFrom_of_mem_itemsOfLine (List.mem_of_mem_filter h)).line_eq

theorem length_lineItems_of_ofLine? {hd : Header} (h : Header.ofLine? l.text = some hd) :
    (lineItems strict l).length = (split (· == ',') hd.declarators).length := by
  have hall : ∀ i ∈ itemsOfLine l, i.counts strict = true := by
    intro i hi
    rw [itemsOfLine, h] at hi
    obtain ⟨part, -, rfl⟩ := List.mem_map.1 hi
    rfl
  rw [lineItems, List.filter_eq_self.2 hall, itemsOfLine, h, List.length_map]

theorem length_lineItems_of_not_isDeclarationLine (h : isDeclarationLine l = false) :
    (lineItems strict l).length = if strict then 1 else 0 := by
  rw [lineItems, itemsOfLine_of_not_isDeclarationLine h]
  cases strict <;> rfl

/-- The items of different lines have different numbers. -/
theorem count_line_items (hls : (ls.map SourceLine.number).Nodup) (hl : l ∈ ls) :
    ((items strict ls).map Item.line).count l.number = (lineItems strict l).length := by
  rw [items_eq_flatMap, List.count_eq_countP, List.countP_map, List.countP_eq_length_filter]
  exact congrArg List.length
    (filter_flatMap_eq (fun _ _ _ hi => line_of_mem_lineItems hi) hls hl)

/-- Item by item, the numbers do not decrease. -/
theorem pairwise_line_items (hls : ls.Pairwise fun l l' => l.number < l'.number) :
    ((items strict ls).map Item.line).Pairwise (· ≤ ·) := by
  rw [items_eq_flatMap, List.pairwise_map, List.pairwise_flatMap]
  constructor
  · intro l _
    refine List.pairwise_of_forall_mem_list fun i hi j hj => ?_
    rw [line_of_mem_lineItems hi, line_of_mem_lineItems hj]
  · refine hls.imp fun hlt i hi j hj => ?_
    rw [line_of_mem_lineItems hi, line_of_mem_lineItems hj]
    exact Nat.le_of_lt hlt

/-- The semantic stage finds or reports each declarator of each line, and with the strict policy
reports each other line. -/
structure Accounts (σ : Settings) (source : Text) (a : Analysis) : Prop where
  declarators : ∀ l ∈ Source.nonblankLines σ.stripComments source, ∀ hd,
    Header.ofLine? l.text = some hd → a.foundLines.count l.number + a.reportedLines.count l.number
      = (split (· == ',') hd.declarators).length
  strays : ∀ l ∈ Source.nonblankLines σ.stripComments source, isDeclarationLine l = false →
    a.foundLines.count l.number = 0 ∧ a.reportedLines.count l.number = if σ.strict then 1 else 0
  found_le : a.foundLines.Pairwise (· ≤ ·)
  reported_le : a.reportedLines.Pairwise (· ≤ ·)
  lines : ∀ n, n ∈ a.foundLines ∨ n ∈ a.reportedLines →
    ∃ l ∈ Source.nonblankLines σ.stripComments source, l.number = n

/-- The lines of the items are parted into those that are found and those that are reported. -/
theorem parted_analyze (h : Source.isEmpty source = false) :
    Parted (analyze σ source).foundLines (analyze σ source).reportedLines
      ((items σ.strict (Source.nonblankLines σ.stripComments source)).map Item.line) := by
  rw [analyze_eq h, foundLines, reportedLines, filterMap_line_append]
  exact parted_of_outcomes (map_outcomeLine?_outcomes _ _ _)

theorem mem_reportedLines_of_not_isDeclarationLine (hstrict : σ.strict = true)
    (hl : l ∈ Source.nonblankLines σ.stripComments source) (h : isDeclarationLine l = false) :
    l.number ∈ (analyze σ source).reportedLines := by
  rw [analyze_eq (Source.isEmpty_eq_false_of_mem_nonblankLines hl), reportedLines,
    filterMap_line_append, outcomesOf, hstrict]
  exact List.mem_filterMap.2 ⟨_, mem_rejected_of_not_isDeclarationLine hl h, rfl⟩

theorem accounts (h : Source.isEmpty source = false) :
    Accounts σ source (analyze σ source) := by
  have hls := Source.pairwise_nonblankLines σ.stripComments source
  have hnodup := nodup_number_nonblankLines σ.stripComments source
  have hparted := parted_analyze (σ := σ) h
  constructor
  · intro l hl hd hhd
    rw [hparted.count, count_line_items hnodup hl, length_lineItems_of_ofLine? hhd]
  · intro l hl hstray
    have hsum := hparted.count l.number
    rw [count_line_items hnodup hl, length_lineItems_of_not_isDeclarationLine hstray] at hsum
    cases hstrict : σ.strict with
    | false =>
      rw [hstrict, if_neg Bool.false_ne_true] at hsum
      exact Nat.add_eq_zero_iff.1 hsum
    | true =>
      -- The one item of the line is reported, so nothing is left that could be found.
      have hreported := List.count_pos_iff.2
        (mem_reportedLines_of_not_isDeclarationLine hstrict hl hstray)
      rw [hstrict, if_pos rfl] at hsum
      rw [if_pos rfl]
      omega
  · exact (pairwise_line_items hls).sublist hparted.found_sublist
  · exact (pairwise_line_items hls).sublist hparted.reported_sublist
  · intro n hn
    obtain ⟨i, hi, rfl⟩ := List.mem_map.1 (hparted.covered.2 hn)
    rw [items_eq_flatMap] at hi
    obtain ⟨l, hl, hil⟩ := List.mem_flatMap.1 hi
    exact ⟨l, hl, (line_of_mem_lineItems hil).symm⟩

end Semantic

/-! ### All stages -/

/-- In a source that is not empty, the first two stages find or report each line that is not blank,
and only one of both, in the order of the lines. The third finds or reports each declarator of a
declaration line, and reports the other lines with the strict policy only. A stage passes exactly if
it reports nothing. -/
theorem every_line_once (σ : Settings) (source : Text) :
    (Source.isEmpty source = false →
      Lexical.Accounts σ source (Lexical.analyze σ source) ∧
      Grammatical.Accounts σ source (Grammatical.analyze σ source) ∧
      Semantic.Accounts σ source (Semantic.analyze σ source)) ∧
    ∀ s : Stage, (s.analyze σ source).passed = true ↔ (s.analyze σ source).diagnostics = [] :=
  ⟨fun h => ⟨Lexical.accounts h, Grammatical.accounts h, Semantic.accounts h⟩, fun _ => passed_iff⟩

/-- A last comma makes an empty declarator, and a line of a comment is blank. -/
theorem every_line_once_comma :
    (Semantic.analyze .default "int a = 1, ;\n// c\nx = 2;".toList).foundLines.count 1
      + (Semantic.analyze .default "int a = 1, ;\n// c\nx = 2;".toList).reportedLines.count 1
        = 2 ∧
      2 ∉ (Lexical.analyze .default "int a = 1, ;\n// c\nx = 2;".toList).foundLines := by
  obtain ⟨h, -⟩ := every_line_once .default "int a = 1, ;\n// c\nx = 2;".toList
  obtain ⟨hlexical, -, hsemantic⟩ := h (by decide)
  refine ⟨?_, fun hm => ?_⟩
  · exact hsemantic.declarators ⟨1, "int a = 1, ;".toList⟩ (by decide +kernel)
      ⟨.int, "a = 1, ".toList⟩ (by decide +kernel)
  · have hline := (hlexical.once.covered 2).2 (Or.inl hm)
    revert hline
    decide +kernel

end VarDecl.Analysis
