import VarDecl.Proofs.Analysis.Quotation

/-!
# Renumbered lines

No stage looks at the number of a line: it only copies it into what it finds. So lines that are
given other numbers have the same outcomes with those numbers.

* `renumber f` changes the numbers of what has a line, and `renumberOutcome` that of an outcome;
* `Lexical.checkLine_renumber`, `Grammatical.checkLine_renumber`: one line of the first two stages;
* `Semantic.outcome_renumber`, `Semantic.outcomes_renumber`: one item of the third, and a row of
  them. The table does not know of lines (`Semantic.tableOf_map_renumber`);
* `Semantic.itemsFrom`: what lines hold when they are numbered from a given number on. What they
  declare and what is reported about them has their numbers (`Semantic.line_of_accepted`,
  `Semantic.exists_line_of_rejected`).
-/

namespace VarDecl

variable {α : Type} {g : α → α} {f : Nat → Nat}

/-- A line with another number. -/
def SourceLine.renumber (f : Nat → Nat) (l : SourceLine) : SourceLine := ⟨f l.number, l.raw⟩

/-- A tokenized line with another number. -/
def TokenizedLine.renumber (f : Nat → Nat) (τ : TokenizedLine) : TokenizedLine :=
  ⟨f τ.line, τ.lexemes⟩

/-- A declaration on another line. -/
def Declaration.renumber (f : Nat → Nat) (δ : Declaration) : Declaration :=
  ⟨δ.typeName, δ.name, δ.initializer, f δ.line⟩

/-- A diagnostic on another line. One about the whole source stays. -/
def Diagnostic.renumber (f : Nat → Nat) (d : Diagnostic) : Diagnostic :=
  ⟨d.line.map f, d.fault, d.suggestion⟩

/-- Findings on other lines. -/
def Findings.renumber (f : Nat → Nat) : Findings → Findings
  | lexical ls => lexical (ls.map (·.renumber f))
  | grammatical δs => grammatical (δs.map (·.renumber f))
  | semantic δs Γ => semantic (δs.map (·.renumber f)) Γ

/-- An analysis with other line numbers. -/
def Analysis.renumber (f : Nat → Nat) (a : Analysis) : Analysis :=
  ⟨a.findings.renumber f, a.diagnostics.map (·.renumber f)⟩

namespace Analysis

/-! ### Outcomes -/

/-- An outcome with another line; `g` changes what is accepted. -/
def renumberOutcome (g : α → α) (f : Nat → Nat) : Except Diagnostic α → Except Diagnostic α
  | .ok a => .ok (g a)
  | .error d => .error (d.renumber f)

theorem accepted_map_renumberOutcome (os : List (Except Diagnostic α)) :
    accepted (os.map (renumberOutcome g f)) = (accepted os).map g := by
  induction os with
  | nil => rfl
  | cons o os ih =>
    cases o with
    | error d => exact ih
    | ok a => exact congrArg (g a :: ·) ih

theorem rejected_map_renumberOutcome (os : List (Except Diagnostic α)) :
    rejected (os.map (renumberOutcome g f)) = (rejected os).map (·.renumber f) := by
  induction os with
  | nil => rfl
  | cons o os ih =>
    cases o with
    | error d => exact congrArg (d.renumber f :: ·) ih
    | ok a => exact ih

/-! ### Lines -/

theorem Lexical.checkLine_renumber (θ : Float) (f : Nat → Nat) (l : SourceLine) :
    Lexical.checkLine θ (l.renumber f)
      = renumberOutcome (·.renumber f) f (Lexical.checkLine θ l) := by
  have htext : (l.renumber f).text = l.text := rfl
  rw [Lexical.checkLine, Lexical.checkLine, htext]
  by_cases hc : Lexical.isCandidate l.text = true
  · rw [if_pos hc, if_pos hc]
    rfl
  · rw [if_neg hc, if_neg hc]
    rfl

theorem Grammatical.checkLine_renumber (θ : Float) (f : Nat → Nat) (l : SourceLine) :
    Grammatical.checkLine θ (l.renumber f)
      = renumberOutcome (·.renumber f) f (Grammatical.checkLine θ l) := by
  have htext : (l.renumber f).text = l.text := rfl
  rw [Grammatical.checkLine, Grammatical.checkLine, htext]
  split <;> rfl

/-! ### Items -/

namespace Semantic

variable {θ : Float} {Γ : SymbolTable}

/-- A declarator on another line. -/
def Declarator.renumber (f : Nat → Nat) (d : Declarator) : Declarator := ⟨f d.line, d.type, d.text⟩

/-- An item on another line. -/
def Item.renumber (f : Nat → Nat) : Item → Item
  | .declarator d => .declarator (d.renumber f)
  | .stray line text => .stray (f line) text

theorem outcome_renumber (θ : Float) (Γ : SymbolTable) (f : Nat → Nat) (i : Item) :
    outcome θ Γ (i.renumber f) = renumberOutcome (·.renumber f) f (outcome θ Γ i) := by
  cases i with
  | stray line text => rfl
  | declarator d =>
    -- What is wrong with a declarator does not depend on its line.
    have hfault : fault? θ Γ (d.renumber f) = fault? θ Γ d := rfl
    simp only [Item.renumber, outcome, check, hfault]
    split <;> rfl

theorem after_renumberOutcome (o : Except Diagnostic Declaration) :
    after Γ (renumberOutcome (·.renumber f) f o) = after Γ o := by
  cases o <;> rfl

theorem outcomes_renumber (θ : Float) (Γ : SymbolTable) (f : Nat → Nat) (is : List Item) :
    outcomes θ Γ (is.map (·.renumber f))
      = (outcomes θ Γ is).map (renumberOutcome (·.renumber f) f) := by
  induction is generalizing Γ with
  | nil => rfl
  | cons i is ih => rw [List.map_cons, outcomes, outcome_renumber, after_renumberOutcome, ih]; rfl

theorem itemsOfLine_renumber (f : Nat → Nat) (l : SourceLine) :
    itemsOfLine (l.renumber f) = (itemsOfLine l).map (·.renumber f) := by
  have htext : (l.renumber f).text = l.text := rfl
  rw [itemsOfLine, itemsOfLine, htext]
  split
  case h_1 =>
    rw [List.map_map]
    rfl
  case h_2 => rfl

theorem items_renumber (strict : Bool) (f : Nat → Nat) (ls : List SourceLine) :
    items strict (ls.map (·.renumber f)) = (items strict ls).map (·.renumber f) := by
  have hcounts : (Item.counts strict ∘ Item.renumber f) = Item.counts strict := by
    funext i
    cases i <;> rfl
  simp only [items, List.flatMap_map, itemsOfLine_renumber]
  rw [← List.map_flatMap, List.filter_map, hcounts]

/-- What lines hold that are numbered from `n` on. -/
def itemsFrom (strict : Bool) (n : Nat) (ws : List Text) : List Item :=
  items strict ((Source.numberFrom n ws).filter fun l => !l.isBlank)

theorem itemsFrom_append (strict : Bool) (n : Nat) (ls ms : List Text) :
    itemsFrom strict n (ls ++ ms)
      = itemsFrom strict n ls ++ itemsFrom strict (n + ls.length) ms := by
  rw [itemsFrom, Source.numberFrom_append, List.filter_append, items_append]
  rfl

theorem itemsFrom_singleton (strict : Bool) (m n : Nat) (w : Text) :
    itemsFrom strict m [w] = (itemsFrom strict n [w]).map (·.renumber fun _ => m) := by
  have hline : Source.numberFrom m [w]
      = (Source.numberFrom n [w]).map (·.renumber fun _ => m) := rfl
  rw [itemsFrom, hline, List.filter_map, items_renumber]
  rfl

/-- What lines declare has their numbers. -/
theorem line_of_accepted {strict : Bool} {n : Nat} {ws : List Text} {δ : Declaration}
    (h : δ ∈ accepted (outcomes θ Γ (itemsFrom strict n ws))) :
    n ≤ δ.line ∧ δ.line < n + ws.length := by
  obtain ⟨l, hl, hfrom⟩ := outcomes_isFrom θ Γ strict _ _ (mem_accepted.1 h)
  have hfrom : δ.IsFrom l := hfrom
  rw [hfrom.line]
  exact Source.number_of_mem_numberFrom (List.mem_of_mem_filter hl)

/-- What is reported about lines has their numbers. -/
theorem exists_line_of_rejected {strict : Bool} {n : Nat} {ws : List Text} {d : Diagnostic}
    (h : d ∈ rejected (outcomes θ Γ (itemsFrom strict n ws))) :
    ∃ m, d.line = some m ∧ n ≤ m ∧ m < n + ws.length := by
  obtain ⟨l, hl, habout⟩ := outcomes_isFrom θ Γ strict _ _ (mem_rejected.1 h)
  have habout : d.IsAbout l := habout
  exact ⟨l.number, habout.line, Source.number_of_mem_numberFrom (List.mem_of_mem_filter hl)⟩

theorem tableOf_map_renumber (f : Nat → Nat) (δs : List Declaration) :
    tableOf (δs.map (·.renumber f)) = tableOf δs := by
  rw [tableOf, List.map_map]
  rfl

end Semantic

end Analysis

end VarDecl
