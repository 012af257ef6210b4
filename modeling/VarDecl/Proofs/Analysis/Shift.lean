import VarDecl.Proofs.Analysis.Renumbering
import VarDecl.Proofs.Source.Numbering

/-!
# Shift invariance

On lines that stand further down a stage finds the same things, further down. This is the
renumbering that adds the number of lines above.

* `shift` moves what has a line, and `shiftOutcome` an outcome;
* `Lexical.checkLine_shift`, `Grammatical.checkLine_shift`: one line of the first two stages;
* `Semantic.outcomes_shift`: a row of items of the third.
-/

namespace VarDecl

variable {α : Type} {f : α → α} {n : Nat}

/-- A tokenized line, `n` lines further down. -/
def TokenizedLine.shift (n : Nat) (τ : TokenizedLine) : TokenizedLine := ⟨τ.line + n, τ.lexemes⟩

/-- A declaration, `n` lines further down. -/
def Declaration.shift (n : Nat) (δ : Declaration) : Declaration :=
  ⟨δ.typeName, δ.name, δ.initializer, δ.line + n⟩

/-- A diagnostic, `n` lines further down. One about the whole source stays. -/
def Diagnostic.shift (n : Nat) (d : Diagnostic) : Diagnostic :=
  ⟨d.line.map (· + n), d.fault, d.suggestion⟩

namespace Analysis

/-! ### Outcomes -/

/-- An outcome, `n` lines further down; `f` moves what is accepted. -/
def shiftOutcome (f : α → α) (n : Nat) : Except Diagnostic α → Except Diagnostic α
  | .ok a => .ok (f a)
  | .error d => .error (d.shift n)

theorem shiftOutcome_eq (f : α → α) (n : Nat) : shiftOutcome f n = renumberOutcome f (· + n) := by
  funext o
  cases o <;> rfl

theorem accepted_append_shiftOutcome (os os' : List (Except Diagnostic α)) :
    accepted (os ++ os'.map (shiftOutcome f n)) = accepted os ++ (accepted os').map f := by
  rw [accepted_append, shiftOutcome_eq, accepted_map_renumberOutcome]

theorem rejected_append_shiftOutcome {os os' : List (Except Diagnostic α)}
    (h : rejected os = []) (h' : rejected os' = []) :
    rejected (os ++ os'.map (shiftOutcome f n)) = [] := by
  rw [rejected_append, shiftOutcome_eq, rejected_map_renumberOutcome, h, h']
  rfl

/-! ### Lines -/

theorem Lexical.checkLine_shift (θ : Float) (n : Nat) (l : SourceLine) :
    Lexical.checkLine θ (l.shift n) = shiftOutcome (·.shift n) n (Lexical.checkLine θ l) := by
  rw [shiftOutcome_eq]
  exact Lexical.checkLine_renumber θ (· + n) l

theorem Grammatical.checkLine_shift (θ : Float) (n : Nat) (l : SourceLine) :
    Grammatical.checkLine θ (l.shift n)
      = shiftOutcome (·.shift n) n (Grammatical.checkLine θ l) := by
  rw [shiftOutcome_eq]
  exact Grammatical.checkLine_renumber θ (· + n) l

/-! ### Items -/

namespace Semantic

/-- A declarator, `n` lines further down. -/
def Declarator.shift (n : Nat) (d : Declarator) : Declarator := ⟨d.line + n, d.type, d.text⟩

/-- An item, `n` lines further down. -/
def Item.shift (n : Nat) : Item → Item
  | .declarator d => .declarator (d.shift n)
  | .stray line text => .stray (line + n) text

theorem Item.shift_eq (n : Nat) : Item.shift n = Item.renumber (· + n) := by
  funext i
  cases i <;> rfl

theorem outcomes_shift (θ : Float) (Γ : SymbolTable) (n : Nat) (is : List Item) :
    outcomes θ Γ (is.map (·.shift n)) = (outcomes θ Γ is).map (shiftOutcome (·.shift n) n) := by
  rw [shiftOutcome_eq, Item.shift_eq]
  exact outcomes_renumber θ Γ (· + n) is

theorem items_shift (strict : Bool) (n : Nat) (ls : List SourceLine) :
    items strict (ls.map (·.shift n)) = (items strict ls).map (·.shift n) := by
  rw [Item.shift_eq]
  exact items_renumber strict (· + n) ls

theorem tableOf_map_shift (n : Nat) (δs : List Declaration) :
    tableOf (δs.map (·.shift n)) = tableOf δs :=
  tableOf_map_renumber (· + n) δs

end Semantic

end Analysis

end VarDecl
