import VarDecl.Expression.Fragment
import VarDecl.Name
import VarDecl.SymbolTable

/-!
# The category of an expression

Each fragment of an expression is a literal, a declared name, or says nothing. The category of the
expression is the join of those of its fragments; the first fragment that is an undeclared name is
an error instead.

* `fragmentCategory` judges one fragment and `infer` a whole expression;
* `inferAll_append`: a list of fragments can be judged in two parts.
-/

namespace VarDecl.Expression

/-- A name that is used and not declared. -/
structure UndefinedName where
  name : Text
  deriving DecidableEq

/-- The category of a fragment; `none` if the fragment is neither a literal nor a name. -/
def fragmentCategory (Γ : SymbolTable) (f : Text) : Except UndefinedName (Option Category) :=
  match Literal.kind? f with
  | some k => .ok k.category
  | none =>
    if Name.isIdentifier f then
      match Γ.find? f with
      | some type => .ok (Category.ofTypeName type)
      | none => .error ⟨f⟩
    else .ok none

/-- The join of the categories of fragments, or the first undeclared name. -/
def inferAll (Γ : SymbolTable) : List Text → Except UndefinedName Category
  | [] => .ok .unknown
  | f :: fs => do
    let c ← fragmentCategory Γ f
    let rest ← inferAll Γ fs
    return (c.getD .unknown).join rest

/-- The category of an expression. -/
def infer (Γ : SymbolTable) (t : Text) : Except UndefinedName Category :=
  inferAll Γ (fragments t)

@[simp] theorem inferAll_nil (Γ : SymbolTable) : inferAll Γ [] = .ok .unknown := rfl

/-- Fragments can be judged in two parts. -/
theorem inferAll_append (Γ : SymbolTable) (fs gs : List Text) :
    inferAll Γ (fs ++ gs) = (do
      let a ← inferAll Γ fs
      let b ← inferAll Γ gs
      return a.join b) := by
  induction fs with
  | nil =>
    rw [List.nil_append, inferAll_nil]
    cases inferAll Γ gs <;> simp [bind, Except.bind, pure, Except.pure]
  | cons f fs ih =>
    simp only [List.cons_append, inferAll, ih]
    cases fragmentCategory Γ f <;> cases inferAll Γ fs <;> cases inferAll Γ gs <;>
      simp [bind, Except.bind, pure, Except.pure, Category.join_assoc]

end VarDecl.Expression
