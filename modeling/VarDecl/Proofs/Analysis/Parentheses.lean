import VarDecl.Proofs.Analysis.Assignment
import VarDecl.Proofs.Expression.Parens

/-!
# Values in parentheses

* `expression_trim`, `expression_inParens`: a balanced value is the same expression with one more
  pair of parentheses around it;
* `check_assigned_cases`: assignments to one variable of values that are the same expression are
  reported alike, or else both are accepted. Parentheses around a value leave it the same
  expression (`assignment_inParens`);
* `redundant_parens`: the parentheses that enclose an expression are not seen.
-/

namespace VarDecl.Analysis.Semantic

open Text Expression Declaration Name

variable {v w x : Text}

/-! ### Expressions -/

/-- A value that does not end with a semicolon is read as it is. -/
theorem expression_eq (h : v.getLast? ≠ some ';') : expression v = stripParens v := by
  have hdrop : dropTrailing (· == ';') v = v := dropTrailing_eq_self fun c hc => by
    rw [beq_eq_false_iff_ne]
    rintro rfl
    exact h hc
  rw [expression, hdrop, stripParens_trim]

theorem expression_trim (h : (trim v).getLast? ≠ some ';') :
    expression (trim v) = stripParens v := by
  rw [expression_eq h, stripParens_trim]

theorem expression_inParens (h : IsBalanced v) : expression (inParens v) = stripParens v := by
  rw [expression_eq, stripParens_inParens h]
  rw [inParens, ← List.cons_append, List.getLast?_concat]
  decide

/-! ### Assignments -/

/-- Values that are the same expression have the same faults. -/
theorem initializerFault?_congr (θ : Float) (Γ : SymbolTable) (p : Primitive) (x : Text)
    (h : expression v = expression w) :
    initializerFault? θ Γ p x v = initializerFault? θ Γ p x w := by
  simp only [initializerFault?, h]

/-- Two assignments of the same expression are reported alike, or else both are accepted. -/
theorem check_assigned_cases (θ : Float) (Γ : SymbolTable) (n : Nat) (p : Primitive)
    (hx : IsName x) (hv : trim v ≠ []) (hw : trim w ≠ [])
    (h : expression (trim v) = expression (trim w)) :
    (∃ ε, check θ Γ ⟨n, p, assigned x v⟩ = .error ε ∧ check θ Γ ⟨n, p, assigned x w⟩ = .error ε) ∨
      (check θ Γ ⟨n, p, assigned x v⟩ = .ok ⟨p.name, x, some (trim v), n⟩ ∧
        check θ Γ ⟨n, p, assigned x w⟩ = .ok ⟨p.name, x, some (trim w), n⟩) := by
  have hfault : fault? θ Γ ⟨n, p, assigned x w⟩ = fault? θ Γ ⟨n, p, assigned x v⟩ := by
    rw [fault?_assigned θ Γ n p hx hv, fault?_assigned θ Γ n p hx hw,
      initializerFault?_congr θ Γ p x h]
  rw [check, check, hfault, declaration_assigned n p hx, declaration_assigned n p hx]
  cases fault? θ Γ ⟨n, p, assigned x v⟩ with
  | some fault => exact .inl ⟨_, rfl, rfl⟩
  | none => exact .inr ⟨rfl, rfl⟩

/-- A balanced text that is the whole value of its declarator: it is not blank and stands on one
line, it has no comma on its top level, and it does not end with a semicolon. -/
structure IsSoleValue (v : Text) : Prop where
  balanced : IsBalanced v
  ne_nil : trim v ≠ []
  noNewline : '\n' ∉ v
  noComma : ∀ ic ∈ topLevel v, ic.2 ≠ ','
  noSemicolon : (trim v).getLast? ≠ some ';'

theorem IsSoleValue.isClosed (h : IsSoleValue v) : IsClosed (· == ',') v :=
  isClosed_of_topLevel h.balanced.quote h.balanced.depth h.noComma

/-- Parentheses around a value change neither what declarators a line has nor how they are judged,
but for the text of the initializer. -/
theorem assignment_inParens (θ : Float) (Γ : SymbolTable) (n : Nat) (p : Primitive)
    (hx : IsName x) (hv : IsSoleValue v) :
    itemsOfLine ⟨n, assignment p.name x v⟩ = [.declarator ⟨n, p, assigned x v⟩] ∧
    itemsOfLine ⟨n, assignment p.name x (inParens v)⟩
      = [.declarator ⟨n, p, assigned x (inParens v)⟩] ∧
    ((∃ ε, check θ Γ ⟨n, p, assigned x v⟩ = .error ε ∧
        check θ Γ ⟨n, p, assigned x (inParens v)⟩ = .error ε) ∨
      (check θ Γ ⟨n, p, assigned x v⟩ = .ok ⟨p.name, x, some (trim v), n⟩ ∧
        check θ Γ ⟨n, p, assigned x (inParens v)⟩ = .ok ⟨p.name, x, some (inParens v), n⟩)) := by
  have hnl : '\n' ∉ inParens v := by simp [inParens, hv.noNewline]
  have hne : trim (inParens v) ≠ [] := by
    rw [trim_inParens]
    exact List.cons_ne_nil _ _
  have hsame : expression (trim v) = expression (trim (inParens v)) := by
    rw [expression_trim hv.noSemicolon, trim_inParens, expression_inParens hv.balanced]
  have hcases := check_assigned_cases θ Γ n p hx hv.ne_nil hne hsame
  rw [trim_inParens] at hcases
  exact ⟨itemsOfLine_assignment n p hx hv.noNewline hv.isClosed,
    itemsOfLine_assignment n p hx hnl (hv.balanced.isClosed_inParens rfl rfl), hcases⟩

/-- The parentheses that enclose an expression are not seen. Stripping takes off pairs and blanks
until there are none around the text, and leaves its fragments and its category. One more pair
around a balanced text makes no difference to what is left, and so none to a declarator with such
a value. -/
theorem redundant_parens (e : Text) :
    (stripParens (stripParens e) = stripParens e ∧ trim (stripParens e) = stripParens e ∧
      ¬ IsEnclosed (stripParens e) ∧ IsWrapped (stripParens e) e ∧
      fragments (stripParens e) = fragments e ∧ ∀ Γ, infer Γ (stripParens e) = infer Γ e) ∧
    (IsBalanced e → stripParens (inParens e) = stripParens e) ∧
    (IsSoleValue e → ∀ (θ : Float) (Γ : SymbolTable) (n : Nat) (p : Primitive) (x : Text), IsName x →
      itemsOfLine ⟨n, assignment p.name x e⟩ = [.declarator ⟨n, p, assigned x e⟩] ∧
      itemsOfLine ⟨n, assignment p.name x (inParens e)⟩
        = [.declarator ⟨n, p, assigned x (inParens e)⟩] ∧
      ((∃ ε, check θ Γ ⟨n, p, assigned x e⟩ = .error ε ∧
          check θ Γ ⟨n, p, assigned x (inParens e)⟩ = .error ε) ∨
        (check θ Γ ⟨n, p, assigned x e⟩ = .ok ⟨p.name, x, some (trim e), n⟩ ∧
          check θ Γ ⟨n, p, assigned x (inParens e)⟩ = .ok ⟨p.name, x, some (inParens e), n⟩))) := by
  refine ⟨⟨stripParens_stripParens e, trim_stripParens e, ?_, isWrapped_stripParens e,
    fragments_stripParens e, fun Γ => ?_⟩, stripParens_inParens,
    fun he θ Γ n p x hx => assignment_inParens θ Γ n p hx he⟩
  · rw [← isEnclosed_iff, isEnclosed_stripParens]
    exact Bool.false_ne_true
  · rw [infer, infer, fragments_stripParens]

/-- A value that starts and ends with parentheses which are no pair, as the last is in a string. -/
theorem redundant_parens_string :
    stripParens "((a) + \")\")".toList = stripParens "(a) + \")\"".toList ∧
    itemsOfLine ⟨1, "String s = (a) + \")\";".toList⟩
      = [.declarator ⟨1, .string, "s = (a) + \")\"".toList⟩] ∧
    itemsOfLine ⟨1, "String s = ((a) + \")\");".toList⟩
      = [.declarator ⟨1, .string, "s = ((a) + \")\")".toList⟩] := by
  have hvalue : IsSoleValue "(a) + \")\"".toList :=
    ⟨by decide, by decide, by decide, by decide, by decide⟩
  have hname : IsName "s".toList := ⟨'s', [], rfl, rfl, List.forall_mem_nil _⟩
  obtain ⟨-, hstrip, hlines⟩ := redundant_parens "(a) + \")\"".toList
  obtain ⟨h₁, h₂, -⟩ := hlines hvalue Suggestion.defaultThreshold .empty 1 .string "s".toList hname
  exact ⟨hstrip hvalue.balanced, h₁, h₂⟩

end VarDecl.Analysis.Semantic
