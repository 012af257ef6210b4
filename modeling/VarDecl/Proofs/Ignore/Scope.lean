import VarDecl.Ignore.Rules
import VarDecl.Proofs.File.Path
import VarDecl.Proofs.Text.Trim

/-!
# The reach of an ignore file

* `Consults`: a base takes part in the judgement of a path if it is the root or its names are the
  first names of the path, and not all of them. It judges the names that are left
  (`below?_eq_some_iff`);
* `ignores_iff`: a path is ignored if one of the bases that take part ignores it;
* `ignores_join_iff`: the same for paths and bases that are rows of names.
-/

namespace VarDecl.Ignore.Rules

open File.Path

variable {rules rules' : Rules} {base path rest : Text} {p d : List Text} {isDirectory : Bool}

/-- A base takes part in the judgement of a path, by the rest of the path. -/
def Consults (base path rest : Text) : Prop :=
  base = [] ∧ rest = path ∨
    base ≠ [] ∧ ∃ after, after ≠ [] ∧ path.splitOn '/' = base.splitOn '/' ++ after ∧
      rest = join after

theorem below?_eq_some_iff : below? base path = some rest ↔ Consults base path rest := by
  unfold below? Consults
  cases base with
  | nil => simp [eq_comm]
  | cons c base =>
    rw [List.isEmpty_cons, if_neg Bool.false_ne_true, Text.after?_eq_some_iff, List.append_assoc,
      List.singleton_append, eq_append_slash_iff]
    simp

/-- A name that only starts with the base, or is the base itself, is not below it. -/
example : below? "a".toList "ab/x".toList = none ∧ below? "a".toList "a".toList = none := by decide

theorem ignores_iff : rules.ignores path isDirectory = true ↔
    normalize path ≠ [] ∧ ∃ e ∈ rules.entries, ∃ rest, Consults e.1 (normalize path) rest ∧
      verdict e.2 (if isDirectory then rest ++ ['/'] else rest) = true := by
  simp [ignores, Option.any_eq_true, below?_eq_some_iff]

/-- What is ignored does not depend on the order of the bases. -/
theorem ignores_congr (h : ∀ e, e ∈ rules.entries ↔ e ∈ rules'.entries) :
    rules.ignores = rules'.ignores := by
  funext path isDirectory
  rw [Bool.eq_iff_iff, ignores_iff, ignores_iff]
  simp only [h]

/-! ### Rows of names -/

theorem normalize_join (h : ∀ n ∈ p, IsEntryName n) : normalize (join p) = join p := by
  rw [normalize, Text.dropWhile_eq_self fun c hc => beq_false_of_ne (head?_join h c hc),
    Text.dropTrailing_eq_self fun c hc => beq_false_of_ne (getLast?_join h c hc)]

theorem consults_join_iff (hp : ∀ n ∈ p, IsEntryName n) (hd : ∀ n ∈ d, IsEntryName n)
    (hne : p ≠ []) : Consults (join d) (join p) rest ↔
      ∃ after, after ≠ [] ∧ p = d ++ after ∧ rest = join after := by
  unfold Consults
  rw [splitOn_join (fun n hn => (hp n hn).noSlash) hne]
  by_cases hd' : d = []
  · subst hd'
    constructor
    · rintro (⟨-, rfl⟩ | ⟨h, -⟩)
      · exact ⟨p, hne, rfl, rfl⟩
      · exact absurd rfl h
    · rintro ⟨after, -, rfl, rfl⟩
      exact Or.inl ⟨rfl, rfl⟩
  · have hbase := join_ne_nil hd hd'
    rw [splitOn_join (fun n hn => (hd n hn).noSlash) hd']
    exact ⟨fun h => h.elim (fun h => absurd h.1 hbase) And.right, fun h => Or.inr ⟨hbase, h⟩⟩

/-- What the bases that are rows of names make of a path. -/
theorem ignores_join_iff (hp : ∀ n ∈ p, IsEntryName n) (hne : p ≠ [])
    (hbases : ∀ e ∈ rules.entries, ∃ d, (∀ n ∈ d, IsEntryName n) ∧ e.1 = join d) :
    rules.ignores (join p) isDirectory = true ↔
      ∃ d patterns after, (join d, patterns) ∈ rules.entries ∧ (∀ n ∈ d, IsEntryName n) ∧
        after ≠ [] ∧ p = d ++ after ∧
        verdict patterns (if isDirectory then join after ++ ['/'] else join after) = true := by
  rw [ignores_iff, normalize_join hp]
  constructor
  · rintro ⟨-, ⟨base, patterns⟩, he, rest, hconsults, hverdict⟩
    obtain ⟨d, hd, hbase⟩ := hbases _ he
    obtain rfl : base = join d := hbase
    obtain ⟨after, hafter, heq, rfl⟩ := (consults_join_iff hp hd hne).1 hconsults
    exact ⟨d, patterns, after, he, hd, hafter, heq, hverdict⟩
  · rintro ⟨d, patterns, after, he, hd, hafter, heq, hverdict⟩
    exact ⟨join_ne_nil hp hne, _, he, join after,
      (consults_join_iff hp hd hne).2 ⟨after, hafter, heq, rfl⟩, hverdict⟩

end VarDecl.Ignore.Rules
