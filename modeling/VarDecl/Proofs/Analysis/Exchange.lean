import VarDecl.Proofs.Analysis.Extension
import VarDecl.Proofs.Analysis.Passing
import VarDecl.Proofs.Analysis.Quotation
import VarDecl.Proofs.Analysis.Renumbering

/-!
# Exchanging lines

Two lines of declarations that follow each other can be exchanged if the second does not use the
first. Each is then checked against another table: the second against one that lacks the names of
the first (`outcomes_of_unused`), the first against one that has more names (`outcomes_of_extends`),
and the lines behind them against one that has the same names in another order.

* `Declares θ δs is εs`: after the declarations `δs` all items are accepted, and declare `εs`. This
  composes along a row of items (`declares_append_iff`) and does not depend on line numbers;
* `Declares.exchange`: two rows of items, and `Declares.exchange_lines` two lines;
* `analyze_exchange`: two lines of a source.
-/

namespace VarDecl.Analysis.Semantic

open Text Expression

variable {θ : Float} {δs δs' εs ζs ηs : List Declaration} {is js ks : List Item}

/-! ### Rows of items that are accepted -/

/-- After some declarations, all items of a row are accepted and declare some more. -/
def Declares (θ : Float) (δs : List Declaration) (is : List Item) (εs : List Declaration) : Prop :=
  outcomes θ (tableOf δs) is = εs.map .ok

theorem Declares.outcomes_eq (h : Declares θ δs is εs) :
    outcomes θ (tableOf δs) is = εs.map .ok := h

theorem Declares.tableAfter_eq (h : Declares θ δs is εs) :
    tableAfter θ (tableOf δs) is = tableOf (δs ++ εs) := by
  rw [tableAfter_tableOf, h.outcomes_eq, accepted_map_ok]

/-- A row in two parts. -/
theorem declares_append_iff : Declares θ δs (is ++ js) ηs ↔
    ∃ εs ζs, ηs = εs ++ ζs ∧ Declares θ δs is εs ∧ Declares θ (δs ++ εs) js ζs := by
  constructor
  · intro h
    have h := h.outcomes_eq
    rw [outcomes_append] at h
    obtain ⟨εs, ζs, rfl, hεs, hζs⟩ := List.map_eq_append_iff.1 h.symm
    have hfirst : Declares θ δs is εs := hεs.symm
    rw [hfirst.tableAfter_eq] at hζs
    exact ⟨εs, ζs, rfl, hfirst, hζs.symm⟩
  · rintro ⟨εs, ζs, rfl, hεs, hζs⟩
    rw [Declares, outcomes_append, hεs.tableAfter_eq, hεs.outcomes_eq, hζs.outcomes_eq,
      List.map_append]

theorem Declares.append (h : Declares θ δs is εs) (h' : Declares θ (δs ++ εs) js ζs) :
    Declares θ δs (is ++ js) (εs ++ ζs) :=
  declares_append_iff.2 ⟨εs, ζs, rfl, h, h'⟩

/-- Only the table of the declarations before matters. -/
theorem Declares.congr (h : Declares θ δs is εs) (htable : tableOf δs = tableOf δs') :
    Declares θ δs' is εs := by
  rwa [Declares, ← htable]

/-- Items on other lines make declarations on those lines. -/
theorem Declares.renumber (h : Declares θ δs is εs) (f : Nat → Nat) :
    Declares θ δs (is.map (·.renumber f)) (εs.map (·.renumber f)) := by
  rw [Declares, outcomes_renumber, h.outcomes_eq, List.map_map, List.map_map]
  rfl

/-! ### Other declarations in scope -/

/-- Declarations of other names may come before. -/
theorem Declares.weaken (h : Declares θ δs is εs)
    (hnodup : ((δs ++ ζs).map Declaration.name).Nodup)
    (hnames : ∀ ε ∈ εs, ε.name ∉ ζs.map Declaration.name) : Declares θ (δs ++ ζs) is εs := by
  refine (outcomes_of_extends (extends_tableOf_append hnodup) ?_ ?_).trans h.outcomes_eq
  · rw [h.outcomes_eq, rejected_map_ok]
  · rwa [h.outcomes_eq, accepted_map_ok]

/-- Declarations whose names are not used may be missing. -/
theorem Declares.of_unused (h : Declares θ (δs ++ ζs) is εs)
    (hnodup : ((δs ++ ζs).map Declaration.name).Nodup)
    (hnames : ∀ ε ∈ εs, ε.name ∉ ζs.map Declaration.name)
    (huse : ∀ ε ∈ εs, ∀ ζ ∈ ζs, ¬ε.Uses ζ.name) : Declares θ δs is εs := by
  refine (outcomes_of_unused (extends_tableOf_append hnodup) ?_ fun ε hε => ?_).trans h.outcomes_eq
  · rw [h.outcomes_eq, rejected_map_ok]
  · rw [h.outcomes_eq, accepted_map_ok] at hε
    refine ⟨hnames ε hε, fun x hx => ?_⟩
    obtain ⟨ζ, hζ, rfl⟩ := List.mem_map.1 hx
    exact huse ε hε ζ hζ

/-- The order of distinct names does not matter to a look-up. -/
theorem find?_tableOf_of_perm (h : δs.Perm εs) (hnodup : (δs.map Declaration.name).Nodup)
    (x : Text) : (tableOf εs).find? x = (tableOf δs).find? x := by
  by_cases hx : x ∈ δs.map Declaration.name
  · obtain ⟨δ, hδ, rfl⟩ := List.mem_map.1 hx
    rw [find?_tableOf hnodup hδ, find?_tableOf ((h.map _).nodup_iff.1 hnodup) (h.mem_iff.1 hδ)]
  · have hnone : (tableOf δs).find? x = none := by
      rwa [find?_eq_none_iff, names_tableOf]
    rw [hnone, find?_eq_none_iff, names_tableOf, ← (h.map _).mem_iff]
    exact hx

/-- The declarations before may come in another order. -/
theorem Declares.of_perm (h : Declares θ δs is εs) (hperm : δs.Perm δs')
    (hnodup : (δs.map Declaration.name).Nodup) : Declares θ δs' is εs := by
  have hext : SymbolTable.Extends [] (tableOf δs) (tableOf δs') :=
    ⟨fun x _ => find?_tableOf_of_perm hperm hnodup x, List.forall_mem_nil _⟩
  refine (outcomes_of_extends hext ?_ fun ε _ => List.not_mem_nil).trans h.outcomes_eq
  rw [h.outcomes_eq, rejected_map_ok]

/-- Two rows of items, and the items behind them, when the second row uses no name of the first. -/
theorem Declares.exchange (hε : Declares θ δs is εs) (hζ : Declares θ (δs ++ εs) js ζs)
    (hη : Declares θ (δs ++ εs ++ ζs) ks ηs)
    (hnodup : ((δs ++ εs ++ ζs).map Declaration.name).Nodup)
    (huse : ∀ ε ∈ εs, ∀ ζ ∈ ζs, ¬ζ.Uses ε.name) :
    Declares θ δs js ζs ∧ Declares θ (δs ++ ζs) is εs ∧ Declares θ (δs ++ ζs ++ εs) ks ηs := by
  have hperm : (δs ++ εs ++ ζs).Perm (δs ++ ζs ++ εs) := by
    rw [List.append_assoc, List.append_assoc]
    exact List.perm_append_comm.append_left δs
  have hnodup' := (hperm.map Declaration.name).nodup_iff.1 hnodup
  have hlast := hη.of_perm hperm hnodup
  rw [List.map_append, List.nodup_append] at hnodup hnodup'
  refine ⟨hζ.of_unused hnodup.1 ?_ fun ζ hmem ε hε => huse ε hε ζ hmem,
    hε.weaken hnodup'.1 ?_, hlast⟩
  · intro ζ hζs hmem
    rw [List.map_append] at hnodup
    exact hnodup.2.2 ζ.name (List.mem_append_right _ hmem) ζ.name (List.mem_map_of_mem hζs) rfl
  · intro ε hεs hmem
    rw [List.map_append] at hnodup'
    exact hnodup'.2.2 ε.name (List.mem_append_right _ hmem) ε.name (List.mem_map_of_mem hεs) rfl

/-! ### Two lines of a source -/

section Source

variable {strict : Bool} {n : Nat} {ε : Declaration} {source v w : Text} {ls ms ws : List Text}

/-- What lines declare has their numbers. -/
theorem Declares.line_mem (h : Declares θ δs (itemsFrom strict n ws) εs) (hε : ε ∈ εs) :
    n ≤ ε.line ∧ ε.line < n + ws.length := by
  have hmem : ε ∈ accepted (outcomes θ (tableOf δs) (itemsFrom strict n ws)) := by
    rwa [h.outcomes_eq, accepted_map_ok]
  exact line_of_accepted hmem

theorem Declares.line_eq (h : Declares θ δs (itemsFrom strict n [w]) εs) : ∀ ε ∈ εs, ε.line = n :=
  fun _ hε => Nat.le_antisymm (Nat.le_of_lt_succ (h.line_mem hε).2) (h.line_mem hε).1

/-- Two lines exchange their numbers, which do not show in the tables, and the items behind them
stay. -/
theorem Declares.exchange_lines {m : Nat} (hε : Declares θ δs (itemsFrom strict m [v]) εs)
    (hζ : Declares θ (δs ++ εs) (itemsFrom strict n [w]) ζs)
    (hη : Declares θ (δs ++ εs ++ ζs) ks ηs)
    (hnodup : ((δs ++ εs ++ ζs).map Declaration.name).Nodup)
    (huse : ∀ ε ∈ εs, ∀ ζ ∈ ζs, ¬ζ.Uses ε.name) :
    Declares θ δs (itemsFrom strict m [w]) (ζs.map (·.renumber fun _ => m)) ∧
    Declares θ (δs ++ ζs.map (·.renumber fun _ => m)) (itemsFrom strict n [v])
      (εs.map (·.renumber fun _ => n)) ∧
    Declares θ (δs ++ ζs.map (·.renumber fun _ => m) ++ εs.map (·.renumber fun _ => n)) ks ηs := by
  obtain ⟨hζ, hε, hη⟩ := hε.exchange hζ hη hnodup huse
  have hζ := hζ.renumber fun _ => m
  have hε := hε.renumber fun _ => n
  rw [← itemsFrom_singleton] at hζ hε
  refine ⟨hζ, hε.congr ?_, hη.congr ?_⟩ <;>
    simp only [tableOf_append, tableOf_map_renumber]

theorem declares_of_passed (h : (analyze ⟨false, false, θ⟩ source).passed = true) :
    Declares θ [] (itemsFrom false 1 source.lines)
      (analyze ⟨false, false, θ⟩ source).findings.declarations := by
  obtain ⟨-, hrejected, -⟩ := passed_iff.1 h
  rw [analyze_of_passed h]
  exact eq_map_ok_of_rejected hrejected

theorem analyze_of_declares (hempty : Source.isEmpty source = false)
    (h : Declares θ [] (itemsFrom false 1 source.lines) δs) :
    analyze ⟨false, false, θ⟩ source = ⟨.semantic δs (tableOf δs), []⟩ := by
  have h : outcomesOf ⟨false, false, θ⟩ source = δs.map .ok := h
  rw [analyze_lenient hempty rfl, h, accepted_map_ok, rejected_map_ok]

/-- The declarations of a source part at two of its lines. -/
theorem declares_lines_iff : Declares θ [] (itemsFrom strict 1 (ls ++ v :: w :: ms)) δs ↔
    ∃ before one two behind, δs = before ++ one ++ two ++ behind ∧
      Declares θ [] (itemsFrom strict 1 ls) before ∧
      Declares θ before (itemsFrom strict (ls.length + 1) [v]) one ∧
      Declares θ (before ++ one) (itemsFrom strict (ls.length + 2) [w]) two ∧
      Declares θ (before ++ one ++ two) (itemsFrom strict (ls.length + 3) ms) behind := by
  have hitems : itemsFrom strict 1 (ls ++ v :: w :: ms)
      = itemsFrom strict 1 ls ++ itemsFrom strict (ls.length + 1) [v]
        ++ itemsFrom strict (ls.length + 2) [w] ++ itemsFrom strict (ls.length + 3) ms := by
    rw [show ls ++ v :: w :: ms = ls ++ [v] ++ [w] ++ ms by simp, itemsFrom_append,
      itemsFrom_append, itemsFrom_append]
    simp only [List.length_append, List.length_singleton, Nat.add_comm, Nat.add_left_comm]
  rw [hitems]
  constructor
  · intro h
    obtain ⟨_, behind, rfl, h, hbehind⟩ := declares_append_iff.1 h
    obtain ⟨_, two, rfl, h, htwo⟩ := declares_append_iff.1 h
    obtain ⟨before, one, rfl, hbefore, hone⟩ := declares_append_iff.1 h
    exact ⟨before, one, two, behind, rfl, hbefore, hone, htwo, hbehind⟩
  · rintro ⟨before, one, two, behind, rfl, hbefore, hone, htwo, hbehind⟩
    exact ((hbefore.append hone).append htwo).append hbehind

/-- Exchanging two lines does not make a source empty. -/
theorem isEmpty_exchange (hlines : source.lines = ls ++ v :: w :: ms)
    (h : Source.isEmpty source = false) {swapped : Text}
    (hswapped : swapped.lines = ls ++ w :: v :: ms) : Source.isEmpty swapped = false := by
  rw [Source.isEmpty_eq_all_lines, hlines] at h
  rw [Source.isEmpty_eq_all_lines, hswapped]
  simpa [Bool.and_left_comm] using h

/-- Two lines that follow each other can be exchanged in a source that passes, if no declaration of
the second uses a name that the first declares. The source still passes and makes the same
declarations, those of the two lines with the numbers exchanged. -/
theorem analyze_exchange (hlines : source.lines = ls ++ v :: w :: ms)
    (hpassed : (analyze ⟨false, false, θ⟩ source).passed = true)
    (huse : ∀ δ ∈ (analyze ⟨false, false, θ⟩ source).findings.declarations,
      ∀ ε ∈ (analyze ⟨false, false, θ⟩ source).findings.declarations,
        δ.line = ls.length + 1 → ε.line = ls.length + 2 → ¬ε.Uses δ.name) :
    ∃ before one two behind,
      (analyze ⟨false, false, θ⟩ source).findings.declarations = before ++ one ++ two ++ behind ∧
      (∀ δ ∈ before, δ.line < ls.length + 1) ∧ (∀ δ ∈ one, δ.line = ls.length + 1) ∧
      (∀ δ ∈ two, δ.line = ls.length + 2) ∧ (∀ δ ∈ behind, ls.length + 2 < δ.line) ∧
      analyze ⟨false, false, θ⟩ (List.intercalate ['\n'] (ls ++ w :: v :: ms))
        = ⟨.semantic
            (before ++ two.map (·.renumber fun _ => ls.length + 1)
              ++ one.map (·.renumber fun _ => ls.length + 2) ++ behind)
            (tableOf (before ++ two ++ one ++ behind)), []⟩ := by
  have hswapped : lines (List.intercalate ['\n'] (ls ++ w :: v :: ms)) = ls ++ w :: v :: ms := by
    refine lines_intercalate (fun u hu => ?_) (by simp)
    apply notMem_of_mem_lines (t := source)
    rw [hlines]
    simp only [List.mem_append, List.mem_cons] at hu ⊢
    tauto
  have hempty := isEmpty_exchange hlines (passed_iff.1 hpassed).1 hswapped
  have hnodup := (isSound_of_declarations ⟨false, false, θ⟩ source).nodup
  have hdeclares := declares_of_passed hpassed
  rw [hlines] at hdeclares
  obtain ⟨before, one, two, behind, hδs, hbefore, hone, htwo, hbehind⟩ :=
    declares_lines_iff.1 hdeclares
  rw [hδs] at huse hnodup ⊢
  refine ⟨before, one, two, behind, rfl, fun δ hδ => ?_, hone.line_eq, htwo.line_eq,
    fun δ hδ => (hbehind.line_mem hδ).1, ?_⟩
  · have hline := (hbefore.line_mem hδ).2
    omega
  · rw [List.map_append, List.nodup_append] at hnodup
    obtain ⟨htwo, hone, hbehind⟩ := hone.exchange_lines htwo hbehind hnodup.1
      fun δ hδ ε hε => huse δ (by simp [hδ]) ε (by simp [hε]) (hone.line_eq δ hδ)
        (htwo.line_eq ε hε)
    have hall := declares_lines_iff.2 ⟨before, _, _, behind, rfl, hbefore, htwo, hone, hbehind⟩
    rw [← hswapped] at hall
    rw [analyze_of_declares hempty hall]
    simp only [tableOf_append, tableOf_map_renumber]

/-- The third line uses the first two, which use nothing and can change places. -/
theorem analyze_exchange_numbers :
    (analyze ⟨false, false, Suggestion.defaultThreshold⟩
      "int b = 2;\nint a = 1;\nint c = a + b;".toList).passed = true := by
  obtain ⟨before, one, two, behind, -, -, -, -, -, h⟩ :=
    @analyze_exchange Suggestion.defaultThreshold "int a = 1;\nint b = 2;\nint c = a + b;".toList
      "int a = 1;".toList "int b = 2;".toList [] ["int c = a + b;".toList] (by decide +kernel)
      (by decide +kernel) (by decide +kernel)
  have hsource : List.intercalate ['\n'] ["int b = 2;".toList, "int a = 1;".toList,
      "int c = a + b;".toList] = "int b = 2;\nint a = 1;\nint c = a + b;".toList := by
    decide +kernel
  rw [← hsource]
  exact congrArg Analysis.passed h

end Source

end VarDecl.Analysis.Semantic
