import VarDecl.Proofs.Analysis.Passing
import VarDecl.Proofs.Analysis.Renumbering

/-!
# Items that are left out

An item that is reported leaves the table as it is. So it can be left out of its row, and all items
behind it keep their outcomes, hints included.

* `Omits θ p Γ is js`: the row `js` is `is` without some items that are reported from the table `Γ`
  on. The reports that stay are those with `p`;
* `Omits.tableAfter_eq`, `Omits.accepted_eq`, `Omits.rejected_eq`: what becomes of a row;
* `Omits.self`, `Omits.all`, `Omits.append`: nothing or everything is left out, and rows in parts;
* `failures_leave_no_trace`: a line of a source on which nothing is declared, and the declarators of
  a row that are reported.
-/

namespace VarDecl.Analysis.Semantic

open Text

/-! ### Rows of items -/

/-- A row of items, read from a table on, without some that are reported. A report has `p` exactly
if its item stays. -/
inductive Omits (θ : Float) (p : Diagnostic → Bool) : SymbolTable → List Item → List Item → Prop
  | nil (Γ : SymbolTable) : Omits θ p Γ [] []
  | keep {Γ : SymbolTable} {i : Item} {is js : List Item}
      (hreport : ∀ d, outcome θ Γ i = .error d → p d = true)
      (hrest : Omits θ p (after Γ (outcome θ Γ i)) is js) : Omits θ p Γ (i :: is) (i :: js)
  | drop {Γ : SymbolTable} {i : Item} {is js : List Item} {d : Diagnostic}
      (hreport : outcome θ Γ i = .error d) (hp : p d = false)
      (hrest : Omits θ p Γ is js) : Omits θ p Γ (i :: is) js

variable {θ : Float} {p : Diagnostic → Bool} {Γ : SymbolTable} {is is' js js' : List Item}

theorem Omits.tableAfter_eq (h : Omits θ p Γ is js) : tableAfter θ Γ js = tableAfter θ Γ is := by
  induction h with
  | nil => rfl
  | keep _ _ ih => rw [tableAfter, tableAfter, ih]
  | drop hreport _ _ ih => rw [tableAfter, hreport, after, ih]

theorem Omits.accepted_eq (h : Omits θ p Γ is js) :
    accepted (outcomes θ Γ js) = accepted (outcomes θ Γ is) := by
  induction h with
  | nil => rfl
  | @keep Γ i _ _ _ _ ih =>
    rw [outcomes, outcomes]
    cases ho : outcome θ Γ i with
    | error d => rw [ho] at ih; rw [accepted_error, accepted_error, ih]
    | ok δ => rw [ho] at ih; rw [accepted_ok, accepted_ok, ih]
  | drop hreport _ _ ih => rw [outcomes, hreport, after, accepted_error, ih]

theorem Omits.rejected_eq (h : Omits θ p Γ is js) :
    rejected (outcomes θ Γ js) = (rejected (outcomes θ Γ is)).filter p := by
  induction h with
  | nil => rfl
  | @keep Γ i _ _ hreport _ ih =>
    rw [outcomes, outcomes]
    cases ho : outcome θ Γ i with
    | error d =>
      rw [ho] at ih
      rw [rejected_error, rejected_error, ih, List.filter_cons_of_pos (hreport d ho)]
    | ok δ => rw [ho] at ih; rw [rejected_ok, rejected_ok, ih]
  | drop hreport hp _ ih =>
    rw [outcomes, hreport, after, rejected_error, ih, List.filter_cons_of_neg (by simp [hp])]

/-- Nothing has to be left out. -/
theorem Omits.self (h : ∀ d ∈ rejected (outcomes θ Γ is), p d = true) : Omits θ p Γ is is := by
  induction is generalizing Γ with
  | nil => exact .nil _
  | cons i is ih =>
    refine .keep (fun d hd => h d ?_) (ih fun d hd => h d ?_)
    · rw [outcomes, mem_rejected, hd]
      exact List.mem_cons_self
    · rw [outcomes, mem_rejected]
      exact List.mem_cons_of_mem _ (mem_rejected.1 hd)

/-- All of a row can be left out if nothing of it is accepted. -/
theorem Omits.all (h : accepted (outcomes θ Γ is) = [])
    (hp : ∀ d ∈ rejected (outcomes θ Γ is), p d = false) : Omits θ p Γ is [] := by
  induction is with
  | nil => exact .nil _
  | cons i is ih =>
    rw [outcomes] at h hp
    cases ho : outcome θ Γ i with
    | ok δ =>
      rw [ho, accepted_ok] at h
      cases h
    | error d =>
      rw [ho, after, accepted_error] at h
      rw [ho, after, rejected_error] at hp
      obtain ⟨hd, hrest⟩ := List.forall_mem_cons.1 hp
      exact .drop ho hd (ih h hrest)

theorem Omits.append (h : Omits θ p Γ is js) (h' : Omits θ p (tableAfter θ Γ is) is' js') :
    Omits θ p Γ (is ++ is') (js ++ js') := by
  induction h with
  | nil => exact h'
  | keep hreport _ ih => exact .keep hreport (ih h')
  | drop hreport hp _ ih =>
    rw [tableAfter, hreport] at h'
    exact .drop hreport hp (ih h')

/-! ### The items that are accepted -/

/-- The items of a row that are not reported. -/
def acceptedItems (θ : Float) (Γ : SymbolTable) (is : List Item) : List Item :=
  ((is.zip (outcomes θ Γ is)).filter fun io => io.2.isOk).map Prod.fst

theorem omits_acceptedItems (θ : Float) (Γ : SymbolTable) (is : List Item) :
    Omits θ (fun _ => false) Γ is (acceptedItems θ Γ is) := by
  induction is generalizing Γ with
  | nil => exact .nil _
  | cons i is ih =>
    rw [acceptedItems, outcomes, List.zip_cons_cons]
    cases ho : outcome θ Γ i with
    | error d => exact .drop ho rfl (ih Γ)
    | ok δ =>
      refine .keep (fun d hd => ?_) ?_
      · rw [ho] at hd
        cases hd
      · rw [ho]
        exact ih _

/-- Without the items that are reported, a row declares the same and reports nothing. -/
theorem outcomes_acceptedItems (θ : Float) (Γ : SymbolTable) (is : List Item) :
    outcomes θ Γ (acceptedItems θ Γ is) = (accepted (outcomes θ Γ is)).map .ok := by
  have h := omits_acceptedItems θ Γ is
  rw [← h.accepted_eq]
  apply eq_map_ok_of_rejected
  rw [h.rejected_eq, List.filter_eq_nil_iff]
  exact fun d _ => Bool.false_ne_true

/-! ### A line of a source -/

section Source

variable {strict : Bool} {n : Nat} {d : Diagnostic} {source w : Text} {ls ms ws : List Text}

/-- What lines hold, one of them apart. -/
theorem itemsFrom_insert (strict : Bool) (n : Nat) (ls : List Text) (w : Text) (ms : List Text) :
    itemsFrom strict n (ls ++ w :: ms)
      = itemsFrom strict n ls ++ (itemsFrom strict (n + ls.length) [w]
        ++ itemsFrom strict (n + ls.length + 1) ms) := by
  rw [itemsFrom_append, ← List.singleton_append, itemsFrom_append]
  rfl

/-- A line on which nothing is declared can be left out of a row of lines. -/
theorem omits_line (hnone : ∀ δ ∈ accepted (outcomes θ Γ (itemsFrom strict n (ls ++ w :: ms))),
      δ.line ≠ n + ls.length) :
    Omits θ (·.line != some (n + ls.length)) Γ (itemsFrom strict n (ls ++ w :: ms))
      (itemsFrom strict n (ls ++ [] :: ms)) := by
  have hblank : itemsFrom strict (n + ls.length) [[]] = [] := rfl
  rw [itemsFrom_insert, outcomes_append, outcomes_append, accepted_append, accepted_append] at hnone
  rw [itemsFrom_insert, itemsFrom_insert, hblank]
  -- The reports before and behind the line have other numbers, and those of the line have its own.
  refine (Omits.self fun d hd => ?_).append
    ((Omits.all (List.eq_nil_iff_forall_not_mem.2 fun δ hδ => ?_) fun d hd => ?_).append
      (Omits.self fun d hd => ?_))
  · obtain ⟨m, hm, -, hlt⟩ := exists_line_of_rejected hd
    rw [hm, bne_iff_ne, ne_eq, Option.some.injEq]
    omega
  · obtain ⟨hle, hlt⟩ := line_of_accepted hδ
    apply hnone δ (List.mem_append_right _ (List.mem_append_left _ hδ))
    rw [List.length_singleton] at hlt
    omega
  · obtain ⟨m, hm, hle, hlt⟩ := exists_line_of_rejected hd
    rw [List.length_singleton] at hlt
    rw [hm, bne_eq_false_iff_eq, Option.some.injEq]
    omega
  · obtain ⟨m, hm, hle, -⟩ := exists_line_of_rejected hd
    rw [hm, bne_iff_ne, ne_eq, Option.some.injEq]
    omega

theorem outcomesOf_eq (h : source.lines = ws) :
    outcomesOf ⟨false, strict, θ⟩ source = outcomes θ .empty (itemsFrom strict 1 ws) := by
  rw [← h]
  rfl

/-- A line of a source on which nothing is declared may as well be empty. -/
theorem analyze_blank_line (hlines : source.lines = ls ++ w :: ms)
    (hother : ∃ v ∈ ls ++ ms, v.all isBlank = false)
    (hnone : ∀ δ ∈ (analyze ⟨false, false, θ⟩ source).findings.declarations,
      δ.line ≠ ls.length + 1) :
    analyze ⟨false, false, θ⟩ (List.intercalate ['\n'] (ls ++ [] :: ms))
      = ⟨(analyze ⟨false, false, θ⟩ source).findings,
          (analyze ⟨false, false, θ⟩ source).diagnostics.filter
            (·.line != some (ls.length + 1))⟩ := by
  have hlines' := lines_replace (u := []) hlines List.not_mem_nil
  obtain ⟨v, hv, hblank⟩ := hother
  have hmem : ∀ u, v ∈ ls ++ u :: ms := fun u => by
    simp only [List.mem_append, List.mem_cons] at hv ⊢
    tauto
  have hempty := Source.isEmpty_eq_false_of_mem_lines (hlines ▸ hmem w) hblank
  have hempty' := Source.isEmpty_eq_false_of_mem_lines (hlines' ▸ hmem []) hblank
  rw [analyze_lenient hempty rfl, outcomesOf_eq hlines] at hnone ⊢
  rw [analyze_lenient hempty' rfl, outcomesOf_eq hlines']
  rw [Nat.add_comm] at hnone ⊢
  have homits := omits_line hnone
  rw [homits.accepted_eq, homits.rejected_eq]

/-- A line of a source on which nothing is declared may as well be empty, if another line is not
blank: the declarations, the table and the reports about the other lines, hints included, stay.
Within a row of items, as the declarators of a line are, those that are reported may be missing:
then nothing is reported and the same is declared. -/
theorem failures_leave_no_trace :
    (∀ (θ : Float) (source w : Text) (ls ms : List Text), source.lines = ls ++ w :: ms →
      (∃ v ∈ ls ++ ms, v.all isBlank = false) →
      (∀ δ ∈ (analyze ⟨false, false, θ⟩ source).findings.declarations, δ.line ≠ ls.length + 1) →
        analyze ⟨false, false, θ⟩ (List.intercalate ['\n'] (ls ++ [] :: ms))
          = ⟨(analyze ⟨false, false, θ⟩ source).findings,
              (analyze ⟨false, false, θ⟩ source).diagnostics.filter
                (·.line != some (ls.length + 1))⟩) ∧
    ∀ (θ : Float) (Γ : SymbolTable) (is : List Item),
      outcomes θ Γ (acceptedItems θ Γ is) = (accepted (outcomes θ Γ is)).map .ok ∧
        tableAfter θ Γ (acceptedItems θ Γ is) = tableAfter θ Γ is := by
  refine ⟨fun θ source w ls ms hlines hother hnone => ?_, fun θ Γ is => ?_⟩
  · exact analyze_blank_line hlines hother hnone
  · exact ⟨outcomes_acceptedItems θ Γ is, (omits_acceptedItems θ Γ is).tableAfter_eq⟩

/-- Both declarators of the second line are reported, each for another reason. -/
theorem failures_leave_no_trace_second :
    analyze ⟨false, false, Suggestion.defaultThreshold⟩
        "int total = 1;\n\nint c = totl;".toList
      = ⟨(analyze ⟨false, false, Suggestion.defaultThreshold⟩
            "int total = 1;\nint b = totla, 2d;\nint c = totl;".toList).findings,
          (analyze ⟨false, false, Suggestion.defaultThreshold⟩
            "int total = 1;\nint b = totla, 2d;\nint c = totl;".toList).diagnostics.filter
              (·.line != some 2)⟩ := by
  have h := failures_leave_no_trace.1 Suggestion.defaultThreshold
    "int total = 1;\nint b = totla, 2d;\nint c = totl;".toList "int b = totla, 2d;".toList
    ["int total = 1;".toList] ["int c = totl;".toList] (by decide +kernel)
    ⟨"int c = totl;".toList, by decide +kernel, by decide +kernel⟩ (by decide +kernel)
  have hsource : List.intercalate ['\n']
        (["int total = 1;".toList] ++ [] :: ["int c = totl;".toList])
      = "int total = 1;\n\nint c = totl;".toList := by decide +kernel
  rwa [hsource] at h

end Source

end VarDecl.Analysis.Semantic
