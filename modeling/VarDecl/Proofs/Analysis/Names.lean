import VarDecl.Proofs.Analysis.Registration
import VarDecl.Proofs.Declaration.Splice

/-!
# The names of declarations

How the name of a declaration stands in its declarator, in front of the first equals sign on the top
level or in all of it.

* `registered_name`: array suffixes are put into the name at any places. The name is written there,
  with its suffixes after it, exactly if no character of a name comes behind the first bracket;
* `registered_spliced`: a name is registered that stands nowhere in the source, since suffixes are
  deleted also from between its characters.
-/

namespace VarDecl.Analysis.Semantic

open Text Declaration Name

variable {δs : List Declaration} {δ : Declaration} {θ : Float} {Γ : SymbolTable} {d : Declarator}

/-- The part of a declarator in which its name stands. -/
def Declarator.head (d : Declarator) : Text := trim d.cut.1

theorem isName_of_mem_itemsOf {settings : Settings} {source : Text}
    (hd : .declarator d ∈ itemsOf settings source) (h : check θ Γ d = .ok δ) : IsName δ.name := by
  obtain ⟨rfl, hname, -⟩ := of_check_eq_ok h
  exact (isIdentifier_iff_isName fun hm =>
    notMem_text_of_mem_itemsOf hd (mem_text_of_mem_name hm)).1 hname

/-- Each declaration has its name from its declarator, where suffixes may stand between and after
the characters of the name. -/
theorem registered_name (settings : Settings) (source : Text) (before : List Declaration)
    (δ : Declaration) (rest : List Declaration)
    (h : (analyze settings source).findings.declarations = before ++ δ :: rest) :
    ∃ is d js, itemsOf settings source = is ++ .declarator d :: js ∧
      accepted (outcomes settings.threshold .empty is) = before ∧
      outcome settings.threshold (tableOf before) (.declarator d) = .ok δ ∧
      IsName δ.name ∧
      (∃ l r, (∀ c ∈ l, isBlank c = true) ∧ (∀ c ∈ r, isBlank c = true) ∧
        Spliced (l ++ (δ.name ++ r)) d.head) ∧
      (IsWritten δ.name d.head ↔ ∀ c ∈ d.head.dropWhile (· != '['), isWordChar c = false) := by
  obtain ⟨is, d, js, his, hbefore, hd⟩ := exists_items_of_declarations h
  have hmem : .declarator d ∈ itemsOf settings source := by
    rw [his]
    exact List.mem_append_right _ List.mem_cons_self
  have hname := isName_of_mem_itemsOf hmem hd
  obtain ⟨rfl, -⟩ := of_check_eq_ok hd
  have hleft : trim (eraseSuffixes d.head) = d.declaration.name := rfl
  obtain ⟨l, r, hlr, hl, hr⟩ := exists_eq_append_trim (eraseSuffixes d.head)
  rw [hleft, List.append_assoc] at hlr
  refine ⟨is, d, js, his, hbefore, hd, hname, ⟨l, r, hl, hr, ?_⟩, ?_⟩
  · rw [← hlr]
    exact spliced_eraseSuffixes d.head
  · exact isWritten_iff hname (trim_trim d.cut.1) hleft

/-- The second name is written with two suffixes, one of them with a blank between its brackets. -/
theorem registered_name_second :
    (analyze .default "int a, b [] [ ] = 2;".toList).findings.declarations
          = [⟨"int".toList, "a".toList, none, 1⟩]
            ++ [⟨"int".toList, "b".toList, some "2".toList, 1⟩] ∧
      IsWritten "b".toList (Declarator.head ⟨1, .int, " b [] [ ] = 2".toList⟩) := by
  have h : (analyze .default "int a, b [] [ ] = 2;".toList).findings.declarations
      = [⟨"int".toList, "a".toList, none, 1⟩]
        ++ [⟨"int".toList, "b".toList, some "2".toList, 1⟩] := by decide +kernel
  have hitems : itemsOf .default "int a, b [] [ ] = 2;".toList
      = [.declarator ⟨1, .int, "a".toList⟩, .declarator ⟨1, .int, " b [] [ ] = 2".toList⟩] := by
    decide +kernel
  obtain ⟨is, d, js, his, -, hd, -, -, hwritten⟩ := registered_name _ _ _ _ _ h
  have hmem : Item.declarator d ∈ itemsOf .default "int a, b [] [ ] = 2;".toList := by
    rw [his]
    exact List.mem_append_right is List.mem_cons_self
  rw [hitems, List.mem_pair] at hmem
  obtain heq | heq := hmem
  · -- The first declarator does not declare `b`.
    have hdecl := (of_check_eq_ok hd).1
    rw [Item.declarator.inj heq] at hdecl
    exact absurd (congrArg Declaration.name hdecl) (by decide +kernel)
  · rw [Item.declarator.inj heq] at hwritten
    have hall : ((Declarator.head ⟨1, .int, " b [] [ ] = 2".toList⟩).dropWhile (· != '[')).all
        (fun c => !isWordChar c) = true := by decide +kernel
    exact ⟨h, hwritten.2 fun c hc => by simpa using List.all_eq_true.1 hall c hc⟩

/-- A name is registered that is written nowhere in its declarator. -/
theorem registered_spliced :
    (analyze .default "int x[]y;".toList).findings.declarations
        = [⟨"int".toList, "xy".toList, none, 1⟩] ∧
      itemsOf .default "int x[]y;".toList = [.declarator ⟨1, .int, "x[]y".toList⟩] ∧
      Declarator.head ⟨1, .int, "x[]y".toList⟩ = "x[]y".toList ∧
      ¬IsWritten "xy".toList "x[]y".toList ∧ ¬"xy".toList <:+: "x[]y".toList := by
  have hstart : ¬"xy".toList <+: "x[]y".toList := by decide +kernel
  refine ⟨by decide +kernel, by decide +kernel, by decide +kernel, ?_, by decide +kernel⟩
  rintro ⟨r, hr, -⟩
  exact hstart ⟨r, hr.symm⟩

end VarDecl.Analysis.Semantic
