import VarDecl.Proofs.Analysis.Grammatical

/-!
# Lines printed from their parts

`Parts.print` writes the parts of a line with single spaces. What is printed from the parts of a
line of the grammar is one too, with the same parts (`IsLine.print`). So the stage accepts exactly
the lines of the grammar, and accepts again what is printed from them (`accepts_line_iff`).
-/

namespace VarDecl.Analysis.Grammatical

open Text

variable {θ : Float} {t : Text} {p : Parts}

/-! ### Printing -/

/-- What is printed behind a name. -/
def printRest : Option Text → Text
  | none => []
  | some v => ' ' :: '=' :: ' ' :: v

/-- The parts of a line without its semicolon, with single spaces. -/
def Parts.body (p : Parts) : Text := p.typeName ++ ' ' :: (p.name ++ printRest p.initializer)

/-- The parts of a line, with single spaces. -/
def Parts.print (p : Parts) : Text := p.body ++ [';']

theorem isRest_printRest {rest : Text} {i : Option Text} (h : IsRest rest i) :
    IsRest (printRest i) i := by
  cases h with
  | bare => exact .bare
  | assigned _ _ hv htrim => exact .assigned isBlank_of_mem_space isBlank_of_mem_space hv htrim

theorem IsBody.body (h : IsBody t p) : IsBody p.body p := by
  obtain ⟨gap, rest, -, -, hrest⟩ := h.cut
  exact ⟨h.type, h.name, [' '], _, rfl, isSpacing_space, isRest_printRest hrest⟩

/-- A body starts with a type and ends with a name or a value, so no blanks are at its ends. -/
theorem IsBody.trim_body (h : IsBody t p) : trim p.body = p.body := by
  obtain ⟨gap, rest, -, -, hrest⟩ := h.cut
  refine trim_eq_self (fun c hc => ?_) fun c hc => ?_
  · rw [Parts.body, List.head?_append_of_ne_nil _ h.typeName_ne_nil] at hc
    exact h.type.notBlank c (List.mem_of_mem_head? hc)
  · rw [Parts.body, List.getLast?_append_of_ne_nil _ (List.cons_ne_nil _ _)] at hc
    generalize p.initializer = i at hrest hc
    cases hrest with
    | bare =>
      rw [printRest, List.append_nil, List.getLast?_cons_of_ne_nil h.name_ne_nil] at hc
      exact h.name.notBlank c (List.mem_of_getLast? hc)
    | @assigned l r v _ _ hv htrim =>
      have hvalue : ' ' :: (p.name ++ printRest (some v))
          = ' ' :: p.name ++ [' ', '=', ' '] ++ v := by
        simp [printRest]
      rw [hvalue, List.getLast?_append_of_ne_nil _ hv, ← htrim] at hc
      exact getLast?_trim hc

/-- Spaces around the first equals sign keep it apart from others. -/
theorem IsBody.not_isInfix_body (h : IsBody t p) (ht : ¬['=', '='] <:+: t) :
    ¬['=', '='] <:+: p.body := by
  obtain ⟨gap, rest, rfl, -, hrest⟩ := h.cut
  have hbefore : '=' ∉ p.typeName ++ ' ' :: p.name := by
    simp [h.type.noEquals, h.name.noEquals]
  have hbody : p.body = p.typeName ++ ' ' :: p.name ++ printRest p.initializer := by
    rw [Parts.body, List.append_assoc, List.cons_append]
  rw [← hasDouble_eq_true_iff, hbody, hasDouble_append_of_notMem hbefore]
  generalize p.initializer = i at hrest
  cases hrest with
  | bare => exact Bool.false_ne_true
  | @assigned l r v _ _ _ _ =>
    rw [printRest, hasDouble_cons_of_ne (by decide),
      hasDouble_cons_cons_of_ne (by decide), hasDouble_eq_true_iff]
    refine fun hv => ht (hv.trans ?_)
    exact ⟨p.typeName ++ (gap ++ (p.name ++ (l ++ '=' :: r))), [], by simp⟩

/-- What is printed from the parts of a line is a line with these parts. -/
theorem IsLine.print (h : IsLine t p) : IsLine p.print p := by
  obtain ⟨b, -, hdouble, hbody⟩ := h
  refine ⟨p.body, rfl, ?_⟩
  rw [hbody.trim_body]
  exact ⟨hbody.not_isInfix_body hdouble, hbody.body⟩

theorem IsLine.trim_print (h : IsLine t p) : trim p.print = p.print := by
  obtain ⟨b, -, -, hbody⟩ := h
  refine trim_eq_self (fun c hc => ?_) fun c hc => ?_
  · rw [Parts.print, Parts.body, List.append_assoc,
      List.head?_append_of_ne_nil _ hbody.typeName_ne_nil] at hc
    exact hbody.type.notBlank c (List.mem_of_mem_head? hc)
  · rw [Parts.print, List.getLast?_concat] at hc
    obtain rfl := Option.some.inj hc
    rfl

/-! ### The stage -/

/-- A declaration without its line. -/
def partsOf (δ : Declaration) : Parts := ⟨δ.typeName, δ.name, δ.initializer⟩

theorem checkLine_eq_ok_iff {l : SourceLine} {δ : Declaration} :
    checkLine θ l = .ok δ ↔ δ.line = l.number ∧ IsLine l.text (partsOf δ) := by
  rw [← checkText_eq_ok_iff (θ := θ), checkLine]
  cases checkText θ l.text with
  | error e => simp
  | ok p =>
    rw [Except.ok.injEq, Except.ok.injEq]
    constructor
    · rintro rfl
      exact ⟨rfl, rfl⟩
    · rintro ⟨hline, rfl⟩
      rw [← hline]
      rfl

/-- A line is accepted exactly if it is one of the grammar. What is printed from its declaration is
accepted as the same declaration, on any line. -/
theorem accepts_line_iff (θ : Float) (l : SourceLine) (δ : Declaration) :
    (checkLine θ l = .ok δ ↔ δ.line = l.number ∧ IsLine l.text (partsOf δ)) ∧
      (checkLine θ l = .ok δ →
        ∀ n, checkLine θ ⟨n, (partsOf δ).print⟩ = .ok { δ with line := n }) := by
  refine ⟨checkLine_eq_ok_iff, fun h n => ?_⟩
  obtain ⟨-, hline⟩ := checkLine_eq_ok_iff.1 h
  refine checkLine_eq_ok_iff.2 ⟨rfl, ?_⟩
  rw [SourceLine.text, hline.trim_print]
  exact hline.print

/-- A value may start with an equals sign, behind a blank, and end with a semicolon. -/
theorem accepts_line_iff_equals :
    checkLine Settings.default.threshold ⟨3, " int\tx  = = 5;; ".toList⟩
        = .ok ⟨"int".toList, "x".toList, some "= 5;".toList, 3⟩ ∧
      IsLine "int\tx  = = 5;;".toList ⟨"int".toList, "x".toList, some "= 5;".toList⟩ ∧
      checkLine Settings.default.threshold ⟨1, "int x = = 5;;".toList⟩
        = .ok ⟨"int".toList, "x".toList, some "= 5;".toList, 1⟩ := by
  have h : checkLine Settings.default.threshold ⟨3, " int\tx  = = 5;; ".toList⟩
      = .ok ⟨"int".toList, "x".toList, some "= 5;".toList, 3⟩ := by decide +kernel
  obtain ⟨hline, hprint⟩ := accepts_line_iff Settings.default.threshold
    ⟨3, " int\tx  = = 5;; ".toList⟩ ⟨"int".toList, "x".toList, some "= 5;".toList, 3⟩
  have htext : SourceLine.text ⟨3, " int\tx  = = 5;; ".toList⟩ = "int\tx  = = 5;;".toList := by
    decide +kernel
  exact ⟨h, htext ▸ (hline.1 h).2, hprint h 1⟩

end VarDecl.Analysis.Grammatical
