import VarDecl.Gate
import VarDecl.Proofs.Analysis.Grammatical
import VarDecl.Proofs.Analysis.Passing
import VarDecl.Proofs.Lexeme.Tokens
import VarDecl.Proofs.Literal.Classes
import VarDecl.Proofs.Program.Rendering

/-!
# Sources of one assignment

What the stages make of `type name = value;`, for any value that their readers take as a whole.

* `Declaration.assignment`: such a line, and `IsValue` such a value;
* `Lexical.analyze_assignment`: five lexemes, if the value has no blanks outside quotes;
* `Grammatical.analyze_assignment`: one declaration, unless two equals signs stand side by side in
  the value;
* `Semantic.analyze_assignment`: one declaration, if the value is a literal that fits the type.
-/

namespace VarDecl

open Text Literal Expression Comment Declaration Name Program

/-! ### Lines -/

namespace Declaration

/-- A name and its value. -/
def assigned (name value : Text) : Text := name ++ [' '] ++ '=' :: ' ' :: value

/-- A line that declares one variable with a value. -/
def assignment (type name value : Text) : Text := type ++ ' ' :: (assigned name value ++ [';'])

end Declaration

/-- A value that no reader takes apart. -/
structure IsValue (v : Text) : Prop where
  trimmed : IsTrimmed v
  noNewline : '\n' ∉ v
  transparent : Transparent v
  closed : IsClosed (· == ',') v

section Lines

variable {type name value : Text}

theorem assigned_noNewline (hname : IsName name) (hvalue : '\n' ∉ value) :
    '\n' ∉ assigned name value := by
  have h : '\n' ∉ name := hname.notMem (by decide)
  simp [assigned, h, hvalue]

theorem assignment_noNewline (htype : IsName type) (hname : IsName name) (hvalue : IsValue value) :
    '\n' ∉ assignment type name value := by
  have h : '\n' ∉ type := htype.notMem (by decide)
  have hrest := assigned_noNewline hname hvalue.noNewline
  simp [assignment, h, hrest]

theorem trim_assignment_line (htype : IsName type) :
    trim (assignment type name value) = assignment type name value := by
  refine trim_eq_self (fun c hc => ?_) fun c hc => ?_
  · rw [assignment, List.head?_append_of_ne_nil _ htype.ne_nil] at hc
    exact htype.isBlank (List.mem_of_mem_head? hc)
  · rw [assignment, List.getLast?_append_of_ne_nil _ (List.cons_ne_nil _ _), ← List.cons_append,
      List.getLast?_concat] at hc
    obtain rfl := Option.some.inj hc
    decide

/-- A line with such a value holds no comment. -/
theorem strip_assignment (htype : IsName type) (hname : IsName name) (hvalue : IsValue value) :
    Comment.strip (assignment type name value) = assignment type name value := by
  have hplain : ∀ {t : Text}, IsName t → Transparent t := fun h =>
    transparent_of_isSolid (isSolid_of_isName h)
  have hspace : Transparent [' '] := transparent_of_forall (List.all_iff_forall_prop.1 (by decide))
  have hequals : Transparent ['=', ' '] :=
    transparent_of_forall (List.all_iff_forall_prop.1 (by decide))
  have hend : Transparent [';'] := transparent_of_forall (List.all_iff_forall_prop.1 (by decide))
  have hassigned : Transparent (assigned name value) :=
    ((hplain hname).append hspace).append (hequals.append hvalue.transparent)
  exact ((hplain htype).append (hspace.append (hassigned.append hend))).strip

theorem nonblankLines_assignment (strip : Bool) (htype : IsName type) (hname : IsName name)
    (hvalue : IsValue value) : Source.nonblankLines strip (assignment type name value)
      = [⟨1, assignment type name value⟩] := by
  have hne : assignment type name value ≠ [] := fun h =>
    htype.ne_nil (List.append_eq_nil_iff.1 h).1
  exact Source.nonblankLines_eq_singleton hne (assignment_noNewline htype hname hvalue)
    (trim_assignment_line htype) (strip_assignment htype hname hvalue)

theorem isEmpty_assignment (htype : IsName type) (hname : IsName name) (hvalue : IsValue value) :
    Source.isEmpty (assignment type name value) = false := by
  have hlines := nonblankLines_assignment true htype hname hvalue
  exact Source.isEmpty_eq_false_of_mem_nonblankLines (hlines ▸ List.mem_cons_self)

end Lines

namespace Analysis

variable {p : Primitive} {type name value : Text} {k : LiteralKind}

/-! ### The lexical stage -/

theorem getLast?_ne_semicolon (h : IsName name) : ∀ c ∈ name.getLast?, c ≠ ';' := fun _ hc =>
  ne_of_isWordChar (h.isWordChar (List.mem_of_getLast? hc)) rfl

/-- The tokens of an assignment: those of the value take the semicolon with them. -/
theorem rawTokens_assignment (htype : IsName type) (hname : IsName name) (value : Text) :
    Lexeme.rawTokens (assignment type name value)
      = type :: name :: ['='] :: Lexeme.rawTokens (value ++ [';']) := by
  have hword : ∀ {t : Text}, IsName t → ∀ u,
      Lexeme.rawTokens (t ++ ' ' :: u) = t :: Lexeme.rawTokens u := fun h =>
    Lexeme.rawTokens_cons h.ne_nil (h.notMem rfl) (fun _ hc => h.isBlank hc) rfl
  have hequals : ∀ u, Lexeme.rawTokens (['='] ++ ' ' :: u) = ['='] :: Lexeme.rawTokens u :=
    Lexeme.rawTokens_cons (by decide) (by decide) (List.forall_mem_singleton.2 rfl) rfl
  have hassigned : assigned name value ++ [';']
      = name ++ ' ' :: (['='] ++ ' ' :: (value ++ [';'])) := by
    simp [assigned]
  rw [assignment, hword htype, hassigned, hword hname, hequals]

theorem classify_name (p : Primitive) : Lexeme.classify .plain p.name = .dataType := by
  cases p <;> decide

/-- A literal between quotes is a value. -/
theorem classify_of_quoted (h : isString value = true ∨ isChar value = true) :
    Lexeme.classify .plain value = .value := by
  rcases h with h | h
  · exact classify_eq_value_iff.2 ⟨.string, kind?_of_isString h, by decide⟩
  · exact classify_eq_value_iff.2 ⟨.char, kind?_of_isChar h, by decide⟩

/-- The lexemes of an assignment, up to its value. -/
theorem ofLine_assignment_eq (p : Primitive) (hname : IsName name) (value : Text) :
    Lexeme.ofLine (assignment p.name name value)
      = [⟨p.name, .dataType⟩, ⟨name, .identifier⟩, ⟨['='], .assignmentOperator⟩]
        ++ Lexeme.ofTokens .plain (Lexeme.rawTokens (value ++ [';'])) := by
  have hp := isName_name p
  have hidentifier : Lexeme.classify .afterType name = .identifier := by
    rw [Lexeme.classify, if_pos ⟨rfl, hname.isIdentifier⟩]
  have hequals : ∀ ws, Lexeme.ofTokens .plain (['='] :: ws)
      = ⟨['='], .assignmentOperator⟩ :: Lexeme.ofTokens .plain ws :=
    fun ws => Lexeme.ofTokens_cons (by decide) (by simp)
  have hafter : Lexeme.Context.after .dataType = .afterType := rfl
  have hplain : Lexeme.Context.after .identifier = .plain := rfl
  rw [Lexeme.ofLine, rawTokens_assignment hp hname,
    Lexeme.ofTokens_cons hp.ne_nil (getLast?_ne_semicolon hp), classify_name, hafter,
    Lexeme.ofTokens_cons hname.ne_nil (getLast?_ne_semicolon hname), hidentifier, hplain, hequals]
  rfl

/-- The lexemes of an assignment whose value is one token. -/
theorem ofLine_assignment (p : Primitive) (hname : IsName name) (hvalue : IsTrimmed value)
    (hpieces : ∀ q ∈ Lexeme.pieces (value ++ [';']), q.isBlank = false) :
    Lexeme.ofLine (assignment p.name name value)
      = [⟨p.name, .dataType⟩, ⟨name, .identifier⟩, ⟨['='], .assignmentOperator⟩,
        ⟨value, Lexeme.classify .plain value⟩, ⟨[';'], .delimiter⟩] := by
  have hlast : ∀ c ∈ value.getLast?, c ≠ ';' := fun c hc => by
    obtain ⟨d, hd, -, hne⟩ := hvalue.last
    obtain rfl := Option.some.inj (hd.symm.trans hc)
    exact hne
  have htoken : Lexeme.rawTokens (value ++ [';']) = [value ++ [';']] :=
    Lexeme.rawTokens_of_forall (List.append_ne_nil_of_right_ne_nil _ (by decide)) hpieces
  rw [ofLine_assignment_eq p hname, htoken, Lexeme.ofTokens,
    Lexeme.ofToken_semicolon hvalue.ne_nil hlast]
  rfl

/-- A value without blanks outside quotes is one lexeme. -/
theorem Lexical.analyze_assignment (σ : Settings) (p : Primitive) (hname : IsName name)
    (hvalue : IsValue value)
    (hpieces : ∀ q ∈ Lexeme.pieces (value ++ [';']), q.isBlank = false) :
    Lexical.analyze σ (assignment p.name name value)
      = ⟨.lexical [⟨1, [⟨p.name, .dataType⟩, ⟨name, .identifier⟩, ⟨['='], .assignmentOperator⟩,
        ⟨value, Lexeme.classify .plain value⟩, ⟨[';'], .delimiter⟩]⟩], []⟩ := by
  have hp := isName_name p
  have hwords : (assignment p.name name value).words
      = p.name :: words (' ' :: (assigned name value ++ [';'])) :=
    words_append hp.ne_nil (fun _ hc => hp.isBlank hc) (by simp)
  have hcandidate : isCandidate (assignment p.name name value) = true := by
    have htype : (Primitive.ofName? p.name).isSome = true := by cases p <;> rfl
    have hsemicolon : (assignment p.name name value).contains ';' = true := by
      simp [assignment]
    rw [isCandidate, hwords]
    simp only [htype, hsemicolon, Bool.true_or, Bool.and_self]
  have houtcomes : outcomes σ (assignment p.name name value)
      = [.ok ⟨1, Lexeme.ofLine (assignment p.name name value)⟩] := by
    rw [outcomes, nonblankLines_assignment _ hp hname hvalue, List.map_cons, List.map_nil,
      checkLine, SourceLine.text, trim_assignment_line hp, if_pos hcandidate]
  rw [Lexical.analyze_eq (isEmpty_assignment hp hname hvalue), houtcomes,
    ofLine_assignment p hname hvalue.trimmed hpieces]
  rfl

/-! ### The grammatical stage -/

namespace Grammatical

/-- A type as a line names it, in one word. -/
structure IsTypeWord (t : Text) : Prop where
  ne_nil : t ≠ []
  notBlank : ∀ c ∈ t, isBlank c = false
  noEquals : '=' ∉ t
  valid : isTypeName t = true

theorem isTypeWord_of_isName (h : IsName type) : IsTypeWord type where
  ne_nil := h.ne_nil
  notBlank _ hc := h.isBlank hc
  noEquals := h.notMem rfl
  valid := by
    obtain ⟨c, r, rfl, hc, hr⟩ := h
    have hall : r.dropWhile isWordChar = [] := List.dropWhile_eq_nil_iff.2 hr
    have hgeneric : isGenericType (c :: r) = true := by
      rw [isGenericType, hc, hall]
      rfl
    rw [isTypeName, hgeneric, Bool.or_true]

/-- The two words before the equals sign. -/
theorem checkWords_pair (θ : Float) (htype : IsTypeWord type) (hname : IsName name) :
    checkWords θ (trim (type ++ ' ' :: (name ++ [' ']))) = .ok (type, name) := by
  have hsolid : ∀ c ∈ name, isBlank c = false := fun _ hc => hname.isBlank hc
  have hwords : words (type ++ ' ' :: (name ++ [' '])) = [type, name] :=
    words_eq_pair htype.ne_nil htype.notBlank isSpacing_space hname.ne_nil hsolid
      isBlank_of_mem_space
  exact checkWords_eq_ok_iff.2 ⟨by rw [words_trim, hwords], hname.isIdentifier, htype.valid⟩

/-- An assignment without its semicolon is read back, unless two equals signs stand side by side in
its value. -/
theorem checkBody_assignment (θ : Float) (htype : IsTypeWord type) (hname : IsName name)
    (hne : value ≠ []) (hvalue : trim value = value) :
    checkBody θ (type ++ ' ' :: assigned name value)
      = if hasDouble '=' value then .error (.equalityOperator, none)
        else .ok ⟨type, name, some value⟩ := by
  have hbefore : '=' ∉ type ++ ' ' :: (name ++ [' ']) := by
    have h : '=' ∉ name := hname.notMem rfl
    simp [htype.noEquals, h]
  have hbody : type ++ ' ' :: assigned name value
      = type ++ ' ' :: (name ++ [' ']) ++ '=' :: ' ' :: value := by
    simp [assigned]
  have hdouble : hasDouble '=' (type ++ ' ' :: assigned name value) = hasDouble '=' value := by
    rw [hbody, hasDouble_append_of_notMem hbefore, hasDouble_cons_cons_of_ne (by decide)]
  have hspace : trim (' ' :: value) = value := by rw [trim_cons_of_blank rfl, hvalue]
  have hempty : ¬ some value = some [] := fun h => hne (Option.some.inj h)
  rw [checkBody, hdouble, hbody, cutAt_of_notMem hbefore]
  simp only [Option.map_some, hspace, if_neg hempty, checkWords_pair θ htype hname, Except.map]

theorem checkText_assignment (θ : Float) (htype : IsTypeWord type) (hname : IsName name)
    (hne : value ≠ []) (hvalue : trim value = value) :
    checkText θ (assignment type name value)
      = if hasDouble '=' value then .error (.equalityOperator, none)
        else .ok ⟨type, name, some value⟩ := by
  have hline : assignment type name value = type ++ ' ' :: assigned name value ++ [';'] := by
    simp [assignment]
  have htrim : trim (type ++ ' ' :: assigned name value) = type ++ ' ' :: assigned name value := by
    refine trim_eq_self (fun c hc => ?_) fun c hc => ?_
    · rw [List.head?_append_of_ne_nil _ htype.ne_nil] at hc
      exact htype.notBlank c (List.mem_of_mem_head? hc)
    · rw [assigned, List.getLast?_append_of_ne_nil _ (List.cons_ne_nil _ _), ← List.cons_append,
        List.getLast?_append_of_ne_nil _ (List.cons_ne_nil _ _),
        List.getLast?_cons_of_ne_nil (List.cons_ne_nil _ _),
        List.getLast?_cons_of_ne_nil hne, ← hvalue] at hc
      exact getLast?_trim hc
  rw [checkText, hline, if_pos List.getLast?_concat, List.dropLast_concat, htrim,
    checkBody_assignment θ htype hname hne hvalue]

/-- A value is accepted unless two equals signs stand side by side in it. -/
theorem analyze_assignment (σ : Settings) (htype : IsName type) (hname : IsName name)
    (hvalue : IsValue value) : Grammatical.analyze σ (assignment type name value)
      = if hasDouble '=' value then ⟨.grammatical [], [⟨some 1, .equalityOperator, none⟩]⟩
        else ⟨.grammatical [⟨type, name, some value, 1⟩], []⟩ := by
  have hline := checkText_assignment σ.threshold (isTypeWord_of_isName htype) hname
    hvalue.trimmed.ne_nil hvalue.trimmed.trim
  rw [Grammatical.analyze_eq (isEmpty_assignment htype hname hvalue), outcomes,
    nonblankLines_assignment _ htype hname hvalue, List.map_cons, List.map_nil, checkLine,
    SourceLine.text, trim_assignment_line htype, hline]
  cases hasDouble '=' value <;> rfl

end Grammatical

/-! ### The semantic stage -/

namespace Semantic

theorem assigned_ne_nil (name value : Text) : assigned name value ≠ [] :=
  List.append_ne_nil_of_right_ne_nil _ (List.cons_ne_nil _ _)

theorem ofLine?_assignment (p : Primitive) (hname : IsName name) (hnl : '\n' ∉ value) :
    Header.ofLine? (assignment p.name name value) = some ⟨p, assigned name value⟩ := by
  refine Header.ofLine?_append p (List.cons_ne_nil _ _) isBlank_of_mem_space
    (assigned_ne_nil name value) (fun c hc => ?_) (assigned_noNewline hname hnl)
  rw [assigned, List.append_assoc, List.head?_append_of_ne_nil _ hname.ne_nil] at hc
  have hmem := List.mem_of_mem_head? hc
  exact ⟨hname.isBlank hmem, ne_of_isWordChar (hname.isWordChar hmem) rfl⟩

/-- An assignment is one declarator. -/
theorem itemsOfLine_assignment (n : Nat) (p : Primitive) (hname : IsName name)
    (hnl : '\n' ∉ value) (hvalue : IsClosed (· == ',') value) :
    itemsOfLine ⟨n, assignment p.name name value⟩
      = [.declarator ⟨n, p, assigned name value⟩] := by
  have hequals : IsClosed (· == ',') ['=', ' '] :=
    isClosed_of_forall (List.all_iff_forall_prop.1 (by decide))
  have hword : IsClosed (· == ',') (name ++ [' ']) := by
    refine isClosed_of_isName hname isBlank_of_mem_space fun c hc => ?_
    rw [beq_iff_eq.1 hc]
    decide
  have hclosed : IsClosed (· == ',') (assigned name value) :=
    hword.append (hequals.append hvalue)
  rw [itemsOfLine, SourceLine.text, trim_assignment_line (isName_name p),
    ofLine?_assignment p hname hnl]
  simp only [split_of_passes hclosed.passes (assigned_ne_nil name value), List.map_cons,
    List.map_nil]

theorem declaration_assigned (n : Nat) (p : Primitive) (hname : IsName name) :
    Declarator.declaration ⟨n, p, assigned name value⟩ = ⟨p.name, name, some (trim value), n⟩ := by
  obtain ⟨hdname, hinit⟩ := assignment_of_text_eq (d := ⟨n, p, assigned name value⟩)
    (w := ' ' :: value) hname isBlank_of_mem_space rfl
  rw [Declarator.declaration, hdname, hinit, trim_cons_of_blank rfl]

/-- Unless its name is taken, what is wrong with an assignment is wrong with its value. -/
theorem fault?_assigned (θ : Float) (Γ : SymbolTable) (n : Nat) (p : Primitive)
    (hname : IsName name) (hne : trim value ≠ []) :
    fault? θ Γ ⟨n, p, assigned name value⟩
      = if (Γ.find? name).isSome then some (.alreadyDeclared name, none)
        else initializerFault? θ Γ p name (trim value) := by
  obtain ⟨hdname, hinit⟩ := assignment_of_text_eq (d := ⟨n, p, assigned name value⟩)
    (w := ' ' :: value) hname isBlank_of_mem_space rfl
  rw [trim_cons_of_blank rfl] at hinit
  have htext : (trim (assigned name value)).isEmpty = false := by
    rw [assigned, trim_assignment hname, List.isEmpty_eq_false_iff]
    exact List.append_ne_nil_of_right_ne_nil _ (List.cons_ne_nil _ _)
  rw [fault?, htext, if_neg Bool.false_ne_true, hdname, hname.isIdentifier, hinit]
  obtain ⟨c, v, hv⟩ := List.exists_cons_of_ne_nil hne
  rw [hv]
  rfl

/-- A declarator with a literal of a fitting kind is accepted. -/
theorem check_assigned (θ : Float) {Γ : SymbolTable} {n : Nat} (hname : IsName name)
    (hnew : Γ.find? name = none) (hvalue : IsValue value) (hkind : kind? value = some k)
    (hfits : k.fits p = true) :
    check θ Γ ⟨n, p, assigned name value⟩ = .ok ⟨p.name, name, some value, n⟩ := by
  have htrim := hvalue.trimmed.trim
  have hinitializer : initializerFault? θ Γ p name value = none := by
    simp only [initializerFault?, hvalue.trimmed.expression, hkind, hfits, if_true]
  have hne : trim value ≠ [] := by
    rw [htrim]
    exact hvalue.trimmed.ne_nil
  have hfault : fault? θ Γ ⟨n, p, assigned name value⟩ = none := by
    rw [fault?_assigned θ Γ n p hname hne, hnew, htrim, hinitializer]
    rfl
  rw [check, hfault, declaration_assigned n p hname, htrim]

/-- A literal of a fitting kind is accepted. -/
theorem analyze_assignment (σ : Settings) (hname : IsName name) (hvalue : IsValue value)
    (hkind : kind? value = some k) (hfits : k.fits p = true) :
    Semantic.analyze σ (assignment p.name name value)
      = ⟨.semantic [⟨p.name, name, some value, 1⟩] ⟨[(name, p.name)]⟩, []⟩ := by
  have hlines := nonblankLines_assignment σ.stripComments (isName_name p) hname hvalue
  have hitems : items σ.strict [⟨1, assignment p.name name value⟩]
      = [.declarator ⟨1, p, assigned name value⟩] := by
    rw [items, List.flatMap_singleton, itemsOfLine_assignment 1 p hname hvalue.noNewline
      hvalue.closed]
    rfl
  have hcheck := check_assigned σ.threshold (n := 1) hname (SymbolTable.find?_empty name) hvalue
    hkind hfits
  have houtcomes : outcomesOf σ (assignment p.name name value)
      = [.ok ⟨p.name, name, some value, 1⟩] := by
    rw [outcomesOf, hlines, hitems, outcomes, outcome, hcheck]
    rfl
  have hdeclaration : isDeclarationLine ⟨1, assignment p.name name value⟩ = true := by
    rw [isDeclarationLine, SourceLine.text, trim_assignment_line (isName_name p),
      ofLine?_assignment p hname hvalue.noNewline]
    rfl
  rw [analyze_of_isDeclarationLine (hlines ▸ List.mem_cons_self) hdeclaration, houtcomes]
  rfl

end Semantic

end Analysis

end VarDecl
