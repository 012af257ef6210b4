import VarDecl.Proofs.Analysis.Assignment

/-!
# Strings

A string literal is one value, whatever stands between its quotes.

* `exists_closes_of_isString`: a string is a quote and what closes it there, so that no reader takes
  it apart (`isValue_of_isString`) and it is one piece of its line (`pieces_of_isString`);
* `string_opaque`: the lexical and the semantic stage see nothing of what stands in a string, nor
  does the removal of comments;
* `Grammatical.analyze_string`: the grammatical stage sees two equals signs there.
-/

namespace VarDecl.Analysis

open Text Literal Expression Comment Declaration Name Program

variable {type name value : Text}

/-! ### Readers of strings -/

/-- A string is a quote and the characters and escapes up to the quote that closes it. -/
theorem exists_closes_of_isString (h : isString value = true) (hnl : '\n' ∉ value) :
    ∃ s, value = '"' :: s ∧ Closes '"' s := by
  obtain ⟨t, r, hspan, hend⟩ := exists_of_reads h
  obtain ⟨happend, s, rfl, hcloses⟩ := append_of_span? hspan
  obtain rfl : r = [] := eq_nil_of_atEnd hend fun hm => hnl (happend ▸ List.mem_append_right _ hm)
  rw [List.append_nil] at happend
  exact ⟨s, happend, closes_of_closing? hcloses⟩

theorem isValue_of_isString (h : isString value = true) (hnl : '\n' ∉ value) : IsValue value := by
  obtain ⟨s, rfl, hs⟩ := exists_closes_of_isString h hnl
  have hlast : ('"' :: s).getLast? = some '"' := by
    rw [List.getLast?_cons, getLast?_of_closes hs]
    rfl
  exact ⟨⟨⟨'"', rfl, rfl, by decide⟩, ⟨'"', hlast, rfl, by decide⟩⟩, hnl,
    transparent_of_closes (Or.inl rfl) hs fun hm => hnl (List.mem_cons_of_mem _ hm),
    isClosed_of_closes (Or.inl rfl) hs⟩

/-- A string is one piece, which is not blank even if there are blanks in it. -/
theorem pieces_of_isString (h : isString value = true) (hnl : '\n' ∉ value) (t : Text) :
    Lexeme.pieces (value ++ t) = .span value :: Lexeme.pieces t := by
  obtain ⟨s, rfl, hs⟩ := exists_closes_of_isString h hnl
  exact Lexeme.pieces_of_span? (hs.span?_append (by decide) t)

theorem classify_of_isString (h : isString value = true) :
    Lexeme.classify .plain value = .value :=
  classify_of_quoted (Or.inl h)

/-! ### Stages -/

/-- Neither the removal of comments nor the lexical and the semantic stage look into a string. -/
theorem string_opaque (hname : IsName name) (hvalue : isString value = true)
    (hnl : '\n' ∉ value) :
    Comment.strip (assignment "String".toList name value)
        = assignment "String".toList name value ∧
      ∀ σ, Stage.lexical.analyze σ (assignment "String".toList name value)
          = ⟨.lexical [⟨1, [⟨"String".toList, .dataType⟩, ⟨name, .identifier⟩,
              ⟨['='], .assignmentOperator⟩, ⟨value, .value⟩, ⟨[';'], .delimiter⟩]⟩], []⟩ ∧
        Stage.semantic.analyze σ (assignment "String".toList name value)
          = ⟨.semantic [⟨"String".toList, name, some value, 1⟩]
              ⟨[(name, "String".toList)]⟩, []⟩ := by
  have hv := isValue_of_isString hvalue hnl
  have hpieces : ∀ q ∈ Lexeme.pieces (value ++ [';']), q.isBlank = false := by
    have hend : Lexeme.pieces [';'] = [.char ';'] := by
      rw [Lexeme.pieces_cons_of_none rfl, Lexeme.pieces_nil]
    rw [pieces_of_isString hvalue hnl, hend]
    exact List.forall_mem_cons.2 ⟨rfl, List.forall_mem_singleton.2 rfl⟩
  refine ⟨strip_assignment (isName_name .string) hname hv, fun σ => ⟨?_, ?_⟩⟩
  · rw [← classify_of_isString hvalue]
    exact Lexical.analyze_assignment σ .string hname hv hpieces
  · exact Semantic.analyze_assignment (p := .string) σ hname hv (kind?_of_isString hvalue) rfl

/-- A string of comment openers, separators, parentheses and an escaped quote. -/
theorem string_opaque_openers :
    Comment.strip "String s = \"/* a, b = c; // (' \\\" \";".toList
        = "String s = \"/* a, b = c; // (' \\\" \";".toList ∧
      Stage.lexical.analyze .default "String s = \"/* a, b = c; // (' \\\" \";".toList
        = ⟨.lexical [⟨1, [⟨"String".toList, .dataType⟩, ⟨"s".toList, .identifier⟩,
            ⟨['='], .assignmentOperator⟩, ⟨"\"/* a, b = c; // (' \\\" \"".toList, .value⟩,
            ⟨[';'], .delimiter⟩]⟩], []⟩ ∧
      Stage.semantic.analyze .default "String s = \"/* a, b = c; // (' \\\" \";".toList
        = ⟨.semantic [⟨"String".toList, "s".toList,
            some "\"/* a, b = c; // (' \\\" \"".toList, 1⟩]
            ⟨[("s".toList, "String".toList)]⟩, []⟩ := by
  have hname : IsName "s".toList := ⟨'s', [], rfl, by decide, List.forall_mem_nil _⟩
  have hvalue : isString "\"/* a, b = c; // (' \\\" \"".toList = true := by decide +kernel
  obtain ⟨hstrip, h⟩ := string_opaque hname hvalue (by decide +kernel)
  exact ⟨hstrip, h .default⟩

/-- The grammatical stage accepts a string unless two equals signs stand side by side in it. -/
theorem Grammatical.analyze_string (σ : Settings) (htype : IsName type) (hname : IsName name)
    (hvalue : isString value = true) (hnl : '\n' ∉ value) :
    Stage.grammatical.analyze σ (assignment type name value)
      = if hasDouble '=' value then ⟨.grammatical [], [⟨some 1, .equalityOperator, none⟩]⟩
        else ⟨.grammatical [⟨type, name, some value, 1⟩], []⟩ :=
  Grammatical.analyze_assignment σ htype hname (isValue_of_isString hvalue hnl)

/-- One equals sign, a semicolon and a comment in a string are accepted. -/
theorem Grammatical.analyze_string_single :
    Stage.grammatical.analyze .default "Label s = \"a = b; // c\";".toList
      = ⟨.grammatical [⟨"Label".toList, "s".toList, some "\"a = b; // c\"".toList, 1⟩], []⟩ := by
  have htype : IsName "Label".toList :=
    ⟨'L', "abel".toList, rfl, by decide, List.all_eq_true.1 (by decide)⟩
  have hname : IsName "s".toList := ⟨'s', [], rfl, by decide, List.forall_mem_nil _⟩
  have hvalue : isString "\"a = b; // c\"".toList = true := by decide +kernel
  have h := Grammatical.analyze_string .default htype hname hvalue (by decide +kernel)
  rwa [if_neg (by decide +kernel)] at h

/-- So the verdict on an assignment is not the same for any two strings. -/
theorem Grammatical.not_analyze_string_accepted :
    ¬ ∀ type name value : Text, IsName type → IsName name → isString value = true →
      '\n' ∉ value → Stage.grammatical.analyze .default (assignment type name value)
        = ⟨.grammatical [⟨type, name, some value, 1⟩], []⟩ := by
  intro h
  have hstring : IsName "String".toList := isName_name .string
  have hname : IsName "s".toList := ⟨'s', [], rfl, by decide, List.forall_mem_nil _⟩
  have haccepted := h _ _ "\"==\"".toList hstring hname (by decide +kernel) (by decide +kernel)
  exact absurd (congrArg Analysis.diagnostics haccepted) (by decide +kernel)

end VarDecl.Analysis
