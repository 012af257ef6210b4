import VarDecl.Proofs.Analysis.Assignment

/-!
# Character literals

A character literal is one value for the semantic stage, whatever its character is. It is one value
for the lexical stage as well if it has no blank in it; but the cut into tokens knows double quotes
only, and so goes through a literal of a blank.

* `exists_of_isChar`: a character literal is its opening, its character and an apostrophe, so that
  no reader takes it apart (`isValue_of_isChar`) unless it cuts at blanks;
* `ofLine_char`, `ofLine_blank_char`: the lexemes of a line with such a value, without a blank in it
  and with one;
* `char_lexemes`: what the lexical and the semantic stage make of a declaration with such a value.
-/

namespace VarDecl.Analysis

open Text Literal Expression Comment Declaration Name Program

variable {name value opening : Text} {c : Char}

/-! ### Readers of character literals -/

/-- What stands before the character of a literal. -/
inductive IsOpening : Text → Char → Prop
  | plain {c : Char} : c ≠ '\'' → c ≠ '\\' → IsOpening ['\''] c
  | escape {c : Char} : IsOpening ['\'', '\\'] c

theorem exists_of_isChar (h : isChar value = true) (hnl : '\n' ∉ value) :
    ∃ opening c, value = opening ++ [c, '\''] ∧ IsOpening opening c := by
  unfold isChar at h
  split at h
  case h_1 c r =>
    rw [Bool.and_eq_true] at h
    obtain rfl : r = [] := eq_nil_of_atEnd h.2 fun hm => hnl (by simp [hm])
    exact ⟨['\'', '\\'], c, rfl, .escape⟩
  case h_2 c r _ =>
    simp only [Bool.and_eq_true, bne_iff_ne] at h
    obtain rfl : r = [] := eq_nil_of_atEnd h.2 fun hm => hnl (by simp [hm])
    exact ⟨['\''], c, rfl, .plain h.1.1 h.1.2⟩
  case h_3 => cases h

/-- An opening has a closing apostrophe behind its character. -/
theorem IsOpening.exists_closes (h : IsOpening opening c) (hc : c ≠ '\n') :
    ∃ s, opening ++ [c, '\''] = '\'' :: s ∧ Closes '\'' s := by
  cases h with
  | plain hquote hbackslash => exact ⟨_, rfl, .plain hquote hbackslash .close⟩
  | escape => exact ⟨_, rfl, .escape hc .close⟩

/-- An opening is a word of its own, which is no lexeme of a known kind. -/
theorem IsOpening.isWord (h : IsOpening opening c) :
    opening ≠ [] ∧ (∀ d ∈ opening, isBlank d = false) ∧ '"' ∉ opening ∧
      (∀ d ∈ opening.getLast?, d ≠ ';') ∧ Lexeme.classify .plain opening = .unknown := by
  cases h with
  | plain =>
    exact ⟨by decide, List.all_iff_forall_prop.1 (by decide), by decide,
      fun d hd => by rw [← Option.some.inj hd]; decide, by decide +kernel⟩
  | escape =>
    exact ⟨by decide, List.all_iff_forall_prop.1 (by decide), by decide,
      fun d hd => by rw [← Option.some.inj hd]; decide, by decide +kernel⟩

/-- The only blank in a literal may be its character. -/
theorem IsOpening.any_isBlank (h : IsOpening opening c) :
    (opening ++ [c, '\'']).any isBlank = isBlank c := by
  obtain ⟨-, hsolid, -⟩ := h.isWord
  have hopening : opening.any isBlank = false := List.any_eq_false.2 fun d hd => by
    rw [hsolid d hd]
    decide
  have hquote : isBlank '\'' = false := by decide
  simp [hopening, hquote]

/-- A literal of a blank starts with its opening as a word. -/
theorem IsOpening.takeWhile_solid (h : IsOpening opening c) (hc : isBlank c = true) :
    (opening ++ [c, '\'']).takeWhile (fun d => !isBlank d) = opening := by
  obtain ⟨-, hsolid, -⟩ := h.isWord
  have hopening : ∀ d ∈ opening, (!isBlank d) = true := fun d hd => by rw [hsolid d hd]; rfl
  rw [List.takeWhile_append_of_pos hopening, List.takeWhile_cons_of_neg (by simp [hc]),
    List.append_nil]

theorem isValue_of_isChar (h : isChar value = true) (hnl : '\n' ∉ value) : IsValue value := by
  obtain ⟨opening, c, rfl, hopening⟩ := exists_of_isChar h hnl
  have hc : c ≠ '\n' := by
    rintro rfl
    exact hnl (by simp)
  have hlast : (opening ++ [c, '\'']).getLast? = some '\'' := by
    rw [List.getLast?_append_of_ne_nil _ (List.cons_ne_nil _ _)]
    rfl
  obtain ⟨s, hs, hcloses⟩ := hopening.exists_closes hc
  rw [hs] at hlast hnl ⊢
  exact ⟨⟨⟨'\'', rfl, rfl, by decide⟩, ⟨'\'', hlast, rfl, by decide⟩⟩, hnl,
    transparent_of_closes (Or.inr rfl) hcloses fun hm => hnl (List.mem_cons_of_mem _ hm),
    isClosed_of_closes (Or.inr rfl) hcloses⟩

/-! ### Lexemes -/

/-- A literal without a blank is one lexeme. -/
theorem ofLine_char (p : Primitive) (hname : IsName name) (h : isChar value = true)
    (hnl : '\n' ∉ value) (hsolid : ∀ c ∈ value, isBlank c = false) :
    Lexeme.ofLine (assignment p.name name value)
      = [⟨p.name, .dataType⟩, ⟨name, .identifier⟩, ⟨['='], .assignmentOperator⟩,
        ⟨value, .value⟩, ⟨[';'], .delimiter⟩] := by
  have hline : ∀ c ∈ value ++ [';'], isBlank c = false :=
    List.forall_mem_append.2 ⟨hsolid, List.forall_mem_singleton.2 rfl⟩
  rw [← classify_of_quoted (Or.inr h)]
  exact ofLine_assignment p hname (isValue_of_isChar h hnl).trimmed
    (Lexeme.isBlank_of_mem_pieces hline)

/-- A literal of a blank is cut in two there, and neither part is a value. -/
theorem ofLine_blank_char (p : Primitive) (hname : IsName name) (h : IsOpening opening c)
    (hc : isBlank c = true) :
    Lexeme.ofLine (assignment p.name name (opening ++ [c, '\'']))
      = [⟨p.name, .dataType⟩, ⟨name, .identifier⟩, ⟨['='], .assignmentOperator⟩,
        ⟨opening, .unknown⟩, ⟨['\''], .unknown⟩, ⟨[';'], .delimiter⟩] := by
  obtain ⟨hne, hsolid, hquote, hlast, hkind⟩ := h.isWord
  have hend : Lexeme.rawTokens (['\''] ++ [';']) = [['\''] ++ [';']] :=
    Lexeme.rawTokens_of_forall (by decide)
      (Lexeme.isBlank_of_mem_pieces (List.all_iff_forall_prop.1 (by decide)))
  have hparts : opening ++ [c, '\''] ++ [';'] = opening ++ c :: (['\''] ++ [';']) := by simp
  have hquoteLast : ∀ d ∈ ['\''].getLast?, d ≠ ';' := fun d hd => by
    rw [← Option.some.inj hd]
    decide
  have hunknown : Lexeme.classify .plain ['\''] = .unknown := by decide +kernel
  rw [ofLine_assignment_eq p hname, hparts, Lexeme.rawTokens_cons hne hquote hsolid hc, hend,
    Lexeme.ofTokens_cons hne hlast, hkind, Lexeme.ofTokens,
    Lexeme.ofToken_semicolon (by decide) hquoteLast]
  simp only [Lexeme.Context.after, hunknown]
  rfl

/-! ### Stages -/

/-- The semantic stage takes each character literal as a value. Its lexemes are one value if there
is no blank in it; else what stands before the blank and the apostrophe behind it are unknown
words. -/
theorem char_lexemes (hname : IsName name) (hvalue : isChar value = true) (hnl : '\n' ∉ value) :
    Lexeme.ofLine (assignment "char".toList name value)
        = [⟨"char".toList, .dataType⟩, ⟨name, .identifier⟩, ⟨['='], .assignmentOperator⟩]
          ++ (if value.any isBlank then
              [⟨value.takeWhile fun c => !isBlank c, .unknown⟩, ⟨['\''], .unknown⟩]
            else [⟨value, .value⟩])
          ++ [⟨[';'], .delimiter⟩] ∧
      ∀ σ, Stage.semantic.analyze σ (assignment "char".toList name value)
        = ⟨.semantic [⟨"char".toList, name, some value, 1⟩] ⟨[(name, "char".toList)]⟩, []⟩ := by
  constructor
  · cases hblank : value.any isBlank with
    | false =>
      have hsolid : ∀ c ∈ value, isBlank c = false := by simpa using hblank
      exact ofLine_char .char hname hvalue hnl hsolid
    | true =>
      obtain ⟨opening, c, rfl, hopening⟩ := exists_of_isChar hvalue hnl
      rw [hopening.any_isBlank] at hblank
      rw [if_pos rfl, hopening.takeWhile_solid hblank]
      exact ofLine_blank_char .char hname hopening hblank
  · intro σ
    exact Semantic.analyze_assignment (p := .char) σ hname (isValue_of_isChar hvalue hnl)
      (kind?_of_isChar hvalue) rfl

/-- A double quote as a character is one value, and a space is none. -/
theorem char_lexemes_quote :
    Lexeme.ofLine "char n = '\"';".toList
        = [⟨"char".toList, .dataType⟩, ⟨"n".toList, .identifier⟩, ⟨['='], .assignmentOperator⟩,
          ⟨"'\"'".toList, .value⟩, ⟨[';'], .delimiter⟩] ∧
      Lexeme.ofLine "char n = ' ';".toList
        = [⟨"char".toList, .dataType⟩, ⟨"n".toList, .identifier⟩, ⟨['='], .assignmentOperator⟩,
          ⟨['\''], .unknown⟩, ⟨['\''], .unknown⟩, ⟨[';'], .delimiter⟩] ∧
      Stage.semantic.analyze .default "char n = ' ';".toList
        = ⟨.semantic [⟨"char".toList, "n".toList, some "' '".toList, 1⟩]
            ⟨[("n".toList, "char".toList)]⟩, []⟩ := by
  have hname : IsName "n".toList := ⟨'n', [], rfl, by decide, List.forall_mem_nil _⟩
  have hchar : isChar "'\"'".toList = true := by decide
  have hblank : isChar "' '".toList = true := by decide
  obtain ⟨hquote, -⟩ := char_lexemes hname hchar (by decide)
  obtain ⟨hspace, hsemantic⟩ := char_lexemes hname hblank (by decide)
  exact ⟨hquote, hspace, hsemantic .default⟩

/-- So not each character literal is one value. -/
theorem not_char_lexemes_value :
    ¬ ∀ name value : Text, IsName name → isChar value = true → '\n' ∉ value →
      Lexeme.ofLine (assignment "char".toList name value)
        = [⟨"char".toList, .dataType⟩, ⟨name, .identifier⟩, ⟨['='], .assignmentOperator⟩,
          ⟨value, .value⟩, ⟨[';'], .delimiter⟩] := by
  intro h
  have hname : IsName "n".toList := ⟨'n', [], rfl, by decide, List.forall_mem_nil _⟩
  have hlexemes := h _ "' '".toList hname (by decide) (by decide)
  exact absurd hlexemes (by decide +kernel)

end VarDecl.Analysis
