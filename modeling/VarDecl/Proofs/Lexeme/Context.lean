import VarDecl.Proofs.Lexeme.Condensed

/-!
# What a lexeme depends on

The kind of a lexeme is that of its text in a context, which tells whether a data type stands
before. It is the token before that counts, with or without semicolons at its end.

* `contextAfter`: the context behind a row of tokens (`ofTokens_append`);
* `exists_token`: a lexeme that is no delimiter is the body of a token, and the lexemes before it
  are those of the tokens before;
* `EndsInType`: lexemes at the start of a line that end in a data type, perhaps with the semicolons
  of its token. They are those behind which the context is that after a type
  (`endsInType_of_contextAfter`, `contextAfter_of_endsInType`);
* `kind_eq_classify`: so this is what the kinds of lexemes depend on, and not the lexeme before
  alone (`not_kind_eq_classify_before`).
-/

namespace VarDecl.Lexeme

variable {ctx : Context} {raw u : Text} {us vs ws : List Text} {l m d : Lexeme}
  {ls rs : List Lexeme} {line : Text}

/-! ### Contexts -/

/-- The context behind a row of tokens. -/
def contextAfter (ctx : Context) (ws : List Text) : Context :=
  ws.foldl (fun ctx raw => .after (leadingKind ctx raw)) ctx

theorem contextAfter_concat (ctx : Context) (us : List Text) (u : Text) :
    contextAfter ctx (us ++ [u]) = .after (leadingKind (contextAfter ctx us) u) :=
  List.foldl_concat _ _ _ _

theorem ofTokens_append (ctx : Context) (us vs : List Text) :
    ofTokens ctx (us ++ vs) = ofTokens ctx us ++ ofTokens (contextAfter ctx us) vs := by
  induction us generalizing ctx with
  | nil => rfl
  | cons u us ih =>
    rw [List.cons_append, ofTokens, ofTokens, ih, List.append_assoc]
    rfl

theorem ofTokens_concat (ctx : Context) (us : List Text) (u : Text) :
    ofTokens ctx (us ++ [u]) = ofTokens ctx us ++ ofToken (contextAfter ctx us) u := by
  rw [ofTokens_append, ofTokens, ofTokens, List.append_nil]

theorem after_eq_afterType_iff {k : LexemeKind} : Context.after k = .afterType ↔ k = .dataType := by
  cases k <;> decide

/-! ### The lexemes of one token -/

/-- The lexemes of a token: its body, its body and semicolons, or semicolons. -/
inductive TokenLexemes (ctx : Context) (raw : Text) : List Lexeme → Prop
  | word (h : body raw ≠ []) : TokenLexemes ctx raw [⟨body raw, classify ctx (body raw)⟩]
  | terminated (h : body raw ≠ []) :
    TokenLexemes ctx raw [⟨body raw, classify ctx (body raw)⟩, ⟨terminators raw, .delimiter⟩]
  | semicolons (h : body raw = []) : TokenLexemes ctx raw [⟨terminators raw, .delimiter⟩]

theorem tokenLexemes_ofToken (ctx : Context) (hne : raw ≠ []) :
    TokenLexemes ctx raw (ofToken ctx raw) := by
  by_cases hbody : body raw = []
  · have hterminators : terminators raw ≠ [] := by
      have happend := body_append_terminators raw
      rw [hbody, List.nil_append] at happend
      rwa [happend]
    have h : TokenLexemes ctx raw _ := .semicolons hbody
    simpa [ofToken, hbody, hterminators] using h
  · by_cases hterminators : terminators raw = []
    · have h : TokenLexemes ctx raw _ := .word hbody
      simpa [ofToken, hbody, hterminators] using h
    · have h : TokenLexemes ctx raw _ := .terminated hbody
      simpa [ofToken, hbody, hterminators] using h

/-- Only the first lexeme of a token is no delimiter. -/
theorem TokenLexemes.eq_of_append (h : TokenLexemes ctx raw (ls ++ l :: rs))
    (hl : l.kind ≠ .delimiter) : ls = [] ∧ l = ⟨body raw, classify ctx (body raw)⟩ := by
  generalize hxs : ls ++ l :: rs = xs at h
  cases ls with
  | nil =>
    cases h with
    | word | terminated => exact ⟨rfl, (List.cons.inj hxs).1⟩
    | semicolons => exact absurd (congrArg Lexeme.kind (List.cons.inj hxs).1) hl
  | cons k ls =>
    have hmem : l ∈ xs.tail := by
      rw [← hxs, List.cons_append, List.tail_cons]
      exact List.mem_append_right ls List.mem_cons_self
    cases h with
    | word | semicolons => cases hmem
    | terminated => exact absurd (congrArg Lexeme.kind (List.mem_singleton.1 hmem)) hl

/-- A lexeme that is no delimiter is the body of a token, and those before it are the lexemes of the
tokens before. -/
theorem exists_token (h : ofTokens ctx ws = ls ++ l :: rs) (hws : ∀ w ∈ ws, w ≠ [])
    (hl : l.kind ≠ .delimiter) :
    ∃ us raw vs, ws = us ++ raw :: vs ∧ ls = ofTokens ctx us ∧
      l = ⟨body raw, classify (contextAfter ctx us) (body raw)⟩ := by
  induction ws generalizing ctx ls with
  | nil => exact absurd h.symm (List.append_ne_nil_of_right_ne_nil ls (List.cons_ne_nil l rs))
  | cons raw ws ih =>
    obtain ⟨hraw, hws⟩ := List.forall_mem_cons.1 hws
    -- Either the lexeme comes behind those of the first token, or it is the first of them.
    have hbehind : ∀ ks, ls = ofToken ctx raw ++ ks →
        ofTokens (.after (leadingKind ctx raw)) ws = ks ++ l :: rs →
        ∃ us raw' vs, raw :: ws = us ++ raw' :: vs ∧ ls = ofTokens ctx us ∧
          l = ⟨body raw', classify (contextAfter ctx us) (body raw')⟩ := by
      rintro ks rfl hks
      obtain ⟨us, raw', vs, rfl, rfl, hl'⟩ := ih hks hws
      exact ⟨raw :: us, raw', vs, rfl, rfl, hl'⟩
    rw [ofTokens] at h
    obtain ⟨ks, hls, hks⟩ | ⟨ks, htoken, hks⟩ := List.append_eq_append_iff.1 h
    · exact hbehind ks hls hks
    · cases ks with
      | nil =>
        rw [List.append_nil] at htoken
        exact hbehind [] (by rw [htoken, List.append_nil]) hks.symm
      | cons k ks =>
        obtain ⟨rfl, -⟩ := List.cons.inj hks
        have hlexemes := tokenLexemes_ofToken ctx hraw
        rw [htoken] at hlexemes
        exact ⟨[], raw, ws, rfl, hlexemes.eq_of_append hl⟩

/-! ### Behind a type -/

/-- Lexemes at the start of a line that end in a data type, behind which there may be the semicolons
of its token. -/
inductive EndsInType (line : Text) : List Lexeme → Prop
  | bare {ls : List Lexeme} {m : Lexeme} : m.kind = .dataType → EndsInType line (ls ++ [m])
  | terminated {us vs : List Text} {m d : Lexeme} :
    rawTokens line = us ++ (m.text ++ d.text) :: vs → m.kind = .dataType → d.kind = .delimiter →
      EndsInType line (ofTokens .plain us ++ [m, d])

/-- Behind a token the context is that after a type exactly if the token starts with one. -/
theorem contextAfter_concat_eq_afterType_iff :
    contextAfter ctx (us ++ [u]) = .afterType ↔
      body u ≠ [] ∧ classify (contextAfter ctx us) (body u) = .dataType := by
  rw [contextAfter_concat, after_eq_afterType_iff]
  by_cases hbody : body u = []
  · simp [leadingKind, hbody]
  · simp [leadingKind, hbody]

theorem endsInType_of_contextAfter (hline : rawTokens line = us ++ vs)
    (h : contextAfter .plain us = .afterType) : EndsInType line (ofTokens .plain us) := by
  rcases List.eq_nil_or_concat' us with rfl | ⟨us, u, rfl⟩
  · cases h
  · have hu : u ≠ [] := ne_nil_of_mem_rawTokens (t := line) (by simp [hline])
    obtain ⟨hbody, hkind⟩ := contextAfter_concat_eq_afterType_iff.1 h
    have hlexemes := tokenLexemes_ofToken (contextAfter .plain us) hu
    rw [ofTokens_concat]
    generalize ofToken (contextAfter .plain us) u = ls at hlexemes
    cases hlexemes with
    | word => exact .bare hkind
    | terminated =>
      have htokens : rawTokens line = us ++ (body u ++ terminators u) :: vs := by
        rw [body_append_terminators, hline, List.append_assoc, List.singleton_append]
      exact .terminated htokens hkind rfl
    | semicolons hnil => exact absurd hnil hbody

/-- Of the tokens at the start of a line, those before a data type and the semicolons of its token
do not end with the data type. -/
theorem ne_append_of_terminated {us' vs' : List Text} (hline : rawTokens line = us ++ vs)
    (hline' : rawTokens line = us' ++ (m.text ++ d.text) :: vs') (hm : m.text ≠ [])
    (hd : d.text ≠ []) : ofTokens .plain us ≠ ofTokens .plain us' ++ [m] := by
  intro h
  have htext : us.flatten = us'.flatten ++ m.text := by
    have := congrArg (List.flatMap Lexeme.text) h
    simpa [flatMap_text_ofTokens] using this
  rw [hline] at hline'
  obtain ⟨ws, rfl, -⟩ | ⟨ws, rfl, hws⟩ := List.append_eq_append_iff.1 hline'
  · rw [List.flatten_append, List.append_assoc, List.self_eq_append_right] at htext
    exact hm (List.append_eq_nil_iff.1 htext).2
  · rw [List.flatten_append, List.append_cancel_left_eq] at htext
    cases ws with
    | nil => exact hm htext.symm
    | cons w ws =>
      obtain ⟨rfl, -⟩ := List.cons.inj hws
      rw [List.flatten_cons, List.append_assoc, List.append_right_eq_self] at htext
      exact hd (List.append_eq_nil_iff.1 htext).1

theorem contextAfter_of_endsInType (hline : rawTokens line = us ++ vs)
    (h : EndsInType line (ofTokens .plain us)) : contextAfter .plain us = .afterType := by
  rcases List.eq_nil_or_concat' us with rfl | ⟨us, u, rfl⟩
  · generalize hls : ofTokens .plain [] = ls at h
    cases h <;> simp [ofTokens] at hls
  · have hu : u ≠ [] := ne_nil_of_mem_rawTokens (t := line) (by simp [hline])
    have hlexemes := tokenLexemes_ofToken (contextAfter .plain us) hu
    have htext : ∀ l ∈ ofTokens .plain (us ++ [u]), l.text ≠ [] :=
      fun l hl => (isShaped_of_mem_ofTokens hl).1
    rw [contextAfter_concat_eq_afterType_iff]
    rw [ofTokens_concat] at h htext
    generalize ofToken (contextAfter .plain us) u = ks at h hlexemes htext
    generalize hls : ofTokens .plain us ++ ks = ls at h htext
    cases h with
    | bare hm =>
      cases hlexemes with
      | word hbody =>
        obtain rfl := List.singleton_inj.1 (List.append_inj' hls rfl).2
        exact ⟨hbody, hm⟩
      | terminated =>
        rw [List.append_cons] at hls
        obtain rfl := List.singleton_inj.1 (List.append_inj' hls rfl).2
        cases hm
      | semicolons =>
        obtain rfl := List.singleton_inj.1 (List.append_inj' hls rfl).2
        cases hm
    | @terminated us' vs' m d hline' hm hd =>
      have hbefore : rawTokens line = us ++ u :: vs := by rw [hline, ← List.append_cons]
      have hne := ne_append_of_terminated hbefore hline' (htext m (by simp)) (htext d (by simp))
      cases hlexemes with
      | word =>
        rw [List.append_cons (ofTokens .plain us')] at hls
        obtain rfl := List.singleton_inj.1 (List.append_inj' hls rfl).2
        exact absurd hd (classify_ne_delimiter _ _)
      | terminated hbody =>
        obtain ⟨rfl, -⟩ := List.cons.inj (List.append_inj' hls rfl).2
        exact ⟨hbody, hm⟩
      | semicolons =>
        rw [List.append_cons (ofTokens .plain us')] at hls
        exact absurd (List.append_inj' hls rfl).1 hne

/-- The kind of a lexeme that is no delimiter is that of its text: after a type, if the lexemes
before end in a data type or in one with the semicolons of its token, and else anywhere. -/
theorem kind_eq_classify (h : ofLine line = ls ++ l :: rs) (hl : l.kind ≠ .delimiter) :
    (EndsInType line ls → l.kind = classify .afterType l.text) ∧
      (¬ EndsInType line ls → l.kind = classify .plain l.text) := by
  obtain ⟨us, raw, vs, hline, rfl, rfl⟩ := exists_token h (fun w => ne_nil_of_mem_rawTokens) hl
  refine ⟨fun htype => ?_, fun htype => ?_⟩
  · rw [contextAfter_of_endsInType hline htype]
  · cases hcontext : contextAfter .plain us with
    | plain => rfl
    | afterType => exact absurd (endsInType_of_contextAfter hline hcontext) htype

/-- After a type and its semicolon a word may be a name, though it is spelt like a type; after a
type and a semicolon that stands alone it is a type. -/
theorem kind_eq_classify_terminated :
    ofLine "int; int ; int".toList = [⟨"int".toList, .dataType⟩, ⟨[';'], .delimiter⟩,
        ⟨"int".toList, .identifier⟩, ⟨[';'], .delimiter⟩, ⟨"int".toList, .dataType⟩] ∧
      EndsInType "int; int ; int".toList [⟨"int".toList, .dataType⟩, ⟨[';'], .delimiter⟩] ∧
      LexemeKind.identifier = classify .afterType "int".toList ∧
      ¬ EndsInType "int; int ; int".toList [⟨"int".toList, .dataType⟩, ⟨[';'], .delimiter⟩,
        ⟨"int".toList, .identifier⟩, ⟨[';'], .delimiter⟩] ∧
      LexemeKind.dataType = classify .plain "int".toList := by
  have hlexemes : ofLine "int; int ; int".toList = [⟨"int".toList, .dataType⟩, ⟨[';'], .delimiter⟩]
      ++ ⟨"int".toList, .identifier⟩ :: [⟨[';'], .delimiter⟩, ⟨"int".toList, .dataType⟩] := by
    decide +kernel
  have hlexemes' : ofLine "int; int ; int".toList = [⟨"int".toList, .dataType⟩,
      ⟨[';'], .delimiter⟩, ⟨"int".toList, .identifier⟩, ⟨[';'], .delimiter⟩]
      ++ ⟨"int".toList, .dataType⟩ :: [] := hlexemes
  have htokens : rawTokens "int; int ; int".toList
      = ["int;".toList, "int".toList, ";".toList] ++ ["int".toList] := by decide +kernel
  have hterminated : EndsInType "int; int ; int".toList
      [⟨"int".toList, .dataType⟩, ⟨[';'], .delimiter⟩] :=
    @EndsInType.terminated _ [] ["int".toList, ";".toList, "int".toList] _ _ htokens rfl rfl
  have halone : ¬ EndsInType "int; int ; int".toList [⟨"int".toList, .dataType⟩,
      ⟨[';'], .delimiter⟩, ⟨"int".toList, .identifier⟩, ⟨[';'], .delimiter⟩] := by
    have hbefore : ofTokens .plain ["int;".toList, "int".toList, ";".toList]
        = [⟨"int".toList, .dataType⟩, ⟨[';'], .delimiter⟩, ⟨"int".toList, .identifier⟩,
          ⟨[';'], .delimiter⟩] := by decide +kernel
    rw [← hbefore]
    intro h
    exact absurd (contextAfter_of_endsInType htokens h) (by decide +kernel)
  have hname := kind_eq_classify hlexemes (by decide)
  have htype := kind_eq_classify hlexemes' (by decide)
  exact ⟨hlexemes, hterminated, hname.1 hterminated, halone, htype.2 halone⟩

/-- The lexeme before does not tell: a delimiter may end the token of a data type. -/
theorem not_kind_eq_classify_before :
    ¬ ∀ (line : Text) (ls rs : List Lexeme) (l : Lexeme), ofLine line = ls ++ l :: rs →
      l.kind ≠ .delimiter →
      l.kind = classify (ls.getLast?.elim .plain fun m => .after m.kind) l.text := by
  intro h
  have hlexemes : ofLine "int; int".toList = [⟨"int".toList, .dataType⟩, ⟨[';'], .delimiter⟩] ++
      ⟨"int".toList, .identifier⟩ :: [] := by decide +kernel
  exact absurd (h _ _ _ _ hlexemes (by decide)) (by decide +kernel)

end VarDecl.Lexeme
