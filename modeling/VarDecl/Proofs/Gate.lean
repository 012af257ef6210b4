import VarDecl.Gate
import VarDecl.Proofs.Analysis.Grammatical
import VarDecl.Proofs.Analysis.Passing
import VarDecl.Proofs.Declaration.Header
import VarDecl.Proofs.Source

/-!
# Strictness behind the first two stages

The three stages recognise lines in three ways. A line that the first two accept is a declaration
line for the third, with the same type (`ofLine?_of_layout`, `ofLine?_of_checkText`), so the strict
policy has nothing left to report in a gated run (`ofSource_strict`).

* `ofStages_passed_iff`, `ofSource_of_passed`: a run passes if its stages do, and has then found
  all that their outcomes accept;
* `ofStages_congr`: runs agree if each stage agrees where the stages before it pass.
-/

namespace VarDecl

open Text Declaration Analysis

variable {strip strict : Bool} {θ : Float} {source t : Text} {p : Grammatical.Parts}

namespace Analysis

/-! ### One line -/

theorem Lexical.exists_of_isCandidate (h : Lexical.isCandidate t = true) :
    ∃ (p : Primitive) (ws : List Text), t.words = p.name :: ws := by
  unfold Lexical.isCandidate at h
  split at h
  case h_1 => exact Bool.noConfusion h
  case h_2 w ws hw =>
    obtain ⟨q, hq⟩ := Option.isSome_iff_exists.1 (Bool.and_eq_true_iff.1 h).1
    exact ⟨q, ws, by rw [hw, Primitive.ofName?_eq_some_iff.1 hq]⟩

theorem Lexical.of_checkLine_eq_ok {l : SourceLine} {τ : TokenizedLine}
    (h : Lexical.checkLine θ l = .ok τ) :
    Lexical.isCandidate l.text = true ∧ τ = ⟨l.number, Lexeme.ofLine l.text⟩ := by
  unfold Lexical.checkLine at h
  split at h
  case isTrue hc => exact ⟨hc, (Except.ok.inj h).symm⟩
  case isFalse => cases h

theorem Grammatical.exists_of_checkLine_eq_ok {l : SourceLine} {δ : Declaration}
    (h : Grammatical.checkLine θ l = .ok δ) : ∃ p, Grammatical.checkText θ l.text = .ok p ∧
      δ = ⟨p.typeName, p.name, p.initializer, l.number⟩ := by
  unfold Grammatical.checkLine at h
  split at h
  case h_1 p hp => exact ⟨p, hp, (Except.ok.inj h).symm⟩
  case h_2 => cases h

/-- A candidate that the grammatical stage accepts is a declaration line of the same type. Its
declarators start with the name and end before the last semicolon. -/
theorem ofLine?_of_layout {lead blanks gap rest trail : Text} (htrim : trim t = t) (hnl : '\n' ∉ t)
    (hc : Lexical.isCandidate t = true)
    (hl : Grammatical.Layout t p lead blanks gap rest trail) :
    ∃ q, Header.ofLine? t = some ⟨q, p.name ++ (gap ++ (rest ++ trail))⟩ ∧
      q.name = p.typeName := by
  have ht := hl.eq
  obtain rfl : lead = [] := by
    -- A trimmed line does not start with a blank.
    cases lead with
    | nil => rfl
    | cons c l =>
      have h₁ : isBlank c = false := head?_trim (t := t) (by rw [htrim, ht]; rfl)
      rw [hl.lead c List.mem_cons_self] at h₁
      exact Bool.noConfusion h₁
  rw [List.nil_append] at ht
  obtain ⟨q, ws, hwords⟩ := Lexical.exists_of_isCandidate hc
  have hq : q.name = p.typeName := by
    obtain ⟨b, bs, hbs⟩ := List.exists_cons_of_ne_nil hl.blanks.1
    rw [ht, words_append hl.type.1 hl.type.2] at hwords
    · exact (List.cons.inj hwords).1.symm
    · intro c hc
      rw [hbs] at hc
      obtain rfl := Option.some.inj hc
      exact hl.blanks.2 b (hbs ▸ List.mem_cons_self)
  obtain ⟨d, r, hd⟩ : ∃ d r, p.name = d :: r :=
    List.exists_cons_of_ne_nil fun h0 => by
      have hname := hl.name.1
      rw [h0] at hname
      exact Bool.noConfusion hname
  refine ⟨q, ?_, hq⟩
  have hds : t = p.typeName ++ (blanks ++ (p.name ++ (gap ++ (rest ++ trail)) ++ [';'])) := by
    rw [ht]
    simp only [List.append_assoc]
  conv_lhs => rw [hds, ← hq]
  apply Header.ofLine?_append q hl.blanks.1 hl.blanks.2
  · rw [hd]
    exact List.cons_ne_nil _ _
  · intro c hc
    rw [hd] at hc
    obtain rfl := Option.some.inj hc
    have hname := hl.name.1
    rw [hd] at hname
    have hstart : isNameStart d = true := (Bool.and_eq_true_iff.1 hname).1
    refine ⟨hl.name.2 d (hd ▸ List.mem_cons_self), ?_⟩
    exact ne_of_isWordChar (isWordChar_of_isNameStart hstart) rfl
  · intro hm
    apply hnl
    rw [hds]
    exact List.mem_append_right _ (List.mem_append_right _ (List.mem_append_left _ hm))

theorem ofLine?_of_checkText (htrim : trim t = t) (hnl : '\n' ∉ t)
    (hc : Lexical.isCandidate t = true) (h : Grammatical.checkText θ t = .ok p) :
    ∃ q ds, Header.ofLine? t = some ⟨q, ds⟩ ∧ q.name = p.typeName := by
  obtain ⟨lead, blanks, gap, rest, trail, hl⟩ := Grammatical.exists_layout h
  obtain ⟨q, hq, htype⟩ := ofLine?_of_layout htrim hnl hc hl
  exact ⟨q, _, hq, htype⟩

/-! ### One stage -/

/-- Each line that is not blank is a candidate in a source that the lexical stage passes, and there
is one. -/
theorem Lexical.isCandidate_of_passed
    (h : (Lexical.analyze ⟨strip, strict, θ⟩ source).passed = true) :
    (∀ l ∈ Source.nonblankLines strip source, Lexical.isCandidate l.text = true) ∧
      Source.nonblankLines strip source ≠ [] := by
  obtain ⟨-, hall, hsome⟩ := Lexical.passed_iff.1 h
  refine ⟨fun l hl => ?_, fun h0 => ?_⟩
  · obtain ⟨τ, hτ⟩ := rejected_eq_nil_iff.1 hall _ (List.mem_map_of_mem hl)
    exact (Lexical.of_checkLine_eq_ok hτ).1
  · rw [Lexical.outcomes, h0] at hsome
    exact hsome rfl

/-- Each line that is not blank is accepted in a source that the grammatical stage passes. -/
theorem Grammatical.exists_checkText_of_passed
    (h : (Grammatical.analyze ⟨strip, strict, θ⟩ source).passed = true) {l : SourceLine}
    (hl : l ∈ Source.nonblankLines strip source) :
    ∃ p, Grammatical.checkText θ l.text = .ok p := by
  obtain ⟨-, hall, -⟩ := Grammatical.passed_iff.1 h
  obtain ⟨δ, hδ⟩ := rejected_eq_nil_iff.1 hall _ (List.mem_map_of_mem hl)
  obtain ⟨p, hp, -⟩ := Grammatical.exists_of_checkLine_eq_ok hδ
  exact ⟨p, hp⟩

/-- Where all lines are declaration lines, and there is one, the strict policy reports nothing. -/
theorem Semantic.analyze_strict
    (h : ∀ l ∈ Source.nonblankLines strip source, Semantic.isDeclarationLine l = true)
    (hne : Source.nonblankLines strip source ≠ []) :
    Semantic.analyze ⟨strip, true, θ⟩ source = Semantic.analyze ⟨strip, false, θ⟩ source := by
  have hitems : Semantic.items true (Source.nonblankLines strip source)
      = Semantic.items false (Source.nonblankLines strip source) := by
    apply List.filter_congr
    intro i hi
    obtain ⟨l, hl, hil⟩ := List.mem_flatMap.1 hi
    obtain ⟨hd, hhd⟩ := Option.isSome_iff_exists.1 (h l hl)
    rw [Semantic.itemsOfLine, hhd] at hil
    obtain ⟨part, -, rfl⟩ := List.mem_map.1 hil
    rfl
  have hany : (Source.nonblankLines strip source).any Semantic.isDeclarationLine = true := by
    obtain ⟨l, ls, hls⟩ := List.exists_cons_of_ne_nil hne
    exact List.any_eq_true.2 ⟨l, by rw [hls]; exact List.mem_cons_self, h l (by simp [hls])⟩
  simp only [Semantic.analyze, hitems, hany, Bool.not_true, Bool.and_false]

end Analysis

/-! ### The gated run -/

namespace GatedRun

/-- A run passes if each of its stages does, and then holds the analyses of all of them. -/
theorem ofStages_of_passed {σ : Settings} {stages : List Stage}
    (h : ∀ s ∈ stages, (s.analyze σ source).passed = true) :
    ofStages σ source stages = ⟨stages.map fun s => s.analyze σ source, []⟩ := by
  induction stages with
  | nil => rfl
  | cons s rest ih =>
    rw [ofStages, h s List.mem_cons_self, ih fun r hr => h r (List.mem_cons_of_mem s hr)]
    rfl

theorem passed_of_ofStages {σ : Settings} {stages : List Stage}
    (h : (ofStages σ source stages).passed = true) :
    ∀ s ∈ stages, (s.analyze σ source).passed = true := by
  induction stages with
  | nil => exact List.forall_mem_nil _
  | cons s rest ih =>
    rw [ofStages] at h
    split at h
    case isTrue hs =>
      refine List.forall_mem_cons.2 ⟨hs, ih ?_⟩
      simp only [passed, List.all_cons, hs, Bool.true_and] at h ⊢
      exact h
    case isFalse hs =>
      simp [passed, hs] at h

theorem ofStages_passed_iff {σ : Settings} {stages : List Stage} :
    (ofStages σ source stages).passed = true ↔
      ∀ s ∈ stages, (s.analyze σ source).passed = true := by
  refine ⟨passed_of_ofStages, fun h => ?_⟩
  rw [ofStages_of_passed h]
  simpa [passed] using h

/-- What a run that passes has found: all that the outcomes of its stages accept. -/
theorem ofSource_of_passed {σ : Settings} (h : (ofSource σ source).passed = true) :
    ofSource σ source = ⟨[⟨.lexical (accepted (Lexical.outcomes σ source)), []⟩,
      ⟨.grammatical (accepted (Grammatical.outcomes σ source)), []⟩,
      ⟨.semantic (accepted (Semantic.outcomesOf σ source))
        (Semantic.tableOf (accepted (Semantic.outcomesOf σ source))), []⟩], []⟩ := by
  have hpassed := passed_of_ofStages h
  rw [ofSource, ofStages_of_passed hpassed,
    ← Lexical.analyze_of_passed (hpassed .lexical (by decide)),
    ← Grammatical.analyze_of_passed (hpassed .grammatical (by decide)),
    ← Semantic.analyze_of_passed (hpassed .semantic (by decide))]
  rfl

/-- Two runs agree if each stage agrees where all stages before it pass. -/
theorem ofStages_congr {σ τ : Settings} {stages : List Stage}
    (h : ∀ before s rest, stages = before ++ s :: rest →
      (∀ r ∈ before, (r.analyze τ source).passed = true) →
        s.analyze σ source = s.analyze τ source) :
    ofStages σ source stages = ofStages τ source stages := by
  induction stages with
  | nil => rfl
  | cons s rest ih =>
    have hs : s.analyze σ source = s.analyze τ source := h [] s rest rfl (by simp)
    rw [ofStages, ofStages, hs]
    by_cases hp : (s.analyze τ source).passed = true
    · have hrest : ofStages σ source rest = ofStages τ source rest := by
        refine ih fun before r rest' heq hpassed => ?_
        refine h (s :: before) r rest' (by rw [heq, List.cons_append]) fun q hq => ?_
        rcases List.mem_cons.1 hq with rfl | hq
        · exact hp
        · exact hpassed q hq
      simp only [hp, if_true, hrest]
    · simp only [hp, if_false, Bool.false_eq_true]

/-- The first two stages stand before the last. -/
theorem mem_of_all_eq_append {before rest : List Stage}
    (h : Stage.all = before ++ .semantic :: rest) : .lexical ∈ before ∧ .grammatical ∈ before := by
  match before with
  | [] => cases h
  | [_] => cases h
  | a :: b :: before =>
    simp only [Stage.all, List.cons_append, List.cons.injEq] at h
    obtain ⟨rfl, rfl, -⟩ := h
    exact ⟨List.mem_cons_self, List.mem_cons_of_mem _ List.mem_cons_self⟩

/-- In a gated run the strict policy changes nothing, since the first two stages pass only lines
that are declaration lines for the third. -/
theorem ofSource_strict (strip : Bool) (θ : Float) (source : Text) :
    ofSource ⟨strip, true, θ⟩ source = ofSource ⟨strip, false, θ⟩ source ∧
    (∀ l ∈ Source.nonblankLines strip source, ∀ p, Lexical.isCandidate l.text = true →
      Grammatical.checkText θ l.text = .ok p →
        ∃ h, Header.ofLine? l.text = some h ∧ h.type.name = p.typeName) ∧
    ∀ strict, (Lexical.analyze ⟨strip, strict, θ⟩ source).passed = true →
      ∃ l ∈ Source.nonblankLines strip source, Lexical.isCandidate l.text = true ∧
        ((Grammatical.analyze ⟨strip, strict, θ⟩ source).passed = true →
          ∃ p, Grammatical.checkText θ l.text = .ok p) := by
  have nested : ∀ l ∈ Source.nonblankLines strip source, ∀ p,
      Lexical.isCandidate l.text = true → Grammatical.checkText θ l.text = .ok p →
        ∃ h, Header.ofLine? l.text = some h ∧ h.type.name = p.typeName := by
    intro l hl p hc hp
    obtain ⟨-, hnl, htrim⟩ := Source.text_of_mem_nonblankLines hl
    obtain ⟨q, ds, hq, htype⟩ := ofLine?_of_checkText htrim hnl hc hp
    exact ⟨⟨q, ds⟩, hq, htype⟩
  refine ⟨?_, nested, fun strict hlex => ?_⟩
  · refine ofStages_congr fun before s rest hstages hpassed => ?_
    -- Only the last stage reads the policy, and the two others stand before it.
    cases s with
    | lexical => rfl
    | grammatical => rfl
    | semantic =>
      obtain ⟨hlex, hgram⟩ := mem_of_all_eq_append hstages
      obtain ⟨hcand, hne⟩ := Lexical.isCandidate_of_passed (hpassed _ hlex)
      refine Semantic.analyze_strict (fun l hl => ?_) hne
      obtain ⟨p, hp⟩ := Grammatical.exists_checkText_of_passed (hpassed _ hgram) hl
      obtain ⟨h, hh, -⟩ := nested l hl p (hcand l hl) hp
      exact Option.isSome_iff_exists.2 ⟨h, hh⟩
  · obtain ⟨hcand, hne⟩ := Lexical.isCandidate_of_passed hlex
    obtain ⟨l, ls, hls⟩ := List.exists_cons_of_ne_nil hne
    have hl : l ∈ Source.nonblankLines strip source := by
      rw [hls]
      exact List.mem_cons_self
    exact ⟨l, hl, hcand l hl, fun hgram => Grammatical.exists_checkText_of_passed hgram hl⟩

/-- A source of one declaration passes the first two stages. -/
theorem ofSource_strict_declaration :
    ∃ l ∈ Source.nonblankLines true "int x = 5;".toList, Lexical.isCandidate l.text = true ∧
      ∃ p h, Grammatical.checkText Suggestion.defaultThreshold l.text = .ok p ∧
        Header.ofLine? l.text = some h ∧ h.type.name = p.typeName := by
  obtain ⟨-, nested, hlex⟩ :=
    ofSource_strict true Suggestion.defaultThreshold "int x = 5;".toList
  obtain ⟨l, hl, hc, hgram⟩ := hlex false (by decide +kernel)
  obtain ⟨p, hp⟩ := hgram (by decide +kernel)
  obtain ⟨h, hh, htype⟩ := nested l hl p hc hp
  exact ⟨l, hl, hc, p, h, hp, hh, htype⟩

/-- The lexical stage alone also passes lines that the grammatical stage does not. -/
theorem exists_passed_without_accepted :
    (Lexical.analyze .default "int x = 5".toList).passed = true ∧
      ¬∃ l ∈ Source.nonblankLines true "int x = 5".toList, Lexical.isCandidate l.text = true ∧
        ∃ p, Grammatical.checkText Suggestion.defaultThreshold l.text = .ok p := by
  refine ⟨by decide +kernel, ?_⟩
  rintro ⟨l, hl, -, p, hp⟩
  have hlines : Source.nonblankLines true "int x = 5".toList = [⟨1, "int x = 5".toList⟩] := by
    decide +kernel
  rw [hlines, List.mem_singleton] at hl
  rw [hl] at hp
  cases hp

end GatedRun

end VarDecl
