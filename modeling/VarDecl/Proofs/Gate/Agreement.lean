import Mathlib.Data.List.Nodup
import VarDecl.Proofs.Analysis.Declarators
import VarDecl.Proofs.Analysis.Passing
import VarDecl.Proofs.Analysis.Registration
import VarDecl.Proofs.Gate
import VarDecl.Proofs.Source.Numbering

/-!
# What the stages agree on

In a run that passes, the three stages have found declarations on the same lines. The grammatical
stage reads one declaration from a line and the semantic stage a list of them; the first of the list
has the same type and name, and without a top-level comma it is the only one and the same.

* `Semantic.exists_lineDeclarations`: this holds of one line, whatever its value is;
* `Semantic.filter_line_accepted`, `Semantic.eraseDups_map_line_accepted`: the declarations of a
  source are those of its lines, and the numbers of the lines tell them apart;
* `stages_agree`: it holds of a source.
-/

namespace VarDecl

open Text Expression Declaration

/-! ### Groups with a common key -/

section Groups

variable {α β κ : Type} [DecidableEq κ] {ls : List α} {f : α → List β} {key : β → κ} {k : α → κ}

/-- Groups that are not empty and have distinct keys keep the list of their keys. -/
theorem eraseDups_map_flatMap (hkey : ∀ a ∈ ls, ∀ b ∈ f a, key b = k a)
    (hne : ∀ a ∈ ls, f a ≠ []) (hk : (ls.map k).Nodup) :
    ((ls.flatMap f).map key).eraseDups = ls.map k := by
  induction ls with
  | nil => rfl
  | cons a ls ih =>
    obtain ⟨hka, hkls⟩ := List.forall_mem_cons.1 hkey
    obtain ⟨hna, hnls⟩ := List.forall_mem_cons.1 hne
    rw [List.map_cons, List.nodup_cons] at hk
    obtain ⟨b, bs, hb⟩ := List.exists_cons_of_ne_nil hna
    rw [hb] at hka
    obtain ⟨hkb, hkbs⟩ := List.forall_mem_cons.1 hka
    -- The keys after the first are those of its own group, which go, and those of the others.
    have hown : (bs.map key).filter (fun x => !x == k a) = [] := by
      rw [List.filter_eq_nil_iff]
      intro x hx
      obtain ⟨c, hc, rfl⟩ := List.mem_map.1 hx
      simp [hkbs c hc]
    have hothers : ((ls.flatMap f).map key).filter (fun x => !x == k a)
        = (ls.flatMap f).map key := by
      rw [List.filter_eq_self]
      intro x hx
      obtain ⟨c, hc, rfl⟩ := List.mem_map.1 hx
      obtain ⟨a', ha', hca'⟩ := List.mem_flatMap.1 hc
      rw [hkls a' ha' c hca', Bool.not_eq_true', beq_eq_false_iff_ne]
      intro heq
      exact hk.1 (heq ▸ List.mem_map_of_mem ha')
    rw [List.flatMap_cons, hb, List.cons_append, List.map_cons, hkb, List.eraseDups_cons,
      List.map_append, List.filter_append, hown, hothers, List.nil_append, ih hkls hnls hk.2,
      List.map_cons]

/-- A group is found again by its key. -/
theorem filter_flatMap_eq (hkey : ∀ a ∈ ls, ∀ b ∈ f a, key b = k a) (hk : (ls.map k).Nodup)
    {a : α} (ha : a ∈ ls) : (ls.flatMap f).filter (fun b => key b == k a) = f a := by
  have others : ∀ ms : List α, (∀ a' ∈ ms, a' ∈ ls ∧ k a' ≠ k a) →
      (ms.flatMap f).filter (fun b => key b == k a) = [] := by
    intro ms hms
    rw [List.filter_eq_nil_iff]
    intro b hb
    obtain ⟨a', ha', hb⟩ := List.mem_flatMap.1 hb
    rw [hkey a' (hms a' ha').1 b hb, beq_iff_eq]
    exact (hms a' ha').2
  obtain ⟨l, r, rfl⟩ := List.append_of_mem ha
  rw [List.map_append, List.map_cons, List.nodup_middle, List.nodup_cons, List.mem_append] at hk
  have hl := others l fun a' ha' => ⟨List.mem_append_left _ ha', fun heq =>
    hk.1 (Or.inl (heq ▸ List.mem_map_of_mem ha'))⟩
  have hr := others r fun a' ha' => ⟨List.mem_append_right _ (List.mem_cons_of_mem a ha'),
    fun heq => hk.1 (Or.inr (heq ▸ List.mem_map_of_mem ha'))⟩
  have hown : (f a).filter (fun b => key b == k a) = f a :=
    List.filter_eq_self.2 fun b hb => beq_iff_eq.2 (hkey a ha b hb)
  rw [List.flatMap_append, List.flatMap_cons, List.filter_append, List.filter_append, hl, hr, hown,
    List.nil_append, List.append_nil]

end Groups

namespace Analysis

variable {σ : Settings} {source t : Text} {l : SourceLine} {θ : Float} {p : Grammatical.Parts}

/-! ### One line -/

namespace Semantic

/-- The declarations that the declarators of a line make. -/
def lineDeclarations (l : SourceLine) : List Declaration :=
  (itemsOfLine l).filterMap Item.declaration?

theorem lineDeclarations_of_ofLine? {hd : Header} (h : Header.ofLine? l.text = some hd) :
    lineDeclarations l = (split (· == ',') hd.declarators).map fun part =>
      Declarator.declaration ⟨l.number, hd.type, part⟩ := by
  rw [lineDeclarations, itemsOfLine, h, List.filterMap_map, ← List.filterMap_eq_map]
  rfl

theorem line_of_mem_lineDeclarations {δ : Declaration} (h : δ ∈ lineDeclarations l) :
    δ.line = l.number := by
  obtain ⟨i, hi, hδ⟩ := List.mem_filterMap.1 h
  unfold itemsOfLine at hi
  split at hi
  case h_1 =>
    obtain ⟨part, -, rfl⟩ := List.mem_map.1 hi
    obtain rfl := Option.some.inj hδ
    rfl
  case h_2 =>
    rw [List.mem_singleton.1 hi] at hδ
    cases hδ

/-- The declarators of a line start with the name of the grammatical stage. If no top-level comma
follows there is one declarator, and it has the value of the grammatical stage. -/
theorem exists_split_declarators {lead blanks gap rest trail : Text} (n : Nat) (q : Primitive)
    (hnl : '\n' ∉ p.name) (hl : Grammatical.Layout t p lead blanks gap rest trail) :
    ∃ part parts, split (· == ',') (p.name ++ (gap ++ (rest ++ trail))) = part :: parts ∧
      (Declarator.mk n q part).name = p.name ∧
      (Passes (· == ',') .start (p.name ++ (gap ++ (rest ++ trail))) →
        parts = [] ∧ (Declarator.mk n q part).initializer = p.initializer) := by
  have hname : Name.IsName p.name := (Name.isIdentifier_iff_isName hnl).1 hl.name.1
  have hcomma : ∀ c, (c == ',') = true → isWordChar c = false ∧ isBlank c = false := fun c hc => by
    rw [beq_iff_eq.1 hc]
    decide
  rcases hl.rest with ⟨rfl, hinit⟩ | ⟨v, rfl, hinit⟩
  · have hblank : ∀ c ∈ gap ++ trail, isBlank c = true := fun c hc =>
      (List.mem_append.1 hc).elim (hl.gap c) (hl.trail c)
    have htrim : trim (p.name ++ (gap ++ trail)) = p.name := by
      rw [trim_append_of_blank hblank, trim_of_isName hname]
    obtain ⟨hn, hi⟩ := name_of_trim_eq (d := ⟨n, q, p.name ++ (gap ++ trail)⟩) hname htrim
    have hsplit := split_of_passes (isClosed_of_isName hname hblank hcomma).passes
      (List.append_ne_nil_of_left_ne_nil hname.ne_nil _)
    exact ⟨_, [], hsplit, hn, fun _ => ⟨rfl, by rw [hi, hinit]⟩⟩
  · have htext : p.name ++ (gap ++ ('=' :: v ++ trail))
        = p.name ++ gap ++ ['='] ++ (v ++ trail) := by
      simp only [List.append_assoc, List.cons_append, List.nil_append]
    have hequals : IsClosed (· == ',') ['='] := isClosed_of_forall fun c hc => by
      rw [List.mem_singleton.1 hc]
      decide
    have hclosed : IsClosed (· == ',') (p.name ++ gap ++ ['=']) :=
      (isClosed_of_isName hname hl.gap hcomma).append hequals
    obtain ⟨w, ws, hsplit⟩ := exists_split_append hclosed (by simp) (v ++ trail)
    obtain ⟨hn, hi⟩ := assignment_of_text_eq (w := w) (d := ⟨n, q, p.name ++ gap ++ ['='] ++ w⟩)
      hname hl.gap (List.append_assoc _ _ _)
    rw [htext]
    refine ⟨_, ws, hsplit, hn, fun hpasses => ?_⟩
    rw [split_of_passes hpasses (by simp)] at hsplit
    obtain ⟨hw, rfl⟩ := List.cons.inj hsplit
    refine ⟨rfl, ?_⟩
    rw [hi, hinit, ← List.append_cancel_left hw, trim_append_of_blank hl.trail]

/-- What a line declares that the first two stages accept: first what the grammatical stage reads,
and nothing else if there is no top-level comma. -/
theorem exists_lineDeclarations {δ : Declaration} (htrim : trim l.text = l.text)
    (hnl : '\n' ∉ l.text) (hc : Lexical.isCandidate l.text = true)
    (h : Grammatical.checkLine θ l = .ok δ) :
    ∃ hd ε rest, Header.ofLine? l.text = some hd ∧ lineDeclarations l = ε :: rest ∧
      ε.typeName = δ.typeName ∧ ε.name = δ.name ∧
      ((∀ ic ∈ topLevel hd.declarators, ic.2 ≠ ',') → rest = [] ∧ ε = δ) := by
  obtain ⟨p, hp, rfl⟩ := Grammatical.exists_of_checkLine_eq_ok h
  obtain ⟨lead, blanks, gap, rest, trail, hl⟩ := Grammatical.exists_layout hp
  obtain ⟨q, hq, htype⟩ := ofLine?_of_layout htrim hnl hc hl
  have hname : '\n' ∉ p.name := fun hm => hnl (by rw [hl.eq]; simp [hm])
  obtain ⟨part, parts, hsplit, hn, hpasses⟩ := exists_split_declarators l.number q hname hl
  refine ⟨_, _, _, hq, by rw [lineDeclarations_of_ofLine? hq, hsplit, List.map_cons], htype, hn,
    fun htop => ?_⟩
  obtain ⟨rfl, hi⟩ := hpasses (passes_iff_topLevelFrom.2 fun ic hic => beq_eq_false_iff_ne.2
    (htop ic hic))
  refine ⟨rfl, ?_⟩
  rw [Declarator.declaration, hn, hi, ← htype]

end Semantic

/-! ### One stage -/

/-- The numbers of lines are distinct. -/
theorem nodup_number_nonblankLines (strip : Bool) (source : Text) :
    ((Source.nonblankLines strip source).map SourceLine.number).Nodup :=
  List.Pairwise.map _ (fun _ _ => Nat.ne_of_lt) (Source.pairwise_nonblankLines strip source)

theorem Lexical.map_line_accepted (h : rejected (Lexical.outcomes σ source) = []) :
    (accepted (Lexical.outcomes σ source)).map TokenizedLine.line
      = (Source.nonblankLines σ.stripComments source).map SourceLine.number := by
  refine map_accepted_map (fun l τ hτ => ?_) h
  rw [(Lexical.of_checkLine_eq_ok hτ).2]

theorem Grammatical.line_of_checkLine_eq_ok {δ : Declaration}
    (h : Grammatical.checkLine θ l = .ok δ) : δ.line = l.number := by
  obtain ⟨p, -, rfl⟩ := Grammatical.exists_of_checkLine_eq_ok h
  rfl

theorem Grammatical.map_line_accepted (h : rejected (Grammatical.outcomes σ source) = []) :
    (accepted (Grammatical.outcomes σ source)).map Declaration.line
      = (Source.nonblankLines σ.stripComments source).map SourceLine.number :=
  map_accepted_map (fun _ _ => Grammatical.line_of_checkLine_eq_ok) h

namespace Semantic

/-- Where nothing is reported, a source declares what its lines declare. -/
theorem accepted_outcomesOf (h : rejected (outcomesOf σ source) = []) :
    accepted (outcomesOf σ source)
      = (Source.nonblankLines σ.stripComments source).flatMap lineDeclarations := by
  rw [outcomesOf] at h ⊢
  rw [accepted_outcomes_eq h, items, List.filterMap_filter, List.filterMap_flatMap]
  refine List.flatMap_congr fun l _ => List.filterMap_congr fun i _ => ?_
  cases i with
  | declarator d => rfl
  | stray line text => cases σ.strict <;> rfl

/-- The declarations of a line are found by its number. -/
theorem filter_line_accepted (h : rejected (outcomesOf σ source) = [])
    (hl : l ∈ Source.nonblankLines σ.stripComments source) :
    (accepted (outcomesOf σ source)).filter (fun ε => ε.line == l.number) = lineDeclarations l := by
  rw [accepted_outcomesOf h]
  exact filter_flatMap_eq (fun l _ ε hε => line_of_mem_lineDeclarations hε)
    (nodup_number_nonblankLines σ.stripComments source) hl

/-- If each line declares something, the declarations have the numbers of the lines. -/
theorem eraseDups_map_line_accepted (h : rejected (outcomesOf σ source) = [])
    (hne : ∀ l ∈ Source.nonblankLines σ.stripComments source, lineDeclarations l ≠ []) :
    ((accepted (outcomesOf σ source)).map Declaration.line).eraseDups
      = (Source.nonblankLines σ.stripComments source).map SourceLine.number := by
  rw [accepted_outcomesOf h]
  exact eraseDups_map_flatMap (fun l _ ε hε => line_of_mem_lineDeclarations hε) hne
    (nodup_number_nonblankLines σ.stripComments source)

/-- The symbol table has each declaration. -/
theorem find?_of_mem_accepted (h : (Semantic.analyze σ source).passed = true) {ε : Declaration}
    (hε : ε ∈ accepted (outcomesOf σ source)) :
    (tableOf (accepted (outcomesOf σ source))).find? ε.name = some ε.typeName := by
  have hsound : AllSound (accepted (outcomesOf σ source)) := by
    have hall := isSound_of_declarations σ source
    rwa [analyze_of_passed h] at hall
  exact find?_tableOf hsound.nodup hε

end Semantic

end Analysis

/-! ### The gated run -/

namespace GatedRun

open Analysis

variable {σ : Settings} {source : Text}

/-- A line of a run that passes, with what it declares to the last two stages. -/
theorem exists_lineDeclarations_of_passed (h : (ofSource σ source).passed = true) {l : SourceLine}
    (hl : l ∈ Source.nonblankLines σ.stripComments source) :
    ∃ δ hd ε rest, Grammatical.checkLine σ.threshold l = .ok δ ∧
      Header.ofLine? l.text = some hd ∧ Semantic.lineDeclarations l = ε :: rest ∧
      ε.typeName = δ.typeName ∧ ε.name = δ.name ∧
      ((∀ ic ∈ topLevel hd.declarators, ic.2 ≠ ',') → rest = [] ∧ ε = δ) := by
  have hpassed := passed_of_ofStages h
  have hc := (Lexical.isCandidate_of_passed (hpassed .lexical (by decide))).1 l hl
  obtain ⟨-, hgram, -⟩ := Grammatical.passed_iff.1 (hpassed .grammatical (by decide))
  obtain ⟨δ, hδ⟩ := rejected_eq_nil_iff.1 hgram _ (List.mem_map_of_mem hl)
  obtain ⟨-, hnl, htrim⟩ := Source.text_of_mem_nonblankLines hl
  obtain ⟨hd, ε, rest, hε⟩ := Semantic.exists_lineDeclarations htrim hnl hc hδ
  exact ⟨δ, hd, ε, rest, hδ, hε⟩

/-- The stages agree on what was declared. They name the same lines; the first declaration of a line
has the type and the name that the grammatical stage reads, and without a top-level comma it is the
only one, and the same. So the symbol table has the names of the grammatical stage. -/
theorem stages_agree (h : (ofSource σ source).passed = true) :
    ∃ ts δs εs Γ, (ofSource σ source).analyses
        = [⟨.lexical ts, []⟩, ⟨.grammatical δs, []⟩, ⟨.semantic εs Γ, []⟩] ∧
      ts.map TokenizedLine.line = δs.map Declaration.line ∧
      (εs.map Declaration.line).eraseDups = δs.map Declaration.line ∧
      ∀ δ ∈ δs, Γ.find? δ.name = some δ.typeName ∧
        ∃ l ∈ Source.nonblankLines σ.stripComments source, ∃ hd,
          l.number = δ.line ∧ Header.ofLine? l.text = some hd ∧
          ∃ ε rest, εs.filter (fun ε => ε.line == δ.line) = ε :: rest ∧
            ε.typeName = δ.typeName ∧ ε.name = δ.name ∧
            ((∀ ic ∈ topLevel hd.declarators, ic.2 ≠ ',') → rest = [] ∧ ε = δ) := by
  have hpassed := passed_of_ofStages h
  obtain ⟨-, hlex, -⟩ := Lexical.passed_iff.1 (hpassed .lexical (by decide))
  obtain ⟨-, hgram, -⟩ := Grammatical.passed_iff.1 (hpassed .grammatical (by decide))
  obtain ⟨-, hsem, -⟩ := Semantic.passed_iff.1 (hpassed .semantic (by decide))
  have hlines := Grammatical.map_line_accepted hgram
  refine ⟨_, _, _, _, congrArg analyses (ofSource_of_passed h), ?_, ?_, fun δ hδ => ?_⟩
  · rw [hlines, Lexical.map_line_accepted hlex]
  · rw [hlines]
    refine Semantic.eraseDups_map_line_accepted hsem fun l hl => ?_
    obtain ⟨-, -, ε, rest, -, -, hrest, -⟩ := exists_lineDeclarations_of_passed h hl
    rw [hrest]
    exact List.cons_ne_nil ε rest
  · obtain ⟨l, hl, hlδ⟩ := List.mem_map.1 (mem_accepted.1 hδ)
    obtain ⟨δ', hd, ε, rest, hδ', hhd, hrest, htype, hname, hcomma⟩ :=
      exists_lineDeclarations_of_passed h hl
    obtain rfl := Except.ok.inj (hδ'.symm.trans hlδ)
    have hnumber := Grammatical.line_of_checkLine_eq_ok hδ'
    have hgroup := Semantic.filter_line_accepted hsem hl
    rw [hrest, ← hnumber] at hgroup
    refine ⟨?_, l, hl, hd, hnumber.symm, hhd, ε, rest, hgroup, htype, hname, hcomma⟩
    have hmem : ε ∈ accepted (Semantic.outcomesOf σ source) :=
      List.mem_of_mem_filter (hgroup ▸ List.mem_cons_self)
    rw [← hname, ← htype]
    exact Semantic.find?_of_mem_accepted (hpassed .semantic (by decide)) hmem

/-- The comma of the second line stands in a literal, so the stages declare the same there. -/
theorem stages_agree_literal :
    ∃ ts δs εs Γ, (ofSource .default "int a = 1, b;\nchar c = ',';".toList).analyses
        = [⟨.lexical ts, []⟩, ⟨.grammatical δs, []⟩, ⟨.semantic εs Γ, []⟩] ∧
      ⟨"char".toList, "c".toList, some "','".toList, 2⟩ ∈ δs ∧
      εs.filter (fun ε => ε.line == 2) = [⟨"char".toList, "c".toList, some "','".toList, 2⟩] := by
  obtain ⟨ts, δs, εs, Γ, hrun, -, -, h⟩ :=
    @stages_agree .default "int a = 1, b;\nchar c = ',';".toList (by decide +kernel)
  have hdeclared : ∀ a ∈ (ofSource .default "int a = 1, b;\nchar c = ',';".toList).analyses,
      a.stage = .grammatical →
        ⟨"char".toList, "c".toList, some "','".toList, 2⟩ ∈ a.findings.declarations := by
    decide +kernel
  have hδ := hdeclared ⟨.grammatical δs, []⟩ (by rw [hrun]; simp) rfl
  refine ⟨ts, δs, εs, Γ, hrun, hδ, ?_⟩
  obtain ⟨-, l, hl, hd, hnumber, hhd, ε, rest, hfilter, -, -, hcomma⟩ := h _ hδ
  have hlines : ∀ l ∈ Source.nonblankLines Settings.default.stripComments
      "int a = 1, b;\nchar c = ',';".toList, l.number = 2 →
        Header.ofLine? l.text = some ⟨.char, "c = ','".toList⟩ := by
    decide +kernel
  obtain rfl := Option.some.inj (hhd.symm.trans (hlines l hl hnumber))
  obtain ⟨rfl, rfl⟩ := hcomma (by decide +kernel)
  exact hfilter

end GatedRun

end VarDecl
