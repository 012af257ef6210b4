import VarDecl.Gate
import VarDecl.Proofs.Analysis.Passing
import VarDecl.Proofs.Analysis.Renumbering
import VarDecl.Proofs.Comment.Blanks

/-!
# Layout

An analysis sees of each line its number and its text between the blanks, and of the numbers only
the order. So blanks at the ends of lines and empty lines between them do not matter.

* `Source.texts`: the numbered texts of a source, which stay the same when lines are padded
  (`Source.texts_of_isPadded`) and are renumbered when an empty line comes between them
  (`Source.texts_insert_nil`);
* `analyze_renumber`: sources with the same texts under other numbers have the same analysis under
  these numbers;
* `layout_irrelevant`: any blanks at the ends of lines, other line ends, and an empty line.
-/

namespace VarDecl

open Text

/-! ### Numbered texts -/

/-- A line without the blanks around its text. -/
def SourceLine.trimmed (l : SourceLine) : SourceLine := ⟨l.number, l.text⟩

theorem SourceLine.text_trimmed (l : SourceLine) : l.trimmed.text = l.text := trim_trim l.raw

theorem SourceLine.isBlank_trimmed (l : SourceLine) : l.trimmed.isBlank = l.isBlank := by
  rw [SourceLine.isBlank, SourceLine.text_trimmed, SourceLine.isBlank]

namespace Source

variable {strip : Bool} {source t u : Text} {n : Nat} {ls ms us vs ws : List Text}

/-- The texts of the lines that are not blank, with their numbers. -/
def texts (strip : Bool) (source : Text) : List SourceLine :=
  (nonblankLines strip source).map SourceLine.trimmed

/-- The lines of a source, comments removed or not, before they are numbered. -/
def rawLines (strip : Bool) (source : Text) : List Text :=
  if strip then Comment.stripLines .code source.lines else source.lines

theorem nonblankLines_eq (strip : Bool) (source : Text) :
    nonblankLines strip source = (numberFrom 1 (rawLines strip source)).filter (!·.isBlank) := by
  cases strip with
  | false => rfl
  | true =>
    rw [rawLines, if_pos rfl, ← Comment.lines_stripFrom]
    rfl

theorem texts_eq (strip : Bool) (source : Text) : texts strip source
    = ((numberFrom 1 (rawLines strip source)).map SourceLine.trimmed).filter (!·.isBlank) := by
  have hblank : (fun l : SourceLine => !l.isBlank) ∘ SourceLine.trimmed = fun l => !l.isBlank := by
    funext l
    rw [Function.comp, SourceLine.isBlank_trimmed]
  rw [texts, nonblankLines_eq, List.filter_map, hblank]

/-! ### Padded lines -/

theorem map_trimmed_of_isPadded (h : List.Forall₂ IsPadded ws vs) :
    (numberFrom n vs).map SourceLine.trimmed = (numberFrom n ws).map SourceLine.trimmed := by
  induction h generalizing n with
  | nil => rfl
  | @cons w v _ _ hline _ ih =>
    have htrimmed : SourceLine.trimmed ⟨n, v⟩ = SourceLine.trimmed ⟨n, w⟩ :=
      congrArg (SourceLine.mk n) hline.trim_eq
    rw [numberFrom, numberFrom, List.map_cons, List.map_cons, htrimmed, ih]

theorem texts_of_rawLines (h : List.Forall₂ IsPadded (rawLines strip t) (rawLines strip u)) :
    texts strip u = texts strip t := by
  rw [texts_eq, texts_eq, map_trimmed_of_isPadded h]

/-- Blanks at the ends of lines do not show in the texts, with comments or without. -/
theorem texts_of_isPadded (strip : Bool) (h : List.Forall₂ IsPadded t.lines u.lines) :
    texts strip u = texts strip t := by
  apply texts_of_rawLines
  cases strip with
  | false => exact h
  | true => exact Comment.forall₂_isPadded_stripLines trivial h

theorem all_isBlank_of_isPadded {v w : Text} (h : IsPadded w v) :
    v.all Text.isBlank = w.all Text.isBlank := by
  obtain ⟨l, r, rfl, hl, hr⟩ := h
  have hleft : l.all Text.isBlank = true := List.all_eq_true.2 fun c hc => (hl c hc).1
  have hright : r.all Text.isBlank = true := List.all_eq_true.2 fun c hc => (hr c hc).1
  rw [List.all_append, List.all_append, hleft, hright, Bool.true_and, Bool.and_true]

theorem isEmpty_of_isPadded (h : List.Forall₂ IsPadded t.lines u.lines) :
    isEmpty u = isEmpty t := by
  rw [isEmpty_eq_all_lines, isEmpty_eq_all_lines]
  generalize t.lines = ws at h
  generalize u.lines = vs at h
  induction h with
  | nil => rfl
  | cons hline _ ih => rw [List.all_cons, List.all_cons, all_isBlank_of_isPadded hline, ih]

/-! ### An empty line -/

/-- The numbers of lines when an empty line comes in behind the first `k` of them. -/
def makeRoom (k n : Nat) : Nat := if k < n then n + 1 else n

theorem map_makeRoom_of_le {k : Nat} (h : n + ls.length ≤ k + 1) :
    (numberFrom n ls).map (·.renumber (makeRoom k)) = numberFrom n ls := by
  rw [List.map_congr_left (g := id), List.map_id]
  intro l hl
  have hnumber : l.number ≤ k := by
    have := (number_of_mem_numberFrom hl).2
    omega
  rw [SourceLine.renumber, makeRoom, if_neg (by omega)]
  rfl

theorem map_makeRoom_of_lt {k : Nat} (h : k < n) :
    (numberFrom n ls).map (·.renumber (makeRoom k)) = numberFrom (n + 1) ls := by
  rw [numberFrom_add]
  apply List.map_congr_left
  intro l hl
  have hnumber := (number_of_mem_numberFrom hl).1
  rw [SourceLine.renumber, makeRoom, if_pos (by omega)]
  rfl

/-- An empty line among others moves those behind it. -/
theorem numberFrom_insert_nil (us vs : List Text) :
    (numberFrom 1 (us ++ [] :: vs)).filter (!·.isBlank)
      = ((numberFrom 1 (us ++ vs)).filter (!·.isBlank)).map (·.renumber (makeRoom us.length)) := by
  have hblank : (fun l : SourceLine => !l.isBlank)
      ∘ (fun l : SourceLine => l.renumber (makeRoom us.length)) = fun l => !l.isBlank := rfl
  have hempty : SourceLine.isBlank ⟨1 + us.length, []⟩ = true := rfl
  conv_rhs => rw [← hblank, ← List.filter_map]
  rw [numberFrom_append, numberFrom_append, List.map_append, map_makeRoom_of_le (by omega),
    map_makeRoom_of_lt (by omega), List.filter_append, List.filter_append, numberFrom,
    List.filter_cons_of_neg (by rw [hempty]; exact Bool.false_ne_true)]

theorem exists_rawLines_insert_nil (strip : Bool) (hlines : t.lines = ls ++ ms)
    (hlines' : u.lines = ls ++ [] :: ms) : ∃ us vs, rawLines strip t = us ++ vs ∧
      rawLines strip u = us ++ [] :: vs ∧ us.length = ls.length := by
  cases strip with
  | false => exact ⟨ls, ms, hlines, hlines', rfl⟩
  | true =>
    refine ⟨Comment.stripLines .code ls, Comment.stripLines (Comment.modeBehind .code ls) ms,
      ?_, ?_, Comment.length_stripLines .code ls⟩
    · rw [rawLines, if_pos rfl, hlines, Comment.stripLines_append]
    · rw [rawLines, if_pos rfl, hlines', Comment.stripLines_insert_nil rfl]

/-- The texts behind an empty line have greater numbers. -/
theorem texts_insert_nil (strip : Bool) (hlines : t.lines = ls ++ ms)
    (hlines' : u.lines = ls ++ [] :: ms) :
    texts strip u = (texts strip t).map (·.renumber (makeRoom ls.length)) := by
  obtain ⟨us, vs, ht, hu, hlength⟩ := exists_rawLines_insert_nil strip hlines hlines'
  rw [texts, texts, nonblankLines_eq, nonblankLines_eq, hu, ht, numberFrom_insert_nil, hlength,
    List.map_map, List.map_map]
  rfl

theorem isEmpty_insert_nil (hlines : t.lines = ls ++ ms) (hlines' : u.lines = ls ++ [] :: ms) :
    isEmpty u = isEmpty t := by
  rw [isEmpty_eq_all_lines, isEmpty_eq_all_lines, hlines, hlines', List.all_append, List.all_append,
    List.all_cons, List.all_nil, Bool.true_and]

end Source

namespace Analysis

variable {σ : Settings} {f : Nat → Nat} {source t u : Text} {ls ms : List Text}

/-! ### Analyses of texts -/

theorem map_renumber_noDeclarationsIf (f : Nat → Nat) (b : Bool) :
    (noDeclarationsIf b).map (·.renumber f) = noDeclarationsIf b := by
  cases b <;> rfl

theorem ofEmptySource_renumber (s : Stage) (f : Nat → Nat) :
    (ofEmptySource s).renumber f = ofEmptySource s := by
  cases s <;> rfl

/-- A check that sees the number and the text of a line, the number only to copy it, finds the same
in the same texts under other numbers. -/
theorem map_nonblankLines_renumber {α : Type} {g : α → α} {strip : Bool}
    {check : SourceLine → Except Diagnostic α} (htrimmed : ∀ l, check l.trimmed = check l)
    (hcheck : ∀ l, check (l.renumber f) = renumberOutcome g f (check l))
    (htexts : Source.texts strip u = (Source.texts strip t).map (·.renumber f)) :
    (Source.nonblankLines strip u).map check
      = ((Source.nonblankLines strip t).map check).map (renumberOutcome g f) := by
  have hmap : ∀ source, (Source.nonblankLines strip source).map check
      = (Source.texts strip source).map check := fun source => by
    rw [Source.texts, List.map_map]
    exact List.map_congr_left fun l _ => (htrimmed l).symm
  rw [hmap, hmap, htexts, List.map_map, List.map_map]
  exact List.map_congr_left fun l _ => hcheck l

theorem Lexical.outcomes_of_texts (htexts : Source.texts σ.stripComments u
      = (Source.texts σ.stripComments t).map (·.renumber f)) :
    Lexical.outcomes σ u = (Lexical.outcomes σ t).map (renumberOutcome (·.renumber f) f) := by
  refine map_nonblankLines_renumber (fun l => ?_) (Lexical.checkLine_renumber σ.threshold f) htexts
  rw [Lexical.checkLine, Lexical.checkLine, l.text_trimmed]
  rfl

theorem Grammatical.outcomes_of_texts (htexts : Source.texts σ.stripComments u
      = (Source.texts σ.stripComments t).map (·.renumber f)) :
    Grammatical.outcomes σ u
      = (Grammatical.outcomes σ t).map (renumberOutcome (·.renumber f) f) := by
  refine map_nonblankLines_renumber (fun l => ?_) (Grammatical.checkLine_renumber σ.threshold f)
    htexts
  rw [Grammatical.checkLine, Grammatical.checkLine, l.text_trimmed]
  rfl

namespace Semantic

theorem itemsOfLine_trimmed (l : SourceLine) : itemsOfLine l.trimmed = itemsOfLine l := by
  rw [itemsOfLine, itemsOfLine, l.text_trimmed]
  rfl

/-- What lines hold can be read off their texts. -/
theorem items_texts (strict strip : Bool) (source : Text) :
    items strict (Source.texts strip source)
      = items strict (Source.nonblankLines strip source) := by
  simp only [items, Source.texts, List.flatMap_map, itemsOfLine_trimmed]

theorem outcomesOf_of_texts (htexts : Source.texts σ.stripComments u
      = (Source.texts σ.stripComments t).map (·.renumber f)) :
    outcomesOf σ u = (outcomesOf σ t).map (renumberOutcome (·.renumber f) f) := by
  rw [outcomesOf, outcomesOf, ← items_texts, ← items_texts, htexts, items_renumber,
    outcomes_renumber]

theorem any_isDeclarationLine_of_texts {strip : Bool}
    (htexts : Source.texts strip u = (Source.texts strip t).map (·.renumber f)) :
    (Source.nonblankLines strip u).any isDeclarationLine
      = (Source.nonblankLines strip t).any isDeclarationLine := by
  have hany : ∀ source, (Source.nonblankLines strip source).any isDeclarationLine
      = (Source.texts strip source).any isDeclarationLine := fun source => by
    rw [Source.texts, List.any_map]
    congr 1
    funext l
    rw [Function.comp, isDeclarationLine, isDeclarationLine, l.text_trimmed]
  rw [hany, hany, htexts, List.any_map]
  rfl

end Semantic

/-- Sources with the same texts under other numbers have the same analysis under these numbers. -/
theorem analyze_renumber (s : Stage) (hempty : Source.isEmpty u = Source.isEmpty t)
    (htexts : Source.texts σ.stripComments u
      = (Source.texts σ.stripComments t).map (·.renumber f)) :
    s.analyze σ u = (s.analyze σ t).renumber f := by
  cases ht : Source.isEmpty t with
  | true =>
    rw [analyze_of_isEmpty s (hempty.trans ht), analyze_of_isEmpty s ht, ofEmptySource_renumber]
  | false =>
    have hu := hempty.trans ht
    cases s with
    | lexical =>
      simp only [Stage.analyze, Lexical.analyze_eq hu, Lexical.analyze_eq ht,
        Lexical.outcomes_of_texts htexts, accepted_map_renumberOutcome,
        rejected_map_renumberOutcome, List.isEmpty_map, Analysis.renumber, Findings.renumber,
        List.map_append, map_renumber_noDeclarationsIf]
    | grammatical =>
      simp only [Stage.analyze, Grammatical.analyze_eq hu, Grammatical.analyze_eq ht,
        Grammatical.outcomes_of_texts htexts, accepted_map_renumberOutcome,
        rejected_map_renumberOutcome, List.isEmpty_map, Analysis.renumber, Findings.renumber,
        List.map_append, map_renumber_noDeclarationsIf]
    | semantic =>
      simp only [Stage.analyze, Semantic.analyze_eq hu, Semantic.analyze_eq ht,
        Semantic.outcomesOf_of_texts htexts, Semantic.any_isDeclarationLine_of_texts htexts,
        accepted_map_renumberOutcome, rejected_map_renumberOutcome, Semantic.tableOf_map_renumber,
        Analysis.renumber, Findings.renumber, List.map_append, map_renumber_noDeclarationsIf]

theorem renumber_id (a : Analysis) : a.renumber id = a := by
  have hτ : (fun τ : TokenizedLine => τ.renumber id) = id := rfl
  have hδ : (fun δ : Declaration => δ.renumber id) = id := rfl
  have hd : (fun d : Diagnostic => d.renumber id) = id := by
    funext d
    rw [Diagnostic.renumber, Option.map_id]
    rfl
  obtain ⟨findings, ds⟩ := a
  cases findings <;> simp [Analysis.renumber, Findings.renumber, hτ, hδ, hd]

/-- Sources with the same texts have the same analysis. -/
theorem analyze_of_texts (s : Stage) (hempty : Source.isEmpty u = Source.isEmpty t)
    (htexts : Source.texts σ.stripComments u = Source.texts σ.stripComments t) :
    s.analyze σ u = s.analyze σ t := by
  have hid : (fun l : SourceLine => l.renumber id) = id := rfl
  rw [← renumber_id (s.analyze σ t)]
  exact analyze_renumber s hempty (by rw [hid, List.map_id, htexts])

/-! ### Layout -/

/-- Each line end of a text written as a carriage return and a newline. -/
def withReturns (t : Text) : Text := t.flatMap fun c => if c = '\n' then ['\r', '\n'] else [c]

theorem withReturns_newline_cons (t : Text) :
    withReturns ('\n' :: t) = '\r' :: '\n' :: withReturns t := rfl

theorem withReturns_cons_of_ne {c : Char} (h : c ≠ '\n') (t : Text) :
    withReturns (c :: t) = c :: withReturns t := by
  rw [withReturns, List.flatMap_cons, if_neg h]
  rfl

/-- Lines gain a carriage return at most, and at their ends only. -/
theorem forall₂_lines_withReturns (t : Text) :
    List.Forall₂ (fun w v => ∃ r, v = w ++ r ∧ IsGap r) t.lines (withReturns t).lines := by
  induction t with
  | nil => exact .cons ⟨[], rfl, isGap_nil⟩ .nil
  | cons c t ih =>
    by_cases hc : c = '\n'
    · have hreturn : lines ['\r'] = [['\r']] := lines_eq_singleton (by decide)
      have hlines := lines_append_newline ['\r'] (withReturns t)
      rw [hreturn] at hlines
      rw [hc, withReturns_newline_cons, lines_newline_cons]
      exact hlines ▸ .cons ⟨['\r'], rfl, by decide⟩ ih
    · -- The character goes to the start of the first line, which is why blanks there would not do.
      rw [withReturns_cons_of_ne hc, lines_cons_of_ne hc, lines_cons_of_ne hc]
      generalize lines t = ws at ih
      generalize lines (withReturns t) = vs at ih
      cases ih with
      | nil => exact .nil
      | cons hline hlines =>
        obtain ⟨r, rfl, hr⟩ := hline
        exact .cons ⟨r, rfl, hr⟩ hlines

/-- Carriage returns are blanks at the ends of lines. -/
theorem isPadded_lines_withReturns (t : Text) :
    List.Forall₂ IsPadded t.lines (withReturns t).lines :=
  (forall₂_lines_withReturns t).imp fun _ _ ⟨r, hr, hgap⟩ => ⟨[], r, hr, isGap_nil, hgap⟩

theorem analyze_of_isPadded (s : Stage) (σ : Settings) (h : List.Forall₂ IsPadded t.lines u.lines) :
    s.analyze σ u = s.analyze σ t :=
  analyze_of_texts s (Source.isEmpty_of_isPadded h) (Source.texts_of_isPadded σ.stripComments h)

/-- An empty line moves what is found behind it by one line. -/
theorem analyze_insert_nil (s : Stage) (σ : Settings) (hlines : source.lines = ls ++ ms) :
    s.analyze σ (List.intercalate ['\n'] (ls ++ [] :: ms))
      = (s.analyze σ source).renumber (Source.makeRoom ls.length) := by
  have hlines' : lines (List.intercalate ['\n'] (ls ++ [] :: ms)) = ls ++ [] :: ms :=
    lines_insert (fun w hw => notMem_of_mem_lines (t := source) (hlines ▸ hw)) List.not_mem_nil
  exact analyze_renumber s (Source.isEmpty_insert_nil hlines hlines')
    (Source.texts_insert_nil σ.stripComments hlines hlines')

/-- Blanks at the ends of lines and carriage returns change no analysis, and an empty line changes
the line numbers behind it only. -/
theorem layout_irrelevant (s : Stage) (σ : Settings) (source : Text) :
    (∀ padded, List.Forall₂ IsPadded source.lines padded.lines →
      s.analyze σ padded = s.analyze σ source) ∧
    s.analyze σ (withReturns source) = s.analyze σ source ∧
    ∀ ls ms, source.lines = ls ++ ms →
      s.analyze σ (List.intercalate ['\n'] (ls ++ [] :: ms))
        = (s.analyze σ source).renumber (Source.makeRoom ls.length) :=
  ⟨fun _ hpadded => analyze_of_isPadded s σ hpadded,
    analyze_of_isPadded s σ (isPadded_lines_withReturns source),
    fun _ _ hlines => analyze_insert_nil s σ hlines⟩

/-- Blanks behind a trailing backslash, behind an open comment and before the slash that closes it,
and an empty line in the comment. -/
theorem layout_irrelevant_open :
    Stage.semantic.analyze .default "char c = 'a\\\t\r\nint b; /* * \n\t/ */ int d = 1;  ".toList
        = Stage.semantic.analyze .default "char c = 'a\\\nint b; /* *\n/ */ int d = 1;".toList ∧
      Stage.semantic.analyze .default "char c = 'a\\\nint b; /* *\n\n/ */ int d = 1;".toList
        = (Stage.semantic.analyze .default
            "char c = 'a\\\nint b; /* *\n/ */ int d = 1;".toList).renumber (Source.makeRoom 2) := by
  have hlines : lines "char c = 'a\\\nint b; /* *\n/ */ int d = 1;".toList
      = ["char c = 'a\\".toList, "int b; /* *".toList] ++ ["/ */ int d = 1;".toList] := by decide
  have hpadded : lines "char c = 'a\\\t\r\nint b; /* * \n\t/ */ int d = 1;  ".toList
      = ["char c = 'a\\\t\r".toList, "int b; /* * ".toList, "\t/ */ int d = 1;  ".toList] := by
    decide
  obtain ⟨hirrelevant, -, hinsert⟩ := layout_irrelevant .semantic .default
    "char c = 'a\\\nint b; /* *\n/ */ int d = 1;".toList
  refine ⟨hirrelevant _ ?_, hinsert _ _ hlines⟩
  rw [hlines, hpadded]
  exact .cons ⟨[], "\t\r".toList, rfl, isGap_nil, by decide⟩ <|
    .cons ⟨[], [' '], rfl, isGap_nil, by decide⟩ <|
    .cons ⟨['\t'], "  ".toList, rfl, by decide, by decide⟩ .nil

end Analysis

end VarDecl
