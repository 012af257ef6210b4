import VarDecl.Proofs.Comment.Openers
import VarDecl.Proofs.Expression.Operators
import VarDecl.Proofs.Expression.Pairing
import VarDecl.Proofs.Expression.Words

/-!
# Where the literals of an expression are

Four readers know the literals of an expression: the scan of its top level, the reader of fragments,
the search for the partner of a parenthesis and the removal of comments. They agree on them.

* `literalsRead inside t`: the literals of `t` with their positions for a reader of which
  `inside u` tells whether it is inside a literal after the text `u`. Only the texts that `t` starts
  with matter (`literalsRead_congr`);
* `quotedFragments t`: the quoted fragments of `t` with their positions. They are the literals of
  the scan, if the scan ends outside of them (`literalsFrom_scan`);
* `literals_agree`: all four find the same literals.
-/

namespace VarDecl.Expression

open Text Literal

variable {inside inside' : Text → Bool} {before opened s t r : Text} {q : Char} {n : Nat}

/-! ### Literals for a reader -/

/-- The literals of the rest of a text with their positions, where `before` and then `opened` have
been read, and `opened` is what was read of a literal that is still open. -/
def literalsFrom (inside : Text → Bool) (before opened : Text) : Text → List (Nat × Text)
  | [] => []
  | c :: r =>
    if inside (before ++ (opened ++ [c])) then literalsFrom inside before (opened ++ [c]) r
    else if opened.isEmpty then literalsFrom inside (before ++ [c]) [] r
    else (before.length, opened ++ [c]) :: literalsFrom inside (before ++ (opened ++ [c])) [] r

/-- The literals of a text with their positions, from the opening to the closing quote. -/
def literalsRead (inside : Text → Bool) (t : Text) : List (Nat × Text) :=
  literalsFrom inside [] [] t

theorem literalsFrom_cons_of_inside {c : Char} (h : inside (before ++ (opened ++ [c])) = true)
    (t : Text) : literalsFrom inside before opened (c :: t)
      = literalsFrom inside before (opened ++ [c]) t := by
  rw [literalsFrom, if_pos h]

theorem literalsFrom_cons_of_outside {c : Char} (h : inside (before ++ [c]) = false) (t : Text) :
    literalsFrom inside before [] (c :: t) = literalsFrom inside (before ++ [c]) [] t := by
  rw [literalsFrom, List.nil_append, h]
  rfl

theorem literalsFrom_cons_of_closing {c : Char} (h : inside (before ++ (opened ++ [c])) = false)
    (hne : opened ≠ []) (t : Text) : literalsFrom inside before opened (c :: t)
      = (before.length, opened ++ [c])
        :: literalsFrom inside (before ++ (opened ++ [c])) [] t := by
  rw [literalsFrom, h, List.isEmpty_eq_false_iff.2 hne]
  rfl

theorem literalsFrom_congr (h : ∀ u, u <+: t →
    inside (before ++ (opened ++ u)) = inside' (before ++ (opened ++ u))) :
    literalsFrom inside before opened t = literalsFrom inside' before opened t := by
  induction t generalizing before opened with
  | nil => rfl
  | cons c t ih =>
    have hc := h [c] ((List.prefix_append [c] t))
    have hrest : ∀ u, u <+: t →
        inside (before ++ (opened ++ (c :: u))) = inside' (before ++ (opened ++ (c :: u))) :=
      fun u hu => h (c :: u) (List.cons_prefix_cons.2 ⟨rfl, hu⟩)
    rw [literalsFrom, literalsFrom, hc]
    split_ifs with h₁ h₂
    · exact ih fun u hu => by simpa using hrest u hu
    · rw [List.isEmpty_iff] at h₂
      exact ih fun u hu => by simpa [h₂] using hrest u hu
    · exact congrArg _ (ih fun u hu => by simpa using hrest u hu)

/-- Readers that are inside literals at the same places of a text read the same literals. -/
theorem literalsRead_congr (h : ∀ u, u <+: t → inside u = inside' u) :
    literalsRead inside t = literalsRead inside' t :=
  literalsFrom_congr h

/-! ### The scan -/

/-- Whether the scan is inside a literal after a text. -/
def Scan.isInside (t : Text) : Bool := (Scan.start.run t).quote.isSome

theorem isInside_of_run {quote : Option Char} {e : Bool} (h : Scan.start.run t = ⟨quote, e, n⟩) :
    Scan.isInside t = quote.isSome := by
  rw [Scan.isInside, h]

theorem run_concat {st : Scan} {c : Char} (h : Scan.start.run before = st) :
    Scan.start.run (before ++ [c]) = st.step c := by
  rw [Scan.run_append, h]
  rfl

/-- A character that is no quote is of no literal. -/
theorem literalsFrom_cons_of_ne_quote {c : Char} (hrun : Scan.start.run before = ⟨none, false, n⟩)
    (h₁ : c ≠ '"') (h₂ : c ≠ '\'') (t : Text) :
    literalsFrom Scan.isInside before [] (c :: t)
      = literalsFrom Scan.isInside (before ++ [c]) [] t := by
  obtain ⟨m, hm⟩ := exists_step_of_ne_quote (n := n) h₁ h₂
  exact literalsFrom_cons_of_outside (isInside_of_run ((run_concat hrun).trans hm)) t

/-- Text without quotes and parentheses is of no literal. -/
theorem literalsFrom_append_of_isPlain (hrun : Scan.start.run before = ⟨none, false, n⟩)
    (hs : ∀ c ∈ s, IsPlain c) (t : Text) : literalsFrom Scan.isInside before [] (s ++ t)
      = literalsFrom Scan.isInside (before ++ s) [] t := by
  induction s generalizing before with
  | nil => rw [List.nil_append, List.append_nil]
  | cons c s ih =>
    obtain ⟨hc, hs⟩ := List.forall_mem_cons.1 hs
    have hrun' := (run_concat hrun).trans (step_of_isPlain rfl hc)
    rw [List.cons_append, literalsFrom_cons_of_ne_quote hrun hc.1 hc.2.1, ih hrun' hs,
      List.append_assoc, List.singleton_append]

/-- The rest of a span is the rest of a literal. -/
theorem literalsFrom_append_of_closes (hq : q ≠ '\\') (h : Closes q s) (hne : opened ≠ [])
    (hrun : Scan.start.run (before ++ opened) = ⟨some q, false, n⟩) (t : Text) :
    literalsFrom Scan.isInside before opened (s ++ t)
      = (before.length, opened ++ s)
        :: literalsFrom Scan.isInside (before ++ (opened ++ s)) [] t := by
  have hstep : ∀ {opened : Text} {st : Scan} (c : Char), Scan.start.run (before ++ opened) = st →
      Scan.start.run (before ++ (opened ++ [c])) = st.step c := fun c h => by
    rw [← List.append_assoc]
    exact run_concat h
  have hconcat : ∀ (opened : Text) (c : Char), opened ++ [c] ≠ [] := fun opened c =>
    List.append_ne_nil_of_right_ne_nil opened (List.cons_ne_nil c [])
  induction h generalizing opened with
  | close =>
    have hout : Scan.step ⟨some q, false, n⟩ q = ⟨none, false, n⟩ := by simp [Scan.step, hq]
    exact literalsFrom_cons_of_closing (isInside_of_run ((hstep q hrun).trans hout)) hne t
  | @escape c s _ _ ih =>
    have hbackslash := hstep '\\' hrun
    have hescaped := hstep c hbackslash
    rw [List.cons_append, List.cons_append,
      literalsFrom_cons_of_inside (isInside_of_run hbackslash),
      literalsFrom_cons_of_inside (isInside_of_run hescaped), ih (hconcat _ c) hescaped]
    simp
  | @plain c s hc hc' _ ih =>
    have hplain := (hstep c hrun).trans (step_of_ne hc hc')
    rw [List.cons_append, literalsFrom_cons_of_inside (isInside_of_run hplain),
      ih (hconcat _ c) hplain]
    simp

/-- A quoted span is a literal. -/
theorem literalsFrom_append_of_span (hrun : Scan.start.run before = ⟨none, false, n⟩)
    (hq : q = '"' ∨ q = '\'') (h : Closes q s) (t : Text) :
    literalsFrom Scan.isInside before [] (q :: s ++ t)
      = (before.length, q :: s) :: literalsFrom Scan.isInside (before ++ q :: s) [] t := by
  have hne : q ≠ '\\' := by rcases hq with rfl | rfl <;> decide
  have hstep : Scan.step ⟨none, false, n⟩ q = ⟨some q, false, n⟩ := by simp [Scan.step, hq]
  have hopen := (run_concat hrun).trans hstep
  rw [List.cons_append, literalsFrom_cons_of_inside (isInside_of_run hopen), List.nil_append,
    literalsFrom_append_of_closes hne h (List.cons_ne_nil q []) hopen, List.singleton_append]

/-! ### Quoted fragments -/

/-- The fragments among segments with their positions, where the first segment stands at `i`. -/
def placed (i : Nat) : List Segment → List (Nat × Text)
  | [] => []
  | .skipped _ :: ss => placed (i + 1) ss
  | .fragment f :: ss => (i, f) :: placed (i + f.length) ss

/-- The quoted fragments of an expression with their positions. -/
def quotedFragments (t : Text) : List (Nat × Text) :=
  (placed 0 (segments t)).filter fun f => IsQuoted f.2

theorem map_snd_placed (i : Nat) (ss : List Segment) :
    (placed i ss).map Prod.snd = ss.filterMap Segment.fragment? := by
  induction ss generalizing i with
  | nil => rfl
  | cons d ss ih =>
    cases d with
    | skipped c => exact ih (i + 1)
    | fragment f => exact congrArg (f :: ·) (ih (i + f.length))

/-- Without their positions they are the quoted ones among the fragments. -/
theorem map_snd_quotedFragments (t : Text) :
    (quotedFragments t).map Prod.snd = (fragments t).filter fun f => IsQuoted f := by
  rw [← filterMap_segments, ← map_snd_placed 0, List.filter_map]
  rfl

/-- A fragment is a quoted span, or has neither quotes nor parentheses. -/
theorem closes_or_isPlain_of_fragment? (h : fragment? t = some (s, r)) :
    (∃ q s', (q = '"' ∨ q = '\'') ∧ s = q :: s' ∧ Closes q s') ∨ ∀ c ∈ s, IsPlain c := by
  have hspan : ∀ q, q = '"' ∨ q = '\'' → span? q t = some (s, r) →
      ∃ q s', (q = '"' ∨ q = '\'') ∧ s = q :: s' ∧ Closes q s' := by
    intro q hq hspan
    obtain ⟨-, s', rfl, hclose⟩ := append_of_span? hspan
    exact ⟨q, s', hq, rfl, closes_of_closing? hclose⟩
  simp only [fragment?, Option.or_eq_some_iff] at h
  rcases h with h | ⟨-, h | ⟨-, h | ⟨-, h⟩⟩⟩
  · exact Or.inl (hspan _ (Or.inl rfl) h)
  · exact Or.inl (hspan _ (Or.inr rfl) h)
  · exact Or.inr (isPlain_of_scientific? h)
  · obtain ⟨-, -, hchars, -⟩ := append_of_wordRun? h
    exact Or.inr fun c hc => isPlain_of_isFragmentChar (hchars c hc)

theorem not_isQuoted_of_isPlain (h : ∀ c ∈ s, IsPlain c) : ¬IsQuoted s := by
  rintro (hs | hs)
  · exact (h _ (List.mem_of_mem_head? hs)).1 rfl
  · exact (h _ (List.mem_of_mem_head? hs)).2.1 rfl

/-- The literals of the scan are the quoted fragments, if the scan ends outside literals. -/
theorem literalsFrom_scan (hrun : Scan.start.run before = ⟨none, false, n⟩) (hnl : '\n' ∉ t)
    (hend : (Scan.run ⟨none, false, n⟩ t).quote = none) :
    literalsFrom Scan.isInside before [] t
      = (placed before.length (segments t)).filter fun f => IsQuoted f.2 := by
  fun_induction segments t generalizing before n with
  | case1 => rfl
  | case2 c t s r h ih =>
    have heq := append_of_fragment? h
    rw [heq, Scan.run_append, run_of_fragment? h] at hend
    have hnl' : '\n' ∉ r := fun hm => hnl (by rw [heq]; exact List.mem_append_right s hm)
    have hrun' : Scan.start.run (before ++ s) = ⟨none, false, n⟩ := by
      rw [Scan.run_append, hrun, run_of_fragment? h]
    have hrest := ih hrun' hnl' hend
    rw [List.length_append] at hrest
    rw [heq, placed]
    rcases closes_or_isPlain_of_fragment? h with ⟨q, s', hq, rfl, hs⟩ | hplain
    · have hquoted : IsQuoted (q :: s') := by
        rcases hq with rfl | rfl
        · exact Or.inl rfl
        · exact Or.inr rfl
      rw [literalsFrom_append_of_span hrun hq hs, hrest,
        List.filter_cons_of_pos (by simpa using hquoted)]
    · rw [literalsFrom_append_of_isPlain hrun hplain, hrest,
        List.filter_cons_of_neg (by simpa using not_isQuoted_of_isPlain hplain)]
  | case3 c t h ih =>
    have hnl' : '\n' ∉ t := fun hm => hnl (List.mem_cons_of_mem c hm)
    -- A quote would open a literal that nothing closes.
    obtain ⟨h₁, h₂⟩ := ne_quote_of_fragment?_eq_none hnl' hend h
    obtain ⟨m, hm⟩ := exists_step_of_ne_quote (n := n) h₁ h₂
    rw [Scan.run_cons, hm] at hend
    rw [literalsFrom_cons_of_ne_quote hrun h₁ h₂, ih ((run_concat hrun).trans hm) hnl' hend,
      List.length_append, placed]
    rfl

/-! ### Comments -/

/-- Whether the reader of comments is inside a literal after a text. -/
def insideForComments (t : Text) : Bool :=
  match Comment.modeAfter t with
  | .literal _ => true
  | _ => false

theorem insideForComments_eq (hnl : '\n' ∉ t) (h : Comment.NoOpener .start t) :
    insideForComments t = Scan.isInside t := by
  have hwhole : Comment.IsWhole .start := ⟨rfl, by decide⟩
  have hmode : Comment.modeAfter t = Comment.modeOf (Scan.start.run t) :=
    (Comment.read_of_noOpener hwhole hnl h).2
  rw [insideForComments, hmode, Comment.modeOf, Scan.isInside]
  cases (Scan.start.run t).quote <;> rfl

/-! ### All readers -/

/-- In a line after which the scan is outside literals, its literals are the quoted ones among the
fragments. They are those that the search for a partner passes, if it goes through the whole line;
what it finds is the closing index of a parenthesis at the start. And they are those that the
removal of comments sees, if no comment starts outside them; then nothing is removed. -/
theorem literals_agree (hnl : '\n' ∉ t) (hend : (Scan.start.run t).quote = none) :
    quotedFragments t = literalsRead Scan.isInside t ∧
      (quotedFragments t).map Prod.snd = (fragments t).filter (fun f => IsQuoted f) ∧
      (partner? t = none ∨ partner? t = some (t.length - 1) →
        literalsRead Search.isInside t = literalsRead Scan.isInside t) ∧
      (t.head? = some '(' → partner? t = closingIndexFrom .start 0 t) ∧
      (Comment.NoOpener .start t →
        literalsRead insideForComments t = literalsRead Scan.isInside t ∧
          Comment.strip t = t) := by
  have hscan : literalsRead Scan.isInside t = quotedFragments t := literalsFrom_scan rfl hnl hend
  refine ⟨hscan.symm, map_snd_quotedFragments t, fun hwhole => ?_, partner?_eq_closingIndexFrom,
    fun hopener => ⟨?_, ?_⟩⟩
  · exact literalsRead_congr fun u hu => isInside_eq_of_partner? hwhole hu
  · refine literalsRead_congr fun u hu => ?_
    obtain ⟨v, rfl⟩ := hu
    exact insideForComments_eq (fun hm => hnl (List.mem_append_left v hm)) hopener.of_append
  · have hwhole : Comment.IsWhole .start := ⟨rfl, by decide⟩
    exact (Comment.read_of_noOpener hwhole hnl hopener).1

/-- Escaped quotes, a parenthesis and slashes in literals and a slash outside of them mislead none
of the readers. -/
theorem literals_agree_escapes :
    quotedFragments "(\"\\\")//\"/'\\'')".toList
        = [(1, "\"\\\")//\"".toList), (9, "'\\''".toList)] ∧
      literalsRead Search.isInside "(\"\\\")//\"/'\\'')".toList
        = [(1, "\"\\\")//\"".toList), (9, "'\\''".toList)] ∧
      closingIndexFrom .start 0 "(\"\\\")//\"/'\\'')".toList = some 13 ∧
      literalsRead insideForComments "(\"\\\")//\"/'\\'')".toList
        = [(1, "\"\\\")//\"".toList), (9, "'\\''".toList)] ∧
      Comment.strip "(\"\\\")//\"/'\\'')".toList = "(\"\\\")//\"/'\\'')".toList := by
  have hfragments : quotedFragments "(\"\\\")//\"/'\\'')".toList
      = [(1, "\"\\\")//\"".toList), (9, "'\\''".toList)] := by decide +kernel
  have hpartner : partner? "(\"\\\")//\"/'\\'')".toList = some 13 := by decide +kernel
  have hopener : Comment.NoOpener .start "(\"\\\")//\"/'\\'')".toList := by
    simp [Comment.NoOpener, Scan.step, Scan.start]
  obtain ⟨hscan, -, hsearch, hindex, hcomments⟩ :=
    literals_agree (t := "(\"\\\")//\"/'\\'')".toList) (by decide) (by decide +kernel)
  obtain ⟨hread, hstrip⟩ := hcomments hopener
  refine ⟨hfragments, ?_, (hindex rfl).symm.trans hpartner, ?_, hstrip⟩
  · rw [hsearch (Or.inr hpartner), ← hscan, hfragments]
  · rw [hread, ← hscan, hfragments]

end VarDecl.Expression
