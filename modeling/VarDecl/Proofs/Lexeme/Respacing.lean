import VarDecl.Proofs.Lexeme.Condensed

/-!
# Lexemes with blanks between them

The texts of the lexemes of a line, with one blank between any two of them, have these lexemes
again. What could go wrong is that a quote which nothing closes is closed by another one when blanks
come and go before a backslash.

* `Place`: where a reader of pieces is, with respect to quotes. `Place.run` follows a row of pieces
  that a line can have: such a row is read back as it is (`pieces_of_run`), and the pieces of a line
  without newlines are such a row (`isSome_run_pieces`);
* blanks and semicolons only end escapes (`Place.pause`). So a row of pieces may be cut at its
  blanks, and its tokens before their semicolons, and be read with one blank after each part
  (`Place.runAll`);
* `ofLine_lossless`: what a line is to its lexemes.
-/

namespace VarDecl.Lexeme

open Text Literal

variable {ctx : Context} {c : Char} {s t u r w raw : Text} {ws : List Text} {l : Lexeme}
  {ps qs : List Piece} {gs : List (List Piece)}

/-! ### Reading pieces back -/

/-- Where a reader of pieces is: outside quotes, behind a quote that nothing closes, or there behind
a backslash. -/
inductive Place
  | outside
  | opened
  | escaped
  deriving DecidableEq

namespace Place

variable {p q : Place}

/-- One more piece, which has to be one that a line can have there. -/
def next : Place → Piece → Option Place
  | outside, .span s => if span? '"' s = some (s, []) then some outside else none
  | outside, .char c => if c = '"' then some opened else some outside
  | opened, .char c => if c = '"' then none else if c = '\\' then some escaped else some opened
  | escaped, .char c => if c = '\n' then none else some opened
  | _, .span _ => none

/-- A row of pieces. -/
def run : Place → List Piece → Option Place
  | p, [] => some p
  | p, q :: ps => (p.next q).bind fun p' => p'.run ps

@[simp] theorem run_nil (p : Place) : p.run [] = some p := rfl

theorem run_cons (p : Place) (q : Piece) (ps : List Piece) :
    p.run (q :: ps) = (p.next q).bind fun p' => p'.run ps := rfl

theorem run_append (p : Place) (ps qs : List Piece) :
    p.run (ps ++ qs) = (p.run ps).bind fun p' => p'.run qs := by
  induction ps generalizing p with
  | nil => rfl
  | cons q ps ih =>
    rw [List.cons_append, run_cons, run_cons, Option.bind_assoc]
    congr 1
    funext p'
    exact ih p'

/-- What a text has to look like behind a place: no quote closes what is open there. -/
def Keeps : Place → Text → Prop
  | outside, _ => True
  | opened, t => closing? '"' t = none
  | escaped, t => closing? '"' ('\\' :: t) = none

theorem keeps_nil (p : Place) : p.Keeps [] := by
  cases p with
  | outside => trivial
  | opened => rfl
  | escaped => exact closing?_eq_none (by decide)

end Place

open Place

theorem pieces_cons_of_closing? (h : c = '"' → closing? '"' t = none) :
    pieces (c :: t) = .char c :: pieces t := by
  refine pieces_cons_of_none ?_
  by_cases hc : c = '"'
  · rw [span?, if_pos hc, h hc, Option.map_none]
  · rw [span?, if_neg hc]

/-- One piece more in front. -/
theorem pieces_of_next {p p' : Place} {q : Piece} (h : p.next q = some p') (ht : p'.Keeps t) :
    pieces (q.text ++ t) = q :: pieces t ∧ p.Keeps (q.text ++ t) := by
  cases q with
  | span s =>
    cases p with
    | outside =>
      obtain ⟨hspan, -⟩ := Option.ite_none_right_eq_some.1 h
      exact ⟨pieces_of_span? (span?_append_of_some (by decide) hspan t), trivial⟩
    | opened | escaped => cases h
  | char c =>
    cases p with
    | outside =>
      refine ⟨pieces_cons_of_closing? fun hc => ?_, trivial⟩
      rw [next, if_pos hc] at h
      obtain rfl := Option.some.inj h
      exact ht
    | opened =>
      obtain ⟨hc, h⟩ := Option.ite_none_left_eq_some.1 h
      refine ⟨pieces_cons_of_closing? fun hquote => absurd hquote hc, ?_⟩
      split_ifs at h with hslash
      · obtain rfl := Option.some.inj h
        rw [hslash]
        exact ht
      · obtain rfl := Option.some.inj h
        rw [Keeps, Piece.text, List.singleton_append, closing?_cons_of_ne hslash, if_neg hc, ht,
          Option.map_none]
    | escaped =>
      obtain ⟨hc, h⟩ := Option.ite_none_left_eq_some.1 h
      obtain rfl := Option.some.inj h
      refine ⟨pieces_cons_of_closing? fun _ => ht, ?_⟩
      rw [Keeps, Piece.text, List.singleton_append, closing?, if_neg hc, ht, Option.map_none]

/-- A row of pieces that a line can have is read back as it is. -/
theorem pieces_of_run {p : Place} (h : (p.run ps).isSome = true) :
    pieces (ps.flatMap Piece.text) = ps ∧ p.Keeps (ps.flatMap Piece.text) := by
  induction ps generalizing p with
  | nil => exact ⟨pieces_nil, keeps_nil p⟩
  | cons q ps ih =>
    rw [run_cons, Option.isSome_bind] at h
    obtain ⟨p', hnext, hrun⟩ := (Option.any_eq_true _ _).1 h
    obtain ⟨hpieces, hkeeps⟩ := ih hrun
    have hq := pieces_of_next hnext hkeeps
    rwa [hpieces] at hq

/-- Behind a quote that nothing closes each character is a piece. -/
theorem isSome_run_map_char (h : closing? '"' t = none) (hnl : '\n' ∉ t) :
    (opened.run (t.map .char)).isSome = true := by
  fun_induction closing? '"' t with
  | case1 => rfl
  | case2 t => exact absurd (by simp) hnl
  | case3 c t hc ih =>
    have ht : '\n' ∉ t := fun hm => hnl (by simp [hm])
    have hnext : escaped.next (.char c) = some opened := if_neg hc
    have hslash : opened.next (.char '\\') = some escaped := rfl
    rw [List.map_cons, List.map_cons, run_cons, hslash, Option.bind_some, run_cons, hnext]
    exact ih (Option.map_eq_none_iff.1 h) ht
  | case4 t => cases h
  | case5 c t hne hc ih =>
    have ht : '\n' ∉ t := fun hm => hnl (List.mem_cons_of_mem c hm)
    rw [List.map_cons, run_cons, next, if_neg hc]
    split_ifs with hslash
    · -- A backslash that escapes nothing is the last character.
      cases t with
      | nil => rfl
      | cons d t => exact absurd rfl (hne d t hslash)
    · exact ih (Option.map_eq_none_iff.1 h) ht

/-- The pieces of a line are a row of pieces that a line can have. -/
theorem isSome_run_pieces (hnl : '\n' ∉ t) : (outside.run (pieces t)).isSome = true := by
  fun_induction pieces t with
  | case1 => rfl
  | case2 c t s r h ih =>
    obtain ⟨s', rfl, hcloses, ht⟩ := exists_closes_of_span? h
    have hspan : outside.next (.span ('"' :: s')) = some outside :=
      if_pos (hcloses.span?_eq (by decide))
    rw [run_cons, hspan]
    refine ih fun hm => hnl ?_
    rw [ht]
    exact List.mem_append_right _ hm
  | case3 c t h ih =>
    have ht : '\n' ∉ t := fun hm => hnl (List.mem_cons_of_mem c hm)
    by_cases hc : c = '"'
    · subst hc
      rw [span?, if_pos rfl, Option.map_eq_none_iff] at h
      have hchars := isSome_run_map_char h ht
      have hpieces := (pieces_of_run hchars).1
      rw [flatMap_text_map_char] at hpieces
      rw [hpieces]
      exact hchars
    · have hnext : outside.next (.char c) = some outside := if_neg hc
      rw [run_cons, hnext]
      exact ih ht

/-! ### Pauses -/

namespace Place

/-- Where a reader is behind a blank or a semicolon. -/
def pause : Place → Place
  | outside => outside
  | opened | escaped => opened

@[simp] theorem pause_pause (p : Place) : p.pause.pause = p.pause := by cases p <;> rfl

theorem eq_pause_of_next {p p' : Place} (h : p.next (.char c) = some p') (hquote : c ≠ '"')
    (hslash : c ≠ '\\') : p' = p.pause := by
  cases p with
  | outside => exact (Option.some.inj ((if_neg hquote).symm.trans h)).symm
  | opened =>
    have hnext : opened.next (.char c) = some opened := (if_neg hquote).trans (if_neg hslash)
    exact (Option.some.inj (hnext.symm.trans h)).symm
  | escaped => exact (Option.some.inj (Option.ite_none_left_eq_some.1 h).2).symm

theorem next_space (p : Place) : p.next (.char ' ') = some p.pause := by cases p <;> rfl

theorem next_semicolon (p : Place) : p.next (.char ';') = some p.pause := by cases p <;> rfl

/-- Rows of pieces, with a pause behind each. -/
def runAll : Place → List (List Piece) → Option Place
  | p, [] => some p
  | p, g :: gs => ((p.run g).map pause).bind fun p' => p'.runAll gs

theorem runAll_cons (p : Place) (g : List Piece) (gs : List (List Piece)) :
    p.runAll (g :: gs) = ((p.run g).map pause).bind fun p' => p'.runAll gs := rfl

/-- Behind a pause, rows without pieces do not matter. -/
theorem runAll_filter {p : Place} (hp : p.pause = p) (gs : List (List Piece)) :
    p.runAll (gs.filter fun g => !g.isEmpty) = p.runAll gs := by
  induction gs generalizing p with
  | nil => rfl
  | cons g gs ih =>
    cases g with
    | nil =>
      rw [List.filter_cons_of_neg (by simp), ih hp, runAll_cons, run_nil, Option.map_some, hp,
        Option.bind_some]
    | cons q g =>
      rw [List.filter_cons_of_pos (by simp), runAll_cons, runAll_cons]
      cases p.run (q :: g) with
      | none => rfl
      | some p' => exact ih (pause_pause p')

/-- A row of pieces may be cut at its blanks. -/
theorem isSome_runAll_splitOnP {p : Place} (h : (p.run ps).isSome = true) :
    (p.runAll (ps.splitOnP Piece.isBlank)).isSome = true := by
  induction ps generalizing p with
  | nil => rfl
  | cons q ps ih =>
    rw [run_cons, Option.isSome_bind] at h
    obtain ⟨p', hnext, hrun⟩ := (Option.any_eq_true _ _).1 h
    have hrest := ih hrun
    rw [List.splitOnP_cons_eq_if_modifyHead]
    split_ifs with hq
    · cases q with
      | span s => cases hq
      | char c =>
        obtain rfl := eq_pause_of_next hnext (isBlank_ne hq rfl) (isBlank_ne hq rfl)
        exact hrest
    · obtain ⟨g, gs, hgs⟩ := List.exists_cons_of_ne_nil (List.splitOnP_ne_nil Piece.isBlank ps)
      rw [hgs] at hrest ⊢
      rw [List.modifyHead_cons, runAll_cons, run_cons, hnext, Option.bind_some]
      exact hrest

theorem map_pause_run_semicolons (p : Place) (hs : ∀ q ∈ qs, q = .char ';') :
    (p.run qs).map pause = some p.pause := by
  induction qs generalizing p with
  | nil => rfl
  | cons q qs ih =>
    obtain ⟨rfl, hqs⟩ := List.forall_mem_cons.1 hs
    rw [run_cons, next_semicolon, Option.bind_some, ih _ hqs, pause_pause]

end Place

/-- A semicolon outside spans. -/
def Piece.isSemicolon (q : Piece) : Bool := q == .char ';'

/-- A token is cut before the semicolons at its end. -/
def parts (g : List Piece) : List (List Piece) :=
  [g.rdropWhile Piece.isSemicolon, g.rtakeWhile Piece.isSemicolon]

theorem eq_semicolon_of_mem_rtakeWhile {g : List Piece} :
    ∀ q ∈ g.rtakeWhile Piece.isSemicolon, q = .char ';' := by
  intro q hq
  have hsemicolon : q.isSemicolon = true := List.mem_rtakeWhile_imp hq
  exact beq_iff_eq.1 hsemicolon

/-- A pause before the semicolons of a token does not matter. -/
theorem runAll_flatMap_parts (p : Place) (gs : List (List Piece)) :
    p.runAll (gs.flatMap parts) = p.runAll gs := by
  induction gs generalizing p with
  | nil => rfl
  | cons g gs ih =>
    have hcut : (p.run g).map pause = (p.run (g.rdropWhile Piece.isSemicolon)).map pause := by
      conv_lhs => rw [← List.rdropWhile_append_rtakeWhile (p := Piece.isSemicolon) (l := g)]
      rw [run_append, Option.map_bind]
      cases p.run (g.rdropWhile Piece.isSemicolon) with
      | none => rfl
      | some p' => exact map_pause_run_semicolons p' eq_semicolon_of_mem_rtakeWhile
    rw [List.flatMap_cons, parts, List.cons_append, List.cons_append, List.nil_append, runAll_cons,
      runAll_cons, hcut]
    cases p.run (g.rdropWhile Piece.isSemicolon) with
    | none => rfl
    | some p' =>
      rw [Option.map_some, Option.bind_some, Option.bind_some, runAll_cons,
        map_pause_run_semicolons _ eq_semicolon_of_mem_rtakeWhile, Option.bind_some, pause_pause,
        ih]

/-- Blanks between rows of pieces are pauses. -/
theorem map_pause_run_intercalate (p : Place) (hne : gs ≠ []) :
    (p.run (List.intercalate [.char ' '] gs)).map pause = p.runAll gs := by
  induction gs generalizing p with
  | nil => exact absurd rfl hne
  | cons g gs ih =>
    cases gs with
    | nil =>
      rw [List.intercalate_singleton, runAll_cons]
      cases p.run g <;> rfl
    | cons g' gs =>
      rw [List.intercalate_cons_cons, List.append_assoc, run_append, runAll_cons]
      cases p.run g with
      | none => rfl
      | some p' =>
        rw [Option.bind_some, List.singleton_append, run_cons, next_space, Option.bind_some,
          ih _ (List.cons_ne_nil g' gs), Option.map_some, Option.bind_some]

/-! ### Tokens and their pieces -/

theorem flatMap_text_intercalate (gs : List (List Piece)) :
    (List.intercalate [.char ' '] gs).flatMap Piece.text
      = List.intercalate [' '] (gs.map fun g => g.flatMap Piece.text) := by
  induction gs with
  | nil => rfl
  | cons g gs ih =>
    cases gs with
    | nil => simp
    | cons g' gs =>
      rw [List.intercalate_cons_cons, List.flatMap_append, List.flatMap_append, ih]
      simp only [List.map_cons, List.intercalate_cons_cons]
      rfl

theorem splitOnP_intercalate {α : Type} {f : α → Bool} {b : α} {ls : List (List α)}
    (hb : f b = true) (h : ∀ l ∈ ls, ∀ a ∈ l, f a = false) (hne : ls ≠ []) :
    (List.intercalate [b] ls).splitOnP f = ls := by
  induction ls with
  | nil => exact absurd rfl hne
  | cons l ls ih =>
    obtain ⟨hl, hls⟩ := List.forall_mem_cons.1 h
    cases ls with
    | nil => rw [List.intercalate_singleton, List.splitOnP_eq_singleton hl]
    | cons l' ls =>
      rw [List.intercalate_cons_cons, List.append_assoc, List.singleton_append,
        List.splitOnP_append_cons_of_forall_mem hl b hb, ih hls (List.cons_ne_nil l' ls)]

/-- Rows of pieces that a line can have with pauses between them are its tokens, if there are blanks
for the pauses. -/
theorem rawTokens_intercalate (hrun : (outside.runAll gs).isSome = true) (hne : ∀ g ∈ gs, g ≠ [])
    (hblank : ∀ g ∈ gs, ∀ q ∈ g, q.isBlank = false) :
    rawTokens (List.intercalate [' '] (gs.map fun g => g.flatMap Piece.text))
      = gs.map fun g => g.flatMap Piece.text := by
  by_cases hgs : gs = []
  · subst hgs
    simp [rawTokens]
  · rw [← map_pause_run_intercalate _ hgs, Option.isSome_map] at hrun
    have hfilter : gs.filter (fun g => !g.isEmpty) = gs :=
      List.filter_eq_self.2 fun g hg => by simpa using hne g hg
    rw [← flatMap_text_intercalate, rawTokens, (pieces_of_run hrun).1,
      splitOnP_intercalate rfl hblank hgs, hfilter]

/-- Only a semicolon ends in a semicolon. -/
theorem Piece.IsRead.getLast? {q : Piece} (h : q.IsRead) (hq : q ≠ .char ';') :
    ∀ c ∈ q.text.getLast?, c ≠ ';' := by
  intro c hc
  cases q with
  | span s =>
    obtain ⟨s', rfl, hcloses⟩ := h
    rw [Piece.text, List.getLast?_cons, getLast?_of_closes hcloses] at hc
    obtain rfl := Option.some.inj hc
    decide
  | char d =>
    obtain rfl := Option.some.inj hc
    rintro rfl
    exact hq rfl

/-- The parts of a token are its body and the semicolons at its end. -/
theorem map_text_parts {g : List Piece} (hg : ∀ q ∈ g, q.IsRead) :
    (parts g).map (fun g => g.flatMap Piece.text)
      = [body (g.flatMap Piece.text), terminators (g.flatMap Piece.text)] := by
  have htext : g.flatMap Piece.text = (g.rdropWhile Piece.isSemicolon).flatMap Piece.text
      ++ (g.rtakeWhile Piece.isSemicolon).flatMap Piece.text := by
    rw [← List.flatMap_append, List.rdropWhile_append_rtakeWhile]
  have hsemicolons : ∀ c ∈ (g.rtakeWhile Piece.isSemicolon).flatMap Piece.text, c = ';' := by
    intro c hc
    obtain ⟨q, hq, hc⟩ := List.mem_flatMap.1 hc
    rw [eq_semicolon_of_mem_rtakeWhile q hq] at hc
    exact List.mem_singleton.1 hc
  have hlast : ∀ c ∈ ((g.rdropWhile Piece.isSemicolon).flatMap Piece.text).getLast?, c ≠ ';' := by
    rcases List.eq_nil_or_concat' (g.rdropWhile Piece.isSemicolon) with hnil | ⟨b, q, hb⟩
    · rw [hnil]
      exact fun c hc => by cases hc
    · have hne : g.rdropWhile Piece.isSemicolon ≠ [] := by simp [hb]
      have hq : q ∈ g := by
        refine (List.rdropWhile_prefix Piece.isSemicolon g).subset ?_
        rw [hb]
        exact List.mem_append_right b (List.mem_singleton_self q)
      have hsemicolon : q ≠ .char ';' := by
        have hnot := List.rdropWhile_last_not Piece.isSemicolon g hne
        simp only [hb, List.getLast_append_singleton] at hnot
        exact fun h => hnot (beq_iff_eq.2 h)
      rw [hb, List.flatMap_append, List.flatMap_singleton,
        List.getLast?_append_of_ne_nil _ (hg q hq).text_ne_nil]
      exact (hg q hq).getLast? hsemicolon
  rw [htext, body_append hlast hsemicolons, terminators_append hlast hsemicolons]
  rfl

theorem map_text_filter (hgs : ∀ g ∈ gs, ∀ q ∈ g, q.IsRead) :
    (gs.filter fun g => !g.isEmpty).map (fun g => g.flatMap Piece.text)
      = (gs.map fun g => g.flatMap Piece.text).filter fun t => !t.isEmpty := by
  rw [List.filter_map]
  congr 1
  refine List.filter_congr fun g hg => ?_
  rw [Function.comp_apply, isEmpty_flatMap_text (hgs g hg)]

/-- The texts of the parts of tokens, if not empty, are those of the lexemes. -/
theorem map_text_filter_parts (ctx : Context) (hgs : ∀ g ∈ gs, ∀ q ∈ g, q.IsRead) :
    ((gs.flatMap parts).map fun g => g.flatMap Piece.text).filter (fun t => !t.isEmpty)
      = (ofTokens ctx ((gs.filter fun g => !g.isEmpty).map fun g => g.flatMap Piece.text)).map
        Lexeme.text := by
  rw [map_text_ofTokens]
  induction gs with
  | nil => rfl
  | cons g gs ih =>
    obtain ⟨hg, hgs⟩ := List.forall_mem_cons.1 hgs
    rw [List.flatMap_cons, List.map_append, List.filter_append, ih hgs, map_text_parts hg]
    cases g with
    | nil => rfl
    | cons q g =>
      have hpos : (!(q :: g).isEmpty) = true := rfl
      rw [List.filter_cons_of_pos (p := fun g : List Piece => !g.isEmpty) hpos, List.map_cons]
      generalize (q :: g).flatMap Piece.text = raw
      rw [List.flatMap_cons, List.filter_append]

/-! ### Lines -/

/-- The pieces of a line between its blanks. -/
def groups (t : Text) : List (List Piece) := (pieces t).splitOnP Piece.isBlank

/-- The pieces of the lexemes of a line. -/
def units (t : Text) : List (List Piece) := ((groups t).flatMap parts).filter fun g => !g.isEmpty

theorem of_mem_groups {g : List Piece} {q : Piece} (hg : g ∈ groups t) (hq : q ∈ g) :
    q.IsRead ∧ q.isBlank = false := by
  have hmem := List.mem_flatten_of_mem hg hq
  rw [groups, flatten_splitOnP] at hmem
  obtain ⟨hpiece, hblank⟩ := List.mem_filter.1 hmem
  exact ⟨isRead_of_mem_pieces hpiece, by simpa using hblank⟩

theorem of_mem_parts {g h : List Piece} {q : Piece} (hg : g ∈ groups t) (hh : h ∈ parts g)
    (hq : q ∈ h) : q.IsRead ∧ q.isBlank = false := by
  refine of_mem_groups hg ?_
  simp only [parts, List.mem_cons, List.not_mem_nil, or_false] at hh
  rcases hh with rfl | rfl
  · exact (List.rdropWhile_prefix _ g).subset hq
  · exact (List.rtakeWhile_suffix _ g).subset hq

/-- A line can have the pieces of its lexemes with pauses between them. -/
theorem isSome_runAll_units (hnl : '\n' ∉ t) : (outside.runAll (units t)).isSome = true := by
  rw [units, runAll_filter rfl, runAll_flatMap_parts]
  exact isSome_runAll_splitOnP (isSome_run_pieces hnl)

theorem map_text_units (t : Text) :
    (units t).map (fun g => g.flatMap Piece.text) = (ofLine t).map Lexeme.text := by
  have hparts : ∀ h ∈ (groups t).flatMap parts, ∀ q ∈ h, q.IsRead := by
    intro h hh q hq
    obtain ⟨g, hg, hh⟩ := List.mem_flatMap.1 hh
    exact (of_mem_parts hg hh hq).1
  rw [units, map_text_filter hparts,
    map_text_filter_parts .plain fun g hg q hq => (of_mem_groups hg hq).1]
  rfl

/-- The texts of the lexemes of a line are the tokens of these texts with blanks between them. -/
theorem rawTokens_texts (hnl : '\n' ∉ t) :
    rawTokens (List.intercalate [' '] ((ofLine t).map Lexeme.text))
      = (ofLine t).map Lexeme.text := by
  rw [← map_text_units]
  refine rawTokens_intercalate (isSome_runAll_units hnl) (fun h hh h0 => ?_) fun h hh q hq => ?_
  · rw [h0] at hh
    exact absurd (List.mem_filter.1 hh).2 (by decide)
  · obtain ⟨g, hg, hh⟩ := List.mem_flatMap.1 (List.mem_filter.1 hh).1
    exact (of_mem_parts hg hh hq).2

/-- The lexemes of a line are all of it but the blanks outside closed spans: a delimiter is a run of
semicolons, the others do not end in one, and with blanks between them they are read again. -/
theorem ofLine_lossless {line : Text} (hnl : '\n' ∉ line) :
    (∀ u, Condensed line u ↔ u = (ofLine line).flatMap Lexeme.text) ∧
      (∀ l ∈ ofLine line, l.text ≠ [] ∧ (l.kind = .delimiter → ∀ c ∈ l.text, c = ';') ∧
        (l.kind ≠ .delimiter → l.text.getLast? ≠ some ';')) ∧
      (ofLine (List.intercalate [' '] ((ofLine line).map Lexeme.text))).map Lexeme.text
        = (ofLine line).map Lexeme.text := by
  refine ⟨fun u => ?_, fun l hl => ?_, ?_⟩
  · rw [condensed_iff, flatMap_text_ofLine]
  · obtain ⟨hne, hshape⟩ := isShaped_of_mem_ofTokens hl
    refine ⟨hne, fun hkind => ?_, fun hkind hlast => ?_⟩
    · rwa [if_pos hkind] at hshape
    · rw [if_neg hkind] at hshape
      exact hshape ';' hlast rfl
  · rw [ofLine, rawTokens_texts hnl]
    refine map_text_ofTokens_eq_self fun w hw => ?_
    obtain ⟨l, hl, rfl⟩ := List.mem_map.1 hw
    exact ⟨l, isShaped_of_mem_ofTokens hl, rfl⟩

/-- A span with a blank and a semicolon in it, and a quote that nothing closes: the quote behind it
is escaped and stays so. -/
theorem ofLine_lossless_unclosed :
    Condensed "String s = \"a ;\";;  \"b \\\"  ;".toList "Strings=\"a ;\";;\"b\\\";".toList ∧
      (ofLine "String s = \"a ;\" ;; \"b \\\" ;".toList).map Lexeme.text
        = ["String".toList, "s".toList, "=".toList, "\"a ;\"".toList, ";;".toList, "\"b".toList,
          "\\\"".toList, ";".toList] := by
  have hnl : '\n' ∉ "String s = \"a ;\";;  \"b \\\"  ;".toList := by decide +kernel
  have htexts : (ofLine "String s = \"a ;\";;  \"b \\\"  ;".toList).map Lexeme.text
      = ["String".toList, "s".toList, "=".toList, "\"a ;\"".toList, ";;".toList, "\"b".toList,
        "\\\"".toList, ";".toList] := by decide +kernel
  obtain ⟨hcondensed, -, hagain⟩ := ofLine_lossless hnl
  refine ⟨(hcondensed _).2 (by decide +kernel), ?_⟩
  rw [htexts] at hagain
  exact hagain

end VarDecl.Lexeme
