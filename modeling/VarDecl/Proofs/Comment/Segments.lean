import VarDecl.Proofs.Comment.Lines

/-!
# The segments of a source

A source is a row of segments: literals, line comments, block comments and other characters.

* `Stands s rest` is the grammar: it says what a segment looks like and what may come after it. A
  literal ends at its quote or at the end of its line, a line comment at the end of its line, a
  block comment at the first `*/` behind its opening or at the end of the source;
* `next?` reads the first segment of a source. A source that is not empty starts with a segment
  (`exists_stands`), and only what is read may stand there (`next?_of_stands`);
* `stripFrom_of_stands`: the removal of comments keeps literals and other characters as they are, of
  a block comment its newlines, and nothing of a line comment;
* `exists_unique_segments`: each source is exactly one row of segments, and is stripped so.
-/

namespace VarDecl.Comment

open Text

/-! ### The grammar -/

/-- A segment of a source, with its characters. -/
inductive Segment
  | literal (text : Text)
  | lineComment (text : Text)
  | blockComment (text : Text)
  | other (c : Char)

namespace Segment

/-- The characters of a segment. -/
def text : Segment → Text
  | literal t | lineComment t | blockComment t => t
  | other c => [c]

/-- What stays of a segment when comments are removed. -/
def kept : Segment → Text
  | literal t => t
  | lineComment _ => []
  | blockComment t => t.filter (· == '\n')
  | other c => [c]

end Segment

/-- A text with which a line ends: nothing, or a newline and what comes after it. -/
def EndsLine (rest : Text) : Prop := ∀ c ∈ rest.head?, c = '\n'

/-- What a literal holds behind its first quote, if `rest` comes after it. -/
inductive IsBody (q : Char) (rest : Text) : Text → Prop
  | close : IsBody q rest [q]
  | unclosed : EndsLine rest → IsBody q rest []
  | backslash : EndsLine rest → IsBody q rest ['\\']
  | escape {c : Char} {s : Text} : c ≠ '\n' → IsBody q rest s → IsBody q rest ('\\' :: c :: s)
  | plain {c : Char} {s : Text} :
    c ≠ q → c ≠ '\\' → c ≠ '\n' → IsBody q rest s → IsBody q rest (c :: s)

/-- A segment may stand where a source goes on with `rest`. -/
inductive Stands : Segment → (rest : Text) → Prop
  | literal {q : Char} {s rest : Text} : q = '"' ∨ q = '\'' → IsBody q rest s →
    Stands (.literal (q :: s)) rest
  | lineComment {s rest : Text} : '\n' ∉ s → EndsLine rest →
    Stands (.lineComment ('/' :: '/' :: s)) rest
  | blockComment {s rest : Text} : ¬['*', '/'] <:+: s →
    Stands (.blockComment ('/' :: '*' :: (s ++ ['*', '/']))) rest
  | openComment {s : Text} : ¬['*', '/'] <:+: s → Stands (.blockComment ('/' :: '*' :: s)) []
  | other {c : Char} {rest : Text} : ¬(c = '"' ∨ c = '\'') →
    (c = '/' → ∀ d ∈ rest.head?, d ≠ '/' ∧ d ≠ '*') → Stands (.other c) rest

/-- A source is a row of segments, each of which may stand where it does. -/
def Decomposes : Text → List Segment → Prop
  | t, [] => t = []
  | t, s :: ss => ∃ rest, t = s.text ++ rest ∧ Stands s rest ∧ Decomposes rest ss

theorem endsLine_nil : EndsLine [] := fun _ h => nomatch h

theorem endsLine_newline (t : Text) : EndsLine ('\n' :: t) := fun _ h => (Option.some.inj h).symm

variable {m : Mode} {c q : Char} {r rest s t : Text} {g : Segment} {gs : List Segment}

/-! ### Literals -/

/-- The rest of a literal with the quote `q`, and what comes after it. -/
def readBody (q : Char) : Text → Text × Text
  | [] => ([], [])
  | '\\' :: c :: r =>
    if c = '\n' then (['\\'], c :: r) else ('\\' :: c :: (readBody q r).1, (readBody q r).2)
  | c :: r =>
    if c = q then ([q], r)
    else if c = '\n' then ([], c :: r)
    else (c :: (readBody q r).1, (readBody q r).2)

theorem readBody_cons (h : c ≠ '\\') : readBody q (c :: r) =
    if c = q then ([q], r)
    else if c = '\n' then ([], c :: r)
    else (c :: (readBody q r).1, (readBody q r).2) := by
  rw [readBody]
  exact fun _ _ hc => absurd hc h

theorem readBody_of_endsLine (hq : q ≠ '\n') (h : EndsLine rest) :
    readBody q rest = ([], rest) := by
  cases rest with
  | nil => rfl
  | cons c r =>
    obtain rfl : c = '\n' := h c rfl
    rw [readBody_cons (by decide), if_neg hq.symm, if_pos rfl]

/-- What may stand in a literal is read as its rest. -/
theorem readBody_append (hq : q ≠ '\\') (hq' : q ≠ '\n') (h : IsBody q rest s) :
    readBody q (s ++ rest) = (s, rest) := by
  induction h with
  | close => rw [List.singleton_append, readBody_cons hq, if_pos rfl]
  | unclosed hrest => exact readBody_of_endsLine hq' hrest
  | backslash hrest =>
    cases rest with
    | nil => simp [readBody, hq.symm]
    | cons c r =>
      obtain rfl : c = '\n' := hrest c rfl
      rfl
  | escape hc _ ih => rw [List.cons_append, List.cons_append, readBody, if_neg hc, ih]
  | plain hcq hc hnl _ ih =>
    rw [List.cons_append, readBody_cons hc, if_neg hcq, if_neg hnl, ih]

/-- What is read as the rest of a literal may stand there. -/
theorem isBody_readBody (q : Char) (t : Text) :
    IsBody q (readBody q t).2 (readBody q t).1 ∧ t = (readBody q t).1 ++ (readBody q t).2 := by
  fun_induction readBody q t with
  | case1 => exact ⟨.unclosed endsLine_nil, rfl⟩
  | case2 r => exact ⟨.backslash (endsLine_newline r), rfl⟩
  | case3 c r hc ih => exact ⟨.escape hc ih.1, congrArg ('\\' :: c :: ·) ih.2⟩
  | case4 r => exact ⟨.close, rfl⟩
  | case5 r => exact ⟨.unclosed (endsLine_newline r), rfl⟩
  | case6 c r h hcq hnl ih =>
    refine ⟨?_, congrArg (c :: ·) ih.2⟩
    by_cases hc : c = '\\'
    · -- The backslash is the last character of the source.
      obtain rfl := eq_nil_of_backslash hc h
      rw [hc]
      exact .backslash endsLine_nil
    · exact .plain hcq hc hnl ih.1

/-! ### Block comments -/

/-- The rest of a block comment, and what comes after it. -/
def readBlock : Text → Text × Text
  | [] => ([], [])
  | '*' :: '/' :: r => (['*', '/'], r)
  | c :: r => (c :: (readBlock r).1, (readBlock r).2)

/-- Before the end of a block comment no end stands. -/
theorem avoids_of_not_isInfix (h : ¬['*', '/'] <:+: c :: s) (hr : ∀ d ∈ r.head?, d ≠ '/') :
    Avoids '*' '/' c (s ++ r) := by
  rintro r' rfl hs
  cases s with
  | nil => exact hr '/' (by rw [show r = '/' :: r' from hs]; rfl) rfl
  | cons d s =>
    obtain rfl := (List.cons.inj hs).1
    exact h ⟨[], s, rfl⟩

theorem not_isInfix_of_cons (h : ¬['*', '/'] <:+: c :: s) : ¬['*', '/'] <:+: s := fun hs =>
  h (hs.trans (List.suffix_cons c s).isInfix)

theorem readBlock_cons (h : Avoids '*' '/' c r) :
    readBlock (c :: r) = (c :: (readBlock r).1, (readBlock r).2) := by
  rw [readBlock]
  exact h

theorem readBlock_append (h : ¬['*', '/'] <:+: s) (rest : Text) :
    readBlock (s ++ '*' :: '/' :: rest) = (s ++ ['*', '/'], rest) := by
  induction s with
  | nil => rfl
  | cons c s ih =>
    have havoids := avoids_of_not_isInfix (r := '*' :: '/' :: rest) h (by simp)
    rw [List.cons_append, readBlock_cons havoids, ih (not_isInfix_of_cons h), List.cons_append]

theorem readBlock_eq_self (h : ¬['*', '/'] <:+: s) : readBlock s = (s, []) := by
  induction s with
  | nil => rfl
  | cons c s ih =>
    have havoids := avoids_of_not_isInfix (r := []) h (by simp)
    rw [List.append_nil] at havoids
    rw [readBlock_cons havoids, ih (not_isInfix_of_cons h)]

theorem not_isInfix_cons (h : Avoids '*' '/' c (s ++ r)) (hs : ¬['*', '/'] <:+: s) :
    ¬['*', '/'] <:+: c :: s := by
  rw [List.infix_cons_iff, not_or]
  refine ⟨?_, hs⟩
  rintro ⟨s', hs'⟩
  obtain ⟨rfl, rfl⟩ := List.cons.inj hs'
  exact h (s' ++ r) rfl rfl

/-- A block comment ends at its first end, or has none. -/
theorem exists_readBlock (t : Text) :
    (∃ s rest, ¬['*', '/'] <:+: s ∧ t = s ++ '*' :: '/' :: rest) ∨ ¬['*', '/'] <:+: t := by
  fun_induction readBlock t with
  | case1 => exact Or.inr (by simp)
  | case2 r => exact Or.inl ⟨[], r, by simp, rfl⟩
  | case3 c r h ih =>
    rcases ih with ⟨s, rest, hs, rfl⟩ | hr
    · exact Or.inl ⟨c :: s, rest, not_isInfix_cons h hs, rfl⟩
    · exact Or.inr (not_isInfix_cons (r := []) (by rwa [List.append_nil]) hr)

/-! ### Reading a segment -/

/-- The first segment of a source, and what comes after it. -/
def next? : Text → Option (Segment × Text)
  | [] => none
  | '/' :: '/' :: r =>
    some (.lineComment ('/' :: '/' :: r.takeWhile (· != '\n')), r.dropWhile (· != '\n'))
  | '/' :: '*' :: r => some (.blockComment ('/' :: '*' :: (readBlock r).1), (readBlock r).2)
  | c :: r =>
    if c = '"' ∨ c = '\'' then some (.literal (c :: (readBody c r).1), (readBody c r).2)
    else some (.other c, r)

theorem next?_cons (h₁ : Avoids '/' '/' c r) (h₂ : Avoids '/' '*' c r) : next? (c :: r) =
    if c = '"' ∨ c = '\'' then some (.literal (c :: (readBody c r).1), (readBody c r).2)
    else some (.other c, r) := by
  rw [next?]
  exacts [h₁, h₂]

/-- A character that may stand on its own starts no comment. -/
theorem avoids_of_slash (h : c = '/' → ∀ d ∈ rest.head?, d ≠ '/' ∧ d ≠ '*') :
    Avoids '/' '/' c rest ∧ Avoids '/' '*' c rest := by
  constructor
  · rintro r' hc rfl
    exact (h hc '/' rfl).1 rfl
  · rintro r' hc rfl
    exact (h hc '*' rfl).2 rfl

theorem takeWhile_line (h : '\n' ∉ s) (hrest : EndsLine rest) :
    (s ++ rest).takeWhile (· != '\n') = s ∧ (s ++ rest).dropWhile (· != '\n') = rest := by
  have hs : ∀ c ∈ s, (c != '\n') = true := fun c hc => bne_iff_ne.2 fun h0 => h (h0 ▸ hc)
  have hhead : ∀ c ∈ rest.head?, (c != '\n') = false := fun c hc => by rw [hrest c hc]; rfl
  rw [List.takeWhile_append_of_pos hs, List.dropWhile_append_of_pos hs, takeWhile_eq_nil hhead,
    dropWhile_eq_self hhead, List.append_nil]
  exact ⟨rfl, rfl⟩

/-- A segment that may stand at the start of a source is the one that is read there. -/
theorem next?_of_stands (h : Stands g rest) : next? (g.text ++ rest) = some (g, rest) := by
  cases h with
  | @literal q s _ hq hs =>
    have hne : q ≠ '/' ∧ q ≠ '\\' ∧ q ≠ '\n' := by rcases hq with rfl | rfl <;> decide
    rw [Segment.text, List.cons_append, next?_cons (fun _ h0 => absurd h0 hne.1)
      (fun _ h0 => absurd h0 hne.1), if_pos hq, readBody_append hne.2.1 hne.2.2 hs]
  | @lineComment s _ hs hrest =>
    obtain ⟨htake, hdrop⟩ := takeWhile_line hs hrest
    rw [Segment.text, List.cons_append, List.cons_append, next?, htake, hdrop]
  | @blockComment s _ hs =>
    have hread := readBlock_append hs rest
    simp only [Segment.text, List.cons_append, List.append_assoc, List.nil_append, next?, hread]
  | @openComment s hs =>
    rw [Segment.text, List.append_nil, next?, readBlock_eq_self hs]
  | @other c _ hc hslash =>
    obtain ⟨h₁, h₂⟩ := avoids_of_slash hslash
    rw [Segment.text, List.singleton_append, next?_cons h₁ h₂, if_neg hc]

/-- Each source that is not empty starts with a segment. -/
theorem exists_stands (hne : t ≠ []) : ∃ g rest, t = g.text ++ rest ∧ Stands g rest := by
  fun_cases next? t with
  | case1 => exact absurd rfl hne
  | case2 r =>
    have hline : EndsLine (r.dropWhile (· != '\n')) := fun c hc => by
      have hhead := List.head?_dropWhile_not (· != '\n') r
      rw [show (r.dropWhile (· != '\n')).head? = some c from hc] at hhead
      simpa using hhead
    have hnl : '\n' ∉ r.takeWhile (· != '\n') := fun hm =>
      absurd (List.mem_takeWhile_imp hm) (by decide)
    refine ⟨.lineComment ('/' :: '/' :: r.takeWhile (· != '\n')), _, ?_, .lineComment hnl hline⟩
    simp [Segment.text]
  | case3 r =>
    rcases exists_readBlock r with ⟨s, rest, hs, rfl⟩ | hr
    · exact ⟨_, rest, by simp [Segment.text], .blockComment hs⟩
    · exact ⟨_, [], (List.append_nil _).symm, .openComment hr⟩
  | case4 c r h₁ h₂ hq =>
    obtain ⟨hbody, hr⟩ := isBody_readBody c r
    exact ⟨_, _, congrArg (c :: ·) hr, .literal hq hbody⟩
  | case5 c r h₁ h₂ hq =>
    refine ⟨.other c, r, rfl, .other hq fun hc d hd => ?_⟩
    obtain ⟨r', rfl⟩ := List.head?_eq_some_iff.1 hd
    constructor
    · rintro rfl
      exact h₁ r' hc rfl
    · rintro rfl
      exact h₂ r' hc rfl

/-! ### Removing comments -/

theorem stripFrom_of_endsLine (hm : m ≠ .block) (h : EndsLine rest) :
    stripFrom m rest = stripFrom .code rest := by
  cases rest with
  | nil => rw [stripFrom, stripFrom]
  | cons c r =>
    obtain rfl : c = '\n' := h c rfl
    rw [stripFrom_newline_cons, afterNewline_of_ne hm, stripFrom_newline_cons]
    rfl

/-- A literal stays as it is. -/
theorem stripFrom_body (hq : q ≠ '\\') (h : IsBody q rest s) :
    stripFrom (.literal q) (s ++ rest) = s ++ stripFrom .code rest := by
  induction h with
  | close =>
    rw [List.singleton_append, stripFrom_literal_cons hq, Mode.afterLiteral, if_pos (Or.inl rfl)]
    rfl
  | unclosed hrest => exact stripFrom_of_endsLine (by simp) hrest
  | backslash hrest =>
    cases rest with
    | nil => simp [stripFrom]
    | cons c r =>
      obtain rfl : c = '\n' := hrest c rfl
      rw [stripFrom_newline_cons]
      rfl
  | escape hc _ ih =>
    rw [List.cons_append, List.cons_append, stripFrom, if_neg hc, ih]
    rfl
  | plain hcq hc hnl _ ih =>
    rw [List.cons_append, stripFrom_literal_cons hc, Mode.afterLiteral,
      if_neg (not_or.2 ⟨hcq, hnl⟩), ih]
    rfl

theorem stripFrom_line_append (h : '\n' ∉ s) (hrest : EndsLine rest) :
    stripFrom .line (s ++ rest) = stripFrom .code rest := by
  induction s with
  | nil => exact stripFrom_of_endsLine (by simp) hrest
  | cons c s ih =>
    obtain ⟨hc, hs⟩ := List.ne_and_not_mem_of_not_mem_cons h
    rw [List.cons_append, stripFrom, if_neg hc.symm, ih hs]

theorem stripFrom_block_cons_eq (h : Avoids '*' '/' c r) :
    stripFrom .block (c :: r) = [c].filter (· == '\n') ++ stripFrom .block r := by
  by_cases hc : c = '\n'
  · rw [hc, stripFrom_newline_cons]
    rfl
  · rw [stripFrom_block_cons h hc, List.filter_cons_of_neg (by simpa using hc)]
    rfl

/-- Of a block comment its newlines stay. -/
theorem stripFrom_block_append (h : ¬['*', '/'] <:+: s) (hr : ∀ d ∈ r.head?, d ≠ '/') :
    stripFrom .block (s ++ r) = s.filter (· == '\n') ++ stripFrom .block r := by
  induction s with
  | nil => rfl
  | cons c s ih =>
    rw [List.cons_append, stripFrom_block_cons_eq (avoids_of_not_isInfix h hr),
      ih (not_isInfix_of_cons h), ← List.append_assoc, ← List.filter_append, List.singleton_append]

/-- Comments are removed segment by segment. -/
theorem stripFrom_of_stands (h : Stands g rest) :
    stripFrom .code (g.text ++ rest) = g.kept ++ stripFrom .code rest := by
  cases h with
  | @literal q s _ hq hs =>
    have hne : q ≠ '/' ∧ q ≠ '\\' := by rcases hq with rfl | rfl <;> decide
    rw [Segment.text, List.cons_append, stripFrom_code_of_ne hne.1, Mode.afterCode, if_pos hq,
      stripFrom_body hne.2 hs]
    rfl
  | @lineComment s _ hs hrest =>
    rw [Segment.text, List.cons_append, List.cons_append, stripFrom, stripFrom_line_append hs hrest]
    rfl
  | @blockComment s _ hs =>
    rw [Segment.text, List.cons_append, List.cons_append, List.append_assoc, stripFrom,
      stripFrom_block_append hs (by simp)]
    simp [Segment.kept, stripFrom]
  | @openComment s hs =>
    have hstrip := stripFrom_block_append (r := []) hs (by simp)
    have hopen : stripFrom .code ('/' :: '*' :: s) = stripFrom .block s := by rw [stripFrom]
    rw [List.append_nil] at hstrip
    rw [Segment.text, List.append_nil, hopen, hstrip]
    simp [Segment.kept, stripFrom]
  | @other c _ hc hslash =>
    obtain ⟨h₁, h₂⟩ := avoids_of_slash hslash
    rw [Segment.text, List.singleton_append, stripFrom_code_cons h₁ h₂, Mode.afterCode, if_neg hc]
    rfl

theorem strip_of_decomposes (h : Decomposes t gs) : strip t = gs.flatMap Segment.kept := by
  induction gs generalizing t with
  | nil =>
    obtain rfl : t = [] := h
    rfl
  | cons g gs ih =>
    obtain ⟨rest, rfl, hg, hgs⟩ := h
    rw [strip, stripFrom_of_stands hg, List.flatMap_cons, ← ih hgs]
    rfl

/-! ### Decomposing -/

theorem text_ne_nil (h : Stands g rest) : g.text ≠ [] := by
  cases h <;> exact List.cons_ne_nil _ _

theorem exists_decomposes (t : Text) : ∃ gs, Decomposes t gs := by
  induction hn : t.length using Nat.strong_induction_on generalizing t with
  | _ n ih =>
    by_cases hne : t = []
    · exact ⟨[], hne⟩
    · obtain ⟨g, rest, rfl, hg⟩ := exists_stands hne
      have hlength := List.length_pos_iff.2 (text_ne_nil hg)
      obtain ⟨gs, hgs⟩ := ih rest.length (by rw [← hn, List.length_append]; omega) rest rfl
      exact ⟨g :: gs, rest, rfl, hg, hgs⟩

/-- The segments of a source are those that are read from it one after the other. -/
theorem eq_of_decomposes {gs' : List Segment} (h : Decomposes t gs) (h' : Decomposes t gs') :
    gs = gs' := by
  induction gs generalizing t gs' with
  | nil =>
    obtain rfl : t = [] := h
    cases gs' with
    | nil => rfl
    | cons g' gs' =>
      obtain ⟨rest, heq, hg, -⟩ := h'
      exact absurd (List.append_eq_nil_iff.1 heq.symm).1 (text_ne_nil hg)
  | cons g gs ih =>
    obtain ⟨rest, rfl, hg, hgs⟩ := h
    cases gs' with
    | nil => exact absurd (List.append_eq_nil_iff.1 h').1 (text_ne_nil hg)
    | cons g' gs' =>
      obtain ⟨rest', heq, hg', hgs'⟩ := h'
      have hread := next?_of_stands hg
      rw [heq, next?_of_stands hg'] at hread
      obtain ⟨rfl, rfl⟩ := Prod.mk.inj (Option.some.inj hread)
      rw [ih hgs hgs']

/-- Each source is exactly one row of segments, and the removal of comments leaves of it what it
leaves of the segments. -/
theorem exists_unique_segments (t : Text) : ∃ gs : List Segment,
    (∀ gs', Decomposes t gs' ↔ gs' = gs) ∧ strip t = gs.flatMap Segment.kept := by
  obtain ⟨gs, hgs⟩ := exists_decomposes t
  refine ⟨gs, fun gs' => ⟨fun h => eq_of_decomposes h hgs, ?_⟩, strip_of_decomposes hgs⟩
  rintro rfl
  exact hgs

end VarDecl.Comment
