import VarDecl.Proofs.Expression.Runs

/-!
# Words of expressions

Where the fragments of an expression lie in it. `segments` is the row of its fragments and of the
characters that are skipped between them: together they are the expression
(`textOf_segments`), and the fragments among them are its fragments (`filterMap_segments`).

* `isWholeWord_of_segments`: an unquoted fragment is a number with an exponent, a whole word, or
  what is left of a word behind such a number;
* `words_uncut`: so two unquoted fragments touch only at a number with an exponent, and of a word
  that no such number takes part of there is no fragment but the word itself;
* `word_cut`: a number with an exponent does cut a word in two.
-/

namespace VarDecl.Expression

open Text Literal

variable {c : Char} {t s r f g before word after : Text}

/-! ### The segments of an expression -/

/-- A piece of an expression: a fragment, or a character between fragments. -/
inductive Segment
  | skipped (c : Char)
  | fragment (f : Text)
  deriving DecidableEq

namespace Segment

/-- The characters of a segment. -/
def text : Segment → Text
  | skipped c => [c]
  | fragment f => f

/-- The fragment that a segment is. -/
def fragment? : Segment → Option Text
  | skipped _ => none
  | fragment f => some f

end Segment

/-- The characters of a row of segments. -/
def textOf (ss : List Segment) : Text := ss.flatMap Segment.text

/-- The fragments of an expression and the characters between them, from left to right. -/
def segments : Text → List Segment
  | [] => []
  | c :: t =>
    match _h : fragment? (c :: t) with
    | some (s, r) => .fragment s :: segments r
    | none => .skipped c :: segments t
termination_by t => t.length
decreasing_by
  · exact length_lt_of_fragment? _h
  · simp

variable {d : Segment} {ss rs : List Segment}

@[simp] theorem segments_nil : segments [] = [] := by simp [segments]

@[simp] theorem textOf_cons (d : Segment) (ss : List Segment) :
    textOf (d :: ss) = d.text ++ textOf ss := rfl

@[simp] theorem textOf_append (ss rs : List Segment) : textOf (ss ++ rs) = textOf ss ++ textOf rs :=
  List.flatMap_append

theorem segments_of_fragment? (h : fragment? t = some (s, r)) :
    segments t = .fragment s :: segments r := by
  cases t with
  | nil => simp at h
  | cons c t =>
    rw [segments]
    split
    · simp_all
    · simp_all

theorem segments_cons_of_none (h : fragment? (c :: t) = none) :
    segments (c :: t) = .skipped c :: segments t := by
  rw [segments]
  split <;> simp_all

/-- The segments of an expression are all of it. -/
@[simp] theorem textOf_segments (t : Text) : textOf (segments t) = t := by
  fun_induction segments t with
  | case1 => rfl
  | case2 c t s r h ih => rw [textOf_cons, ih, append_of_fragment? h]; rfl
  | case3 c t h ih => rw [textOf_cons, ih]; rfl

/-- The fragments among the segments are those of the expression. -/
theorem filterMap_segments (t : Text) : (segments t).filterMap Segment.fragment? = fragments t := by
  fun_induction segments t with
  | case1 => rw [fragments_nil, List.filterMap_nil]
  | case2 c t s r h ih => rw [fragments_of_fragment? h, ← ih]; rfl
  | case3 c t h ih => rw [fragments_cons_of_none h, ← ih]; rfl

theorem mem_fragments_iff : f ∈ fragments t ↔ .fragment f ∈ segments t := by
  rw [← filterMap_segments, List.mem_filterMap]
  constructor
  · rintro ⟨d, hd, hf⟩
    cases d with
    | skipped c => cases hf
    | fragment g =>
      obtain rfl := Option.some.inj hf
      exact hd
  · exact fun h => ⟨.fragment f, h, rfl⟩

/-- The first segment is what is read at the start. -/
theorem of_segments_eq_cons (h : segments t = d :: ss) : segments (textOf ss) = ss ∧
    match d with
    | .fragment f => fragment? t = some (f, textOf ss)
    | .skipped c => t = c :: textOf ss ∧ fragment? t = none := by
  cases t with
  | nil => simp at h
  | cons c t =>
    cases hf : fragment? (c :: t) with
    | some p =>
      obtain ⟨s, r⟩ := p
      rw [segments_of_fragment? hf] at h
      obtain ⟨rfl, rfl⟩ := List.cons.inj h
      rw [textOf_segments]
      exact ⟨rfl, rfl⟩
    | none =>
      rw [segments_cons_of_none hf] at h
      obtain ⟨rfl, rfl⟩ := List.cons.inj h
      rw [textOf_segments]
      exact ⟨rfl, rfl, rfl⟩

/-- What stands behind some segments has the other segments. -/
theorem of_segments_eq_append (h : segments t = ss ++ rs) :
    t = textOf ss ++ textOf rs ∧ segments (textOf rs) = rs := by
  refine ⟨by rw [← textOf_append, ← h, textOf_segments], ?_⟩
  induction ss generalizing t with
  | nil =>
    rw [List.nil_append] at h
    rw [← h, textOf_segments, h]
  | cons d ss ih => exact ih (of_segments_eq_cons h).1

/-! ### Unquoted fragments -/

/-- A fragment that starts with a quote. -/
def IsQuoted (f : Text) : Prop := f.head? = some '"' ∨ f.head? = some '\''

/-- A number with an exponent, and nothing else. -/
def IsExponential (f : Text) : Prop := scientific? f = some (f, [])

instance (f : Text) : Decidable (IsQuoted f) := inferInstanceAs (Decidable (_ ∨ _))
instance (f : Text) : Decidable (IsExponential f) := inferInstanceAs (Decidable (_ = _))

theorem isExponential_of_scientific? (h : scientific? t = some (s, r)) : IsExponential s := by
  obtain ⟨whole, frac, e, sgn, ds, rfl, -, hwhole, hfrac, he, hsgn, hds, -⟩ :=
    exists_of_scientific? h
  have hself := scientific?_append (r := []) hwhole hfrac he hsgn hds (by simp)
  rwa [List.append_nil] at hself

/-- A fragment is quoted, a number with an exponent, or a run of word characters. -/
theorem fragment?_cases (h : fragment? t = some (s, r)) :
    (IsQuoted s ∧ ∃ c ∈ s.getLast?, isFragmentChar c = false) ∨ IsExponential s ∨
      wordRun? t = some (s, r) := by
  simp only [fragment?, Option.or_eq_some_iff] at h
  have hquoted : ∀ q, isFragmentChar q = false → span? q t = some (s, r) →
      s.head? = some q ∧ ∃ c ∈ s.getLast?, isFragmentChar c = false := by
    intro q hq hspan
    obtain ⟨-, s, rfl, hclose⟩ := append_of_span? hspan
    refine ⟨rfl, q, ?_, hq⟩
    rw [List.getLast?_cons, getLast?_of_closes (closes_of_closing? hclose)]
    rfl
  rcases h with h | ⟨-, h | ⟨-, h | ⟨-, h⟩⟩⟩
  · exact Or.inl ((hquoted '"' (by decide) h).imp_left Or.inl)
  · exact Or.inl ((hquoted '\'' (by decide) h).imp_left Or.inr)
  · exact Or.inr (Or.inl (isExponential_of_scientific? h))
  · exact Or.inr (Or.inr h)

/-! ### Whole words -/

/-- A word of a text: a maximal run of word characters and points. -/
structure IsWholeWord (t before word after : Text) : Prop where
  eq : t = before ++ (word ++ after)
  chars : ∀ c ∈ word, isFragmentChar c = true
  left : ∀ c ∈ before.getLast?, isFragmentChar c = false
  right : ∀ c ∈ after.head?, isFragmentChar c = false

/-- A word does not start inside another one. -/
theorem IsWholeWord.length_le {before' word' after' : Text} (h : IsWholeWord t before word after)
    (h' : IsWholeWord t before' word' after')
    (hlt : before.length < before'.length + word'.length) : before.length ≤ before'.length := by
  by_contra hle
  rcases List.append_eq_append_iff.1 (h'.eq.symm.trans h.eq) with ⟨v, rfl, hv⟩ | ⟨v, rfl, -⟩
  · have hne : v ≠ [] := by
      rintro rfl
      simp at hle
    have hbefore : v <+: word' := by
      refine List.prefix_of_prefix_length_le ⟨_, hv.symm⟩ (List.prefix_append word' after') ?_
      rw [List.length_append] at hlt
      omega
    -- The last character before the word is one of the other word.
    have hlast := List.getLast?_eq_some_getLast hne
    have hchar := h'.chars _ (hbefore.subset (List.mem_of_getLast? hlast))
    rw [h.left _ (by rw [List.getLast?_append_of_ne_nil _ hne]; exact hlast)] at hchar
    cases hchar
  · simp at hle

theorem IsWholeWord.takeWhile (h : IsWholeWord t before word after) :
    (word ++ after).takeWhile isFragmentChar = word := by
  rw [List.takeWhile_append_of_pos h.chars, takeWhile_eq_nil h.right, List.append_nil]

/-- Words that overlap are the same. -/
theorem IsWholeWord.eq_of_overlap {before' word' after' : Text}
    (h : IsWholeWord t before word after) (h' : IsWholeWord t before' word' after')
    (hlt : before.length < before'.length + word'.length)
    (hlt' : before'.length < before.length + word.length) : before = before' ∧ word = word' := by
  have hlength := Nat.le_antisymm (h.length_le h' hlt) (h'.length_le h hlt')
  obtain ⟨rfl, hrest⟩ := List.append_inj (h.eq.symm.trans h'.eq) hlength
  exact ⟨rfl, by rw [← h.takeWhile, hrest, h'.takeWhile]⟩

/-- No word character is skipped. -/
theorem isFragmentChar_of_skipped (h : .skipped c ∈ segments t) : isFragmentChar c = false := by
  obtain ⟨ss, rs, hss⟩ := List.append_of_mem h
  obtain ⟨-, ht, hnone⟩ := of_segments_eq_cons (of_segments_eq_append hss).2
  rw [ht] at hnone
  refine Bool.eq_false_iff.2 fun hc => ?_
  simp [fragment?, wordRun?, hc] at hnone

/-- Before a word character, a segment ends with none unless it is a number with an exponent. -/
theorem getLast?_of_segments (h : segments t = d :: ss)
    (hword : ∃ c ∈ (textOf ss).head?, isFragmentChar c = true) :
    (∃ c ∈ d.text.getLast?, isFragmentChar c = false) ∨ ∃ g, d = .fragment g ∧ IsExponential g := by
  cases d with
  | skipped c =>
    refine Or.inl ⟨c, rfl, isFragmentChar_of_skipped (t := t) ?_⟩
    rw [h]
    exact List.mem_cons_self
  | fragment g =>
    rcases fragment?_cases (of_segments_eq_cons h).2 with ⟨-, hquote⟩ | hexp | hrun
    · exact Or.inl hquote
    · exact Or.inr ⟨g, rfl, hexp⟩
    · -- The run would have taken the character, too.
      obtain ⟨-, -, -, hstop⟩ := append_of_wordRun? hrun
      obtain ⟨c, hc, hchar⟩ := hword
      rw [hstop c hc] at hchar
      cases hchar

/-- A row of segments ends with a number that has an exponent. -/
def EndsExponential (ss : List Segment) : Prop :=
  ∃ rs g, ss = rs ++ [.fragment g] ∧ IsExponential g

/-- An unquoted fragment is a number with an exponent, or stands behind one, or is a whole word. -/
theorem isWholeWord_of_segments (h : segments t = ss ++ .fragment f :: rs) (hf : ¬IsQuoted f) :
    IsExponential f ∨ EndsExponential ss ∨ IsWholeWord t (textOf ss) f (textOf rs) := by
  obtain ⟨ht, hrest⟩ := of_segments_eq_append h
  rcases fragment?_cases (of_segments_eq_cons hrest).2 with ⟨hquote, -⟩ | hexp | hrun
  · exact absurd hquote hf
  · exact Or.inl hexp
  obtain ⟨-, hne, hchars, hright⟩ := append_of_wordRun? hrun
  obtain ⟨a, f', rfl⟩ := List.exists_cons_of_ne_nil hne
  have hstart : ∃ c ∈ (textOf (.fragment (a :: f') :: rs)).head?, isFragmentChar c = true :=
    ⟨a, rfl, hchars a List.mem_cons_self⟩
  refine Or.inr ?_
  rcases List.eq_nil_or_concat' ss with rfl | ⟨ss, d, rfl⟩
  · exact Or.inr ⟨ht, hchars, by rintro c ⟨⟩, hright⟩
  · rw [List.append_assoc, List.singleton_append] at h
    have hlast := getLast?_of_segments (of_segments_eq_append h).2 hstart
    rcases hlast with ⟨b, hb, hleft⟩ | ⟨g, rfl, hg⟩
    · refine Or.inr ⟨ht, hchars, fun c hc => ?_, hright⟩
      have hlast : (textOf (ss ++ [d])).getLast? = some b := by
        have hd : d.text ≠ [] := by
          intro h0
          rw [h0] at hb
          cases hb
        rw [textOf_append, textOf_cons, List.getLast?_append_of_ne_nil _ (by simp [hd])]
        exact (congrArg List.getLast? (List.append_nil d.text)).trans hb
      obtain rfl := Option.some.inj (hlast.symm.trans hc)
      exact hleft
    · exact Or.inl ⟨ss, g, rfl, hg⟩

/-! ### No word is cut, except by a number with an exponent -/

theorem ne_nil_of_mem_segments (h : .fragment f ∈ segments t) : f ≠ [] :=
  ne_nil_of_mem_fragments (mem_fragments_iff.2 h)

/-- Unquoted fragments touch each other where the first is a number with an exponent, or where the
second is one that starts with a digit of another script. -/
theorem isExponential_of_touching (h : segments t = ss ++ .fragment f :: .fragment g :: rs)
    (hf : ¬IsQuoted f) (hg : ¬IsQuoted g) :
    IsExponential f ∨ (IsExponential g ∧ ∃ c ∈ g.head?, isFragmentChar c = false) := by
  obtain ⟨-, hrest⟩ := of_segments_eq_append h
  obtain ⟨hrest', hread⟩ := of_segments_eq_cons hrest
  rcases fragment?_cases hread with ⟨hquote, -⟩ | hexp | hrun
  · exact absurd hquote hf
  · exact Or.inl hexp
  -- The first is a run of word characters, so that the second starts with none.
  obtain ⟨-, -, -, hstop⟩ := append_of_wordRun? hrun
  have hne : g ≠ [] := ne_nil_of_mem_segments (by rw [h]; simp)
  obtain ⟨a, g, rfl⟩ := List.exists_cons_of_ne_nil hne
  have hstart : isFragmentChar a = false := hstop a rfl
  rcases fragment?_cases (of_segments_eq_cons hrest').2 with ⟨hquote, -⟩ | hexp | hrun'
  · exact absurd hquote hg
  · exact Or.inr ⟨hexp, a, rfl, hstart⟩
  · obtain ⟨-, -, hchars, -⟩ := append_of_wordRun? hrun'
    rw [hchars a List.mem_cons_self] at hstart
    cases hstart

theorem fragmentCategory_of_neither (hkind : kind? f = none) (hname : Name.isIdentifier f = false)
    (Γ : SymbolTable) : fragmentCategory Γ f = .ok none := by
  rw [fragmentCategory, hkind, hname]
  rfl

/-- Two unquoted fragments touch only behind a number with an exponent, or before one that starts
with a digit of another script. Where a word meets an unquoted fragment, this is a number with an
exponent or stands behind one, or it is the whole word; then it says nothing if the word is neither
a literal nor a name. -/
theorem words_uncut (t : Text) :
    (∀ ss f g rs, segments t = ss ++ .fragment f :: .fragment g :: rs → ¬IsQuoted f →
      ¬IsQuoted g → IsExponential f ∨ (IsExponential g ∧ ∃ c ∈ g.head?, isFragmentChar c = false)) ∧
    ∀ before word after ss f rs, IsWholeWord t before word after →
      segments t = ss ++ .fragment f :: rs → ¬IsQuoted f →
      (textOf ss).length < before.length + word.length →
      before.length < (textOf ss).length + f.length →
        IsExponential f ∨ EndsExponential ss ∨
          (textOf ss = before ∧ f = word ∧ (kind? word = none → Name.isIdentifier word = false →
            ∀ Γ, fragmentCategory Γ f = .ok none)) := by
  refine ⟨fun ss f g rs h hf hg => isExponential_of_touching h hf hg, ?_⟩
  intro before word after ss f rs hword h hf hlt hlt'
  refine (isWholeWord_of_segments h hf).imp_right (Or.imp_right fun hwhole => ?_)
  obtain ⟨hbefore, rfl⟩ := hwhole.eq_of_overlap hword hlt hlt'
  exact ⟨hbefore, rfl, fragmentCategory_of_neither⟩

/-- A suffixed number beside a number with an exponent is one fragment, which says nothing. -/
theorem words_uncut_suffix :
    segments "1e5 5L".toList
        = [.fragment "1e5".toList, .skipped ' ', .fragment "5L".toList] ∧
      fragmentCategory .empty "5L".toList = .ok none := by
  have hword : IsWholeWord "1e5 5L".toList "1e5 ".toList "5L".toList [] :=
    ⟨rfl, List.all_eq_true.1 (by decide),
      fun c hc => by obtain rfl := Option.some.inj hc; decide, by rintro c ⟨⟩⟩
  have hsegments : segments "1e5 5L".toList
      = [.fragment "1e5".toList, .skipped ' '] ++ .fragment "5L".toList :: [] := by decide +kernel
  refine ⟨hsegments, ?_⟩
  rcases (words_uncut "1e5 5L".toList).2 _ _ _ _ _ _ hword hsegments (by decide) (by decide)
    (by decide) with hexp | ⟨rs, g, hend, -⟩ | ⟨-, -, hnothing⟩
  · exact absurd hexp (by decide)
  · -- The segment before the suffixed number is the space.
    have hlast := congrArg List.getLast? hend
    rw [List.getLast?_concat] at hlast
    cases hlast
  · exact hnothing (by decide) (by decide) .empty

/-- A number with an exponent cuts a word in two: what is left of a suffixed number is taken for a
variable, though the word is neither a literal nor a name. -/
theorem word_cut :
    segments "1e5f".toList = [.fragment "1e5".toList, .fragment "f".toList] ∧
      ¬IsQuoted "1e5".toList ∧ ¬IsQuoted "f".toList ∧
      IsWholeWord "1e5f".toList [] "1e5f".toList [] ∧
      kind? "1e5f".toList = none ∧ Name.isIdentifier "1e5f".toList = false ∧
      infer .empty "1e5f".toList = .error ⟨"f".toList⟩ := by
  refine ⟨by decide +kernel, by decide, by decide, ?_, by decide, by decide, by decide +kernel⟩
  exact ⟨rfl, List.all_eq_true.1 (by decide), by rintro c ⟨⟩, by rintro c ⟨⟩⟩

end VarDecl.Expression
