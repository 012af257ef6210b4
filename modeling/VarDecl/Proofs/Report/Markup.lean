import Mathlib.Data.List.Infix
import VarDecl.Proofs.Traversal
import VarDecl.Report.Markup

/-!
# Texts that the console reads

* `read_of_forall_tag?`: where no bracket starts a tag, the text is shown as it is, but for
  backslashes before brackets and emoji codes;
* `length_opened_step`, `length_opened_run`: how many tags are open is what has been opened less
  what has been closed. So no part at the start of a text closes more tags than it opens, if the
  text can be read (`countP_isClosing_le`).
-/

namespace VarDecl.Report.Markup

variable {handler : HandlerTest} {t shown : Text} {r r' : Reading} {p : Piece} {ps qs : List Piece}

/-! ### Texts without tags -/

theorem read_of_notMem (handler : HandlerTest) (h : '[' ∉ t) :
    read handler t = .ok (Emoji.replaceCodes t) := by
  rw [read, if_neg (by simpa using h)]

theorem piecesFrom_of_forall_tag? {position : Nat} {before : Text} {rest : List Text}
    (h : ∀ u ∈ rest, tag? u = none) :
    piecesFrom position before rest = [.plain (before ++ rest.flatMap ('[' :: ·))] := by
  induction rest generalizing position before with
  | nil => simp [piecesFrom]
  | cons u rest ih =>
    obtain ⟨hu, hrest⟩ := List.forall_mem_cons.1 h
    simp only [piecesFrom, hu]
    rw [ih hrest, List.flatMap_cons, List.append_assoc]

theorem intercalate_cons_eq (before : Text) (rest : List Text) :
    List.intercalate ['['] (before :: rest) = before ++ rest.flatMap ('[' :: ·) := by
  induction rest generalizing before with
  | nil => simp [List.intercalate]
  | cons u rest ih =>
    rw [List.intercalate_cons_cons, ih, List.flatMap_cons]
    simp

/-- Where no bracket starts a tag, there is one piece. -/
theorem pieces_of_forall_tag? (h : ∀ u ∈ (t.splitOn '[').tail, tag? u = none) :
    pieces t = [.plain t] := by
  have hjoin : List.intercalate ['['] (t.splitOn '[') = t := List.intercalate_splitOn '['
  rw [pieces]
  cases hsplit : t.splitOn '[' with
  | nil => exact absurd hsplit (List.splitOn_ne_nil '[' t)
  | cons before rest =>
    rw [hsplit] at hjoin
    rw [hsplit, List.tail_cons] at h
    change piecesFrom before.length before rest = [.plain t]
    rw [piecesFrom_of_forall_tag? h, ← intercalate_cons_eq, hjoin]

theorem pieces_of_notMem (h : '[' ∉ t) : pieces t = [.plain t] := by
  refine pieces_of_forall_tag? fun u hu => ?_
  have hsplit : t.splitOn '[' = [t] :=
    List.splitOnP_eq_singleton fun c hc => beq_eq_false_iff_ne.2 fun heq => h (heq ▸ hc)
  rw [hsplit] at hu
  cases hu

theorem unescape_of_notMem (h : '[' ∉ t) : unescape t = t := by
  fun_induction unescape t with
  | case1 r => exact absurd (List.mem_cons_of_mem _ List.mem_cons_self) h
  | case2 c r _ ih => rw [ih fun hr => h (List.mem_cons_of_mem c hr)]
  | case3 => rfl

theorem read_of_forall_tag? (handler : HandlerTest)
    (h : ∀ u ∈ (t.splitOn '[').tail, tag? u = none) :
    read handler t = .ok (Emoji.replaceCodes (unescape t)) := by
  by_cases hmem : '[' ∈ t
  · rw [read, if_pos (by simpa using hmem), pieces_of_forall_tag? h]
    rfl
  · rw [read_of_notMem handler hmem, unescape_of_notMem hmem]

/-! ### Open tags -/

/-- A closing tag. -/
def Piece.isClosing : Piece → Bool
  | plain _ => false
  | tag _ t => t.name.head? = some '/'

/-- An opening tag. -/
def Piece.isOpening : Piece → Bool
  | plain _ => false
  | tag _ t => t.name.head? ≠ some '/'

theorem length_of_popNamed? {name : Text} {ts rest : List Tag} {u : Tag}
    (h : popNamed? name ts = some (u, rest)) : rest.length + 1 = ts.length := by
  induction ts generalizing u rest with
  | nil => cases h
  | cons s ts ih =>
    rw [popNamed?] at h
    split at h
    · cases h
      rfl
    · obtain ⟨⟨v, others⟩, hothers, heq⟩ := Option.map_eq_some_iff.1 h
      cases heq
      rw [List.length_cons, List.length_cons, ih hothers]

theorem length_of_pop {position : Nat} {closing u : Tag} {ts rest : List Tag}
    (h : pop position closing ts = .ok (u, rest)) : rest.length + 1 = ts.length := by
  simp only [pop] at h
  split at h
  · cases ts with
    | nil => cases h
    | cons s ts =>
      cases h
      rfl
  · obtain ⟨name, -, h⟩ := bind_eq_ok_iff.1 h
    split at h
    · cases h
    · cases h
      exact length_of_popNamed? ‹_›

/-- One piece opens a tag or closes one, or neither. -/
theorem length_opened_step (h : r.step handler p = .ok r') :
    r'.opened.length + p.isClosing.toNat = r.opened.length + p.isOpening.toNat := by
  cases p with
  | plain t =>
    cases h
    rfl
  | tag position t =>
    rw [Reading.step] at h
    by_cases hclosing : t.name.head? = some '/'
    · rw [if_pos hclosing] at h
      obtain ⟨⟨closed, rest⟩, hpop, h⟩ := bind_eq_ok_iff.1 h
      obtain ⟨_, -, h⟩ := bind_eq_ok_iff.1 h
      cases h
      simpa [Piece.isClosing, Piece.isOpening, hclosing] using length_of_pop hpop
    · rw [if_neg hclosing] at h
      obtain ⟨name, -, h⟩ := bind_eq_ok_iff.1 h
      cases h
      simp [Piece.isClosing, Piece.isOpening, hclosing]

/-- A row of pieces leaves open what it has opened and not closed. -/
theorem length_opened_run (h : ps.foldlM (Reading.step handler) r = .ok r') :
    r'.opened.length + ps.countP Piece.isClosing
      = r.opened.length + ps.countP Piece.isOpening := by
  induction ps generalizing r with
  | nil =>
    cases h
    rfl
  | cons p ps ih =>
    rw [List.foldlM_cons] at h
    obtain ⟨s, hstep, hrun⟩ := bind_eq_ok_iff.1 h
    have hone := length_opened_step hstep
    have hrest := ih hrun
    rw [List.countP_cons, List.countP_cons]
    cases hc : p.isClosing <;> cases ho : p.isOpening <;> simp_all <;> omega

/-- What can be read never closes more tags than it has opened. -/
theorem countP_isClosing_le (h : read handler t = .ok shown) (hps : ps <+: pieces t) :
    ps.countP Piece.isClosing ≤ ps.countP Piece.isOpening := by
  obtain ⟨qs, hqs⟩ := hps
  rw [read] at h
  split at h
  · rw [← hqs, List.foldlM_append] at h
    obtain ⟨final, hfinal, -⟩ := bind_eq_ok_iff.1 h
    obtain ⟨r, hrun, -⟩ := bind_eq_ok_iff.1 hfinal
    have hlength := length_opened_run hrun
    rw [List.length_nil] at hlength
    omega
  · rename_i hmem
    rw [pieces_of_notMem (by simpa using hmem)] at hqs
    have hnone : ∀ p ∈ ps, ¬p.isClosing = true := fun p hp => by
      have hmem := List.mem_append_left qs hp
      rw [hqs] at hmem
      rw [List.mem_singleton.1 hmem, Piece.isClosing]
      exact Bool.false_ne_true
    rw [List.countP_eq_zero.2 hnone]
    exact Nat.zero_le _

end VarDecl.Report.Markup
