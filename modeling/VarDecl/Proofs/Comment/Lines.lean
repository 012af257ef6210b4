import VarDecl.Proofs.Comment
import VarDecl.Proofs.Text.Lines

/-!
# Comments line by line

What stripping does to the lines of a text.

* `forall₂_lines_strip`: each line loses characters and gains none, and no line is lost;
* `stripFrom_append_newline`: a newline parts the work. Only an open block comment reaches beyond
  it, so texts that do not end in one are stripped apart (`strip_append_newline`);
* `strip_strip`: what is left holds no comment. A slash of code stays in front of the character
  that follows it in the text (`head?_stripFrom_code`), so no removal makes a new comment start.
-/

namespace VarDecl.Comment

open Text

variable {m : Mode} {a b c q : Char} {r s t : Text}

/-! ### Lines stay in place -/

theorem linewiseSublist_stripFrom (m : Mode) (t : Text) : LinewiseSublist (stripFrom m t) t := by
  fun_induction stripFrom m t with
  | case1 => exact linewiseSublist_nil
  | case2 r ih | case3 r ih | case10 r ih => exact (ih.omit (by decide)).omit (by decide)
  | case4 c r _ _ ih => exact ih.keep c
  | case5 q r ih => exact ih.newline.keep '\\'
  | case6 q c r _ ih => exact (ih.keep c).keep '\\'
  | case7 q c r _ ih => exact ih.keep c
  | case8 r ih => exact ih.newline
  | case9 c r hc ih => exact ih.omit hc
  | case11 r _ ih => exact ih.newline
  | case12 c r _ hc ih => exact ih.omit hc

/-- Each line loses characters and gains none, and there are as many lines as before. -/
theorem forall₂_lines_strip (t : Text) : List.Forall₂ List.Sublist (strip t).lines t.lines :=
  linewiseSublist_stripFrom .code t

/-! ### Characters that belong together -/

/-- The text `c :: r` does not start with the two characters `a` and `b`. -/
def Avoids (a b c : Char) (r : Text) : Prop := ∀ r', c = a → r = b :: r' → False

theorem Avoids.append_newline (hb : b ≠ '\n') (h : Avoids a b c r) :
    Avoids a b c (r ++ '\n' :: t) := by
  intro r' hc hr
  cases r with
  | nil => exact hb (List.cons.inj hr).1.symm
  | cons d r => exact h r hc (by rw [(List.cons.inj hr).1])

theorem stripFrom_code_cons (h₁ : Avoids '/' '/' c r) (h₂ : Avoids '/' '*' c r) :
    stripFrom .code (c :: r) = c :: stripFrom (.afterCode c) r := by
  rw [stripFrom]
  exacts [h₁, h₂]

theorem modeFrom_code_cons (h₁ : Avoids '/' '/' c r) (h₂ : Avoids '/' '*' c r) :
    modeFrom .code (c :: r) = modeFrom (.afterCode c) r := by
  rw [modeFrom]
  exacts [h₁, h₂]

theorem stripFrom_literal_cons (h : c ≠ '\\') :
    stripFrom (.literal q) (c :: r) = c :: stripFrom (.afterLiteral q c) r := by
  rw [stripFrom]
  exact fun _ _ hc => absurd hc h

theorem modeFrom_literal_cons (h : c ≠ '\\') :
    modeFrom (.literal q) (c :: r) = modeFrom (.afterLiteral q c) r := by
  rw [modeFrom]
  exact fun _ _ hc => absurd hc h

theorem eq_nil_of_backslash (hc : c = '\\') (h : ∀ d r', c = '\\' → r = d :: r' → False) :
    r = [] := by
  cases r with
  | nil => rfl
  | cons d r => exact absurd rfl (h d r hc)

theorem stripFrom_block_cons (h : Avoids '*' '/' c r) (hc : c ≠ '\n') :
    stripFrom .block (c :: r) = stripFrom .block r := by
  rw [stripFrom, if_neg hc]
  exact h

theorem modeFrom_block_cons (h : Avoids '*' '/' c r) :
    modeFrom .block (c :: r) = modeFrom .block r := by
  rw [modeFrom]
  exact h

/-! ### Newlines part a text -/

/-- The mode at the start of a line: only a block comment goes on. -/
def Mode.afterNewline : Mode → Mode
  | .block => .block
  | _ => .code

theorem afterNewline_of_ne (h : m ≠ .block) : m.afterNewline = .code := by
  cases m with
  | block => exact absurd rfl h
  | _ => rfl

theorem afterNewline_afterLiteral (q c : Char) : (Mode.afterLiteral q c).afterNewline = .code := by
  unfold Mode.afterLiteral
  split_ifs <;> rfl

theorem stripFrom_newline_cons (m : Mode) (t : Text) :
    stripFrom m ('\n' :: t) = '\n' :: stripFrom m.afterNewline t := by
  cases m <;> simp [stripFrom, Mode.afterCode, Mode.afterLiteral, Mode.afterNewline]

theorem modeFrom_newline_cons (m : Mode) (t : Text) :
    modeFrom m ('\n' :: t) = modeFrom m.afterNewline t := by
  cases m <;> simp [modeFrom, Mode.afterCode, Mode.afterLiteral, Mode.afterNewline]

/-- What comes after a newline is stripped on its own, but for a block comment that is open. -/
theorem stripFrom_append_newline (m : Mode) (s t : Text) :
    stripFrom m (s ++ '\n' :: t)
      = stripFrom m s ++ '\n' :: stripFrom (modeFrom m s).afterNewline t := by
  fun_induction stripFrom m s with
  | case1 m => rw [List.nil_append, stripFrom_newline_cons, modeFrom, List.nil_append]
  | case2 r ih | case3 r ih | case5 q r ih | case8 r ih | case10 r ih | case11 r _ ih =>
    simpa [stripFrom, modeFrom] using ih
  | case6 q c r hc ih | case9 c r hc ih => simpa [stripFrom, modeFrom, hc] using ih
  | case4 c r h₁ h₂ ih =>
    rw [List.cons_append, stripFrom_code_cons (Avoids.append_newline (by decide) h₁)
      (Avoids.append_newline (by decide) h₂), modeFrom_code_cons h₁ h₂, ih, List.cons_append]
  | case7 q c r h ih =>
    by_cases hc : c = '\\'
    · -- The backslash is the last character, and escapes nothing.
      obtain rfl := eq_nil_of_backslash hc h
      simp [hc, stripFrom, modeFrom, afterNewline_afterLiteral]
    · rw [List.cons_append, stripFrom_literal_cons hc, modeFrom_literal_cons hc, ih,
        List.cons_append]
  | case12 c r h hc ih =>
    rw [List.cons_append, stripFrom_block_cons (Avoids.append_newline (by decide) h) hc,
      modeFrom_block_cons h, ih]

/-- Texts are stripped apart if the first of them does not end in a block comment. -/
theorem strip_append_newline (h : modeAfter s ≠ .block) :
    strip (s ++ '\n' :: t) = strip s ++ '\n' :: strip t := by
  rw [strip, stripFrom_append_newline, show modeFrom .code s = modeAfter s from rfl,
    afterNewline_of_ne h]
  rfl

/-! ### Nothing is left to strip -/

/-- The mode in which the stripped text is read: where a comment was, it goes on in code. -/
def Mode.outside : Mode → Mode
  | .literal q => .literal q
  | _ => .code

theorem outside_afterCode (c : Char) : (Mode.afterCode c).outside = .afterCode c := by
  unfold Mode.afterCode
  split_ifs <;> rfl

theorem outside_afterLiteral (q c : Char) :
    (Mode.afterLiteral q c).outside = .afterLiteral q c := by
  unfold Mode.afterLiteral
  split_ifs <;> rfl

/-- Where no comment starts, the first character stays. -/
theorem head?_stripFrom_code (h : ∀ r', t ≠ '/' :: r') : (stripFrom .code t).head? = t.head? := by
  cases t with
  | nil => rfl
  | cons c r =>
    have hc : c ≠ '/' := fun h0 => h r (by rw [h0])
    rw [stripFrom_code_of_ne hc, List.head?_cons, List.head?_cons]

/-- A slash of code that starts no comment does not start one when the comments behind it are
gone. -/
theorem Avoids.stripFrom (h : Avoids '/' '/' c r) (hb : Avoids '/' b c r) :
    Avoids '/' b c (stripFrom (.afterCode c) r) := by
  rintro r' rfl hr
  have hslash : ∀ r', r ≠ '/' :: r' := fun r' => h r' rfl
  have hhead := head?_stripFrom_code hslash
  rw [show stripFrom .code r = b :: r' from hr, List.head?_cons] at hhead
  obtain ⟨r'', hr''⟩ := List.head?_eq_some_iff.1 hhead.symm
  exact hb r'' rfl hr''

theorem stripFrom_stripFrom (m : Mode) (t : Text) :
    stripFrom m.outside (stripFrom m t) = stripFrom m t := by
  fun_induction stripFrom m t with
  | case1 m => simp
  | case2 r ih | case3 r ih | case9 c r hc ih | case10 r ih | case12 c r h hc ih => exact ih
  | case4 c r h₁ h₂ ih =>
    rw [outside_afterCode] at ih
    show stripFrom .code (c :: stripFrom (.afterCode c) r) = c :: stripFrom (.afterCode c) r
    rw [stripFrom_code_cons (Avoids.stripFrom h₁ h₁) (Avoids.stripFrom h₁ h₂), ih]
  | case5 q r ih => simpa [Mode.outside, stripFrom] using ih
  | case6 q c r hc ih => simpa [Mode.outside, stripFrom, hc] using ih
  | case7 q c r h ih =>
    by_cases hc : c = '\\'
    · obtain rfl := eq_nil_of_backslash hc h
      simp [Mode.outside, hc, stripFrom]
    · rw [outside_afterLiteral] at ih
      rw [Mode.outside, stripFrom_literal_cons hc, ih]
  | case8 r ih | case11 r h ih =>
    rw [stripFrom_newline_cons]
    exact congrArg _ ih

/-- Stripping again changes nothing. -/
theorem strip_strip (t : Text) : strip (strip t) = strip t := stripFrom_stripFrom .code t

end VarDecl.Comment
