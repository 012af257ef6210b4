import VarDecl.Declaration.Suffix
import VarDecl.Primitive

/-!
# Declaration lines

A declaration line is modifiers, a primitive type, array suffixes, blanks, a list of declarators and
a last semicolon. `Header.ofLine?` recognises one and cuts it in two.

* Blanks may stand at both ends, before each suffix, and must stand after each modifier and before
  the declarators.
* As many suffixes as possible belong to the type; if then no blank or no declarator is left, one
  fewer is tried.
* The declarators start after the blanks, unless nothing but blanks is left before the semicolon:
  then the last blank is the list of declarators.
* The declarators have no newline.
-/

namespace VarDecl.Declaration

open Text

/-- The two parts of a declaration line. -/
structure Header where
  type : Primitive
  declarators : Text
  deriving DecidableEq

namespace Header

/-- The words that may stand before the type. -/
def modifiers : List Text :=
  ["public".toList, "private".toList, "protected".toList, "static".toList, "final".toList,
    "transient".toList, "volatile".toList]

/-- The text after a modifier and the blanks that follow it. -/
def modifier? (t : Text) : Option Text :=
  modifiers.findSome? fun m =>
    match after? m t with
    | some (c :: r) => if isBlank c then some (trimLeft r) else none
    | _ => none

theorem length_lt_of_modifier? {t r : Text} (h : modifier? t = some r) :
    r.length < t.length := by
  obtain ⟨m, _, hm⟩ := List.exists_of_findSome?_eq_some h
  split at hm
  · rename_i c rest heq
    split at hm
    · simp only [Option.some.injEq] at hm
      subst hm
      have hp := after?_eq_some_iff.1 heq
      have hl : (trimLeft rest).length ≤ rest.length := (List.dropWhile_sublist _).length_le
      rw [hp]
      simp only [List.length_append, List.length_cons]
      omega
    · simp at hm
  · simp at hm

/-- The text after all modifiers. -/
def dropModifiers (t : Text) : Text :=
  match _h : modifier? t with
  | some r => dropModifiers r
  | none => t
termination_by t.length
decreasing_by exact length_lt_of_modifier? _h

/-- The texts that remain after array suffixes at the start, the longest row of suffixes first. -/
def suffixRests (t : Text) : List Text :=
  match _h : suffix? (trimLeft t) with
  | some r => suffixRests r ++ [t]
  | none => [t]
termination_by t.length
decreasing_by
  have := length_lt_of_suffix? _h
  have hl : (trimLeft t).length ≤ t.length := (List.dropWhile_sublist _).length_le
  omega

/-- The declarators of a text that starts with the blanks before them. -/
def declarators? (t : Text) : Option Text :=
  let blanks := t.takeWhile isBlank
  let rest := trimRight (t.dropWhile isBlank)
  if blanks.isEmpty || rest.getLast? != some ';' then none
  else
    -- Of a lone semicolon and the blanks before it, one blank has to stand for the list.
    let list := if rest.length = 1 then blanks.tail.getLast?.toList else rest.dropLast
    if list.isEmpty || list.contains '\n' then none else some list

/-- Recognise a declaration line. -/
def ofLine? (line : Text) : Option Header := do
  let (type, rest) ← Primitive.ofStart? (dropModifiers (trimLeft line))
  let declarators ← (suffixRests rest).findSome? declarators?
  return ⟨type, declarators⟩

end Header

end VarDecl.Declaration
