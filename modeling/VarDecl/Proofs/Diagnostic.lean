import VarDecl.Diagnostic
import VarDecl.Proofs.Text.Cuts

/-!
# Reading diagnostics back

What a diagnostic says determines what it is about.

* `Fault.opening` is the wording of a message up to the first text that it quotes, `quotation` is
  the rest. No opening starts with another one (`opening_inj`), so the opening tells the `shape` of
  the fault;
* `Fault.message_inj` reads the whole fault. Where a message goes on behind a quoted text, the text
  must hold no quote (`IsClear`);
* `Diagnostic.render_inj` also reads the line, as no message starts like a line number, and
  `hint_inj` the suggestion.
-/

namespace VarDecl

open Text

theorem Primitive.name_injective : Function.Injective Primitive.name := fun p q h => by
  rw [← Option.some_inj, ← Primitive.ofName?_name p, h, Primitive.ofName?_name]

namespace Fault

variable {φ ψ : Fault} {r s : Text}

/-- A fault without what its message says behind the opening. -/
def shape : Fault → Fault
  | notCandidate _ => notCandidate []
  | tooManyWords _ => tooManyWords []
  | invalidName _ => invalidName []
  | invalidType _ => invalidType []
  | notDeclaration _ => notDeclaration []
  | alreadyDeclared _ => alreadyDeclared []
  | undefined _ _ => undefined [] []
  | literalMismatch _ _ _ => literalMismatch .string .int []
  | expressionMismatch category _ _ => expressionMismatch category .int []
  | φ => φ

/-- A message up to the first text that it quotes. -/
def opening : Fault → Text
  | notCandidate _ => "Only variable declarations are allowed. Found: ".toList
  | tooManyWords _ => "Too many tokens in declaration part ".toList ++ ['\'']
  | invalidName _ => "Invalid variable name ".toList ++ ['\'']
  | invalidType _ => "Invalid or missing type ".toList ++ ['\'']
  | notDeclaration _ => "Not a variable declaration: ".toList
  | alreadyDeclared _ => "Variable ".toList ++ ['\'']
  | undefined _ _ => "Undefined variable ".toList ++ ['\'']
  | literalMismatch _ _ _ => "Type mismatch - cannot assign ".toList
  | expressionMismatch .unknown _ _ =>
    "Unable to verify initializer type for ".toList ++ ['\'']
  | expressionMismatch category _ _ =>
    "Type mismatch - expression evaluates to ".toList ++ categoryPhrase category
      ++ " but variable ".toList ++ ['\'']
  | φ => φ.message

/-- What a message says of a literal and a type. -/
def literalWords (kind : LiteralKind) (type : Primitive) : Text :=
  literalPhrase kind type ++ type.name ++ [' ', '\'']

/-- A message behind its opening. -/
def quotation : Fault → Text
  | notCandidate line | notDeclaration line => line
  | tooManyWords declarator => declarator ++ ['\'']
  | invalidName name | invalidType name => name ++ ['\'']
  | alreadyDeclared name => name ++ '\'' :: " already declared".toList
  | undefined reference target =>
    reference ++ '\'' :: (" used in assignment to ".toList ++ quoted target)
  | literalMismatch kind type target => literalWords kind type ++ (target ++ ['\''])
  | expressionMismatch .unknown type target =>
    target ++ '\'' :: (" declared as ".toList ++ type.name)
  | expressionMismatch _ type target => target ++ '\'' :: (" is ".toList ++ type.name)
  | _ => []

theorem quoted_injective : Function.Injective quoted := fun _ _ h =>
  List.append_cancel_right (List.cons.inj h).2

theorem append_quoted (u t : Text) : u ++ quoted t = u ++ ['\''] ++ (t ++ ['\'']) := by
  simp [quoted]

theorem append_quoted_append (u t v : Text) :
    u ++ quoted t ++ v = u ++ ['\''] ++ (t ++ '\'' :: v) := by
  simp [quoted]

theorem message_eq (φ : Fault) : φ.message = φ.opening ++ φ.quotation := by
  cases φ with
  | notCandidate | notDeclaration => rfl
  | tooManyWords | invalidName | invalidType => exact append_quoted _ _
  | alreadyDeclared => exact append_quoted_append _ _ _
  | undefined => exact (List.append_assoc _ _ _).trans (append_quoted_append _ _ _)
  | literalMismatch kind type target =>
    change "Type mismatch - cannot assign ".toList ++ literalPhrase kind type ++ type.name ++ [' ']
      ++ quoted target = "Type mismatch - cannot assign ".toList
        ++ (literalWords kind type ++ (target ++ ['\'']))
    simp only [literalWords, quoted, List.append_assoc, List.cons_append, List.nil_append]
  | expressionMismatch category =>
    cases category <;> exact (List.append_assoc _ _ _).trans (append_quoted_append _ _ _)
  | _ => exact (List.append_nil _).symm

/-! ### Openings -/

/-- All shapes of faults. -/
def shapes : List Fault :=
  [noSource, noDeclarations, notCandidate [], missingSemicolon, equalityOperator, emptyValue,
    missingTypeOrName, tooManyWords [], invalidName [], invalidType [], notDeclaration [],
    emptyDeclarator, alreadyDeclared [], undefined [] [], literalMismatch .string .int [],
    expressionMismatch .string .int [], expressionMismatch .boolean .int [],
    expressionMismatch .floating .int [], expressionMismatch .integral .int [],
    expressionMismatch .unknown .int []]

theorem shape_mem_shapes (φ : Fault) : φ.shape ∈ shapes := by
  cases φ with
  | expressionMismatch category type target => cases category <;> simp [shape, shapes]
  | _ => simp [shape, shapes]

theorem opening_shape (φ : Fault) : φ.shape.opening = φ.opening := by
  cases φ with
  | expressionMismatch category type target => cases category <;> rfl
  | _ => rfl

/-- No opening starts with another one. -/
theorem opening_prefixFree :
    ∀ φ ∈ shapes, ∀ ψ ∈ shapes, φ.opening <+: ψ.opening → φ = ψ := by
  decide +kernel

/-- An opening stays on its line and starts with none of the characters that other lines of a report
start with. -/
theorem opening_of_mem_shapes :
    ∀ φ ∈ shapes, '\n' ∉ φ.opening ∧ φ.opening.head? ∉ [none, some 'L', some ' '] := by
  decide +kernel

/-- The kinds of literals. -/
def literalKinds : List LiteralKind := [.string, .char, .boolean, .integer, .floating]

theorem mem_literalKinds (kind : LiteralKind) : kind ∈ literalKinds := by cases kind <;> decide

theorem literalWords_prefixFree :
    ∀ kind ∈ literalKinds, ∀ type ∈ Primitive.all, ∀ kind' ∈ literalKinds, ∀ type' ∈ Primitive.all,
      literalWords kind type <+: literalWords kind' type' → kind = kind' ∧ type = type' := by
  decide +kernel

/-- Where no beginning starts with another one, a text has one of them only. -/
theorem append_inj_of_prefixFree {α : Type} {f : α → Text} {a b : α}
    (hab : f a <+: f b → a = b) (hba : f b <+: f a → b = a) (h : f a ++ r = f b ++ s) :
    a = b ∧ r = s := by
  have hab' : a = b := by
    have ha := List.prefix_append (f a) r
    rw [h] at ha
    rcases List.prefix_or_prefix_of_prefix ha (List.prefix_append (f b) s) with hp | hp
    · exact hab hp
    · exact (hba hp).symm
  subst hab'
  exact ⟨rfl, List.append_cancel_left h⟩

theorem opening_inj (h : φ.opening ++ r = ψ.opening ++ s) : φ.shape = ψ.shape ∧ r = s := by
  rw [← opening_shape φ, ← opening_shape ψ] at h
  exact append_inj_of_prefixFree (opening_prefixFree _ (shape_mem_shapes φ) _ (shape_mem_shapes ψ))
    (opening_prefixFree _ (shape_mem_shapes ψ) _ (shape_mem_shapes φ)) h

theorem literalWords_inj {kind kind' : LiteralKind} {type type' : Primitive}
    (h : literalWords kind type ++ r = literalWords kind' type' ++ s) :
    (kind = kind' ∧ type = type') ∧ r = s := by
  have hfree : ∀ a b : LiteralKind × Primitive,
      literalWords a.1 a.2 <+: literalWords b.1 b.2 → a = b := fun a b hp =>
    Prod.ext_iff.2 (literalWords_prefixFree _ (mem_literalKinds a.1) _ a.2.mem_all _
      (mem_literalKinds b.1) _ b.2.mem_all hp)
  have hinj := append_inj_of_prefixFree
    (f := fun a : LiteralKind × Primitive => literalWords a.1 a.2)
    (hfree (kind, type) (kind', type')) (hfree _ _) h
  exact hinj.imp_left Prod.mk.inj

/-! ### Messages -/

/-- A quoted text that words follow on holds no quote itself. -/
def IsClear : Fault → Prop
  | undefined reference _ => '\'' ∉ reference
  | expressionMismatch _ _ target => '\'' ∉ target
  | _ => True

/-- What is quoted can be read if the shape is known. -/
theorem eq_of_quotation_eq (hφ : φ.IsClear) (hψ : ψ.IsClear) (hshape : φ.shape = ψ.shape)
    (h : φ.quotation = ψ.quotation) : φ = ψ := by
  cases φ with
  | notCandidate t =>
    cases ψ with
    | notCandidate u => exact congrArg _ h
    | _ => cases hshape
  | notDeclaration t =>
    cases ψ with
    | notDeclaration u => exact congrArg _ h
    | _ => cases hshape
  | tooManyWords t =>
    cases ψ with
    | tooManyWords u => exact congrArg _ (List.append_cancel_right h)
    | _ => cases hshape
  | invalidName t =>
    cases ψ with
    | invalidName u => exact congrArg _ (List.append_cancel_right h)
    | _ => cases hshape
  | invalidType t =>
    cases ψ with
    | invalidType u => exact congrArg _ (List.append_cancel_right h)
    | _ => cases hshape
  | alreadyDeclared t =>
    cases ψ with
    | alreadyDeclared u => exact congrArg _ (List.append_cancel_right h)
    | _ => cases hshape
  | undefined reference target =>
    cases ψ with
    | undefined reference' target' =>
      obtain ⟨rfl, hrest⟩ := append_cons_inj_of_notMem hφ hψ h
      exact congrArg _ (quoted_injective (List.append_cancel_left hrest))
    | _ => cases hshape
  | literalMismatch kind type target =>
    cases ψ with
    | literalMismatch kind' type' target' =>
      obtain ⟨⟨rfl, rfl⟩, hrest⟩ := literalWords_inj h
      exact congrArg _ (List.append_cancel_right hrest)
    | _ => cases hshape
  | expressionMismatch category type target =>
    cases ψ with
    | expressionMismatch category' type' target' =>
      cases hshape
      cases category <;>
        (obtain ⟨rfl, hrest⟩ := append_cons_inj_of_notMem hφ hψ h
         rw [Primitive.name_injective (List.append_cancel_left hrest)])
    | _ => cases hshape
  | _ => cases ψ <;> first | rfl | cases hshape

/-- Different faults have different messages. -/
theorem message_inj (hφ : φ.IsClear) (hψ : ψ.IsClear) (h : φ.message = ψ.message) : φ = ψ := by
  rw [message_eq, message_eq] at h
  obtain ⟨hshape, hq⟩ := opening_inj h
  exact eq_of_quotation_eq hφ hψ hshape hq

theorem exists_message_eq_cons (φ : Fault) : ∃ c t, φ.message = c :: t ∧ c ≠ 'L' ∧ c ≠ ' ' := by
  have hhead := (opening_of_mem_shapes _ (shape_mem_shapes φ)).2
  rw [opening_shape] at hhead
  rw [message_eq]
  cases hopening : φ.opening with
  | nil => simp [hopening] at hhead
  | cons c t =>
    rw [hopening] at hhead
    exact ⟨c, t ++ φ.quotation, rfl, by simpa using hhead⟩

end Fault

/-! ### Diagnostics -/

namespace Diagnostic

variable {d e : Diagnostic}

theorem exists_render_eq_cons (d : Diagnostic) : ∃ c t, d.render = c :: t ∧ c ≠ ' ' := by
  obtain ⟨line, φ, o⟩ := d
  cases line with
  | none =>
    obtain ⟨c, t, ht, -, hc⟩ := φ.exists_message_eq_cons
    exact ⟨c, t, ht, hc⟩
  | some n => exact ⟨'L', _, rfl, by decide⟩

/-- The text of a diagnostic tells the line and the fault. -/
theorem render_inj (hd : d.fault.IsClear) (he : e.fault.IsClear) (h : d.render = e.render) :
    d.line = e.line ∧ d.fault = e.fault := by
  obtain ⟨line, φ, o⟩ := d
  obtain ⟨line', ψ, o'⟩ := e
  have hends : ∀ t : Text, EndsNumber (": ".toList ++ t) := by
    rintro t c ⟨rfl⟩
    rfl
  -- A message alone does not start like a line number.
  have hne : ∀ (χ : Fault) (t : Text), χ.message ≠ "Line ".toList ++ t := by
    intro χ t hχ
    obtain ⟨c, u, hu, hc, -⟩ := χ.exists_message_eq_cons
    rw [hu] at hχ
    exact hc (List.cons.inj hχ).1
  cases line with
  | none =>
    cases line' with
    | none => exact ⟨rfl, Fault.message_inj hd he h⟩
    | some n =>
      simp only [render, List.append_assoc] at h
      exact absurd h (hne φ _)
  | some m =>
    cases line' with
    | none =>
      simp only [render, List.append_assoc] at h
      exact absurd h.symm (hne ψ _)
    | some n =>
      simp only [render, List.append_assoc] at h
      obtain ⟨rfl, hmessage⟩ :=
        ofNat_append_inj (hends _) (hends _) (List.append_cancel_left h)
      exact ⟨rfl, Fault.message_inj hd he (List.append_cancel_left hmessage)⟩

theorem hint_injective : Function.Injective Suggestion.hint := fun _ _ h =>
  List.append_cancel_left (List.append_cancel_right h)

theorem hint_inj (h : d.hint = e.hint) : d.suggestion = e.suggestion :=
  Option.map_injective hint_injective h

end Diagnostic

end VarDecl
