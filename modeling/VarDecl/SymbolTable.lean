import VarDecl.Text.Basic

/-!
# Symbol tables

A symbol table maps declared names to their types and keeps the order of declaration. Inserting a
name again replaces its type and keeps its place.

* `find?_insert` says what a look-up finds after an insertion;
* `insert_of_find?_eq_none`: a new name goes to the end.
-/

namespace VarDecl

/-- Names with their types, in order of declaration. -/
structure SymbolTable where
  entries : List (Text × Text)
  deriving DecidableEq

namespace SymbolTable

/-- The table without names. -/
def empty : SymbolTable := ⟨[]⟩

/-- The declared names, in order. -/
def names (Γ : SymbolTable) : List Text := Γ.entries.map (·.1)

/-- The type of a name. -/
def find? (Γ : SymbolTable) (name : Text) : Option Text := Γ.entries.lookup name

/-- Replace the entry of a name, or add it at the end. -/
def insertEntry (name type : Text) : List (Text × Text) → List (Text × Text)
  | [] => [(name, type)]
  | e :: r => if e.1 = name then (name, type) :: r else e :: insertEntry name type r

/-- Give a name a type. -/
def insert (Γ : SymbolTable) (name type : Text) : SymbolTable :=
  ⟨insertEntry name type Γ.entries⟩

/-- The table that results from inserting pairs one after the other. -/
def ofList (pairs : List (Text × Text)) : SymbolTable :=
  pairs.foldl (fun Γ e => Γ.insert e.1 e.2) empty

@[simp] theorem find?_empty (name : Text) : empty.find? name = none := rfl
@[simp] theorem names_empty : empty.names = [] := rfl

/-- An insertion changes the type of its own name only. -/
theorem find?_insert (Γ : SymbolTable) (name type other : Text) :
    (Γ.insert name type).find? other = if other = name then some type else Γ.find? other := by
  obtain ⟨es⟩ := Γ
  simp only [insert, find?]
  induction es with
  | nil =>
    by_cases h : other = name
    · simp [insertEntry, h]
    · simp [insertEntry, List.lookup_cons, beq_eq_false_iff_ne.2 h, h]
  | cons e r ih =>
    obtain ⟨n, τ⟩ := e
    by_cases hn : n = name
    · subst hn
      by_cases h : other = n
      · simp [insertEntry, h]
      · simp [insertEntry, List.lookup_cons, beq_eq_false_iff_ne.2 h, h]
    · by_cases h : other = n
      · subst h
        simp [insertEntry, hn]
      · simp [insertEntry, hn, List.lookup_cons, beq_eq_false_iff_ne.2 h, ih]

/-- A new name goes to the end. -/
theorem insert_of_find?_eq_none {Γ : SymbolTable} {name type : Text} (h : Γ.find? name = none) :
    Γ.insert name type = ⟨Γ.entries ++ [(name, type)]⟩ := by
  obtain ⟨es⟩ := Γ
  simp only [insert, find?, mk.injEq] at h ⊢
  induction es with
  | nil => rfl
  | cons e r ih =>
    obtain ⟨n, τ⟩ := e
    by_cases hn : name = n
    · simp [hn] at h
    · have hn' : ¬n = name := fun h' => hn h'.symm
      simp only [List.lookup_cons, beq_eq_false_iff_ne.2 hn] at h
      simp [insertEntry, hn', ih h]

end SymbolTable

end VarDecl
