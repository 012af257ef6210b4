import VarDecl.File.Listing
import VarDecl.Proofs.File.Path

/-!
# Directory trees

A directory is a list of entries, each a file or a directory again (`cons_induction`).

* `IsTree`: a directory as a file system has it, whose entries have proper names and stand in their
  order. What a name stands for is then an entry, and the only one (`find?_eq_some_iff`);
* `lookup_cons`, `lookup_append`: a path is followed name by name, and all of its names are proper
  (`IsTree.of_lookup`);
* `mem_entriesNamed_iff`, `pairwise_entriesNamed`: all entries of a name are found, in path order.
-/

namespace VarDecl.File

/-- What is inside an entry; there is nothing inside a file. -/
def Node.children : Node → Listing
  | .file _ => .nil
  | .dir children => children

namespace Listing

open VarDecl.File.Path

variable {l rest : Listing} {n m wanted : Text} {node found : Node} {p q above : List Text}

/-! ### Entries -/

/-- The entries of a directory, with what they are. -/
def entries : Listing → List (Text × Node)
  | nil => []
  | file n bytes rest => (n, .file bytes) :: rest.entries
  | dir n children rest => (n, .dir children) :: rest.entries

/-- A directory is empty or has a first entry. -/
@[elab_as_elim]
theorem cons_induction {motive : Listing → Prop} (empty : motive nil)
    (entry : ∀ n node rest, motive (Node.children node) → motive rest → motive (cons n node rest))
    (l : Listing) : motive l := by
  induction l with
  | nil => exact empty
  | file n bytes rest ih => exact entry n (.file bytes) rest empty ih
  | dir n children rest ihc ih => exact entry n (.dir children) rest ihc ih

@[simp] theorem entries_cons (n : Text) (node : Node) (rest : Listing) :
    (cons n node rest).entries = (n, node) :: rest.entries := by
  cases node <;> rfl

theorem find?_cons (wanted n : Text) (node : Node) (rest : Listing) :
    (cons n node rest).find? wanted = if n = wanted then some node else rest.find? wanted := by
  cases node <;> rfl

theorem mem_entries_of_find? (h : l.find? n = some node) : (n, node) ∈ l.entries := by
  induction l using cons_induction with
  | empty => cases h
  | entry m found rest _ ih =>
    rw [entries_cons]
    rw [find?_cons] at h
    split at h
    case isTrue hm =>
      rw [hm, Option.some.inj h]
      exact List.mem_cons_self
    case isFalse => exact List.mem_cons_of_mem _ (ih h)

/-! ### Trees -/

/-- A directory as a file system has it. -/
def IsTree : Listing → Prop
  | nil => True
  | file n _ rest => IsEntryName n ∧ (∀ e ∈ rest.entries, Text.Before n e.1) ∧ rest.IsTree
  | dir n children rest =>
    IsEntryName n ∧ (∀ e ∈ rest.entries, Text.Before n e.1) ∧ children.IsTree ∧ rest.IsTree

instance decidableIsTree : (l : Listing) → Decidable l.IsTree
  | nil => isTrue trivial
  | file n _ rest =>
    haveI := rest.decidableIsTree
    inferInstanceAs
      (Decidable (IsEntryName n ∧ (∀ e ∈ rest.entries, Text.Before n e.1) ∧ rest.IsTree))
  | dir n children rest =>
    haveI := children.decidableIsTree
    haveI := rest.decidableIsTree
    inferInstanceAs (Decidable
      (IsEntryName n ∧ (∀ e ∈ rest.entries, Text.Before n e.1) ∧ children.IsTree ∧ rest.IsTree))

theorem isTree_cons_iff : (cons n node rest).IsTree ↔
    IsEntryName n ∧ (∀ e ∈ rest.entries, Text.Before n e.1) ∧ node.children.IsTree ∧
      rest.IsTree := by
  cases node with
  | file bytes => exact ⟨fun ⟨h₁, h₂, h₃⟩ => ⟨h₁, h₂, trivial, h₃⟩,
      fun ⟨h₁, h₂, _, h₃⟩ => ⟨h₁, h₂, h₃⟩⟩
  | dir children => exact Iff.rfl

/-- Entries stand in the order of their names. -/
theorem IsTree.pairwise (h : l.IsTree) : l.entries.Pairwise fun a b => Text.Before a.1 b.1 := by
  induction l using cons_induction with
  | empty => exact List.Pairwise.nil
  | entry n node rest _ ih =>
    obtain ⟨-, hbefore, -, hrest⟩ := isTree_cons_iff.1 h
    rw [entries_cons]
    exact List.pairwise_cons.2 ⟨hbefore, ih hrest⟩

theorem IsTree.of_mem (h : l.IsTree) (hmem : (n, node) ∈ l.entries) :
    IsEntryName n ∧ node.children.IsTree := by
  induction l using cons_induction with
  | empty => cases hmem
  | entry m found rest _ ih =>
    obtain ⟨hname, -, hchildren, hrest⟩ := isTree_cons_iff.1 h
    rw [entries_cons, List.mem_cons] at hmem
    obtain heq | hmem := hmem
    · cases heq
      exact ⟨hname, hchildren⟩
    · exact ih hrest hmem

/-- A name stands for the entry that has it. -/
theorem find?_eq_some_iff (h : l.IsTree) : l.find? n = some node ↔ (n, node) ∈ l.entries := by
  refine ⟨mem_entries_of_find?, fun hmem => ?_⟩
  induction l using cons_induction with
  | empty => cases hmem
  | entry m found rest _ ih =>
    obtain ⟨-, hbefore, -, hrest⟩ := isTree_cons_iff.1 h
    rw [entries_cons, List.mem_cons] at hmem
    rw [find?_cons]
    obtain heq | hmem := hmem
    · cases heq
      exact if_pos rfl
    · have hne : m ≠ n := fun heq => irrefl_of Text.Before n (heq ▸ hbefore _ hmem)
      rw [if_neg hne, ih hrest hmem]

/-! ### Paths -/

theorem lookup_cons (n : Text) (p : List Text) (l : Listing) :
    l.lookup (n :: p) = (l.find? n).bind fun found =>
      if p = [] then some found else found.children.lookup p := by
  rw [lookup]
  cases l.find? n with
  | none => rfl
  | some found =>
    cases found with
    | file bytes => cases p <;> rfl
    | dir children => cases p <;> rfl

@[simp] theorem lookup_singleton (n : Text) (l : Listing) : l.lookup [n] = l.find? n := by
  rw [lookup_cons]
  cases l.find? n <;> rfl

theorem lookup_cons_eq_some_iff (hp : p ≠ []) : l.lookup (n :: p) = some node ↔
    ∃ children, l.find? n = some (.dir children) ∧ children.lookup p = some node := by
  rw [lookup]
  cases l.find? n with
  | none => simp
  | some found =>
    cases found with
    | file bytes => simp [hp]
    | dir children => simp

/-- A path behind a path that leads to a directory. -/
theorem lookup_append {children : Listing} (h : l.lookup p = some (.dir children)) :
    l.lookup (p ++ q) = children.lookup q := by
  induction p generalizing l with
  | nil =>
    cases h
    rfl
  | cons n p ih =>
    rw [List.cons_append, lookup]
    rw [lookup] at h
    cases hn : l.find? n with
    | none =>
      rw [hn] at h
      cases h
    | some found =>
      cases found with
      | file bytes =>
        rw [hn] at h
        simp only [List.isEmpty_iff] at h
        split at h <;> cases h
      | dir children' =>
        rw [hn] at h
        exact ih h

theorem IsTree.of_find? (h : l.IsTree) (hfind : l.find? n = some node) :
    IsEntryName n ∧ node.children.IsTree :=
  h.of_mem (mem_entries_of_find? hfind)

/-- The names of a path that leads somewhere are proper, and it leads to a proper place. -/
theorem IsTree.of_lookup (h : l.IsTree) (hp : l.lookup p = some node) :
    (∀ n ∈ p, IsEntryName n) ∧ node.children.IsTree := by
  induction p generalizing l with
  | nil =>
    cases hp
    exact ⟨List.forall_mem_nil _, h⟩
  | cons n p ih =>
    rw [lookup_cons, Option.bind_eq_some_iff] at hp
    obtain ⟨found, hfound, hp⟩ := hp
    obtain ⟨hname, hchildren⟩ := h.of_find? hfound
    split at hp
    case isTrue hnil =>
      cases hp
      rw [hnil]
      exact ⟨List.forall_mem_singleton.2 hname, hchildren⟩
    case isFalse =>
      obtain ⟨hnames, hnode⟩ := ih hchildren hp
      exact ⟨List.forall_mem_cons.2 ⟨hname, hnames⟩, hnode⟩

/-- A path into the entries behind the first one starts with a later name. -/
theorem before_of_lookup (h : (cons n node rest).IsTree) (hm : rest.lookup (m :: p) = some found) :
    Text.Before n m := by
  rw [lookup_cons, Option.bind_eq_some_iff] at hm
  obtain ⟨entry, hentry, -⟩ := hm
  exact (isTree_cons_iff.1 h).2.1 _ (mem_entries_of_find? hentry)

theorem lookup_cons_cons (m n : Text) (p : List Text) (node : Node) (rest : Listing) :
    (cons n node rest).lookup (m :: p) = if n = m then
      (if p = [] then some node else node.children.lookup p) else rest.lookup (m :: p) := by
  rw [lookup_cons, find?_cons, lookup_cons]
  split <;> rfl

/-! ### All entries of a name -/

theorem entriesNamed_cons (wanted : Text) (above : List Text) (n : Text) (node : Node)
    (rest : Listing) : (cons n node rest).entriesNamed wanted above
      = (if n = wanted then [(above ++ [n], node)] else [])
        ++ (node.children.entriesNamed wanted (above ++ [n]) ++ rest.entriesNamed wanted above) := by
  cases node <;> rfl

/-- A path leads to the first entry, into it or past it. -/
theorem lookup_concat_cons_iff {d : List Text} (h : (cons n found rest).IsTree) :
    (cons n found rest).lookup (d ++ [wanted]) = some node ↔
      (d = [] ∧ n = wanted ∧ node = found) ∨
      (∃ r, d = n :: r ∧ found.children.lookup (r ++ [wanted]) = some node) ∨
      rest.lookup (d ++ [wanted]) = some node := by
  -- The rest has no entry of the first name.
  have hpast : ∀ m r, rest.lookup (m :: r) = some node → n ≠ m := by
    rintro m r hm rfl
    exact irrefl_of Text.Before n (before_of_lookup h hm)
  cases d with
  | nil =>
    rw [List.nil_append, lookup_cons_cons, if_pos rfl]
    by_cases hn : n = wanted
    · subst hn
      have hrest : rest.lookup [n] ≠ some node := fun hm => hpast n [] hm rfl
      rw [lookup_singleton] at hrest
      simp [hrest, eq_comm]
    · simp [hn]
  | cons m d =>
    have hd : d ++ [wanted] ≠ [] := List.append_ne_nil_of_right_ne_nil d (List.cons_ne_nil _ _)
    rw [List.cons_append, lookup_cons_cons, if_neg hd]
    by_cases hn : n = m
    · subst hn
      have hrest : rest.lookup (n :: (d ++ [wanted])) ≠ some node := fun hm => hpast n _ hm rfl
      simp [hrest]
    · simp [hn, Ne.symm hn]

/-- The entries of a name are those that a path with this last name leads to. -/
theorem mem_entriesNamed_iff (h : l.IsTree) : (p, node) ∈ l.entriesNamed wanted above ↔
    ∃ d, p = above ++ (d ++ [wanted]) ∧ l.lookup (d ++ [wanted]) = some node := by
  induction l using cons_induction generalizing above with
  | empty =>
    refine ⟨nofun, ?_⟩
    rintro ⟨d, -, hd⟩
    cases d <;> cases hd
  | entry n found rest ihc ih =>
    have htree := isTree_cons_iff.1 h
    simp only [entriesNamed_cons, List.mem_append, ihc htree.2.2.1, ih htree.2.2.2,
      lookup_concat_cons_iff h]
    constructor
    · rintro (hown | ⟨r, rfl, hr⟩ | ⟨d, rfl, hd⟩)
      · split at hown
        case isTrue hn =>
          cases List.mem_singleton.1 hown
          exact ⟨[], by rw [hn, List.nil_append], Or.inl ⟨rfl, hn, rfl⟩⟩
        case isFalse => cases hown
      · exact ⟨n :: r, by simp, Or.inr (Or.inl ⟨r, rfl, hr⟩)⟩
      · exact ⟨d, rfl, Or.inr (Or.inr hd)⟩
    · rintro ⟨d, rfl, ⟨rfl, hn, rfl⟩ | ⟨r, rfl, hr⟩ | hd⟩
      · rw [if_pos hn, hn]
        exact Or.inl (List.mem_singleton.2 rfl)
      · exact Or.inr (Or.inl ⟨r, by simp, hr⟩)
      · exact Or.inr (Or.inr ⟨d, rfl, hd⟩)

theorem namesBefore_append_left_iff :
    NamesBefore (above ++ p) (above ++ q) ↔ NamesBefore p q := by
  induction above with
  | nil => exact Iff.rfl
  | cons n above ih => rw [List.cons_append, List.cons_append, ← ih, NamesBefore, List.lex_cons_iff]

/-- They are found in path order. -/
theorem pairwise_entriesNamed (h : l.IsTree) :
    (l.entriesNamed wanted above).Pairwise fun a b => NamesBefore a.1 b.1 := by
  induction l using cons_induction generalizing above with
  | empty => exact List.Pairwise.nil
  | entry n found rest ihc ih =>
    have htree := isTree_cons_iff.1 h
    -- All entries of the rest come later, since their paths have a later name in the first place.
    have hrest : ∀ r, ∀ e ∈ rest.entriesNamed wanted above,
        NamesBefore (above ++ n :: r) e.1 := by
      rintro r ⟨q, node⟩ he
      obtain ⟨d, rfl, hd⟩ := (mem_entriesNamed_iff htree.2.2.2).1 he
      rw [namesBefore_append_left_iff]
      cases d with
      | nil => exact List.Lex.rel (before_of_lookup h hd)
      | cons m d => exact List.Lex.rel (before_of_lookup h hd)
    have hinside : ∀ e ∈ found.children.entriesNamed wanted (above ++ [n]),
        ∃ r, e.1 = above ++ n :: r ∧ r ≠ [] := by
      rintro ⟨q, node⟩ he
      obtain ⟨d, rfl, -⟩ := (mem_entriesNamed_iff htree.2.2.1).1 he
      exact ⟨d ++ [wanted], by simp, by simp⟩
    rw [entriesNamed_cons]
    refine List.pairwise_append.2 ⟨?_, List.pairwise_append.2 ⟨ihc htree.2.2.1, ih htree.2.2.2,
      fun a ha b hb => ?_⟩, fun a ha b hb => ?_⟩
    · split
      · exact List.pairwise_singleton _ _
      · exact List.Pairwise.nil
    · obtain ⟨r, hr, -⟩ := hinside a ha
      rw [hr]
      exact hrest r b hb
    · split at ha
      case isTrue =>
        cases List.mem_singleton.1 ha
        obtain hb | hb := List.mem_append.1 hb
        · obtain ⟨r, hr, hne⟩ := hinside b hb
          rw [hr, namesBefore_append_left_iff]
          obtain ⟨m, r, rfl⟩ := List.exists_cons_of_ne_nil hne
          exact List.Lex.cons List.Lex.nil
        · exact hrest [] b hb
      case isFalse => cases ha

end Listing

end VarDecl.File
