import Mathlib.Data.List.Sort
import VarDecl.File.Sources
import VarDecl.Proofs.File.Tree

/-!
# The walk through a directory

The walk takes directories from a queue and puts their subdirectories behind it, so it goes level by
level.

* `walk`: the files that are found on the way, which are those that the steps read
  (`filterMap_steps`);
* `IsSelected`: a file that is to be found, said by its path alone. The walk finds such files
  (`mem_walk_iff`), and no others;
* `IsLevel`: the directories of one depth, in path order. The walk leaves a level for the next one
  (`walk_eq_next`), so it meets files by their depth, and in path order at each depth
  (`pairwise_walk`);
* `walk_congr`: two walks that are to find the same files are the same.
-/

namespace VarDecl.File

open VarDecl.File.Path

variable {ignores : IgnoreTest} {suffixes above p q : List Text} {l : Listing} {n : Text}
  {bytes : List UInt8} {f : Folder} {fs gs : List Folder} {k : Nat}

/-- One path is met before another one: it is shorter, or as long and earlier in path order. -/
def Path.MetBefore : List Text → List Text → Prop := List.Shortlex Text.Before

/-- A file is selected by its suffix, unless it is ignored or stands below a directory that is
ignored or holds version control data. -/
structure IsSelected (ignores : IgnoreTest) (suffixes : List Text) (p : List Text) : Prop where
  suffix : ∃ n, p.getLast? = some n ∧ suffixOf n ∈ suffixes
  file : ignores (join p) false = false
  directories : ∀ d n, d ++ [n] <+: p → d ++ [n] ≠ p →
    n ≠ versionControlName ∧ ignores (join (d ++ [n])) true = false

/-! ### The files on the way -/

/-- The files of a directory that are taken, in name order. -/
def takenFiles (ignores : IgnoreTest) (suffixes : List Text) (names : List Text) :
    Listing → List Found
  | .nil => []
  | .file n bytes rest =>
    if takesFile ignores suffixes names n then
      (names ++ [n], bytes) :: takenFiles ignores suffixes names rest
    else takenFiles ignores suffixes names rest
  | .dir _ _ rest => takenFiles ignores suffixes names rest

/-- The files of a queue of directories and of all directories below, level by level. -/
def walk (ignores : IgnoreTest) (suffixes : List Text) (fs : List Folder) : List Found :=
  (visits ignores fs).flatMap fun f => takenFiles ignores suffixes f.1 f.2

@[simp] theorem walk_nil (ignores : IgnoreTest) (suffixes : List Text) :
    walk ignores suffixes [] = [] := by simp [walk, visits]

theorem walk_cons (ignores : IgnoreTest) (suffixes : List Text) (f : Folder) (fs : List Folder) :
    walk ignores suffixes (f :: fs) = takenFiles ignores suffixes f.1 f.2
      ++ walk ignores suffixes (fs ++ subfolders ignores f.1 f.2) := by
  rw [walk, visits, List.flatMap_cons, walk]

/-- The file that a step reads. -/
def Step.found? : Step → Option Found
  | read x => some x
  | list _ | look _ => none

theorem filterMap_entrySteps (ignores : IgnoreTest) (suffixes above : List Text) (l : Listing) :
    (entrySteps ignores suffixes above l).filterMap Step.found?
      = takenFiles ignores suffixes above l := by
  induction l with
  | nil => rfl
  | file n bytes rest ih =>
    rw [entrySteps, takenFiles]
    split
    · exact congrArg (_ :: ·) ih
    · exact ih
  | dir n children rest _ ih => exact ih

/-- The steps read the files on the way. -/
theorem filterMap_steps (ignores : IgnoreTest) (suffixes : List Text) (l : Listing) :
    (steps ignores suffixes l).filterMap Step.found? = walk ignores suffixes [([], l)] := by
  rw [steps, walk, List.filterMap_flatMap]
  exact congrArg (fun inside => List.flatMap inside _)
    (funext fun f => filterMap_entrySteps ignores suffixes f.1 f.2)

/-! ### One directory -/

theorem entersDirectory_iff : entersDirectory ignores above n = true ↔
    n ≠ versionControlName ∧ ignores (join (above ++ [n])) true = false := by
  simp [entersDirectory]

theorem takesFile_iff : takesFile ignores suffixes above n = true ↔
    ignores (join (above ++ [n])) false = false ∧ suffixOf n ∈ suffixes := by
  simp [takesFile]

theorem mem_takenFiles_iff : (p, bytes) ∈ takenFiles ignores suffixes above l ↔
    ∃ n, p = above ++ [n] ∧ (n, .file bytes) ∈ l.entries ∧
      takesFile ignores suffixes above n = true := by
  induction l with
  | nil => simp [takenFiles, Listing.entries]
  | file m bytes' rest ih =>
    rw [takenFiles, Listing.entries]
    split <;> simp_all [and_assoc, and_or_left, or_and_right, exists_or]
  | dir m children rest _ ih => simp [takenFiles, Listing.entries, ih]

theorem mem_subfolders_iff {children : Listing} :
    (p, children) ∈ subfolders ignores above l ↔ ∃ n, p = above ++ [n] ∧
      (n, .dir children) ∈ l.entries ∧ entersDirectory ignores above n = true := by
  induction l with
  | nil => simp [subfolders, Listing.entries]
  | file m bytes rest ih => simp [subfolders, Listing.entries, ih]
  | dir m children' rest _ ih =>
    rw [subfolders, Listing.entries]
    split <;> simp_all [and_assoc, and_or_left, or_and_right, exists_or]

/-- Both lists go through the entries in their order. -/
theorem map_takenFiles_sublist : ((takenFiles ignores suffixes above l).map Prod.fst).Sublist
    (l.entries.map fun e => above ++ [e.1]) := by
  induction l with
  | nil => exact List.Sublist.slnil
  | file n bytes rest ih =>
    rw [takenFiles]
    split
    · exact ih.cons_cons _
    · exact ih.cons _
  | dir n children rest _ ih => exact ih.cons _

theorem map_subfolders_sublist : ((subfolders ignores above l).map Prod.fst).Sublist
    (l.entries.map fun e => above ++ [e.1]) := by
  induction l with
  | nil => exact List.Sublist.slnil
  | file n bytes rest ih => exact ih.cons _
  | dir n children rest _ ih =>
    rw [subfolders]
    split
    · exact ih.cons_cons _
    · exact ih.cons _

/-! ### What the walk finds -/

/-- The walk passes all directories of a path and takes the file at its end. -/
def IsVisited (ignores : IgnoreTest) (suffixes : List Text) : (above below : List Text) → Prop
  | _, [] => False
  | above, [n] => takesFile ignores suffixes above n = true
  | above, n :: m :: below =>
    entersDirectory ignores above n = true ∧ IsVisited ignores suffixes (above ++ [n]) (m :: below)

theorem isVisited_iff {below : List Text} : IsVisited ignores suffixes above below ↔
    (∃ n, below.getLast? = some n ∧ suffixOf n ∈ suffixes) ∧
      ignores (join (above ++ below)) false = false ∧
      ∀ d n, d ++ [n] <+: below → d ++ [n] ≠ below →
        n ≠ versionControlName ∧ ignores (join (above ++ (d ++ [n]))) true = false := by
  induction below generalizing above with
  | nil => simp [IsVisited]
  | cons m below ih =>
    cases below with
    | nil =>
      rw [IsVisited, takesFile_iff]
      constructor
      · rintro ⟨hfile, hsuffix⟩
        refine ⟨⟨m, rfl, hsuffix⟩, hfile, fun d n hd hne => ?_⟩
        exact absurd (hd.eq_of_length (by simpa using hd.length_le)) hne
      · rintro ⟨⟨n, hn, hsuffix⟩, hfile, -⟩
        cases hn
        exact ⟨hfile, hsuffix⟩
    | cons m' below =>
      rw [IsVisited, entersDirectory_iff, ih]
      simp only [List.append_assoc, List.singleton_append, List.getLast?_cons_cons]
      constructor
      · rintro ⟨henters, hsuffix, hfile, hdirs⟩
        refine ⟨hsuffix, hfile, fun d n hd hne => ?_⟩
        cases d with
        | nil =>
          obtain ⟨rfl, -⟩ := List.cons_prefix_cons.1 hd
          exact henters
        | cons c d =>
          obtain ⟨rfl, hd'⟩ := List.cons_prefix_cons.1 hd
          exact hdirs d n hd' fun heq => hne (by rw [List.cons_append, heq])
      · rintro ⟨hsuffix, hfile, hdirs⟩
        refine ⟨hdirs [] m ⟨m' :: below, rfl⟩ (by simp), hsuffix, hfile, fun d n hd hne => ?_⟩
        exact hdirs (m :: d) n (List.cons_prefix_cons.2 ⟨rfl, hd⟩) fun heq =>
          hne (List.cons.inj heq).2

theorem isVisited_nil_iff : IsVisited ignores suffixes [] p ↔ IsSelected ignores suffixes p := by
  rw [isVisited_iff]
  exact ⟨fun ⟨h₁, h₂, h₃⟩ => ⟨h₁, h₂, h₃⟩, fun h => ⟨h.suffix, h.file, h.directories⟩⟩

/-- Where the walk goes from one directory: to a file in it, or on to a directory in it. -/
theorem isVisited_below_iff (h : l.IsTree) :
    (∃ below, p = above ++ below ∧ l.lookup below = some (.file bytes) ∧
      IsVisited ignores suffixes above below) ↔
    (p, bytes) ∈ takenFiles ignores suffixes above l ∨
      ∃ f ∈ subfolders ignores above l, ∃ below, p = f.1 ++ below ∧
        f.2.lookup below = some (.file bytes) ∧ IsVisited ignores suffixes f.1 below := by
  rw [mem_takenFiles_iff]
  constructor
  · rintro ⟨below, rfl, hlookup, hvisited⟩
    match below, hvisited with
    | [n], htakes =>
      rw [Listing.lookup_singleton] at hlookup
      exact Or.inl ⟨n, rfl, Listing.mem_entries_of_find? hlookup, htakes⟩
    | n :: m :: below, ⟨henters, hvisited⟩ =>
      obtain ⟨children, hn, hlookup⟩ :=
        (Listing.lookup_cons_eq_some_iff (List.cons_ne_nil m below)).1 hlookup
      exact Or.inr ⟨(above ++ [n], children),
        mem_subfolders_iff.2 ⟨n, rfl, Listing.mem_entries_of_find? hn, henters⟩, m :: below,
        by simp, hlookup, hvisited⟩
  · rintro (⟨n, rfl, hn, htakes⟩ | ⟨⟨d, children⟩, hd, below, rfl, hlookup, hvisited⟩)
    · refine ⟨[n], rfl, ?_, htakes⟩
      rw [Listing.lookup_singleton, Listing.find?_eq_some_iff h]
      exact hn
    · obtain ⟨n, rfl, hn, henters⟩ := mem_subfolders_iff.1 hd
      match below, hvisited with
      | m :: below, hvisited =>
        refine ⟨n :: m :: below, by simp, ?_, henters, hvisited⟩
        exact (Listing.lookup_cons_eq_some_iff (List.cons_ne_nil m below)).2
          ⟨children, (Listing.find?_eq_some_iff h).2 hn, hlookup⟩

/-- The walk finds what can be visited from the directories of the queue. -/
theorem mem_walk_iff_isVisited (h : ∀ f ∈ fs, f.2.IsTree) :
    (p, bytes) ∈ walk ignores suffixes fs ↔ ∃ f ∈ fs, ∃ below, p = f.1 ++ below ∧
      f.2.lookup below = some (.file bytes) ∧ IsVisited ignores suffixes f.1 below := by
  fun_induction visits ignores fs with
  | case1 => simp
  | case2 above l queue ih =>
    obtain ⟨hl, hqueue⟩ := List.forall_mem_cons.1 h
    have hnext : ∀ f ∈ queue ++ subfolders ignores above l, f.2.IsTree := by
      rintro ⟨d, children⟩ hf
      obtain hf | hf := List.mem_append.1 hf
      · exact hqueue _ hf
      · obtain ⟨n, -, hn, -⟩ := mem_subfolders_iff.1 hf
        exact (hl.of_mem hn).2
    rw [walk_cons, List.mem_append, ih hnext]
    simp only [List.mem_append, List.mem_cons, or_and_right, exists_or, exists_eq_left,
      isVisited_below_iff hl]
    rw [or_assoc, or_comm (a := ∃ f ∈ queue, _)]

/-- The walk finds the files that are selected, with their bytes. -/
theorem mem_walk_iff (h : l.IsTree) : (p, bytes) ∈ walk ignores suffixes [([], l)] ↔
    l.lookup p = some (.file bytes) ∧ IsSelected ignores suffixes p := by
  rw [mem_walk_iff_isVisited (List.forall_mem_singleton.2 h)]
  simp [isVisited_nil_iff]

/-! ### In which order -/

/-- The directories of one depth, in path order. -/
structure IsLevel (k : Nat) (fs : List Folder) : Prop where
  depth : ∀ f ∈ fs, f.1.length = k
  ordered : fs.Pairwise fun f g => NamesBefore f.1 g.1
  tree : ∀ f ∈ fs, f.2.IsTree

/-- The directories below those of a level. -/
def nextLevel (ignores : IgnoreTest) (fs : List Folder) : List Folder :=
  fs.flatMap fun f => subfolders ignores f.1 f.2

/-- The files that are taken in the directories of a level. -/
def levelFiles (ignores : IgnoreTest) (suffixes : List Text) (fs : List Folder) : List Found :=
  fs.flatMap fun f => takenFiles ignores suffixes f.1 f.2

theorem walk_append (ignores : IgnoreTest) (suffixes : List Text) (fs gs : List Folder) :
    walk ignores suffixes (fs ++ gs)
      = levelFiles ignores suffixes fs ++ walk ignores suffixes (gs ++ nextLevel ignores fs) := by
  induction fs generalizing gs with
  | nil => simp [levelFiles, nextLevel]
  | cons f fs ih =>
    rw [List.cons_append, walk_cons, List.append_assoc, ih]
    simp only [levelFiles, nextLevel, List.flatMap_cons, List.append_assoc]

/-- The walk leaves a level for the next one. -/
theorem walk_eq_next (ignores : IgnoreTest) (suffixes : List Text) (fs : List Folder) :
    walk ignores suffixes fs
      = levelFiles ignores suffixes fs ++ walk ignores suffixes (nextLevel ignores fs) := by
  conv_lhs => rw [← List.append_nil fs, walk_append]
  rw [List.nil_append]

theorem queueSize_nextLevel_lt (ignores : IgnoreTest) (h : fs ≠ []) :
    queueSize (nextLevel ignores fs) < queueSize fs := by
  have hle : ∀ gs, queueSize (nextLevel ignores gs) + gs.length ≤ queueSize gs := by
    intro gs
    induction gs with
    | nil => exact Nat.le_refl 0
    | cons g gs ih =>
      have hg := queueSize_subfolders_le ignores g.1 g.2
      rw [nextLevel, List.flatMap_cons, queueSize_append, queueSize, List.length_cons]
      rw [nextLevel] at ih
      omega
  have hlength := List.length_pos_iff.2 h
  have := hle fs
  omega

theorem namesBefore_append {r s : List Text} (h : NamesBefore p q) (hlength : p.length = q.length) :
    NamesBefore (p ++ r) (q ++ s) := by
  induction h with
  | nil => exact absurd hlength (by simp)
  | cons _ ih => exact List.Lex.cons (ih (by simpa using hlength))
  | rel h => exact List.Lex.rel h

/-- What stands in the directories of a level is one name deeper, and in path order as well. -/
theorem IsLevel.ordered_flatMap {α : Type} (h : IsLevel k fs)
    (inside : Folder → List (List Text × α)) (hinside : ∀ f, ((inside f).map Prod.fst).Sublist
      (f.2.entries.map fun e => f.1 ++ [e.1])) :
    (∀ x ∈ fs.flatMap inside, x.1.length = k + 1) ∧
      (fs.flatMap inside).Pairwise fun x y => NamesBefore x.1 y.1 := by
  have hname : ∀ f, ∀ x ∈ inside f, ∃ n, x.1 = f.1 ++ [n] := by
    intro f x hx
    obtain ⟨e, -, he⟩ := List.mem_map.1 ((hinside f).mem (List.mem_map_of_mem hx))
    exact ⟨e.1, he.symm⟩
  constructor
  · intro x hx
    obtain ⟨f, hf, hx⟩ := List.mem_flatMap.1 hx
    obtain ⟨n, hn⟩ := hname f x hx
    rw [hn, List.length_append, h.depth f hf, List.length_singleton]
  · refine List.pairwise_flatMap.2 ⟨fun f hf => ?_, h.ordered.imp_of_mem ?_⟩
    · have hentries : (f.2.entries.map fun e => f.1 ++ [e.1]).Pairwise NamesBefore :=
        List.pairwise_map.2 ((h.tree f hf).pairwise.imp fun hlt =>
          Listing.namesBefore_append_left_iff.2 (List.Lex.rel hlt))
      exact List.pairwise_map.1 (hentries.sublist (hinside f))
    · intro f g hf hg hlt x hx y hy
      obtain ⟨n, hn⟩ := hname f x hx
      obtain ⟨m, hm⟩ := hname g y hy
      rw [hn, hm]
      exact namesBefore_append hlt ((h.depth f hf).trans (h.depth g hg).symm)

theorem IsLevel.next (h : IsLevel k fs) : IsLevel (k + 1) (nextLevel ignores fs) := by
  obtain ⟨hdepth, hordered⟩ := h.ordered_flatMap
    (fun f => subfolders ignores f.1 f.2) fun f => map_subfolders_sublist
  refine ⟨hdepth, hordered, ?_⟩
  rintro ⟨d, children⟩ hd
  obtain ⟨f, hf, hd⟩ := List.mem_flatMap.1 hd
  obtain ⟨n, -, hn, -⟩ := mem_subfolders_iff.1 hd
  exact ((h.tree f hf).of_mem hn).2

/-- The walk from a level on meets files below it only, by their depth and in path order. -/
theorem IsLevel.pairwise_walk (h : IsLevel k fs) :
    (∀ x ∈ walk ignores suffixes fs, k < x.1.length) ∧
      (walk ignores suffixes fs).Pairwise fun x y => MetBefore x.1 y.1 := by
  induction hsize : queueSize fs using Nat.strong_induction_on generalizing k fs with
  | _ size ih =>
    by_cases hfs : fs = []
    · subst hfs
      rw [walk_nil]
      exact ⟨List.forall_mem_nil _, List.Pairwise.nil⟩
    · obtain ⟨hdepth, hordered⟩ := h.ordered_flatMap
        (fun f => takenFiles ignores suffixes f.1 f.2) fun f => map_takenFiles_sublist
      obtain ⟨hdeeper, hnext⟩ :=
        ih _ (hsize ▸ queueSize_nextLevel_lt ignores hfs) h.next rfl
      rw [walk_eq_next]
      constructor
      · intro x hx
        obtain hx | hx := List.mem_append.1 hx
        · rw [hdepth x hx]
          exact Nat.lt_succ_self k
        · exact Nat.lt_of_succ_lt (hdeeper x hx)
      · refine List.pairwise_append.2 ⟨hordered.imp_of_mem fun hx hy hlt => ?_, hnext,
          fun x hx y hy => ?_⟩
        · exact List.Shortlex.of_lex ((hdepth _ hx).trans (hdepth _ hy).symm) hlt
        · exact List.Shortlex.of_length_lt ((hdepth x hx).trans_lt (hdeeper y hy))

theorem pairwise_walk (h : l.IsTree) :
    (walk ignores suffixes [([], l)]).Pairwise fun x y => MetBefore x.1 y.1 :=
  (IsLevel.pairwise_walk (k := 0) ⟨List.forall_mem_singleton.2 rfl, List.pairwise_singleton _ _,
    List.forall_mem_singleton.2 h⟩).2

instance : Std.Asymm MetBefore := inferInstanceAs (Std.Asymm (List.Shortlex Text.Before))

/-- Two walks that are to find the same files are the same. -/
theorem walk_congr {ignores' : IgnoreTest} {l' : Listing} (h : l.IsTree) (h' : l'.IsTree)
    (heq : ∀ p bytes, l.lookup p = some (.file bytes) ∧ IsSelected ignores suffixes p ↔
      l'.lookup p = some (.file bytes) ∧ IsSelected ignores' suffixes p) :
    walk ignores suffixes [([], l)] = walk ignores' suffixes [([], l')] := by
  have : Std.Asymm fun x y : Found => MetBefore x.1 y.1 := ⟨fun _ _ => asymm_of MetBefore⟩
  refine (pairwise_walk h).eq_of_mem_iff (pairwise_walk h') fun ⟨p, bytes⟩ => ?_
  rw [mem_walk_iff h, mem_walk_iff h', heq]

end VarDecl.File
