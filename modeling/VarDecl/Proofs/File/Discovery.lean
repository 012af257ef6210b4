import VarDecl.Proofs.File.IgnoreFiles
import VarDecl.Proofs.File.Walk

/-!
# The sources below a directory

* `Listing.Selects`: a file below a directory that is to be found;
* `AreSources`: the decoded files that are to be found, in path order;
* `gather_cases`: the walk gives all of them, or the first that cannot be decoded is the failure.
-/

namespace VarDecl.File

open Text VarDecl.File.Path

variable {ignores : IgnoreTest} {suffixes p q : List Text} {root : Path} {l : Listing}
  {bytes : List UInt8} {x : Found} {s : SourceFile}

/-! ### One file -/

theorem loadFound_eq_ok_iff : Access.free.loadFound root x = .ok s ↔
    ∃ t, Utf8.decode x.2 = .ok t ∧ s = ⟨root.append x.1, unifyBreaks t⟩ := by
  rw [Access.loadFound, Access.free_readText, readText]
  cases Utf8.decode x.2 with
  | error e => simp
  | ok t => simp [eq_comm]

theorem loadFound_eq_error_iff {f : Failure} : Access.free.loadFound root x = .error f ↔
    ∃ e, Utf8.decode x.2 = .error e ∧
      f = .load (.unreadable (root.append x.1) (.undecodable e)) := by
  rw [Access.loadFound, Access.free_readText, readText]
  cases Utf8.decode x.2 with
  | error e => simp [eq_comm]
  | ok t => simp

/-! ### All files -/

/-- Where nothing is refused, only what is read matters. -/
theorem mapM_perform_free (root : Path) (ss : List Step) :
    (ss.mapM (Access.free.perform root)).map (List.filterMap id)
      = (ss.filterMap Step.found?).mapM (Access.free.loadFound root) := by
  induction ss with
  | nil => rfl
  | cons s ss ih =>
    rw [List.mapM_cons]
    cases s with
    | list names | look names =>
      rw [List.filterMap_cons_none (f := Step.found?) rfl, ← ih]
      cases ss.mapM (Access.free.perform root) <;> rfl
    | read x =>
      rw [List.filterMap_cons_some (f := Step.found?) rfl, List.mapM_cons, ← ih, Access.perform]
      cases Access.free.loadFound root x with
      | error e => rfl
      | ok t => cases ss.mapM (Access.free.perform root) <;> rfl

theorem gather_eq (ignores : IgnoreTest) (root : Path) (suffixes : List Text) (l : Listing) :
    gather ignores root suffixes l
      = ((walk ignores suffixes [([], l)]).mapM (Access.free.loadFound root)).map sortByPath := by
  rw [gather, Access.gather, ← filterMap_steps, ← mapM_perform_free]
  cases (steps ignores suffixes l).mapM (Access.free.perform root) <;> rfl

/-- A file below a directory that is to be found, and its bytes. -/
structure Listing.Selects (l : Listing) (ignores : IgnoreTest) (suffixes p : List Text)
    (bytes : List UInt8) : Prop where
  lookup : l.lookup p = some (.file bytes)
  selected : IsSelected ignores suffixes p

theorem mem_walk_iff_selects (h : l.IsTree) : (p, bytes) ∈ walk ignores suffixes [([], l)] ↔
    l.Selects ignores suffixes p bytes :=
  (mem_walk_iff h).trans ⟨fun ⟨h₁, h₂⟩ => ⟨h₁, h₂⟩, fun ⟨h₁, h₂⟩ => ⟨h₁, h₂⟩⟩

/-- The sources that are to be found below a directory: the files that are selected, with their
texts, and in path order. -/
structure AreSources (ignores : IgnoreTest) (root : Path) (suffixes : List Text) (l : Listing)
    (sources : List SourceFile) : Prop where
  mem_iff : ∀ s, s ∈ sources ↔ ∃ p bytes t, l.Selects ignores suffixes p bytes ∧
    Utf8.decode bytes = .ok t ∧ s = ⟨root.append p, unifyBreaks t⟩
  ordered : sources.Pairwise fun a b => NamesBefore a.path.names b.path.names

/-- Sources of different paths are put into strict path order. -/
theorem pairwise_sortByPath {sources : List SourceFile}
    (h : sources.Pairwise fun a b => a.path ≠ b.path) :
    (sortByPath sources).Pairwise fun a b => NamesBefore a.path.names b.path.names := by
  have hle : (sortByPath sources).Pairwise fun a b =>
      namesLe a.path.names b.path.names = true := by
    unfold sortByPath
    apply List.pairwise_mergeSort
    · exact fun _ _ _ => namesLe_trans
    · exact fun a b => namesLe_total a.path.names b.path.names
  have hne : (sortByPath sources).Pairwise fun a b => a.path ≠ b.path :=
    ((List.mergeSort_perm sources _).symm.pairwise_iff Ne.symm).1 h
  refine (hle.and hne).imp fun ⟨hle, hne⟩ => ?_
  obtain heq | hlt := namesLe_iff.1 hle
  · exact absurd (congrArg Path.mk heq) hne
  · exact hlt

/-- Each file is met once, so the sources have different paths. -/
theorem pairwise_of_map_loadFound {found : List Found} {sources : List SourceFile}
    (h : found.Pairwise fun x y => MetBefore x.1 y.1)
    (hsources : found.map (Access.free.loadFound root) = sources.map .ok) :
    sources.Pairwise fun a b => a.path ≠ b.path := by
  have hresults : (found.map (Access.free.loadFound root)).Pairwise fun a b =>
      ∀ s t, a = .ok s → b = .ok t → s.path ≠ t.path := by
    refine List.pairwise_map.2 (h.imp fun hlt s t hs ht heq => ?_)
    obtain ⟨_, -, rfl⟩ := loadFound_eq_ok_iff.1 hs
    obtain ⟨_, -, rfl⟩ := loadFound_eq_ok_iff.1 ht
    rw [List.append_cancel_left (Path.mk.inj heq)] at hlt
    exact irrefl_of MetBefore _ hlt
  rw [hsources] at hresults
  exact (List.pairwise_map.1 hresults).imp fun hst => hst _ _ rfl rfl

/-- Where all files of the walk are decoded, they are the sources. -/
theorem areSources_of_map_loadFound {sources : List SourceFile} (h : l.IsTree)
    (hall : (walk ignores suffixes [([], l)]).map (Access.free.loadFound root) = sources.map .ok) :
    AreSources ignores root suffixes l (sortByPath sources) where
  ordered := pairwise_sortByPath (pairwise_of_map_loadFound (pairwise_walk h) hall)
  mem_iff s := by
    have hmem : s ∈ sources ↔
        ∃ x ∈ walk ignores suffixes [([], l)], Access.free.loadFound root x = .ok s := by
      rw [← List.mem_map, hall]
      exact (List.mem_map_of_injective fun _ _ => Except.ok.inj).symm
    rw [sortByPath, List.mem_mergeSort, hmem]
    constructor
    · rintro ⟨⟨p, bytes⟩, hx, hs⟩
      obtain ⟨t, ht, rfl⟩ := loadFound_eq_ok_iff.1 hs
      exact ⟨p, bytes, t, (mem_walk_iff_selects h).1 hx, ht, rfl⟩
    · rintro ⟨p, bytes, t, hp, ht, rfl⟩
      exact ⟨(p, bytes), (mem_walk_iff_selects h).2 hp, loadFound_eq_ok_iff.2 ⟨t, ht, rfl⟩⟩

/-- What is met before an element of an ordered row stands before it. -/
theorem mem_of_metBefore {before after : List Found} {x y : Found}
    (h : (before ++ x :: after).Pairwise fun x y => MetBefore x.1 y.1)
    (hy : y ∈ before ++ x :: after) (hlt : MetBefore y.1 x.1) : y ∈ before := by
  obtain hy | hy := List.mem_append.1 hy
  · exact hy
  · obtain rfl | hy := List.mem_cons.1 hy
    · exact absurd hlt (irrefl_of MetBefore _)
    · have hlater := (List.pairwise_cons.1 (List.pairwise_append.1 h).2.1).1 y hy
      exact absurd hlt (asymm_of MetBefore hlater)

/-- The sources are all found, or the first file that cannot be decoded is named. -/
theorem gather_cases (h : l.IsTree) (ignores : IgnoreTest) (root : Path) (suffixes : List Text) :
    (∃ sources, gather ignores root suffixes l = .ok sources ∧
      AreSources ignores root suffixes l sources ∧
      ∀ p bytes, l.Selects ignores suffixes p bytes → ∃ t, Utf8.decode bytes = .ok t) ∨
    ∃ p bytes e, l.Selects ignores suffixes p bytes ∧ Utf8.decode bytes = .error e ∧
      gather ignores root suffixes l
        = .error (.load (.unreadable (root.append p) (.undecodable e))) ∧
      ∀ q bytes, l.Selects ignores suffixes q bytes → MetBefore q p →
        ∃ t, Utf8.decode bytes = .ok t := by
  obtain ⟨sources, hmapM, hall⟩ | ⟨before, ⟨p, bytes⟩, after, f, hwalk, hbefore, hf, hmapM⟩ :=
    mapM_cases (Access.free.loadFound root) (walk ignores suffixes [([], l)])
  · refine Or.inl ⟨sortByPath sources, by rw [gather_eq, hmapM]; rfl,
      areSources_of_map_loadFound h hall, fun p bytes hp => ?_⟩
    have hresult :=
      List.mem_map_of_mem (f := Access.free.loadFound root) ((mem_walk_iff_selects h).2 hp)
    rw [hall, List.mem_map] at hresult
    obtain ⟨s, -, hs⟩ := hresult
    obtain ⟨t, ht, -⟩ := loadFound_eq_ok_iff.1 hs.symm
    exact ⟨t, ht⟩
  · obtain ⟨e, he, rfl⟩ := loadFound_eq_error_iff.1 hf
    have hordered : (walk ignores suffixes [([], l)]).Pairwise fun x y => MetBefore x.1 y.1 :=
      pairwise_walk h
    have hselects : ∀ q b, l.Selects ignores suffixes q b ↔
        (q, b) ∈ before ++ (p, bytes) :: after :=
      fun q b => by rw [← mem_walk_iff_selects h, hwalk]
    rw [hwalk] at hordered
    refine Or.inr ⟨p, bytes, e, (hselects p bytes).2 ?_, he, by rw [gather_eq, hmapM]; rfl,
      fun q b hq hlt => ?_⟩
    · exact List.mem_append_right _ List.mem_cons_self
    · obtain ⟨s, hs⟩ := hbefore _ (mem_of_metBefore hordered ((hselects q b).1 hq) hlt)
      obtain ⟨t, ht, -⟩ := loadFound_eq_ok_iff.1 hs
      exact ⟨t, ht⟩

end VarDecl.File
