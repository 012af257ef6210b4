import VarDecl.Proofs.File.Discovery
import VarDecl.Proofs.File.IgnoreFiles

/-!
# Which files are discovered

* `Gathers`: what is to come out of a directory, whatever test tells the ignored paths: all files
  that are selected, in path order, or the first of them that cannot be decoded (`gather_gathers`);
* `Listing.AgreeOn`: two directories differ at most in the bytes of files that do not matter, which
  are those that are neither selected nor ignore files;
* `discover_gathers`: discovery comes to what the ignore files of the directory select, and depends
  on nothing else.
-/

namespace VarDecl.File

open Text VarDecl.File.Path

variable {ignores : IgnoreTest} {suffixes p : List Text} {root : Path} {l l' t t' : Listing}
  {keep : List Text → Prop} {rules : Ignore.Rules} {ss : List SourceFile}

/-- What gathering the selected files of a directory comes to. -/
structure Gathers (ignores : IgnoreTest) (root : Path) (suffixes : List Text) (l : Listing)
    (outcome : Except Failure (List SourceFile)) : Prop where
  /-- It fails if some selected file cannot be decoded. -/
  fails_iff : (∃ f, outcome = .error f) ↔
    ∃ p bytes e, l.Selects ignores suffixes p bytes ∧ Utf8.decode bytes = .error e
  /-- The failure names the first such file that is met. -/
  first : ∀ f, outcome = .error f → ∃ p bytes e, l.Selects ignores suffixes p bytes ∧
    Utf8.decode bytes = .error e ∧ f = .load (.unreadable (root.append p) (.undecodable e)) ∧
    ∀ q bytes, l.Selects ignores suffixes q bytes → MetBefore q p → ∃ t, Utf8.decode bytes = .ok t
  /-- Otherwise it finds all selected files. -/
  sources : ∀ ss, outcome = .ok ss → AreSources ignores root suffixes l ss

theorem gather_gathers (h : l.IsTree) (ignores : IgnoreTest) (root : Path) (suffixes : List Text) :
    Gathers ignores root suffixes l (gather ignores root suffixes l) := by
  obtain ⟨ss, hss, hsources, hall⟩ | ⟨p, bytes, e, hp, he, hfail, hfirst⟩ :=
    gather_cases h ignores root suffixes
  · rw [hss]
    refine ⟨⟨nofun, fun ⟨p, bytes, e, hp, he⟩ => ?_⟩, nofun, fun ss' h' => ?_⟩
    · obtain ⟨t, ht⟩ := hall p bytes hp
      cases he.symm.trans ht
    · cases h'
      exact hsources
  · rw [hfail]
    refine ⟨⟨fun _ => ⟨p, bytes, e, hp, he⟩, fun _ => ⟨_, rfl⟩⟩, fun f hf => ?_, nofun⟩
    cases hf
    exact ⟨p, bytes, e, hp, he, rfl, hfirst⟩

/-! ### What the outcome depends on -/

/-- Two directories have the same directories and files below, and those files that are kept have
the same bytes. -/
structure Listing.AgreeOn (keep : List Text → Prop) (l l' : Listing) : Prop where
  directories : ∀ p, (∃ c, l.lookup p = some (.dir c)) ↔ ∃ c, l'.lookup p = some (.dir c)
  files : ∀ p, (∃ bytes, l.lookup p = some (.file bytes)) ↔ ∃ bytes, l'.lookup p = some (.file bytes)
  bytes : ∀ p, keep p → ∀ bytes, l.lookup p = some (.file bytes) ↔ l'.lookup p = some (.file bytes)

theorem Listing.AgreeOn.mono {keep' : List Text → Prop} (h : l.AgreeOn keep l')
    (hkeep : ∀ p, keep' p → keep p) : l.AgreeOn keep' l' :=
  ⟨h.directories, h.files, fun p hp => h.bytes p (hkeep p hp)⟩

/-- Only the bytes of selected files matter. -/
theorem gather_congr (h : l.IsTree) (h' : l'.IsTree)
    (hagree : l.AgreeOn (IsSelected ignores suffixes) l') :
    gather ignores root suffixes l' = gather ignores root suffixes l := by
  have hwalk : walk ignores suffixes [([], l)] = walk ignores suffixes [([], l')] :=
    walk_congr h h' fun p bytes => and_congr_left fun hp => hagree.bytes p hp bytes
  rw [gather_eq, gather_eq, hwalk]

theorem hasRules_congr {d : List Text} {patterns : List Ignore.Pattern} (h : ∀ bytes,
    l.lookup (d ++ [ignoreName]) = some (.file bytes) ↔
      l'.lookup (d ++ [ignoreName]) = some (.file bytes)) :
    l.HasRules d patterns ↔ l'.HasRules d patterns := by
  constructor
  · rintro ⟨_, hnode, bytes, u, rfl, hpatterns⟩
    exact ⟨_, (h bytes).1 hnode, bytes, u, rfl, hpatterns⟩
  · rintro ⟨_, hnode, bytes, u, rfl, hpatterns⟩
    exact ⟨_, (h bytes).2 hnode, bytes, u, rfl, hpatterns⟩

/-- Only the ignore files matter for the rules. -/
theorem readIgnoreRules_congr (h : l.IsTree) (h' : l'.IsTree)
    (hagree : l.AgreeOn (fun p => p.getLast? = some ignoreName) l')
    (hrules : readIgnoreRules root l = .ok rules) :
    ∃ rules', readIgnoreRules root l' = .ok rules' ∧ rules'.ignores = rules.ignores := by
  have hbytes : ∀ d bytes, l.lookup (d ++ [ignoreName]) = some (.file bytes) ↔
      l'.lookup (d ++ [ignoreName]) = some (.file bytes) :=
    fun d bytes => hagree.bytes _ List.getLast?_concat bytes
  have husable := exists_readIgnoreRules_iff.1 ⟨rules, hrules⟩
  obtain ⟨rules', hrules'⟩ : ∃ rules', readIgnoreRules root l' = .ok rules' := by
    refine exists_readIgnoreRules_iff.2 ?_
    rintro ⟨p, node⟩ he
    obtain ⟨d, rfl, hd⟩ := (Listing.mem_entriesNamed_iff h').1 he
    -- The entry is of the same kind on both sides, and a usable one is a file.
    have hmem : ∀ node, l.lookup (d ++ [ignoreName]) = some node →
        IsUsable root (d ++ [ignoreName], node) :=
      fun node hnode => husable _ ((Listing.mem_entriesNamed_iff h).2 ⟨d, rfl, hnode⟩)
    cases node with
    | file bytes => exact hmem _ ((hbytes d bytes).2 hd)
    | dir children =>
      obtain ⟨children', hd'⟩ := (hagree.directories _).2 ⟨children, hd⟩
      obtain ⟨patterns, bytes, _, hnode, -⟩ := isUsable_iff.1 (hmem _ hd')
      cases hnode
  refine ⟨rules', hrules', Ignore.Rules.ignores_congr ?_⟩
  rintro ⟨base, patterns⟩
  rw [mem_entries_iff h hrules, mem_entries_iff h' hrules']
  exact exists_congr fun d => and_congr_right fun _ => (hasRules_congr (hbytes d)).symm

/-! ### Discovery -/

theorem discover_of_seek (hroot : l.seek root = .ok (some (.dir t))) :
    discover l root suffixes = (readIgnoreRules root t).bind fun rules =>
      gather rules.ignores root suffixes t := by
  rw [discover, Access.discover, locate_of_seek rfl hroot]
  rfl

theorem discover_eq_gather (hroot : l.seek root = .ok (some (.dir t)))
    (hrules : readIgnoreRules root t = .ok rules) :
    discover l root suffixes = gather rules.ignores root suffixes t := by
  rw [discover_of_seek hroot, hrules]
  rfl

theorem areSources_of_discover (hroot : l.seek root = .ok (some (.dir t))) (ht : t.IsTree)
    (hss : discover l root suffixes = .ok ss) : ∃ rules, readIgnoreRules root t = .ok rules ∧
      AreSources rules.ignores root suffixes t ss := by
  cases hrules : readIgnoreRules root t with
  | error f =>
    rw [discover_of_seek hroot, hrules] at hss
    cases hss
  | ok rules =>
    rw [discover_eq_gather hroot hrules] at hss
    exact ⟨rules, rfl, (gather_gathers ht rules.ignores root suffixes).sources ss hss⟩

/-- Where all ignore files of a directory are usable, discovery comes to the files that they select,
and the bytes of other files do not matter. Gathering does so for every other test as well. -/
theorem discover_gathers (suffixes : List Text) (hroot : l.seek root = .ok (some (.dir t)))
    (ht : t.IsTree) (husable : ∀ e ∈ t.entriesNamed ignoreName [], IsUsable root e) :
    (∃ rules, readIgnoreRules root t = .ok rules ∧
      discover l root suffixes = gather rules.ignores root suffixes t ∧
      Gathers rules.ignores root suffixes t (discover l root suffixes) ∧
      ∀ l' t', l'.seek root = .ok (some (.dir t')) → t'.IsTree →
        t.AgreeOn (fun p => IsSelected rules.ignores suffixes p ∨ p.getLast? = some ignoreName) t' →
          discover l' root suffixes = discover l root suffixes) ∧
    ∀ ignores : IgnoreTest, Gathers ignores root suffixes t (gather ignores root suffixes t) ∧
      ∀ t', t'.IsTree → t.AgreeOn (IsSelected ignores suffixes) t' →
        gather ignores root suffixes t' = gather ignores root suffixes t := by
  refine ⟨?_, fun ignores => ⟨gather_gathers ht ignores root suffixes,
    fun t' ht' hagree => gather_congr ht ht' hagree⟩⟩
  obtain ⟨rules, hrules⟩ := exists_readIgnoreRules_iff.2 husable
  have hdiscover : discover l root suffixes = gather rules.ignores root suffixes t :=
    discover_eq_gather hroot hrules
  refine ⟨rules, hrules, hdiscover, hdiscover ▸ gather_gathers ht rules.ignores root suffixes,
    fun l' t' hroot' ht' hagree => ?_⟩
  obtain ⟨rules', hrules', heq⟩ :=
    readIgnoreRules_congr ht ht' (hagree.mono fun p hp => Or.inr hp) hrules
  rw [discover_eq_gather hroot' hrules', heq, hdiscover]
  exact gather_congr ht ht' (hagree.mono fun p hp => Or.inl hp)

/-- A directory with a file that cannot be decoded, in a directory that is ignored. -/
def prunedTree : Listing :=
  .file ignoreName (Utf8.encode "skip/\n".toList)
    (.dir "skip".toList (.file "b.java".toList [0xFF] .nil)
      (.dir "sub".toList (.file "c.java".toList (Utf8.encode "int y;".toList) .nil) .nil))

/-- The file that cannot be decoded is not met, and the one below the other directory is found. -/
theorem discover_gathers_prunedTree :
    prunedTree.seek ⟨[]⟩ = .ok (some (.dir prunedTree)) ∧ prunedTree.IsTree ∧
    (∀ e ∈ prunedTree.entriesNamed ignoreName [], IsUsable ⟨[]⟩ e) ∧
    ∃ ss, discover prunedTree ⟨[]⟩ defaultSuffixes = .ok ss ∧
      ∀ s, s ∈ ss ↔ s = ⟨⟨["sub".toList, "c.java".toList]⟩, "int y;".toList⟩ := by
  have hroot : prunedTree.seek ⟨[]⟩ = .ok (some (.dir prunedTree)) := by decide +kernel
  have htree : prunedTree.IsTree := by decide +kernel
  have husable : ∀ e ∈ prunedTree.entriesNamed ignoreName [], IsUsable ⟨[]⟩ e := by
    rw [← exists_readIgnoreRules_iff]
    exact exists_ok_of_isOk (by decide +kernel)
  obtain ⟨⟨rules, hrules, -, hgathers, -⟩, -⟩ :=
    discover_gathers defaultSuffixes hroot htree husable
  have hwalk : (readIgnoreRules ⟨[]⟩ prunedTree).toOption.map
      (fun r => walk r.ignores defaultSuffixes [([], prunedTree)])
        = some [(["sub".toList, "c.java".toList], Utf8.encode "int y;".toList)] := by
    decide +kernel
  have hfound : walk rules.ignores defaultSuffixes [([], prunedTree)]
      = [(["sub".toList, "c.java".toList], Utf8.encode "int y;".toList)] := by
    rw [hrules] at hwalk
    exact Option.some.inj hwalk
  have hselects : ∀ p bytes, prunedTree.Selects rules.ignores defaultSuffixes p bytes ↔
      p = ["sub".toList, "c.java".toList] ∧ bytes = Utf8.encode "int y;".toList := by
    intro p bytes
    rw [← mem_walk_iff_selects htree, hfound, List.mem_singleton, Prod.mk.injEq]
  have hdecode : Utf8.decode (Utf8.encode "int y;".toList) = .ok "int y;".toList := by
    decide +kernel
  refine ⟨hroot, htree, husable, ?_⟩
  cases hss : discover prunedTree ⟨[]⟩ defaultSuffixes with
  | error f =>
    obtain ⟨p, bytes, e, hp, he⟩ := hgathers.fails_iff.1 ⟨f, hss⟩
    obtain ⟨-, rfl⟩ := (hselects p bytes).1 hp
    cases hdecode.symm.trans he
  | ok ss =>
    refine ⟨ss, rfl, fun s => ((hgathers.sources ss hss).mem_iff s).trans ?_⟩
    constructor
    · rintro ⟨p, bytes, t, hp, ht, rfl⟩
      obtain ⟨rfl, rfl⟩ := (hselects p bytes).1 hp
      obtain rfl := Except.ok.inj (hdecode.symm.trans ht)
      decide +kernel
    · rintro rfl
      exact ⟨_, _, _, (hselects _ _).2 ⟨rfl, rfl⟩, hdecode, by decide +kernel⟩

end VarDecl.File
