import VarDecl.Proofs.File.Loading
import VarDecl.Proofs.File.Tree
import VarDecl.Proofs.Ignore.Scope

/-!
# The ignore files of a directory

* `exists_readIgnoreRules_iff`: the rules can be read if each ignore file can be;
* `mem_entries_iff`: they hold the patterns of each ignore file, under the path of its directory;
* `ignores_iff_hasRules`: a path is ignored if an ignore file of a directory above it says so.
-/

namespace VarDecl

theorem Ignore.Rules.insertEntry_of_notMem {base : Text} {patterns : List Ignore.Pattern}
    {entries : List (Text × List Ignore.Pattern)} (h : ∀ e ∈ entries, e.1 ≠ base) :
    insertEntry base patterns entries = entries ++ [(base, patterns)] := by
  induction entries with
  | nil => rfl
  | cons e entries ih =>
    obtain ⟨he, hentries⟩ := List.forall_mem_cons.1 h
    rw [insertEntry, if_neg he, ih hentries, List.cons_append]

namespace File

open Text VarDecl.File.Path

variable {root : Path} {rules rules' : Ignore.Rules} {entry : List Text × Node}
  {entries : List (List Text × Node)} {l : Listing} {p : List Text} {base : Text}
  {patterns : List Ignore.Pattern} {isDirectory : Bool}

/-- The patterns of an ignore file. -/
def Node.HasPatterns (node : Node) (patterns : List Ignore.Pattern) : Prop :=
  ∃ bytes t, node = .file bytes ∧ Utf8.decode bytes = .ok t ∧
    Ignore.patternsOfLines (breakLines (unifyBreaks t)) = .ok patterns

/-- The directory of an entry, as the rules have it. -/
def baseOf (entry : List Text × Node) : Text := join entry.1.dropLast

/-! ### Where nothing is refused -/

theorem Access.free_readText (path : Path) (node : Node) :
    Access.free.readText path node = File.readText path node := rfl

theorem Access.free_reaches (above : Path) (names : List Text) :
    Access.free.reaches above names = true := by
  induction names generalizing above with
  | nil => rfl
  | cons n names ih => exact ih (above.append [n])

/-- All ignore files are found. -/
theorem readIgnoreRules_eq (root : Path) (l : Listing) : readIgnoreRules root l
    = (l.entriesNamed ignoreName []).foldlM (Access.free.addIgnoreFile root) .empty := by
  have hsearch : (Access.free.searched root l).forM (Access.free.searchDirectory root) = .ok () :=
    (forM_searchDirectory_cases Access.free root l).elim And.right
      fun ⟨⟨_, _, _, _, hf⟩, _⟩ => hf.elim nofun nofun
  have hfound : Access.free.ignoreFiles root l = l.entriesNamed ignoreName [] :=
    List.filter_eq_self.2 fun e _ => by rw [Access.free_reaches]; rfl
  rw [readIgnoreRules, Access.readIgnoreRules, hsearch, hfound]
  rfl

/-! ### One ignore file -/

theorem readText_eq_ok_iff {path : Path} {node : Node} {t : Text} : readText path node = .ok t ↔
    ∃ bytes u, node = .file bytes ∧ Utf8.decode bytes = .ok u ∧ t = unifyBreaks u := by
  cases node with
  | dir children => simp [readText]
  | file bytes =>
    rw [readText]
    cases hu : Utf8.decode bytes with
    | error e => simp [hu]
    | ok u => simp [hu, eq_comm (a := t)]

theorem hasPatterns_iff (path : Path) (node : Node) : node.HasPatterns patterns ↔
    ∃ t, readText path node = .ok t ∧ Ignore.patternsOfLines (breakLines t) = .ok patterns := by
  simp only [readText_eq_ok_iff, Node.HasPatterns]
  constructor
  · rintro ⟨bytes, t, rfl, ht, hpatterns⟩
    exact ⟨_, ⟨bytes, t, rfl, ht, rfl⟩, hpatterns⟩
  · rintro ⟨_, ⟨bytes, t, rfl, ht, rfl⟩, hpatterns⟩
    exact ⟨bytes, t, rfl, ht, hpatterns⟩

theorem isUsable_iff : IsUsable root entry ↔ ∃ patterns, entry.2.HasPatterns patterns := by
  simp only [IsUsable, hasPatterns_iff (root.append entry.1), ← Ignore.exists_patternsOfLines_iff]
  constructor
  · rintro ⟨t, ht, ps, hps⟩
    exact ⟨ps, t, ht, hps⟩
  · rintro ⟨ps, t, ht, hps⟩
    exact ⟨t, ht, ps, hps⟩

theorem addIgnoreFile_eq_ok_iff : Access.free.addIgnoreFile root rules entry = .ok rules' ↔
    ∃ patterns, entry.2.HasPatterns patterns ∧
      rules' = ⟨Ignore.Rules.insertEntry (baseOf entry) patterns rules.entries⟩ := by
  simp only [Access.addIgnoreFile, Access.free_readText, hasPatterns_iff (root.append entry.1),
    baseOf]
  cases readText (root.append entry.1) entry.2 with
  | error e => simp
  | ok t =>
    simp only [Ignore.Rules.add]
    cases hpatterns : Ignore.patternsOfLines (breakLines t) with
    | error b => simp [hpatterns, Except.map]
    | ok patterns => simp [hpatterns, Except.map, eq_comm (a := rules')]

/-! ### All ignore files -/

theorem exists_foldlM_addIgnoreFile_iff :
    (∃ rules', entries.foldlM (Access.free.addIgnoreFile root) rules = .ok rules') ↔
      ∀ entry ∈ entries, IsUsable root entry := by
  induction entries generalizing rules with
  | nil => exact ⟨fun _ => List.forall_mem_nil _, fun _ => ⟨rules, rfl⟩⟩
  | cons entry entries ih =>
    rw [List.foldlM_cons, List.forall_mem_cons, isUsable_iff]
    cases h : Access.free.addIgnoreFile root rules entry with
    | error e =>
      refine ⟨nofun, fun ⟨⟨patterns, hpatterns⟩, _⟩ => ?_⟩
      cases h.symm.trans (addIgnoreFile_eq_ok_iff.2 ⟨patterns, hpatterns, rfl⟩)
    | ok rules' =>
      obtain ⟨patterns, hpatterns, -⟩ := addIgnoreFile_eq_ok_iff.1 h
      exact ih.trans ⟨fun hrest => ⟨⟨patterns, hpatterns⟩, hrest⟩, And.right⟩

/-- Ignore files of different directories all keep their patterns. -/
theorem mem_foldlM_addIgnoreFile_iff (hdistinct : entries.Pairwise fun a b => baseOf a ≠ baseOf b)
    (hfresh : ∀ entry ∈ entries, ∀ e ∈ rules.entries, e.1 ≠ baseOf entry)
    (h : entries.foldlM (Access.free.addIgnoreFile root) rules = .ok rules') :
    (base, patterns) ∈ rules'.entries ↔ (base, patterns) ∈ rules.entries ∨
      ∃ entry ∈ entries, base = baseOf entry ∧ entry.2.HasPatterns patterns := by
  induction entries generalizing rules with
  | nil =>
    cases h
    simp
  | cons entry entries ih =>
    rw [List.foldlM_cons] at h
    obtain ⟨rules₁, hadd, h⟩ := bind_eq_ok_iff.1 h
    obtain ⟨own, hown, rfl⟩ := addIgnoreFile_eq_ok_iff.1 hadd
    obtain ⟨hne, hdistinct⟩ := List.pairwise_cons.1 hdistinct
    obtain ⟨hfresh₀, hfresh⟩ := List.forall_mem_cons.1 hfresh
    rw [Ignore.Rules.insertEntry_of_notMem hfresh₀] at h
    have hfresh₁ : ∀ later ∈ entries, ∀ e ∈ rules.entries ++ [(baseOf entry, own)],
        e.1 ≠ baseOf later := by
      intro later hlater e he
      obtain he | he := List.mem_append.1 he
      · exact hfresh later hlater e he
      · rw [List.mem_singleton.1 he]
        exact hne later hlater
    -- A file has one list of patterns only.
    have hunique : ∀ ps, entry.2.HasPatterns ps ↔ ps = own := by
      intro ps
      rw [hasPatterns_iff (root.append entry.1)] at hown ⊢
      obtain ⟨t, ht, hps⟩ := hown
      simp [ht, hps, eq_comm]
    rw [ih hdistinct hfresh₁ h, List.mem_append, List.mem_singleton, List.exists_mem_cons_iff,
      hunique, Prod.mk.injEq, or_assoc]

/-- The patterns of the ignore file in a directory below. -/
def Listing.HasRules (l : Listing) (d : List Text) (patterns : List Ignore.Pattern) : Prop :=
  ∃ node, l.lookup (d ++ [ignoreName]) = some node ∧ node.HasPatterns patterns

theorem exists_readIgnoreRules_iff : (∃ rules, readIgnoreRules root l = .ok rules) ↔
    ∀ entry ∈ l.entriesNamed ignoreName [], IsUsable root entry := by
  rw [readIgnoreRules_eq]
  exact exists_foldlM_addIgnoreFile_iff

theorem isEntryName_of_hasRules {d : List Text} (h : l.IsTree) (hd : l.HasRules d patterns) :
    ∀ n ∈ d, IsEntryName n := by
  obtain ⟨node, hnode, -⟩ := hd
  exact fun n hn => (h.of_lookup hnode).1 n (List.mem_append_left _ hn)

/-- The rules of a directory are those of its ignore files. -/
theorem mem_entries_iff (h : l.IsTree) (hrules : readIgnoreRules root l = .ok rules) :
    (base, patterns) ∈ rules.entries ↔ ∃ d, base = join d ∧ l.HasRules d patterns := by
  have hmem : ∀ p node, (p, node) ∈ l.entriesNamed ignoreName [] ↔
      ∃ d, p = d ++ [ignoreName] ∧ l.lookup (d ++ [ignoreName]) = some node :=
    fun p node => Listing.mem_entriesNamed_iff h
  have hnames : ∀ e ∈ l.entriesNamed ignoreName [], ∀ n ∈ e.1.dropLast, IsEntryName n := by
    rintro ⟨p, node⟩ he n hn
    obtain ⟨d, rfl, hd⟩ := (hmem p node).1 he
    exact (h.of_lookup hd).1 n ((List.dropLast_sublist _).mem hn)
  have hdistinct : (l.entriesNamed ignoreName []).Pairwise fun a b => baseOf a ≠ baseOf b := by
    refine (Listing.pairwise_entriesNamed h).imp_of_mem ?_
    rintro ⟨p, node⟩ ⟨q, node'⟩ hp hq hlt heq
    have hdirs := join_injective (hnames _ hp) (hnames _ hq) heq
    obtain ⟨d, rfl, -⟩ := (hmem p node).1 hp
    obtain ⟨d', rfl, -⟩ := (hmem q node').1 hq
    rw [List.dropLast_concat, List.dropLast_concat] at hdirs
    rw [hdirs] at hlt
    exact irrefl_of NamesBefore _ hlt
  rw [readIgnoreRules_eq] at hrules
  rw [mem_foldlM_addIgnoreFile_iff hdistinct (fun _ _ => List.forall_mem_nil _) hrules]
  constructor
  · rintro (he | ⟨⟨p, node⟩, he, rfl, hpatterns⟩)
    · cases he
    · obtain ⟨d, rfl, hd⟩ := (hmem p node).1 he
      exact ⟨d, by rw [baseOf, List.dropLast_concat], node, hd, hpatterns⟩
  · rintro ⟨d, rfl, node, hd, hpatterns⟩
    exact Or.inr ⟨(d ++ [ignoreName], node), (hmem _ _).2 ⟨d, rfl, hd⟩,
      by rw [baseOf, List.dropLast_concat], hpatterns⟩

/-- A path is ignored if an ignore file above it says so, of the names that are left there. -/
theorem ignores_iff_hasRules (h : l.IsTree) (hrules : readIgnoreRules root l = .ok rules)
    (hp : ∀ n ∈ p, IsEntryName n) (hne : p ≠ []) :
    rules.ignores (join p) isDirectory = true ↔ ∃ d patterns after, l.HasRules d patterns ∧
      after ≠ [] ∧ p = d ++ after ∧
      Ignore.verdict patterns (if isDirectory then join after ++ ['/'] else join after) = true := by
  rw [Ignore.Rules.ignores_join_iff hp hne fun e he => ?_]
  · constructor
    · rintro ⟨d, patterns, after, he, hd, hafter, heq, hverdict⟩
      obtain ⟨d', hjoin, hd'⟩ := (mem_entries_iff h hrules).1 he
      obtain rfl := join_injective hd (isEntryName_of_hasRules h hd') hjoin
      exact ⟨d, patterns, after, hd', hafter, heq, hverdict⟩
    · rintro ⟨d, patterns, after, hd, hafter, heq, hverdict⟩
      exact ⟨d, patterns, after, (mem_entries_iff h hrules).2 ⟨d, rfl, hd⟩,
        isEntryName_of_hasRules h hd, hafter, heq, hverdict⟩
  · obtain ⟨d, hbase, hd⟩ := (mem_entries_iff h hrules).1 he
    exact ⟨d, isEntryName_of_hasRules h hd, hbase⟩

end File

end VarDecl
