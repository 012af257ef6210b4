import VarDecl.Proofs.File.Selection
import VarDecl.Proofs.File.Writing

/-!
# The reach of an ignore file in a directory

* `SameBut`: two directories hold the same files, but for the ignore file of one directory below;
* `isSelected_iff_of_sameBut`: outside of that directory the same files are selected, since neither
  a file there nor a directory above it is judged by what has changed;
* `discover_outside`: so the same sources are discovered there, in the same order.
-/

namespace VarDecl.File

open Text VarDecl.File.Path

variable {ignores ignores' : IgnoreTest} {suffixes d p : List Text} {root : Path}
  {l l' t t' : Listing} {rules rules' : Ignore.Rules} {ss ss' : List SourceFile}

/-- Two directories hold the same files, but perhaps for one ignore file. -/
def SameBut (d : List Text) (l l' : Listing) : Prop :=
  ∀ p, p ≠ d ++ [ignoreName] →
    ∀ bytes, l.lookup p = some (.file bytes) ↔ l'.lookup p = some (.file bytes)

/-- An ignore file may be replaced or added; read backwards, it may be removed. -/
theorem sameBut_of_put {bytes : List UInt8} (h : t.put bytes (d ++ [ignoreName]) = some t') :
    SameBut d t t' :=
  fun _ hp b => Listing.lookup_put h hp b

/-- The sources that do not stand below a directory. -/
def outside (d : Path) (ss : List SourceFile) : List SourceFile :=
  ss.filter fun s => ¬d.names <+: s.path.names

/-! ### What is selected -/

/-- Only the judgements of a path and of what stands above it matter. -/
theorem IsSelected.congr (h : ∀ q, q <+: p → q ≠ [] →
    ∀ isDirectory, ignores (join q) isDirectory = ignores' (join q) isDirectory)
    (hp : IsSelected ignores suffixes p) : IsSelected ignores' suffixes p where
  suffix := hp.suffix
  file := by
    obtain ⟨n, hn, -⟩ := hp.suffix
    have hne : p ≠ [] := by
      rintro rfl
      cases hn
    rw [← h p List.prefix_rfl hne false]
    exact hp.file
  directories d n hd hne := by
    rw [← h _ hd (List.append_ne_nil_of_right_ne_nil d (List.cons_ne_nil n [])) true]
    exact hp.directories d n hd hne

/-- A path outside of the directory is judged alike. -/
theorem ignores_eq_of_sameBut (h : t.IsTree) (h' : t'.IsTree) (hsame : SameBut d t t')
    (hrules : readIgnoreRules root t = .ok rules) (hrules' : readIgnoreRules root t' = .ok rules')
    (hp : ∀ n ∈ p, IsEntryName n) (hne : p ≠ []) (hout : ¬d <+: p) (isDirectory : Bool) :
    rules.ignores (join p) isDirectory = rules'.ignores (join p) isDirectory := by
  rw [Bool.eq_iff_iff, ignores_iff_hasRules h hrules hp hne, ignores_iff_hasRules h' hrules' hp hne]
  refine exists_congr fun d' => exists_congr fun patterns => exists_congr fun after => ?_
  refine and_congr_left fun ⟨_, heq, _⟩ => hasRules_congr (hsame _ fun hd => hout ?_)
  rw [← List.append_cancel_right hd, heq]
  exact List.prefix_append d' after

theorem isSelected_iff_of_sameBut (h : t.IsTree) (h' : t'.IsTree) (hsame : SameBut d t t')
    (hrules : readIgnoreRules root t = .ok rules) (hrules' : readIgnoreRules root t' = .ok rules')
    (hp : ∀ n ∈ p, IsEntryName n) (hout : ¬d <+: p) :
    IsSelected rules.ignores suffixes p ↔ IsSelected rules'.ignores suffixes p := by
  have heq : ∀ q, q <+: p → q ≠ [] → ∀ isDirectory,
      rules.ignores (join q) isDirectory = rules'.ignores (join q) isDirectory :=
    fun q hq hne => ignores_eq_of_sameBut h h' hsame hrules hrules'
      (fun n hn => hp n (hq.mem hn)) hne fun hd => hout (hd.trans hq)
  exact ⟨.congr heq, .congr fun q hq hne isDirectory => (heq q hq hne isDirectory).symm⟩

theorem selects_iff_of_sameBut {bytes : List UInt8} (h : t.IsTree) (h' : t'.IsTree)
    (hsame : SameBut d t t') (hrules : readIgnoreRules root t = .ok rules)
    (hrules' : readIgnoreRules root t' = .ok rules') (hout : ¬d <+: p) :
    t.Selects rules.ignores suffixes p bytes ↔ t'.Selects rules'.ignores suffixes p bytes := by
  have hne : p ≠ d ++ [ignoreName] := by
    rintro rfl
    exact hout (List.prefix_append d _)
  constructor
  · rintro ⟨hlookup, hselected⟩
    refine ⟨(hsame p hne bytes).1 hlookup, ?_⟩
    rwa [← isSelected_iff_of_sameBut h h' hsame hrules hrules' (h.of_lookup hlookup).1 hout]
  · rintro ⟨hlookup, hselected⟩
    refine ⟨(hsame p hne bytes).2 hlookup, ?_⟩
    rwa [isSelected_iff_of_sameBut h h' hsame hrules hrules' (h'.of_lookup hlookup).1 hout]

/-! ### What is discovered -/

/-- Sources that are found outside of a directory alike stand in the same order. -/
theorem outside_eq_of_areSources (hs : AreSources ignores root suffixes t ss)
    (hs' : AreSources ignores' root suffixes t' ss') (h : ∀ p bytes, ¬d <+: p →
      (t.Selects ignores suffixes p bytes ↔ t'.Selects ignores' suffixes p bytes)) :
    outside (root.append d) ss = outside (root.append d) ss' := by
  unfold outside
  have : Std.Asymm fun a b : SourceFile => NamesBefore a.path.names b.path.names :=
    ⟨fun _ _ => asymm_of NamesBefore⟩
  refine (hs.ordered.filter _).eq_of_mem_iff (hs'.ordered.filter _) fun s => ?_
  rw [List.mem_filter, List.mem_filter, hs.mem_iff, hs'.mem_iff]
  refine and_congr_left fun hout => ?_
  refine exists_congr fun p => exists_congr fun bytes => exists_congr fun u => ?_
  refine and_congr_left fun ⟨_, hpath⟩ => h p bytes fun hd => ?_
  rw [hpath, decide_eq_true_iff] at hout
  exact hout ((List.prefix_append_right_inj root.names).2 hd)

/-- Changing the ignore file of one directory does not change which sources are discovered outside
of that directory. A base takes part in the judgement of a path only if its names are the first
names of the path, and judges the names that are left. -/
theorem discover_outside (hroot : l.seek root = .ok (some (.dir t)))
    (hroot' : l'.seek root = .ok (some (.dir t'))) (h : t.IsTree) (h' : t'.IsTree)
    (hsame : SameBut d t t') (hss : discover l root suffixes = .ok ss)
    (hss' : discover l' root suffixes = .ok ss') :
    outside (root.append d) ss = outside (root.append d) ss' ∧
      (∀ base path rest, Ignore.Rules.below? base path = some rest ↔
        Ignore.Rules.Consults base path rest) ∧
      ∀ (rules : Ignore.Rules) (path : Text) (isDirectory : Bool),
        rules.ignores path isDirectory = true ↔ Ignore.Rules.normalize path ≠ [] ∧
          ∃ e ∈ rules.entries, ∃ rest,
            Ignore.Rules.Consults e.1 (Ignore.Rules.normalize path) rest ∧
            Ignore.verdict e.2 (if isDirectory then rest ++ ['/'] else rest) = true := by
  obtain ⟨rules, hrules, hsources⟩ := areSources_of_discover hroot h hss
  obtain ⟨rules', hrules', hsources'⟩ := areSources_of_discover hroot' h' hss'
  refine ⟨outside_eq_of_areSources hsources hsources' fun p bytes hout =>
    selects_iff_of_sameBut h h' hsame hrules hrules' hout,
    fun _ _ _ => Ignore.Rules.below?_eq_some_iff, fun _ _ _ => Ignore.Rules.ignores_iff⟩

/-- A directory with a source beside a directory with a source. -/
def nestedTree : Listing :=
  .file "a.java".toList (Utf8.encode "int x;".toList)
    (.dir "sub".toList (.file "a.java".toList (Utf8.encode "int y;".toList) .nil) .nil)

/-- The same with an ignore file in the inner directory. -/
def nestedTreeIgnoring : Listing :=
  .file "a.java".toList (Utf8.encode "int x;".toList)
    (.dir "sub".toList (.file ignoreName (Utf8.encode "a.java\n".toList)
      (.file "a.java".toList (Utf8.encode "int y;".toList) .nil)) .nil)

/-- The source beside the directory is found whether or not the directory has an ignore file. -/
theorem discover_outside_nestedTree : ∃ ss ss',
    nestedTree.put (Utf8.encode "a.java\n".toList) ["sub".toList, ignoreName]
      = some nestedTreeIgnoring ∧
    discover nestedTree ⟨[]⟩ defaultSuffixes = .ok ss ∧
    discover nestedTreeIgnoring ⟨[]⟩ defaultSuffixes = .ok ss' ∧
    outside ⟨["sub".toList]⟩ ss = outside ⟨["sub".toList]⟩ ss' := by
  have hput : nestedTree.put (Utf8.encode "a.java\n".toList) ["sub".toList, ignoreName]
      = some nestedTreeIgnoring := by decide +kernel
  obtain ⟨ss, hss⟩ : ∃ ss, discover nestedTree ⟨[]⟩ defaultSuffixes = .ok ss :=
    exists_ok_of_isOk (by decide +kernel)
  obtain ⟨ss', hss'⟩ : ∃ ss', discover nestedTreeIgnoring ⟨[]⟩ defaultSuffixes = .ok ss' :=
    exists_ok_of_isOk (by decide +kernel)
  exact ⟨ss, ss', hput, hss, hss', (discover_outside (by decide +kernel) (by decide +kernel)
    (by decide +kernel) (by decide +kernel) (sameBut_of_put hput) hss hss').1⟩

end VarDecl.File
