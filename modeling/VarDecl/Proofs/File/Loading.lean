import VarDecl.File.Sources
import VarDecl.Proofs.Traversal

/-!
# How loading fails

Sources are loaded in steps: the path is followed, the directory is searched for ignore files, these
are read one by one, and what the walk asks for is done. Each has its own kind of failure, and the
first failure is the one that is reported.

* `IsTooLong`: the path cannot be followed (`seek_eq_error_iff`);
* `IsUnsearchable`: the search is refused something, not for lack of permission;
* reading the ignore files comes to one with a line that is no pattern
  (`foldlM_addIgnoreFile_cases`), or the walk to something that is refused (`mapM_perform_cases`);
* `load_cases`: all that loading can do. `StopsLoading` says when it ends in another way than with
  sources or with something that cannot be read.
-/

namespace VarDecl

open Text

/-! ### The lines of an ignore file -/

namespace Ignore

variable {lines : List Text}

/-- The lines of a file are patterns if each of them is one, or says nothing. -/
theorem exists_patternsOfLines_iff : (∃ ps, patternsOfLines lines = .ok ps) ↔
    ∀ line ∈ lines, ∃ p, Pattern.ofLine line = .ok p := by
  rw [patternsOfLines, exists_map_iff, exists_mapM_iff]

end Ignore

namespace File

variable {a : Access} {root path : Path} {rules : Ignore.Rules} {entry : List Text × Node}
  {entries : List (List Text × Node)} {l content : Listing} {suffixes : List Text}

/-! ### Ignore files -/

/-- An ignore file that can be read and holds patterns. -/
def IsUsable (root : Path) (entry : List Text × Node) : Prop :=
  ∃ t, readText (root.append entry.1) entry.2 = .ok t ∧
    ∀ line ∈ breakLines t, ∃ p, Ignore.Pattern.ofLine line = .ok p

/-- An ignore file that can be read and has a line that is no pattern. -/
def IsMalformed (root : Path) (entry : List Text × Node) : Prop :=
  ∃ t, readText (root.append entry.1) entry.2 = .ok t ∧
    ∃ line ∈ breakLines t, ∃ b, Ignore.Pattern.ofLine line = .error b

/-- A usable ignore file that may be read. -/
def Access.Uses (a : Access) (root : Path) (entry : List Text × Node) : Prop :=
  a.read (root.append entry.1) = none ∧ IsUsable root entry

/-- A malformed ignore file that may be read. -/
def Access.Rejects (a : Access) (root : Path) (entry : List Text × Node) : Prop :=
  a.read (root.append entry.1) = none ∧ IsMalformed root entry

theorem IsUsable.not_isMalformed (h : IsUsable root entry) : ¬IsMalformed root entry := by
  obtain ⟨t, ht, hall⟩ := h
  rintro ⟨u, hu, line, hline, b, hb⟩
  obtain rfl := Except.ok.inj (ht.symm.trans hu)
  obtain ⟨p, hp⟩ := hall line hline
  rw [hb] at hp
  cases hp

theorem Access.Uses.not_rejects (h : a.Uses root entry) : ¬a.Rejects root entry :=
  fun h' => h.2.not_isMalformed h'.2

/-- A file that can be read is malformed unless it is usable. -/
theorem isUsable_or_isMalformed {t : Text} (ht : readText (root.append entry.1) entry.2 = .ok t) :
    IsUsable root entry ∨ IsMalformed root entry := by
  by_cases hall : ∀ line ∈ breakLines t, ∃ p, Ignore.Pattern.ofLine line = .ok p
  · exact Or.inl ⟨t, ht, hall⟩
  · obtain ⟨line, hline⟩ := Classical.not_forall.1 hall
    obtain ⟨hmem, hbad⟩ := Classical.not_imp.1 hline
    refine Or.inr ⟨t, ht, line, hmem, ?_⟩
    cases h : Ignore.Pattern.ofLine line with
    | error b => exact ⟨b, rfl⟩
    | ok p => exact absurd ⟨p, h⟩ hbad

theorem Access.readText_eq_ok_iff {node : Node} {t : Text} :
    a.readText path node = .ok t ↔ a.read path = none ∧ File.readText path node = .ok t := by
  unfold Access.readText
  cases a.read path <;> simp

/-- What one ignore file does. -/
theorem addIgnoreFile_cases (a : Access) (root : Path) (rules : Ignore.Rules)
    (entry : List Text × Node) :
    (a.Uses root entry ∧ ∃ rules', a.addIgnoreFile root rules entry = .ok rules') ∨
    (a.Rejects root entry ∧ ∃ b, a.addIgnoreFile root rules entry = .error (.pattern b)) ∨
    (¬a.Uses root entry ∧ ¬a.Rejects root entry ∧
      ∃ e, a.addIgnoreFile root rules entry = .error (.load e)) := by
  rw [Access.addIgnoreFile]
  cases ht : a.readText (root.append entry.1) entry.2 with
  | error e =>
    have hnone : a.read (root.append entry.1) = none →
        ∀ t, readText (root.append entry.1) entry.2 ≠ .ok t := fun hread t h => by
      cases ht.symm.trans (Access.readText_eq_ok_iff.2 ⟨hread, h⟩)
    exact Or.inr (Or.inr ⟨fun ⟨hread, t, h, _⟩ => hnone hread t h,
      fun ⟨hread, t, h, _⟩ => hnone hread t h, e, rfl⟩)
  | ok t =>
    obtain ⟨hread, ht⟩ := Access.readText_eq_ok_iff.1 ht
    have husable :
        (∃ ps, Ignore.patternsOfLines (breakLines t) = .ok ps) ↔ IsUsable root entry := by
      rw [Ignore.exists_patternsOfLines_iff, IsUsable, ht]
      exact ⟨fun h => ⟨t, rfl, h⟩, fun ⟨_, h, hall⟩ => Except.ok.inj h ▸ hall⟩
    cases hps : Ignore.patternsOfLines (breakLines t) with
    | ok ps =>
      exact Or.inl ⟨⟨hread, husable.1 ⟨ps, hps⟩⟩, by simp [Ignore.Rules.add, hps, Except.map]⟩
    | error b =>
      refine Or.inr (Or.inl ⟨⟨hread, (isUsable_or_isMalformed ht).resolve_left ?_⟩, b,
        by simp [Ignore.Rules.add, hps, Except.map]⟩)
      rw [← husable, hps]
      rintro ⟨ps, h⟩
      cases h

/-- What a row of ignore files does: the first that is not usable decides. -/
theorem foldlM_addIgnoreFile_cases (a : Access) (root : Path) (rules : Ignore.Rules)
    (entries : List (List Text × Node)) :
    (ComesTo (a.Uses root) (a.Rejects root) entries ∧
      ∃ b, entries.foldlM (a.addIgnoreFile root) rules = .error (.pattern b)) ∨
    (¬ComesTo (a.Uses root) (a.Rejects root) entries ∧
      ((∃ rules', entries.foldlM (a.addIgnoreFile root) rules = .ok rules') ∨
        ∃ e, entries.foldlM (a.addIgnoreFile root) rules = .error (.load e))) := by
  induction entries generalizing rules with
  | nil => exact Or.inr ⟨id, Or.inl ⟨rules, rfl⟩⟩
  | cons entry entries ih =>
    rw [List.foldlM_cons, ComesTo]
    obtain ⟨huses, rules', h⟩ | ⟨hrejects, b, h⟩ | ⟨huses, hrejects, e, h⟩ :=
      addIgnoreFile_cases a root rules entry
    · rw [h]
      exact (ih rules').imp (And.imp_left fun hrest => Or.inr ⟨huses, hrest⟩)
        (And.imp_left fun hrest hmeets => hmeets.elim huses.not_rejects fun h => hrest h.2)
    · rw [h]
      exact Or.inl ⟨Or.inl hrejects, b, rfl⟩
    · rw [h]
      exact Or.inr ⟨fun hmeets => hmeets.elim hrejects fun h => huses h.1, Or.inr ⟨e, rfl⟩⟩

/-! ### The search for ignore files -/

/-- A search is refused something, not for lack of permission. -/
def IsUnsearchable (a : Access) (root : Path) (l : Listing) : Prop :=
  ∃ names ∈ a.searched root l, ∃ f : Refusal, f.kind ≠ .denied ∧
    (a.look (root.append (names ++ [ignoreName])) = some f ∨ a.search (root.append names) = some f)

theorem tolerate_cases (refusal? : Option Refusal) :
    (tolerate refusal? = .ok () ∧ ∀ f, refusal? = some f → f.kind = .denied) ∨
      ∃ f : Refusal, f.kind ≠ .denied ∧ refusal? = some f ∧
        tolerate refusal? = .error (.refused f) := by
  cases refusal? with
  | none => exact Or.inl ⟨rfl, nofun⟩
  | some f =>
    rw [tolerate]
    by_cases hkind : f.kind = .denied
    · exact Or.inl ⟨if_pos hkind, fun _ h => Option.some.inj h ▸ hkind⟩
    · exact Or.inr ⟨f, hkind, rfl, if_neg hkind⟩

/-- What the search does in one directory. -/
theorem searchDirectory_cases (a : Access) (root : Path) (names : List Text) :
    (a.searchDirectory root names = .ok () ∧
      ∀ f : Refusal, a.look (root.append (names ++ [ignoreName])) = some f ∨
        a.search (root.append names) = some f → f.kind = .denied) ∨
    ∃ f : Refusal, f.kind ≠ .denied ∧ (a.look (root.append (names ++ [ignoreName])) = some f ∨
      a.search (root.append names) = some f) ∧
        a.searchDirectory root names = .error (.refused f) := by
  rw [Access.searchDirectory]
  obtain ⟨hlook, hdenied⟩ | ⟨f, hkind, hf, hlook⟩ :=
    tolerate_cases (a.look (root.append (names ++ [ignoreName])))
  · rw [hlook]
    obtain ⟨hsearch, hdenied'⟩ | ⟨f, hkind, hf, hsearch⟩ :=
      tolerate_cases (a.search (root.append names))
    · exact Or.inl ⟨hsearch, fun f h => h.elim (hdenied f) (hdenied' f)⟩
    · exact Or.inr ⟨f, hkind, Or.inr hf, hsearch⟩
  · rw [hlook]
    exact Or.inr ⟨f, hkind, Or.inl hf, rfl⟩

/-- What the whole search does. -/
theorem forM_searchDirectory_cases (a : Access) (root : Path) (l : Listing) :
    (¬IsUnsearchable a root l ∧ (a.searched root l).forM (a.searchDirectory root) = .ok ()) ∨
    (IsUnsearchable a root l ∧
      ∃ f, (a.searched root l).forM (a.searchDirectory root) = .error (.refused f)) := by
  obtain ⟨hall, hsearch⟩ | ⟨names, hnames, e, he, hsearch⟩ :=
    forM_cases (a.searchDirectory root) (a.searched root l)
  · refine Or.inl ⟨fun ⟨names, hnames, f, hkind, hf⟩ => ?_, hsearch⟩
    obtain ⟨-, hdenied⟩ | ⟨_, -, -, herror⟩ := searchDirectory_cases a root names
    · exact hkind (hdenied f hf)
    · cases (hall names hnames).symm.trans herror
  · obtain ⟨hok, -⟩ | ⟨f, hkind, hf, herror⟩ := searchDirectory_cases a root names
    · cases he.symm.trans hok
    · cases he.symm.trans herror
      exact Or.inr ⟨⟨names, hnames, f, hkind, hf⟩, f, hsearch⟩

/-- All that reading the rules can do. -/
theorem readIgnoreRules_cases (a : Access) (root : Path) (l : Listing) :
    (IsUnsearchable a root l ∧ ∃ f, a.readIgnoreRules root l = .error (.refused f)) ∨
    (¬IsUnsearchable a root l ∧ ComesTo (a.Uses root) (a.Rejects root) (a.ignoreFiles root l) ∧
      ∃ b, a.readIgnoreRules root l = .error (.pattern b)) ∨
    ((¬IsUnsearchable a root l ∧ ¬ComesTo (a.Uses root) (a.Rejects root) (a.ignoreFiles root l)) ∧
      ((∃ rules, a.readIgnoreRules root l = .ok rules) ∨
        ∃ e, a.readIgnoreRules root l = .error (.load e))) := by
  rw [Access.readIgnoreRules]
  obtain ⟨hsearch, h⟩ | ⟨hsearch, f, h⟩ := forM_searchDirectory_cases a root l
  · rw [h]
    obtain ⟨hmeets, hrules⟩ | ⟨hmeets, hrules⟩ :=
      foldlM_addIgnoreFile_cases a root .empty (a.ignoreFiles root l)
    · exact Or.inr (Or.inl ⟨hsearch, hmeets, hrules⟩)
    · exact Or.inr (Or.inr ⟨⟨hsearch, hmeets⟩, hrules⟩)
  · rw [h]
    exact Or.inl ⟨hsearch, f, rfl⟩

/-! ### The walk -/

/-- What a step is refused. -/
def Access.refusal? (a : Access) (root : Path) : Step → Option Refusal
  | .list names => a.list (root.append names)
  | .look names => a.look (root.append names)
  | .read _ => none

/-- A step is carried out. -/
def Access.Performs (a : Access) (root : Path) (s : Step) : Prop :=
  ∃ found, a.perform root s = .ok found

/-- A step is refused. -/
def Access.Refuses (a : Access) (root : Path) (s : Step) : Prop :=
  ∃ f, a.refusal? root s = some f

theorem map_attempt_cases (refusal? : Option Refusal) :
    (refusal? = none ∧ (attempt refusal?).map (fun _ => none)
        = (.ok none : Except Failure (Option SourceFile))) ∨
      ∃ f, refusal? = some f ∧ (attempt refusal?).map (fun _ => none)
        = (.error (.refused f) : Except Failure (Option SourceFile)) := by
  cases refusal? with
  | none => exact Or.inl ⟨rfl, rfl⟩
  | some f => exact Or.inr ⟨f, rfl, rfl⟩

/-- What a step other than reading does. -/
theorem perform_cases_of_ne_read (a : Access) (root : Path) {s : Step} (hs : ∀ x, s ≠ .read x) :
    (a.refusal? root s = none ∧ a.perform root s = .ok none) ∨
      ∃ f, a.refusal? root s = some f ∧ a.perform root s = .error (.refused f) := by
  cases s with
  | list names => exact map_attempt_cases (a.list (root.append names))
  | look names => exact map_attempt_cases (a.look (root.append names))
  | read x => exact absurd rfl (hs x)

/-- What one step does. -/
theorem perform_cases (a : Access) (root : Path) (s : Step) :
    (¬a.Refuses root s ∧ ((∃ found, a.perform root s = .ok found) ∨
      ∃ e, a.perform root s = .error (.load e))) ∨
    (a.Refuses root s ∧ ∃ f, a.perform root s = .error (.refused f)) := by
  by_cases hread : ∃ x, s = .read x
  · obtain ⟨x, rfl⟩ := hread
    refine Or.inl ⟨nofun, ?_⟩
    rw [Access.perform, Access.loadFound]
    cases a.readText (root.append x.1) (.file x.2) with
    | error e => exact Or.inr ⟨e, rfl⟩
    | ok t => exact Or.inl ⟨some ⟨root.append x.1, t⟩, rfl⟩
  · obtain ⟨hnone, h⟩ | ⟨f, hf, h⟩ :=
      perform_cases_of_ne_read a root fun x hx => hread ⟨x, hx⟩
    · refine Or.inl ⟨fun ⟨f, hf⟩ => ?_, Or.inl ⟨none, h⟩⟩
      cases hnone.symm.trans hf
    · exact Or.inr ⟨⟨f, hf⟩, f, h⟩

/-- What a row of steps does: the first that is not carried out decides. -/
theorem mapM_perform_cases (a : Access) (root : Path) (ss : List Step) :
    (ComesTo (a.Performs root) (a.Refuses root) ss ∧
      ∃ f, ss.mapM (a.perform root) = .error (.refused f)) ∨
    (¬ComesTo (a.Performs root) (a.Refuses root) ss ∧
      ((∃ found, ss.mapM (a.perform root) = .ok found) ∨
        ∃ e, ss.mapM (a.perform root) = .error (.load e))) := by
  induction ss with
  | nil => exact Or.inr ⟨id, Or.inl ⟨[], rfl⟩⟩
  | cons s ss ih =>
    rw [List.mapM_cons, ComesTo]
    obtain ⟨hrefuses, ⟨found, h⟩ | ⟨e, h⟩⟩ | ⟨hrefuses, f, h⟩ := perform_cases a root s
    · rw [h]
      refine ih.imp ?_ ?_
      · rintro ⟨hrest, f, hf⟩
        exact ⟨Or.inr ⟨⟨found, h⟩, hrest⟩, f, by rw [hf]; rfl⟩
      · rintro ⟨hrest, hresult⟩
        refine ⟨fun hmeets => hmeets.elim hrefuses fun h => hrest h.2, hresult.imp ?_ ?_⟩
        · rintro ⟨later, hlater⟩
          exact ⟨found :: later, by rw [hlater]; rfl⟩
        · rintro ⟨e, he⟩
          exact ⟨e, by rw [he]; rfl⟩
    · rw [h]
      refine Or.inr ⟨fun hmeets => hmeets.elim hrefuses ?_, Or.inr ⟨e, rfl⟩⟩
      rintro ⟨⟨found, hfound⟩, -⟩
      cases h.symm.trans hfound
    · rw [h]
      exact Or.inl ⟨Or.inl hrefuses, f, rfl⟩

/-! ### Directories -/

/-- What stops the discovery of sources in a directory, unless it is a file that cannot be read. -/
inductive StopsDiscovery (a : Access) (root : Path) (suffixes : List Text) (l : Listing) : Prop
  /-- The search for ignore files is refused something. -/
  | search (h : IsUnsearchable a root l)
  /-- An ignore file has a line that is no pattern. -/
  | ignoreFile (hsearch : ¬IsUnsearchable a root l)
    (h : ComesTo (a.Uses root) (a.Rejects root) (a.ignoreFiles root l))
  /-- A directory on the walk cannot be listed or an entry of it cannot be looked up. -/
  | walk (rules : Ignore.Rules) (hrules : a.readIgnoreRules root l = .ok rules)
    (h : ComesTo (a.Performs root) (a.Refuses root) (steps rules.ignores suffixes l))

theorem discoverIn_cases (a : Access) (root : Path) (suffixes : List Text) (l : Listing) :
    (StopsDiscovery a root suffixes l ∧
      ∃ f, a.discoverIn root suffixes l = .error f ∧ ∀ e, f ≠ .load e) ∨
    (¬StopsDiscovery a root suffixes l ∧
      ((∃ sources, a.discoverIn root suffixes l = .ok sources) ∨
        ∃ e, a.discoverIn root suffixes l = .error (.load e))) := by
  rw [Access.discoverIn]
  obtain ⟨hsearch, f, h⟩ | ⟨hsearch, hmeets, b, h⟩ |
      ⟨⟨hsearch, hmeets⟩, ⟨rules, h⟩ | ⟨e, h⟩⟩ := readIgnoreRules_cases a root l
  · rw [h]
    exact Or.inl ⟨.search hsearch, .refused f, rfl, nofun⟩
  · rw [h]
    exact Or.inl ⟨.ignoreFile hsearch hmeets, .pattern b, rfl, nofun⟩
  · rw [h]
    have hstops : StopsDiscovery a root suffixes l →
        ComesTo (a.Performs root) (a.Refuses root) (steps rules.ignores suffixes l) := by
      rintro (h' | ⟨-, h'⟩ | ⟨rules', hrules', h'⟩)
      · exact absurd h' hsearch
      · exact absurd h' hmeets
      · cases h.symm.trans hrules'
        exact h'
    simp only [bind, Except.bind, Access.gather]
    obtain ⟨hwalk, f, hf⟩ | ⟨hwalk, ⟨found, hfound⟩ | ⟨e, he⟩⟩ :=
      mapM_perform_cases a root (steps rules.ignores suffixes l)
    · rw [hf]
      exact Or.inl ⟨.walk rules h hwalk, .refused f, rfl, nofun⟩
    · rw [hfound]
      exact Or.inr ⟨fun h' => hwalk (hstops h'), Or.inl ⟨_, rfl⟩⟩
    · rw [he]
      exact Or.inr ⟨fun h' => hwalk (hstops h'), Or.inr ⟨e, rfl⟩⟩
  · rw [h]
    refine Or.inr ⟨?_, Or.inr ⟨e, rfl⟩⟩
    rintro (h' | ⟨-, h'⟩ | ⟨rules', hrules', -⟩)
    · exact hsearch h'
    · exact hmeets h'
    · cases h.symm.trans hrules'

/-! ### Paths -/

/-- A path that cannot be followed, as a whole or at one of its names. -/
def IsTooLong (l : Listing) (path : Path) : Prop :=
  path.hasNull = false ∧ (path.isLong = true ∨ Listing.meetsLongName path.names l = true)

theorem seek_eq_error_iff : (∃ e, l.seek path = .error e) ↔ IsTooLong l path := by
  unfold Listing.seek IsTooLong
  cases path.hasNull <;> cases path.isLong <;> cases Listing.meetsLongName path.names l <;> simp

/-- What stops the loading of sources, unless it is a file that is missing or cannot be read. -/
inductive StopsLoading (a : Access) (l : Listing) (path : Path) (suffixes : List Text) : Prop
  | refused (f : Refusal) (hnull : path.hasNull = false) (h : a.look path = some f)
  | longPath (h : IsTooLong l path)
  | directory (content : Listing) (hdir : a.locate l path = .ok (some (.dir content)))
    (h : StopsDiscovery a path suffixes content)

/-- Where a path leads. -/
theorem locate_cases (a : Access) (l : Listing) (path : Path) :
    (∃ f, a.locate l path = .error f ∧ (∀ e, f ≠ .load e) ∧
      ((∃ f, path.hasNull = false ∧ a.look path = some f) ∨ IsTooLong l path)) ∨
    ((∃ node?, a.locate l path = .ok node? ∧ l.seek path = .ok node?) ∧
      (∀ f, path.hasNull = false → a.look path ≠ some f) ∧ ¬IsTooLong l path) := by
  have hlong : IsTooLong l path ↔ ∃ e, l.seek path = .error e := seek_eq_error_iff.symm
  unfold Access.locate
  cases hnull : path.hasNull with
  | true =>
    refine Or.inr ⟨⟨none, rfl, ?_⟩, nofun, fun h => ?_⟩
    · rw [Listing.seek, hnull]
      rfl
    · cases hnull.symm.trans h.1
  | false =>
    cases hlook : a.look path with
    | some f => exact Or.inl ⟨.refused f, rfl, nofun, Or.inl ⟨f, rfl, rfl⟩⟩
    | none =>
      rw [hlong]
      cases l.seek path with
      | error e => exact Or.inl ⟨.tooLong e, rfl, nofun, Or.inr ⟨e, rfl⟩⟩
      | ok node? => exact Or.inr ⟨⟨node?, rfl, rfl⟩, nofun, nofun⟩

theorem locate_of_seek {node : Node} (hlook : a.look path = none)
    (h : l.seek path = .ok (some node)) : a.locate l path = .ok (some node) := by
  obtain ⟨-, -, -, ⟨f, -, hf⟩ | hlong⟩ | ⟨⟨node?, hlocate, hseek⟩, -⟩ := locate_cases a l path
  · cases hlook.symm.trans hf
  · obtain ⟨e, he⟩ := seek_eq_error_iff.2 hlong
    cases h.symm.trans he
  · cases h.symm.trans hseek
    exact hlocate

theorem loadNode_cases (a : Access) (path : Path) (node : Option Node) :
    (∃ source, a.loadNode path node = .ok source) ∨
      ∃ e, a.loadNode path node = .error (.load e) := by
  match node with
  | none | some (.dir _) => exact Or.inr ⟨.missingFile path, rfl⟩
  | some (.file bytes) =>
    rw [Access.loadNode]
    cases a.readText path (.file bytes) with
    | error e => exact Or.inr ⟨e, rfl⟩
    | ok t => exact Or.inl ⟨⟨path, t⟩, rfl⟩

/-- A directory is searched through. -/
theorem load_of_locate_dir (h : a.locate l path = .ok (some (.dir content))) :
    a.load l path suffixes = a.discoverIn path suffixes content := by
  rw [Access.load, h]
  rfl

/-- One file is loaded where the path does not lead to a directory. -/
theorem load_of_locate {node : Option Node} (h : a.locate l path = .ok node)
    (hnode : ∀ content, node ≠ some (.dir content)) :
    a.load l path suffixes = (a.loadNode path node).map ([·]) := by
  rw [Access.load, h]
  match node, hnode with
  | none, _ | some (.file _), _ => rfl
  | some (.dir content), hnode => exact absurd rfl (hnode content)

/-- All that loading can do. -/
theorem load_cases (a : Access) (l : Listing) (path : Path) (suffixes : List Text) :
    (StopsLoading a l path suffixes ∧
      ∃ f, a.load l path suffixes = .error f ∧ ∀ e, f ≠ .load e) ∨
    (¬StopsLoading a l path suffixes ∧ ((∃ sources, a.load l path suffixes = .ok sources) ∨
      ∃ e, a.load l path suffixes = .error (.load e))) := by
  obtain ⟨f, hlocate, hf, hpath⟩ | ⟨⟨node, hlocate, -⟩, hlook, hlong⟩ := locate_cases a l path
  · refine Or.inl ⟨?_, f, by rw [Access.load, hlocate]; rfl, hf⟩
    exact hpath.elim (fun ⟨f, hnull, h⟩ => .refused f hnull h) .longPath
  · by_cases hdir : ∃ content, node = some (.dir content)
    · obtain ⟨content, rfl⟩ := hdir
      rw [load_of_locate_dir hlocate]
      refine (discoverIn_cases a path suffixes content).imp
        (And.imp_left (.directory content hlocate)) (And.imp_left fun hstops h => ?_)
      obtain ⟨f, hnull, h⟩ | h | ⟨content', hdir', h⟩ := h
      · exact hlook f hnull h
      · exact hlong h
      · cases hlocate.symm.trans hdir'
        exact hstops h
    · rw [load_of_locate hlocate fun content h => hdir ⟨content, h⟩]
      refine Or.inr ⟨fun h => ?_, ?_⟩
      · obtain ⟨f, hnull, h⟩ | h | ⟨content, hdir', -⟩ := h
        · exact hlook f hnull h
        · exact hlong h
        · exact hdir ⟨content, Except.ok.inj (hlocate.symm.trans hdir')⟩
      · obtain ⟨source, h⟩ | ⟨e, h⟩ := loadNode_cases a path node
        · exact Or.inl ⟨[source], by rw [h]; rfl⟩
        · exact Or.inr ⟨e, by rw [h]; rfl⟩

theorem not_stopsLoading_of_load {sources : List SourceFile}
    (h : a.load l path suffixes = .ok sources) : ¬StopsLoading a l path suffixes := by
  intro hstops
  obtain ⟨-, f, hf, -⟩ | ⟨hnot, -⟩ := load_cases a l path suffixes
  · cases h.symm.trans hf
  · exact hnot hstops

end File

end VarDecl
