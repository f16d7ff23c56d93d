import SymbolIndex.Scan
import SymbolIndex.Proofs.Ignore.Level
import SymbolIndex.Proofs.Ignore.Walk
import SymbolIndex.Proofs.Path.Literal

/-!
# What is scanned and what is watched

A scan for files and a search for directories to watch are two walks from a root. They leave out the same,
but for what is hidden: a scan lists what a rule keeps, while nothing hidden is watched. So the directory
of a scanned file is watched, and its changes matter, exactly if nothing on the way to it is hidden
(`scanned_isWatched_iff`).
-/
namespace SymbolIndex
open FileSystem (pathOf Admits)

variable {fs : FileSystem} {root p : Path} {top names : Place} {es : List (String × FileNode)} {limit : Nat}

/-! ### Paths below a root -/

namespace Path

theorem isIgnoredBelow_pathOf (h : ∀ s ∈ top ++ names, IsName s) :
    (pathOf top).isIgnoredBelow (pathOf (top ++ names)) = names.any Scope.isIgnoredName := by
  rw [isIgnoredBelow, namesBelow_pathOf h]

theorem isHiddenBelow_pathOf (h : ∀ s ∈ top ++ names, IsName s) :
    (pathOf top).isHiddenBelow (pathOf (top ++ names)) = names.any Scope.isHiddenName := by
  rw [isHiddenBelow, namesBelow_pathOf h]

/-- What is to be watched below a root has no name that is left out, and none that is hidden. -/
theorem isWatchableBelow_pathOf (h : ∀ s ∈ top ++ names, IsName s) :
    (pathOf top).isWatchableBelow (pathOf (top ++ names)) =
      (!names.any Scope.isIgnoredName && !names.any Scope.isHiddenName) := by
  rw [isWatchableBelow, isIgnoredBelow_pathOf h, isHiddenBelow_pathOf h, isUnder_pathOf_append h,
    Bool.true_and]
  cases names with
  | nil => simp
  | cons s names =>
    have htop : ∀ s ∈ top, IsName s := fun s hs => h s (List.mem_append_left _ hs)
    have hne : ¬ (pathOf (top ++ s :: names)).Same (pathOf top) := by
      rw [same_pathOf_iff h htop]
      simp
    simp [hne]

/-- So it is with what matters, if no other root comes first. -/
theorem isRelevant_pathOf {roots : List Path} (h : ∀ s ∈ top ++ names, IsName s) :
    isRelevant (pathOf top :: roots) (pathOf (top ++ names)) =
      (!names.any Scope.isIgnoredName && !names.any Scope.isHiddenName) := by
  rw [isRelevant, List.find?_cons, isUnder_pathOf_append h]
  dsimp only
  rw [isIgnoredBelow_pathOf h, isHiddenBelow_pathOf h]

end Path

/-! ### The two walks -/

namespace Walk

/-- The walk of a scan for files, and that of a search for directories to watch. -/
def forFiles (fs : FileSystem) (root : Path) : Walk := ⟨fs, true, fun p => !root.isIgnoredBelow p⟩
def forDirectories (fs : FileSystem) (root : Path) : Walk := ⟨fs, false, root.isWatchableBelow⟩

/-- Where a scan comes to, and nothing on the way is hidden, a search for directories comes to. -/
theorem reaches_forDirectories (hnames : ∀ s ∈ top ++ names, IsName s)
    (hshown : names.any Scope.isHiddenName = false)
    (h : (forFiles fs (pathOf top)).Reaches top (top ++ names)) :
    (forDirectories fs (pathOf top)).Reaches top (top ++ names) := by
  refine ⟨h.1, fun inner htop hne hinner => (h.2 inner htop hne hinner).of_shown rfl rfl fun hacc => ?_⟩
  obtain ⟨front, rfl⟩ := htop
  obtain ⟨back, rfl⟩ := (List.prefix_append_right_inj top).1 hinner
  have hfront : ∀ s ∈ top ++ front, IsName s := fun s hs =>
    hnames s (by rw [← List.append_assoc]; exact List.mem_append_left _ hs)
  rw [List.any_append, Bool.or_eq_false_iff] at hshown
  have hkept : front.any Scope.isIgnoredName = false := by
    rw [← Path.isIgnoredBelow_pathOf hfront]
    simpa [forFiles] using hacc
  show (pathOf top).isWatchableBelow (pathOf (top ++ front)) = true
  rw [Path.isWatchableBelow_pathOf hfront, hkept, hshown.1]
  rfl

end Walk

namespace FileSystem

theorem isSource_iff {e : WalkEntry} : fs.isSource limit e = true ↔ e.node.isFile = true ∧
    Language.ofPath e.path ≠ .unknown ∧ e.path.isNoise = false ∧ fs.isLarge limit e.path = false := by
  simp [isSource, and_assoc]

theorem mem_sourcesBelow (hfs : fs.WellFormed) (ha : Admits (pathOf top))
    (htop : fs.at? top = some (.directory es)) : p ∈ fs.sourcesBelow limit (pathOf top) ↔
      ∃ place n, (Walk.forFiles fs (pathOf top)).Reaches top place ∧ fs.at? place = some n ∧
        p = pathOf place ∧ fs.isSource limit ⟨p, n⟩ = true := by
  have hrun (e : WalkEntry) : e ∈ (Walk.forFiles fs (pathOf top)).run (pathOf top) ↔ _ :=
    Walk.mem_run hfs ha htop
  simp only [sourcesBelow, List.mem_map, List.mem_filter]
  constructor
  · rintro ⟨e, ⟨he, hs⟩, rfl⟩
    obtain ⟨place, hreach, hat, hpath⟩ := (hrun e).1 he
    exact ⟨place, e.node, hreach, hat, hpath, hs⟩
  · rintro ⟨place, n, hreach, hat, rfl, hs⟩
    exact ⟨⟨_, n⟩, ⟨(hrun _).2 ⟨place, hreach, hat, rfl⟩, hs⟩, rfl⟩

theorem mem_watchListBelow (hfs : fs.WellFormed) (ha : Admits (pathOf top))
    (htop : fs.at? top = some (.directory es)) : p ∈ fs.watchListBelow root (pathOf top) ↔
      ∃ place es, (Walk.forDirectories fs root).Reaches top place ∧ fs.at? place = some (.directory es) ∧
        p = pathOf place ∧ root.isWatchableBelow p = true := by
  have hrun (e : WalkEntry) : e ∈ (Walk.forDirectories fs root).run (pathOf top) ↔ _ :=
    Walk.mem_run hfs ha htop
  simp only [watchListBelow, List.mem_map, List.mem_filter, Bool.and_eq_true]
  constructor
  · rintro ⟨⟨path, n⟩, ⟨he, hdir, hwatch⟩, rfl⟩
    obtain ⟨place, hreach, hat, hpath⟩ := (hrun _).1 he
    cases n with
    | directory es => exact ⟨place, es, hreach, hat, hpath, hwatch⟩
    | _ => cases hdir
  · rintro ⟨place, es, hreach, hat, rfl, hwatch⟩
    exact ⟨⟨_, .directory es⟩, ⟨(hrun _).2 ⟨place, hreach, hat, rfl⟩, rfl, hwatch⟩, rfl⟩

/-- The directory of a scanned file is watched, and the file's changes matter, exactly if nothing on the
way to it from the root is hidden. -/
theorem scanned_isWatched_iff (hfs : fs.WellFormed) (hroot : fs.IsRoot root)
    (hp : p ∈ fs.sourcesBelow limit root) : root.isHiddenBelow p = false ↔
      (∃ dir ∈ fs.watchListBelow root root, p.parent? = some dir) ∧ Path.isRelevant [root] p = true := by
  obtain ⟨top, es, rfl, ha, htop⟩ := hfs.exists_place hroot
  obtain ⟨place, n, hreach, hat, rfl, hs⟩ := (mem_sourcesBelow hfs ha htop).1 hp
  have hnames := hfs.isName hat
  obtain ⟨names, rfl⟩ := hreach.1
  -- The root is a directory, so a file has a name below it, and the directory of that name has it.
  have hne : names ≠ [] := by
    rintro rfl
    rw [List.append_nil, htop] at hat
    cases hat
    cases hs
  obtain ⟨dirs, s, rfl⟩ : ∃ dirs s, names = dirs ++ [s] :=
    ⟨_, _, (List.dropLast_concat_getLast hne).symm⟩
  have hparent : top ++ dirs <+: top ++ (dirs ++ [s]) := by
    rw [← List.append_assoc]
    exact List.prefix_append ..
  obtain ⟨es', hes'⟩ := FileNode.exists_above hat hparent (by simp)
  have hdirs := hfs.isName hes'
  have hkept : (dirs ++ [s]).any Scope.isIgnoredName = false := by
    obtain ⟨n, -, hadmits⟩ := hreach.2 _ hreach.1 (by simp) List.prefix_rfl
    rw [← Path.isIgnoredBelow_pathOf hnames]
    simpa [Walk.forFiles] using (Walk.admits_iff.1 hadmits).2.1
  rw [Path.isHiddenBelow_pathOf hnames, Path.isRelevant_pathOf hnames, hkept]
  refine ⟨fun hshown => ⟨⟨pathOf (top ++ dirs), ?_, ?_⟩, by rw [hshown]; rfl⟩,
    fun ⟨_, hrel⟩ => by simpa using hrel⟩
  · have hwatch := Walk.reaches_forDirectories hnames hshown hreach
    have hreach' := (Walk.reaches_iff (List.prefix_append ..) hparent).1 hwatch
    refine (mem_watchListBelow hfs ha htop).2 ⟨top ++ dirs, es', hreach'.1, hes', rfl, ?_⟩
    rw [List.any_append, Bool.or_eq_false_iff] at hkept hshown
    rw [Path.isWatchableBelow_pathOf hdirs, hkept.1, hshown.1]
    rfl
  · rw [← List.append_assoc] at hnames ⊢
    exact Path.parent?_pathOf hnames

end FileSystem

/-! ### A hidden directory that a rule keeps -/

namespace KeptHidden

/-- A file system with two files, one of them in a hidden directory that a rule keeps. -/
def files : FileSystem :=
  ⟨.directory [(".ignore", .file "!/.c\n".toUTF8), (".c", .directory [("a.py", .file ⟨#[]⟩)]),
    ("b.py", .file ⟨#[]⟩)], []⟩

theorem wellFormed : files.WellFormed := by
  refine ⟨?_, _, rfl⟩
  simp [files, FileNode.wellFormed_directory, FileNode.wellFormed_file]
  decide

theorem isRoot : files.IsRoot (pathOf []) := wellFormed.isRoot_pathOf (by decide) rfl

/-- The ignore files of the root, with the rule. -/
def level : IgnoreLevel := ⟨0, [⟨.seq (.one 46) (.one 99), true, false⟩], [], [], false⟩

theorem levelsAbove_top (s : String) : files.levelsAbove [s] = [level] := by
  have hrules : files.rulesAt (pathOf ([] ++ [".ignore"])) = level.plain := by
    rw [wellFormed.rulesAt_file (by decide) rfl]
    decide +kernel
  refine (files.levelsAbove_concat [] s).trans ?_
  rw [wellFormed.ignoreLevel_unversioned rfl (by decide), hrules,
    wellFormed.rulesAt_missing rfl (by decide) (by decide)]
  rfl

theorem levelsAbove_inner (s : String) : files.levelsAbove [".c", s] = [⟨1, [], [], [], false⟩, level] := by
  refine (files.levelsAbove_concat [".c"] s).trans ?_
  rw [wellFormed.ignoreLevel_plain rfl (by decide) (by decide) (by decide), levelsAbove_top]
  rfl

/-- A scan comes to the hidden directory and to the files. -/
theorem reaches : (Walk.forFiles files (pathOf [])).Reaches [] [".c", "a.py"] ∧
    (Walk.forFiles files (pathOf [])).Reaches [] ["b.py"] := by
  let w := Walk.forFiles files (pathOf [])
  have passes {place : Place} {n : FileNode} {levels : List IgnoreLevel} (hn : files.at? place = some n)
      (hl : files.levelsAbove place = levels) (h : w.admits levels place (pathOf place) n = true) :
      w.Passes place := ⟨n, hn, by rw [← hl] at h; exact h⟩
  have hc : w.Passes [".c"] := passes rfl (levelsAbove_top _) (by decide +kernel)
  have ha : w.Passes [".c", "a.py"] := passes rfl (levelsAbove_inner _) (by decide +kernel)
  have hb : w.Passes ["b.py"] := passes rfl (levelsAbove_top _) (by decide +kernel)
  have hinner : [".c"] <+: [".c", "a.py"] := ⟨["a.py"], rfl⟩
  exact ⟨(Walk.reaches_iff List.nil_prefix hinner).2 ⟨Walk.reaches_concat.2 hc, Walk.reaches_concat.2 ha⟩,
    Walk.reaches_concat.2 hb⟩

theorem mem_sourcesBelow :
    pathOf [".c", "a.py"] ∈ files.sourcesBelow FileSystem.standardScanLimit (pathOf []) ∧
      pathOf ["b.py"] ∈ files.sourcesBelow FileSystem.standardScanLimit (pathOf []) := by
  have found (place : Place) (s : String) (hs : s = "a.py" ∨ s = "b.py")
      (hr : (Walk.forFiles files (pathOf [])).Reaches [] (place ++ [s])) (ha : Admits (pathOf (place ++ [s])))
      (hn : files.at? (place ++ [s]) = some (.file ⟨#[]⟩)) :
      pathOf (place ++ [s]) ∈ files.sourcesBelow FileSystem.standardScanLimit (pathOf []) := by
    have hname := Path.fileName?_pathOf (wellFormed.isName hn)
    have hlanguage : Language.ofPath (pathOf (place ++ [s])) ≠ .unknown := by
      rw [Language.ofPath_eq hname]
      rcases hs with rfl | rfl <;> decide
    have hnoise : (pathOf (place ++ [s])).isNoise = false := by
      rw [Path.isNoise_eq hname]
      rcases hs with rfl | rfl <;> decide
    have hsmall : files.isLarge FileSystem.standardScanLimit (pathOf (place ++ [s])) = false := by
      rw [FileSystem.isLarge, FileSystem.node_eq_ok_iff.2 ⟨_, wellFormed.resolve_pathOf ha hn rfl nofun⟩]
      rfl
    exact (FileSystem.mem_sourcesBelow wellFormed (by decide) rfl).2
      ⟨_, _, hr, hn, rfl, FileSystem.isSource_iff.2 ⟨rfl, hlanguage, hnoise, hsmall⟩⟩
  exact ⟨found [".c"] "a.py" (.inl rfl) reaches.1 (by decide) rfl,
    found [] "b.py" (.inr rfl) reaches.2 (by decide) rfl⟩

theorem scanned_isWatched_shown :
    (∃ dir ∈ files.watchListBelow (pathOf []) (pathOf []), (pathOf ["b.py"]).parent? = some dir) ∧
      Path.isRelevant [pathOf []] (pathOf ["b.py"]) = true := by
  have hshown : (pathOf []).isHiddenBelow (pathOf ["b.py"]) = false :=
    (Path.isHiddenBelow_pathOf (show ∀ s ∈ [] ++ ["b.py"], IsName s by decide)).trans
      (by simp [Scope.isHiddenName])
  exact (FileSystem.scanned_isWatched_iff wellFormed isRoot mem_sourcesBelow.2).1 hshown

/-- The hidden file is scanned, but its directory is not watched, and its changes do not matter. -/
theorem scanned_not_isWatched_kept : files.WellFormed ∧ files.IsRoot (pathOf []) ∧
    pathOf [".c", "a.py"] ∈ files.sourcesBelow FileSystem.standardScanLimit (pathOf []) ∧
    (∀ dir ∈ files.watchListBelow (pathOf []) (pathOf []), (pathOf [".c", "a.py"]).parent? ≠ some dir) ∧
    Path.isRelevant [pathOf []] (pathOf [".c", "a.py"]) = false := by
  have hidden : Scope.isHiddenName ".c" = true := by simp [Scope.isHiddenName]
  have hparent := Path.parent?_pathOf (show ∀ s ∈ [".c"] ++ ["a.py"], IsName s by decide)
  have hunwatched : (pathOf []).isWatchableBelow (pathOf [".c"]) = false :=
    (Path.isWatchableBelow_pathOf (show ∀ s ∈ [] ++ [".c"], IsName s by decide)).trans (by simp [hidden])
  refine ⟨wellFormed, isRoot, mem_sourcesBelow.1, fun dir hdir hdir' => ?_,
    (Path.isRelevant_pathOf (show ∀ s ∈ [] ++ [".c", "a.py"], IsName s by decide)).trans (by simp [hidden])⟩
  obtain ⟨-, -, -, -, -, hwatch⟩ := (FileSystem.mem_watchListBelow wellFormed (by decide) rfl).1 hdir
  rw [← Option.some.inj (hparent.symm.trans hdir'), hunwatched] at hwatch
  cases hwatch

end KeptHidden
end SymbolIndex
