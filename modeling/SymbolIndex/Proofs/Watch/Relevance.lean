import SymbolIndex.Proofs.Path.Order
import SymbolIndex.Proofs.Watch.Growth

/-!
# Roots in roots

What matters below a root is what no name on the way to is left out (`Path.shows`), and if a root is
in another one, the names below the outer one are those on the way to the inner one and those below
it (`namesBelow_append`). A new directory is accepted if it matters for any root, but of several
roots around a path the first one decides whether it matters, and whether a directory is watched that
was accepted (`isWatching_addTree_iff`). The roots of a watcher are in order, so the outermost one
decides. So a root that is hidden in another root, or left out there, loses all that is below it, and
if all roots matter themselves, none hides anything (`Path.isRelevant_eq_and`).
-/
namespace SymbolIndex

namespace Path
variable {p q r root : Path} {roots : List Path}

theorem isAbsolute_of_isUnder (hroot : root.isAbsolute = true) (h : root.isUnder p = true) :
    p.isAbsolute = true := by
  obtain ⟨cs, hcs⟩ := isUnder_iff.1 h
  rw [isAbsolute_iff_head] at hroot ⊢
  rw [← hcs, List.head?_append, hroot]
  rfl

/-- Whether no name on the way from a root to a path is left out. -/
def shows (root p : Path) : Bool :=
  (root.namesBelow p).all fun s => !Scope.isIgnoredName s && !Scope.isHiddenName s

theorem shows_eq (root p : Path) : root.shows p = (!root.isIgnoredBelow p && !root.isHiddenBelow p) := by
  rw [shows, isIgnoredBelow, isHiddenBelow, List.not_any_eq_all_not, List.not_any_eq_all_not]
  induction root.namesBelow p with
  | nil => rfl
  | cons s names ih => simp [ih, Bool.and_assoc, Bool.and_left_comm]

theorem namesBelow_eq {cs : List Component} (h : root.components ++ cs = p.components) :
    root.namesBelow p = cs.filterMap Component.name? := by
  have hu : root.components.isPrefixOf p.components = true := List.isPrefixOf_iff_prefix.2 ⟨cs, h⟩
  rw [namesBelow, below?, if_pos hu, ← h, List.drop_left]
  rfl

/-- The names on the way to a path are those on the way to a directory that it is in, and those from there. -/
theorem namesBelow_append (h : q.isUnder r = true) (h' : r.isUnder p = true) :
    q.namesBelow p = q.namesBelow r ++ r.namesBelow p := by
  obtain ⟨cs, hcs⟩ := isUnder_iff.1 h
  obtain ⟨ds, hds⟩ := isUnder_iff.1 h'
  have hcds : q.components ++ (cs ++ ds) = p.components := by rw [← List.append_assoc, hcs, hds]
  rw [namesBelow_eq hcs, namesBelow_eq hds, namesBelow_eq hcds, List.filterMap_append]

theorem shows_trans (h : q.isUnder r = true) (h' : r.isUnder p = true) :
    q.shows p = (q.shows r && r.shows p) := by
  rw [shows, namesBelow_append h h', List.all_append]
  rfl

theorem shows_of_same (h : root.Same p) : root.shows p = true := by
  have hnil : root.components ++ [] = p.components := (List.append_nil _).trans h
  rw [shows, namesBelow_eq hnil]
  rfl

theorem isWatchableBelow_eq (h : root.isUnder p = true) : root.isWatchableBelow p = root.shows p := by
  rw [isWatchableBelow, h, Bool.true_and, ← shows_eq]
  by_cases hs : p.Same root
  · rw [shows_of_same hs.symm, Bool.or_true]
  · rw [decide_eq_false hs, Bool.false_or]

/-! ### The first root around a path -/

theorem of_find?_isUnder {first : Path} (h : roots.find? (·.isUnder p) = some first) :
    first ∈ roots ∧ first.isUnder p = true := ⟨List.mem_of_find?_eq_some h, by simpa using List.find?_some h⟩

theorem exists_find?_isUnder (hr : r ∈ roots) (h : r.isUnder p = true) :
    ∃ first, roots.find? (·.isUnder p) = some first :=
  Option.isSome_iff_exists.1 (List.find?_isSome.2 ⟨r, hr, h⟩)

/-- The first root around a path decides whether it matters. -/
theorem isRelevant_iff : isRelevant roots p = true ↔
    ∃ root, roots.find? (·.isUnder p) = some root ∧ root.shows p = true := by
  unfold isRelevant
  cases roots.find? (·.isUnder p) <;> simp [shows_eq]

theorem isRelevant_singleton : isRelevant [root] p = true ↔ root.isUnder p = true ∧ root.shows p = true := by
  rw [isRelevant_iff, List.find?_singleton]
  split <;> simp [*]

theorem exists_isRelevant_of_isRelevant (h : isRelevant roots p = true) :
    ∃ root ∈ roots, isRelevant [root] p = true := by
  obtain ⟨root, hfind, hshows⟩ := isRelevant_iff.1 h
  obtain ⟨hroot, hu⟩ := of_find?_isUnder hfind
  exact ⟨root, hroot, isRelevant_singleton.2 ⟨hu, hshows⟩⟩

/-- The first root around a path that is around a root is the first one around that root. -/
theorem find?_eq_of_isUnder {first : Path} (hfind : roots.find? (·.isUnder p) = some first)
    (hfirst : first.isUnder r = true) (hr : r.isUnder p = true) : roots.find? (·.isUnder r) = some first := by
  obtain ⟨-, before, after, rfl, hbefore⟩ := List.find?_eq_some_iff_append.1 hfind
  refine List.find?_eq_some_iff_append.2 ⟨hfirst, before, after, rfl, fun q hq => ?_⟩
  have hqp := hbefore q hq
  rw [Bool.not_eq_true'] at hqp ⊢
  refine Bool.eq_false_iff.2 fun hqr => ?_
  rw [isUnder_trans hqr hr] at hqp
  cases hqp

/-- What matters for a root alone matters if the root does. -/
theorem isRelevant_of_alone (hr : r ∈ roots) (hroot : isRelevant roots r = true)
    (h : isRelevant [r] p = true) : isRelevant roots p = true := by
  obtain ⟨hrp, hshows⟩ := isRelevant_singleton.1 h
  obtain ⟨first, hfind⟩ := exists_find?_isUnder hr hrp
  obtain ⟨-, hfp⟩ := of_find?_isUnder hfind
  refine isRelevant_iff.2 ⟨first, hfind, ?_⟩
  rcases isUnder_or_isUnder hrp hfp with hrf | hfr
  · rw [shows_trans hrf hfp, Bool.and_eq_true] at hshows
    exact hshows.2
  · obtain ⟨first', hfind', hshows'⟩ := isRelevant_iff.1 hroot
    cases (find?_eq_of_isUnder hfind hfr hrp).symm.trans hfind'
    rw [shows_trans hfr hrp, hshows', hshows]
    rfl

theorem isRelevant_self (r : Path) : isRelevant [r] r = true :=
  isRelevant_singleton.2 ⟨isUnder_of_same (Same.refl r), shows_of_same (Same.refl r)⟩

/-- Of roots in order, the first one around a path is around all others that are around it. -/
theorem isUnder_of_pairwise {first : Path} (hroots : roots.Pairwise fun q r => q.le r = true)
    (hfind : roots.find? (·.isUnder p) = some first) (hr : r ∈ roots) (hrp : r.isUnder p = true) :
    first.isUnder r = true := by
  obtain ⟨-, hfp⟩ := of_find?_isUnder hfind
  obtain ⟨-, before, after, rfl, hbefore⟩ := List.find?_eq_some_iff_append.1 hfind
  rcases List.mem_append.1 hr with hr | hr
  · have := hbefore r hr
    rw [hrp] at this
    cases this
  · rcases List.mem_cons.1 hr with rfl | hr
    · exact isUnder_of_same (Same.refl r)
    · have hle : first.le r = true := (List.pairwise_cons.1 (List.pairwise_append.1 hroots).2.1).1 r hr
      rcases isUnder_or_isUnder hfp hrp with hfr | hrf
      · exact hfr
      · exact isUnder_of_same (same_of_le hle (le_of_isUnder hrf))

/-- For roots in order, what is in a root matters as it does for the root alone, or not at all. -/
theorem isRelevant_eq_and (hroots : roots.Pairwise fun q r => q.le r = true) (hr : r ∈ roots)
    (hrp : r.isUnder p = true) : isRelevant roots p = (isRelevant roots r && isRelevant [r] p) := by
  obtain ⟨first, hfind⟩ := exists_find?_isUnder hr hrp
  have hfr := isUnder_of_pairwise hroots hfind hr hrp
  have hfind' := find?_eq_of_isUnder hfind hfr hrp
  rw [Bool.eq_iff_iff, Bool.and_eq_true, isRelevant_iff, isRelevant_iff, isRelevant_singleton, hfind, hfind']
  simp [hrp, shows_trans hfr hrp]

end Path

/-! ### New directories -/

namespace Walk

/-- A walk from a directory that is no link comes across it first. -/
theorem mem_run_start {w : Walk} {start : Path} {place : Place} {es : List (String × FileNode)}
    (hdash : ¬ start.Same ⟨"-"⟩) (hr : w.fs.resolve false start = .ok (place, .directory es)) :
    ⟨start, .directory es⟩ ∈ w.run start := by
  rw [run, if_neg hdash, hr]
  dsimp only
  rw [node]
  exact List.mem_cons_self

end Walk

namespace Watcher
variable {w : Watcher} {fs : FileSystem} {start root p : Path} {watched dirs given : List Path}
  {config : Config}

theorem any_foldl_addDir (watched dirs : List Path) (p : Path) :
    (dirs.foldl addDir watched).any (·.Same p) = (watched.any (·.Same p) || dirs.any (·.Same p)) := by
  induction dirs generalizing watched with
  | nil => simp
  | cons d dirs ih =>
    rw [List.foldl_cons, ih, List.any_cons, ← Bool.or_assoc]
    congr 1
    unfold addDir
    split
    · -- The directory is among them already, under some spelling.
      rename_i hd
      obtain ⟨q, hq, hs⟩ := List.any_eq_true.1 hd
      refine (Bool.or_eq_left_iff_imp.2 fun hdp => List.any_eq_true.2 ⟨q, hq, ?_⟩).symm
      exact decide_eq_true ((of_decide_eq_true hs).trans (of_decide_eq_true hdp))
    · simp

theorem isWatching_addTree (h : w.roots.find? (·.isUnder start) = some root) (p : Path) :
    (w.addTree fs start).isWatching p =
      (w.isWatching p || (fs.watchListBelow root start).any (·.Same p)) := by
  rw [isWatching, addTree_watched h, any_foldl_addDir]
  rfl

/-- A new directory is accepted if it matters for any root. -/
theorem isNewDir_iff_exists : w.isNewDir fs p = true ↔ w.isWatching p = false ∧ fs.isDirectory p = true ∧
    ∃ r ∈ w.roots, Path.isRelevant [r] p = true := by
  have hiff (r : Path) : (r.isUnder p && r.isWatchableBelow p) = true ↔ Path.isRelevant [r] p = true := by
    rw [Path.isRelevant_singleton, Bool.and_eq_true]
    exact and_congr_right fun hu => by rw [Path.isWatchableBelow_eq hu]
  simp only [isNewDir, Bool.and_eq_true, Bool.not_eq_true', List.any_eq_true, ← hiff, and_assoc]

/-- A new directory that is accepted is watched exactly if it matters for the first root around it. -/
theorem isWatching_addTree_iff (habs : ∀ r ∈ w.roots, r.isAbsolute = true) (hnew : w.isNewDir fs start = true)
    {place : Place} {es : List (String × FileNode)}
    (hr : fs.resolve false start = .ok (place, .directory es)) :
    (w.addTree fs start).isWatching start = true ↔ Path.isRelevant w.roots start = true := by
  obtain ⟨hunwatched, -, r, hroot, hrel⟩ := isNewDir_iff_exists.1 hnew
  obtain ⟨hrs, -⟩ := Path.isRelevant_singleton.1 hrel
  obtain ⟨first, hfind⟩ := Path.exists_find?_isUnder hroot hrs
  obtain ⟨hfirst, hfs⟩ := Path.of_find?_isUnder hfind
  rw [isWatching_addTree hfind, hunwatched, Bool.false_or, List.any_eq_true, Path.isRelevant_iff, hfind]
  simp only [Option.some.injEq, exists_eq_left']
  constructor
  · rintro ⟨p, hp, hs⟩
    have hs : p.Same start := of_decide_eq_true hs
    obtain ⟨e, he, rfl⟩ := List.mem_map.1 hp
    have hwatch := (Bool.and_eq_true_iff.1 (List.mem_filter.1 he).2).2
    have hup : first.isUnder e.path = true := (hs.isUnder first).trans hfs
    rw [Path.isWatchableBelow_eq hup, Path.shows_trans hfs (Path.isUnder_of_same hs.symm)] at hwatch
    exact (Bool.and_eq_true_iff.1 hwatch).1
  · intro hshows
    have hdash : ¬ start.Same ⟨"-"⟩ := Walk.not_same_dash (Path.isAbsolute_of_isUnder (habs first hfirst) hfs)
    refine ⟨start, List.mem_map.2 ⟨⟨start, .directory es⟩, List.mem_filter.2 ⟨?_, ?_⟩, rfl⟩,
      decide_eq_true (Path.Same.refl start)⟩
    · exact Walk.mem_run_start hdash hr
    · rw [Path.isWatchableBelow_eq hfs, hshows]
      rfl

/-! ### The roots of a watcher -/

theorem withoutRepeats_sublist (ps : List Path) : (withoutRepeats ps).Sublist ps := by
  fun_induction withoutRepeats ps with
  | case1 p q ps hs ih => exact ih.trans (List.Sublist.cons_cons p (List.sublist_cons_self q ps))
  | case2 p q ps hs ih => exact ih.cons_cons p
  | case3 ps => exact List.Sublist.refl _

theorem withoutRepeats_eq {ps : List Path} (h : ps.Pairwise fun p q => ¬ p.Same q) :
    withoutRepeats ps = ps := by
  fun_induction withoutRepeats ps with
  | case1 p q ps hs => exact absurd hs (List.rel_of_pairwise_cons h List.mem_cons_self)
  | case2 p q ps hs ih => rw [ih h.tail]
  | case3 => rfl

theorem rootAt_eq (h : fs.IsRoot root) : rootAt fs root = .ok root := by
  rw [rootAt, h.canonical]
  exact if_pos h.directory

theorem rootAt_isAbsolute (h : rootAt fs p = .ok root) : root.isAbsolute = true := by
  unfold rootAt at h
  split at h
  · cases h
  · rename_i c hc
    obtain ⟨r, -, rfl⟩ := FileSystem.canonical_eq_ok_iff.1 hc
    split at h
    · cases h
      exact Path.isAbsolute_pathOf r.1
    · cases h

/-- The roots that can be watched are in order, and absolute. -/
theorem rootsAt_fst (fs : FileSystem) (given : List Path) :
    (rootsAt fs given).1.Pairwise (fun q r => q.le r = true) ∧
    ∀ r ∈ (rootsAt fs given).1, r.isAbsolute = true := by
  refine ⟨(Path.pairwise_sorted _).sublist (withoutRepeats_sublist _), fun r hr => ?_⟩
  have hsorted := (withoutRepeats_sublist _).subset hr
  rw [(Path.sorted_perm _).mem_iff, List.mem_filterMap] at hsorted
  obtain ⟨found, hfound, heq⟩ := hsorted
  obtain ⟨p, -, rfl⟩ := List.mem_map.1 hfound
  cases hp : rootAt fs p with
  | error e =>
    rw [hp] at heq
    cases heq
  | ok root =>
    rw [hp] at heq
    cases heq
    exact rootAt_isAbsolute hp

theorem markDegraded_roots (w : Watcher) (p : Path) (reason : String) :
    (w.markDegraded p reason).1.roots = w.roots := by
  unfold markDegraded send
  split <;> rfl

theorem start_roots (h : Watcher.start config fs given = .ok w) : w.roots = (rootsAt fs given).1 := by
  have hfold (failures : List (Path × String)) (v : Watcher) :
      (failures.foldl (fun w f => (w.markDegraded f.1 f.2).1) v).roots = v.roots := by
    induction failures generalizing v with
    | nil => rfl
    | cons f failures ih => exact (ih _).trans (v.markDegraded_roots f.1 f.2)
  unfold Watcher.start at h
  split at h
  · cases h
  · split at h
    · cases h
    · cases h
    · rename_i roots failures _ _ heq
      cases h
      rw [hfold, heq]

/-- Directories under their canonical paths are taken for roots as they are, if they are in order. -/
theorem rootsAt_eq (hroots : ∀ r ∈ given, fs.IsRoot r) (hsorted : given.Pairwise fun q r => q.le r = true)
    (hdistinct : given.Pairwise fun q r => ¬ q.Same r) : rootsAt fs given = (given, []) := by
  have hmap : given.map (rootAt fs) = given.map .ok :=
    List.map_congr_left fun r hr => rootAt_eq (hroots r hr)
  have hsort : Path.sorted given = given := List.mergeSort_of_pairwise hsorted
  have hrepeats : withoutRepeats given = given := withoutRepeats_eq hdistinct
  have hnone : given.filterMap (fun _ => (none : Option (Path × String))) = [] :=
    List.filterMap_eq_nil_iff.2 fun _ _ => rfl
  simp only [rootsAt, hmap, List.filterMap_map, Function.comp_def, List.filterMap_some, hsort, hrepeats,
    hnone]

theorem exists_start (config : Config) {rest : List Path} (hne : given ≠ [])
    (h : rootsAt fs given = (root :: rest, [])) : ∃ w, Watcher.start config fs given = .ok w := by
  rw [Watcher.start, List.isEmpty_eq_false_iff.2 hne, h]
  exact ⟨_, rfl⟩

/-- Roots in roots. What matters for any roots matters for one of them alone, and what matters for
one alone matters for all exactly if that root itself does. A new directory is accepted if it matters
for a root alone, but one that is no link is watched then exactly if it matters for the roots
together. For the roots that a watcher is started with, all that is in a root matters as it does for
the root alone, or none of it matters. -/
theorem isRelevant_nested (roots : List Path) :
    (∀ p, Path.isRelevant roots p = true → ∃ r ∈ roots, Path.isRelevant [r] p = true) ∧
    (∀ r ∈ roots, (∀ p, Path.isRelevant [r] p = true → Path.isRelevant roots p = true) ↔
      Path.isRelevant roots r = true) ∧
    (∀ (w : Watcher) (fs : FileSystem) (p : Path), w.roots = roots → (∀ r ∈ roots, r.isAbsolute = true) →
      (w.isNewDir fs p = true ↔ w.isWatching p = false ∧ fs.isDirectory p = true ∧
        ∃ r ∈ roots, Path.isRelevant [r] p = true) ∧
      (w.isNewDir fs p = true → (∃ place es, fs.resolve false p = .ok (place, .directory es)) →
        ((w.addTree fs p).isWatching p = true ↔ Path.isRelevant roots p = true))) ∧
    ∀ (config : Config) (fs : FileSystem) (given : List Path) (w : Watcher),
      Watcher.start config fs given = .ok w → w.roots = roots →
      (∀ r ∈ roots, r.isAbsolute = true) ∧ ∀ r ∈ roots, ∀ p, r.isUnder p = true →
        Path.isRelevant roots p = (Path.isRelevant roots r && Path.isRelevant [r] p) := by
  refine ⟨fun p => Path.exists_isRelevant_of_isRelevant, fun r hr => ⟨fun h => h r (Path.isRelevant_self r),
    fun h p => Path.isRelevant_of_alone hr h⟩, ?_, ?_⟩
  · rintro w fs p rfl habs
    exact ⟨isNewDir_iff_exists, fun hnew ⟨_, _, hr⟩ => isWatching_addTree_iff habs hnew hr⟩
  · rintro config fs given w hstart rfl
    obtain ⟨hsorted, habs⟩ := rootsAt_fst fs given
    rw [start_roots hstart]
    exact ⟨habs, fun r hr p hrp => Path.isRelevant_eq_and hsorted hr hrp⟩

end Watcher

/-! ### A root in another one -/

namespace NestedRoot

/-- A directory with another one in it, that has a new directory. -/
def files (s : String) : FileSystem :=
  ⟨.directory [("repo", .directory [(s, .directory [("sub", .directory [])])])], []⟩

/-- A watcher of some roots. -/
def watcher (roots : List Path) : Watcher := { (default : Watcher) with roots := roots, watched := roots }

/-- In a directory that is left out nowhere, nothing is lost because it is a root in another one. -/
theorem isRelevant_nested_shown :
    let roots : List Path := [⟨"/repo"⟩, ⟨"/repo/lib"⟩]
    let fs := files "lib"
    (∃ w, Watcher.start .standard fs roots = .ok w ∧ w.roots = roots ∧
      Path.isRelevant roots ⟨"/repo/lib/.a.py"⟩ = Path.isRelevant [⟨"/repo/lib"⟩] ⟨"/repo/lib/.a.py"⟩) ∧
      Path.isRelevant roots ⟨"/repo/lib/a.py"⟩ = true ∧
      (watcher roots).isNewDir fs ⟨"/repo/lib/sub"⟩ = true ∧
      ((watcher roots).addTree fs ⟨"/repo/lib/sub"⟩).isWatching ⟨"/repo/lib/sub"⟩ = true := by
  intro roots fs
  obtain ⟨-, halone, hdirs, hstart⟩ := Watcher.isRelevant_nested roots
  have hfound : Watcher.rootsAt fs roots = (roots, []) := by
    refine Watcher.rootsAt_eq (fun r hr => ?_) (by decide +kernel) (by decide +kernel)
    simp only [roots, List.mem_cons, List.not_mem_nil, or_false] at hr
    rcases hr with rfl | rfl <;>
      exact FileSystem.isRoot_of_resolve (FileSystem.resolve_of_resolveIn 9 rfl) rfl
  have hlib : (⟨"/repo/lib"⟩ : Path) ∈ roots := by simp [roots]
  have hmatters : Path.isRelevant roots ⟨"/repo/lib"⟩ = true := by decide +kernel
  have hdir (follow : Bool) : fs.resolve follow ⟨"/repo/lib/sub"⟩ =
      .ok (["repo", "lib", "sub"], .directory []) := by
    cases follow <;> exact FileSystem.resolve_of_resolveIn 9 rfl
  have hnew : (watcher roots).isNewDir fs ⟨"/repo/lib/sub"⟩ = true :=
    Watcher.isNewDir_iff_exists.2
      ⟨by decide +kernel, FileSystem.isDirectory_iff.2 ⟨_, _, hdir true⟩, _, hlib, by decide +kernel⟩
  have hall := (halone ⟨"/repo/lib"⟩ hlib).2 hmatters
  refine ⟨?_, hall _ (by decide +kernel), hnew, ?_⟩
  · obtain ⟨w, hw⟩ := Watcher.exists_start .standard (by simp [roots]) hfound
    have hroots : w.roots = roots := (Watcher.start_roots hw).trans (congrArg Prod.fst hfound)
    refine ⟨w, hw, hroots, ?_⟩
    rw [(hstart .standard fs roots w hw hroots).2 _ hlib _ (by decide +kernel), hmatters, Bool.true_and]
  · exact ((hdirs (watcher roots) fs _ rfl (by decide +kernel)).2 hnew ⟨_, _, hdir false⟩).2
      (hall _ (by decide +kernel))

/-- A root that is hidden in another one is watched, but changes in it do not matter, and a new
directory in it is accepted, but not watched. If that root is given alone, they do, and it is. -/
theorem not_isRelevant_hidden_root :
    let roots : List Path := [⟨"/repo"⟩, ⟨"/repo/.conf"⟩]
    let fs := files ".conf"
    Watcher.rootsAt fs roots = (roots, []) ∧
      (∃ r ∈ roots, Path.isRelevant [r] ⟨"/repo/.conf/a.py"⟩ = true) ∧
      Path.isRelevant roots ⟨"/repo/.conf/a.py"⟩ = false ∧
      (watcher roots).isNewDir fs ⟨"/repo/.conf/sub"⟩ = true ∧
      fs.resolve false ⟨"/repo/.conf/sub"⟩ = .ok (["repo", ".conf", "sub"], .directory []) ∧
      ((watcher roots).addTree fs ⟨"/repo/.conf/sub"⟩).isWatching ⟨"/repo/.conf/sub"⟩ = false ∧
      ((watcher [⟨"/repo/.conf"⟩]).addTree fs ⟨"/repo/.conf/sub"⟩).isWatching ⟨"/repo/.conf/sub"⟩ = true := by
  intro roots fs
  have hfound : Watcher.rootsAt fs roots = (roots, []) := by
    refine Watcher.rootsAt_eq (fun r hr => ?_) (by decide +kernel) (by decide +kernel)
    simp only [roots, List.mem_cons, List.not_mem_nil, or_false] at hr
    rcases hr with rfl | rfl <;>
      exact FileSystem.isRoot_of_resolve (FileSystem.resolve_of_resolveIn 9 rfl) rfl
  have hdir (follow : Bool) : fs.resolve follow ⟨"/repo/.conf/sub"⟩ =
      .ok (["repo", ".conf", "sub"], .directory []) := by
    cases follow <;> exact FileSystem.resolve_of_resolveIn 9 rfl
  have hconf : (⟨"/repo/.conf"⟩ : Path) ∈ roots := by simp [roots]
  have hnew : (watcher roots).isNewDir fs ⟨"/repo/.conf/sub"⟩ = true :=
    Watcher.isNewDir_iff_exists.2
      ⟨by decide +kernel, FileSystem.isDirectory_iff.2 ⟨_, _, hdir true⟩, _, hconf, by decide +kernel⟩
  have hnew' : (watcher [⟨"/repo/.conf"⟩]).isNewDir fs ⟨"/repo/.conf/sub"⟩ = true :=
    Watcher.isNewDir_iff_exists.2 ⟨by decide +kernel,
      FileSystem.isDirectory_iff.2 ⟨_, _, hdir true⟩, _, List.mem_cons_self, by decide +kernel⟩
  have hwatching := Watcher.isWatching_addTree_iff (by decide +kernel) hnew (hdir false)
  refine ⟨hfound, ⟨_, hconf, by decide +kernel⟩, by decide +kernel, hnew, hdir false, ?_, ?_⟩
  · rw [← Bool.not_eq_true, hwatching]
    have hlost : Path.isRelevant roots ⟨"/repo/.conf/sub"⟩ = false := by decide +kernel
    exact Bool.eq_false_iff.1 hlost
  · exact (Watcher.isWatching_addTree_iff (by decide +kernel) hnew' (hdir false)).2 (by decide +kernel)

end NestedRoot
end SymbolIndex
