import SymbolIndex.Proofs.FileSystem.Change
import SymbolIndex.Proofs.Watch.Coverage
import SymbolIndex.Watch.Watcher

/-!
# Directories that appear

A watcher that comes upon a new directory searches for directories to watch from there. The search begins
with the new directory whatever the rules say about it, and goes through it even if it is a link, as a
search from the root would not. So the watched directories are again those that a search from the root
finds exactly if that search comes to the new directory, or there is none to watch
(`addTree_watched_perm_iff`).
-/
namespace SymbolIndex
open FileSystem (pathOf Admits)

variable {fs fs' : FileSystem} {w : Watcher} {root start p : Path} {top place inner : Place} {n : FileNode}
  {watched dirs : List Path}

/-! ### What a search finds -/

namespace FileSystem

/-- A search finds each directory once, spelled as its place is. -/
theorem watchListBelow_nodup (root : Path) (hfs : fs.WellFormed) (ha : Admits (pathOf top))
    (htop : fs.at? top = some n) :
    (fs.watchListBelow root (pathOf top)).Nodup ∧ ∀ p ∈ fs.watchListBelow root (pathOf top),
      ∃ names, (∀ s ∈ top ++ names, IsName s) ∧ p = pathOf (top ++ names) := by
  have hrun : Walk.ListsBelow top ((Walk.forDirectories fs root).run (pathOf top)) :=
    Walk.run_below hfs ha htop
  refine ⟨hrun.1.sublist (List.filter_sublist.map _), fun p hp => ?_⟩
  obtain ⟨e, he, rfl⟩ := List.mem_map.1 hp
  exact hrun.2 e (List.mem_filter.1 he).1

theorem levelsAbove_congr
    (h : ∀ outer, outer <+: inner → outer ≠ inner → fs'.ignoreLevel outer = fs.ignoreLevel outer) :
    fs'.levelsAbove inner = fs.levelsAbove inner := by
  unfold levelsAbove
  congr 1
  refine List.map_congr_left fun k hk => h _ (List.take_prefix k inner) fun heq => ?_
  have := congrArg List.length heq
  rw [List.length_take] at this
  have := List.mem_range.1 hk
  omega

/-- A search from `top` finds a directory at `place` or below it. -/
def Finds (fs : FileSystem) (root : Path) (top place : Place) (p : Path) : Prop :=
  ∃ inner es, place <+: inner ∧ (Walk.forDirectories fs root).Reaches top inner ∧
    fs.at? inner = some (.directory es) ∧ p = pathOf inner ∧ root.isWatchableBelow p = true

/-- To find anything in a place, a search must come to a directory there. -/
theorem Finds.outer (h : fs.Finds root top place p) (hp : top <+: place) :
    (∃ es, fs.at? place = some (.directory es)) ∧ (Walk.forDirectories fs root).Reaches top place := by
  obtain ⟨inner, es, hinner, hreach, hes, -, -⟩ := h
  refine ⟨?_, ((Walk.reaches_iff hp hinner).1 hreach).1⟩
  by_cases heq : place = inner
  · exact ⟨es, heq ▸ hes⟩
  · exact FileNode.exists_above hes hinner heq

/-- A search that comes to a directory finds there what a search from there finds. -/
theorem finds_iff (hfs : fs.WellFormed) (ha : Admits (pathOf place)) {es : List (String × FileNode)}
    (hes : fs.at? place = some (.directory es)) (hreach : (Walk.forDirectories fs root).Reaches top place) :
    fs.Finds root top place p ↔ p ∈ fs.watchListBelow root (pathOf place) := by
  rw [mem_watchListBelow hfs ha hes]
  constructor
  · rintro ⟨inner, ds, hinner, hr, hfound⟩
    exact ⟨inner, ds, ((Walk.reaches_iff hreach.1 hinner).1 hr).2, hfound⟩
  · rintro ⟨inner, ds, hr, hfound⟩
    exact ⟨inner, ds, hr.1, (Walk.reaches_iff hreach.1 hr.1).2 ⟨hreach, hr⟩, hfound⟩

/-- Something has come to a place where nothing was, and changes nothing that a search for directories
depends on elsewhere. -/
structure Appeared (fs fs' : FileSystem) (place : Place) : Prop where
  absent : fs.at? place = none
  present : ∃ n, fs'.at? place = some n
  elsewhere : ∀ inner, ¬ place <+: inner →
    (fs'.at? inner).map FileNode.isDirectory = (fs.at? inner).map FileNode.isDirectory
  /-- The ignore files of the directories that were there are as before. -/
  rules : ∀ inner es, fs.at? inner = some (.directory es) → fs'.ignoreLevel inner = fs.ignoreLevel inner

namespace Appeared

/-- Something has appeared where a directory has a new entry, if the ignore files count as before. -/
theorem of_set {es : List (String × FileNode)} {s : String} (hdir : fs.at? place = some (.directory es))
    (hs : es.lookup s = none) (hrules : ∀ inner ds, fs.at? inner = some (.directory ds) →
      (fs.set (place ++ [s]) (some n)).ignoreLevel inner = fs.ignoreLevel inner) :
    fs.Appeared (fs.set (place ++ [s]) (some n)) (place ++ [s]) where
  absent := (FileNode.at?_concat hdir).trans hs
  present := ⟨n, FileNode.at?_set_self hdir⟩
  elsewhere _ h := FileNode.isDirectory_at?_set h
  rules := hrules

variable (h : Appeared fs fs' place)
include h

/-- What was there is not where something has appeared. -/
theorem not_prefix (hn : fs.at? inner = some n) : ¬ place <+: inner := by
  intro hp
  obtain ⟨m, hm⟩ : ∃ m, fs.at? place = some m := by
    by_cases heq : place = inner
    · exact ⟨n, heq ▸ hn⟩
    · obtain ⟨es, hes⟩ := FileNode.exists_above hn hp heq
      exact ⟨_, hes⟩
  rw [h.absent] at hm
  cases hm

theorem levelsAbove_eq (hn : fs.at? inner = some n) : fs'.levelsAbove inner = fs.levelsAbove inner := by
  refine levelsAbove_congr fun outer hp hne => ?_
  obtain ⟨es, hes⟩ := FileNode.exists_above hn hp hne
  exact h.rules outer es hes

theorem passes_iff (hinner : ¬ place <+: inner) :
    (Walk.forDirectories fs' root).Passes inner ↔ (Walk.forDirectories fs root).Passes inner := by
  have hdir := h.elsewhere inner hinner
  have hadmits {n n' : FileNode} (hn : fs.at? inner = some n) (hd : n'.isDirectory = n.isDirectory) :
      (Walk.forDirectories fs' root).admits (fs'.levelsAbove inner) inner (pathOf inner) n' =
        (Walk.forDirectories fs root).admits (fs.levelsAbove inner) inner (pathOf inner) n := by
    rw [h.levelsAbove_eq hn, Walk.admits, hd]
    rfl
  constructor
  · rintro ⟨n', hn', ha⟩
    rw [show fs'.at? inner = some n' from hn'] at hdir
    obtain ⟨n, hn, hd⟩ := Option.map_eq_some_iff.1 hdir.symm
    exact ⟨n, hn, (hadmits hn hd.symm).symm.trans ha⟩
  · rintro ⟨n, hn, ha⟩
    rw [show fs.at? inner = some n from hn] at hdir
    obtain ⟨n', hn', hd⟩ := Option.map_eq_some_iff.1 hdir
    exact ⟨n', hn', (hadmits hn hd).trans ha⟩

/-- Elsewhere, a search comes to what it came to before. -/
theorem reaches_iff (hinner : ¬ place <+: inner) :
    (Walk.forDirectories fs' root).Reaches top inner ↔ (Walk.forDirectories fs root).Reaches top inner := by
  refine and_congr_right fun _ => forall_congr' fun outer => ?_
  refine imp_congr_right fun _ => imp_congr_right fun _ => forall_congr' fun hp => ?_
  exact h.passes_iff fun hplace => hinner (hplace.trans hp)

theorem isDirectory_iff (hinner : ¬ place <+: inner) :
    (∃ es, fs'.at? inner = some (.directory es)) ↔ ∃ es, fs.at? inner = some (.directory es) := by
  have hiff (m : Option FileNode) : (∃ es, m = some (.directory es)) ↔
      m.map FileNode.isDirectory = some true := by
    constructor
    · rintro ⟨es, rfl⟩
      rfl
    · intro hm
      obtain ⟨n, rfl, hn⟩ := Option.map_eq_some_iff.1 hm
      cases n with
      | directory es => exact ⟨es, rfl⟩
      | _ => cases hn
  rw [hiff, hiff, h.elsewhere inner hinner]

/-- A search from the root finds what it found before, and what it now finds in the new place. -/
theorem mem_watchListBelow_iff (hfs : fs.WellFormed) (hfs' : fs'.WellFormed) (ha : Admits (pathOf top))
    (htop : ∃ es, fs.at? top = some (.directory es)) : p ∈ fs'.watchListBelow root (pathOf top) ↔
      p ∈ fs.watchListBelow root (pathOf top) ∨ fs'.Finds root top place p := by
  obtain ⟨es, hes⟩ := htop
  obtain ⟨es', hes'⟩ := (h.isDirectory_iff (h.not_prefix hes)).2 ⟨es, hes⟩
  rw [mem_watchListBelow hfs ha hes, mem_watchListBelow hfs' ha hes']
  constructor
  · rintro ⟨inner, ds, hreach, hds, hp, hwatch⟩
    by_cases hinner : place <+: inner
    · exact .inr ⟨inner, ds, hinner, hreach, hds, hp, hwatch⟩
    · obtain ⟨ds', hds'⟩ := (h.isDirectory_iff hinner).1 ⟨ds, hds⟩
      exact .inl ⟨inner, ds', (h.reaches_iff hinner).1 hreach, hds', hp, hwatch⟩
  · rintro (⟨inner, ds, hreach, hds, hp, hwatch⟩ | ⟨inner, ds, -, hreach, hds, hp, hwatch⟩)
    · have hinner := h.not_prefix hds
      obtain ⟨ds', hds'⟩ := (h.isDirectory_iff hinner).2 ⟨ds, hds⟩
      exact ⟨inner, ds', (h.reaches_iff hinner).2 hreach, hds', hp, hwatch⟩
    · exact ⟨inner, ds, hreach, hds, hp, hwatch⟩

end Appeared
end FileSystem

/-! ### What a watcher adds -/

namespace Watcher

/-- Directories that are not watched yet are added in order. -/
theorem foldl_addDir (h : (watched ++ dirs).Pairwise fun p q => ¬ p.Same q) :
    dirs.foldl addDir watched = watched ++ dirs := by
  induction dirs generalizing watched with
  | nil => simp
  | cons d dirs ih =>
    have hd : ¬ watched.any (·.Same d) = true := by
      simpa using fun p hp => (List.pairwise_append.1 h).2.2 p hp d List.mem_cons_self
    rw [List.append_cons] at h ⊢
    rw [List.foldl_cons, addDir, if_neg hd, ih h]

theorem prefix_foldl_addDir (watched dirs : List Path) : watched <+: dirs.foldl addDir watched := by
  induction dirs generalizing watched with
  | nil => exact List.prefix_rfl
  | cons d dirs ih =>
    refine List.IsPrefix.trans ?_ (ih _)
    unfold addDir
    split
    · exact List.prefix_rfl
    · exact List.prefix_append ..

theorem addTree_watched (h : w.roots.find? (·.isUnder start) = some root) :
    (w.addTree fs start).watched = (fs.watchListBelow root start).foldl addDir w.watched := by
  unfold addTree
  rw [h]
  dsimp only
  split
  · rename_i hlen
    exact (prefix_foldl_addDir ..).eq_of_length hlen.symm
  · rfl

theorem isNewDir_iff (hroots : w.roots = [root]) : w.isNewDir fs p = true ↔
    w.isWatching p = false ∧ fs.isDirectory p = true ∧ root.isUnder p = true ∧
    root.isWatchableBelow p = true := by
  simp [isNewDir, hroots, and_assoc]

section
variable (hfs : fs.WellFormed) (hfs' : fs'.WellFormed) (hroot : fs.IsRoot root) (hroots : w.roots = [root])
  (hw : w.watched.Perm (fs.watchListBelow root root)) (h : fs.Appeared fs' place)
  (hnew : w.isNewDir fs' (pathOf place) = true)
include hfs hfs' hroot hroots hw h hnew

/-- What a search from a new directory finds is not watched yet, and is added. -/
theorem addTree_watched_new :
    (w.addTree fs' (pathOf place)).watched = w.watched ++ fs'.watchListBelow root (pathOf place) ∧
      (w.watched ++ fs'.watchListBelow root (pathOf place)).Nodup := by
  obtain ⟨top, es, rfl, ha, htop⟩ := hfs.exists_place hroot
  obtain ⟨n, hn⟩ := h.present
  obtain ⟨-, hdir, hunder, -⟩ := (isNewDir_iff hroots).1 hnew
  obtain ⟨_, _, hr⟩ := FileSystem.isDirectory_iff.1 hdir
  obtain ⟨hnodup, hspelled⟩ :=
    FileSystem.watchListBelow_nodup (pathOf top) hfs' (FileSystem.resolve_eq_ok_iff.1 hr).1 hn
  -- The watched directories were there before, and those that are found now are in the new place.
  have hold : ∀ p ∈ w.watched, ∃ inner, (∀ s ∈ inner, IsName s) ∧ p = pathOf inner ∧ ¬ place <+: inner := by
    intro p hp
    obtain ⟨inner, ds, -, hds, hp', -⟩ := (FileSystem.mem_watchListBelow hfs ha htop).1 (hw.mem_iff.1 hp)
    exact ⟨inner, hfs.isName hds, hp', h.not_prefix hds⟩
  have hnodup' : (w.watched ++ fs'.watchListBelow (pathOf top) (pathOf place)).Nodup := by
    refine List.nodup_append.2 ⟨hw.nodup_iff.2 (FileSystem.watchListBelow_nodup _ hfs ha htop).1, hnodup, ?_⟩
    rintro p hp q hq rfl
    obtain ⟨inner, hinner, rfl, hnot⟩ := hold p hp
    obtain ⟨names, hnames, heq⟩ := hspelled _ hq
    exact hnot (FileSystem.pathOf_inj hinner hnames heq ▸ List.prefix_append ..)
  have hfind : w.roots.find? (·.isUnder (pathOf place)) = some (pathOf top) := by
    rw [hroots, List.find?_singleton, if_pos hunder]
  refine ⟨?_, hnodup'⟩
  rw [addTree_watched hfind, foldl_addDir (FileSystem.pairwise_not_same hnodup' fun p hp => ?_)]
  rcases List.mem_append.1 hp with hp | hp
  · obtain ⟨inner, hinner, hp', -⟩ := hold p hp
    exact ⟨inner, hinner, hp'⟩
  · obtain ⟨names, hnames, hp'⟩ := hspelled p hp
    exact ⟨_, hnames, hp'⟩

/-- If the watched directories are those that a search from the root finds, and a new directory has
appeared, they are so again exactly if the search comes to the new directory, or there is none to watch. -/
theorem addTree_watched_perm_iff :
    (w.addTree fs' (pathOf place)).watched.Perm (fs'.watchListBelow root root) ↔
      pathOf place ∈ fs'.watchListBelow root root ∨ fs'.watchListBelow root (pathOf place) = [] := by
  obtain ⟨hwatched, hnodup⟩ := addTree_watched_new hfs hfs' hroot hroots hw h hnew
  obtain ⟨top, es, rfl, ha, htop⟩ := hfs.exists_place hroot
  obtain ⟨n, hn⟩ := h.present
  obtain ⟨hunwatched, hdir, hunder, hwatch⟩ := (isNewDir_iff hroots).1 hnew
  obtain ⟨_, _, hr⟩ := FileSystem.isDirectory_iff.1 hdir
  obtain ⟨_, htop'⟩ := (h.isDirectory_iff (h.not_prefix htop)).2 ⟨es, htop⟩
  have hplace : top <+: place := (Path.isUnder_pathOf (hfs.isName htop) (hfs'.isName hn)).1 hunder
  have hfinds {p : Path} (hp : fs'.Finds (pathOf top) top place p) :
      p ∈ fs'.watchListBelow (pathOf top) (pathOf place) := by
    obtain ⟨⟨ds, hds⟩, hreach⟩ := hp.outer hplace
    exact (FileSystem.finds_iff hfs' (FileSystem.resolve_eq_ok_iff.1 hr).1 hds hreach).1 hp
  rw [hwatched, List.perm_ext_iff_of_nodup hnodup (FileSystem.watchListBelow_nodup _ hfs' ha htop').1]
  simp only [List.mem_append, hw.mem_iff, h.mem_watchListBelow_iff hfs hfs' ha ⟨es, htop⟩]
  constructor
  · intro hiff
    by_cases hN : fs'.watchListBelow (pathOf top) (pathOf place) = []
    · exact .inr hN
    · -- What is found from the new place was not found before, so it is found from the root now.
      obtain ⟨p, hp⟩ := List.exists_mem_of_ne_nil _ hN
      rcases (hiff p).1 (.inr hp) with hold | hfound
      · exact absurd rfl ((List.nodup_append.1 hnodup).2.2 p (hw.mem_iff.2 hold) p hp)
      · obtain ⟨⟨ds, hds⟩, hreach⟩ := hfound.outer hplace
        exact .inl (.inr ⟨place, ds, List.prefix_rfl, hreach, hds, rfl, hwatch⟩)
  · rintro ((hold | hfound) | hN) p
    · have hwatching : w.isWatching (pathOf place) = true :=
        List.any_eq_true.2 ⟨_, hw.mem_iff.2 hold, decide_eq_true (Path.Same.refl _)⟩
      rw [hunwatched] at hwatching
      cases hwatching
    · obtain ⟨⟨ds, hds⟩, hreach⟩ := hfound.outer hplace
      exact or_congr_right (FileSystem.finds_iff hfs' (FileSystem.resolve_eq_ok_iff.1 hr).1 hds hreach).symm
    · exact or_congr_right ⟨fun hp => absurd hp (by rw [hN]; exact List.not_mem_nil), hfinds⟩

end
end Watcher

/-! ### A directory that is ignored -/

namespace Generated

/-- The top of a repository, with a rule that ignores a directory, and some more entries. -/
def listing (es : List (String × FileNode)) : List (String × FileNode) :=
  (".git", .directory []) :: (".gitignore", .file "/gen\n".toUTF8) :: es

def files (es : List (String × FileNode)) : FileSystem := ⟨.directory (listing es), []⟩

/-- There are no more entries, or there is a new directory. -/
def before : FileSystem := files []
def after (s : String) : FileSystem := files [(s, .directory [])]

/-- The ignore files of the top, with the rule. -/
def level : IgnoreLevel :=
  ⟨0, [], [⟨.seq (.one 103) (.seq (.one 101) (.one 110)), false, false⟩], [], true⟩

theorem wellFormed_before : before.WellFormed := by
  refine ⟨?_, _, rfl⟩
  simp [before, files, listing, FileNode.wellFormed_directory, FileNode.wellFormed_file]
  decide

theorem admits_top : Admits (pathOf []) := by decide

theorem isRoot : before.IsRoot (pathOf []) := wellFormed_before.isRoot_pathOf admits_top rfl

theorem ignoreLevel_eq {es : List (String × FileNode)} (h : (files es).WellFormed)
    (hes : es.lookup ".ignore" = none) : (files es).ignoreLevel [] = level := by
  have hat : (files es).at? [] = some (.directory (listing es)) := rfl
  have hrules : (files es).rulesAt (pathOf ([] ++ [".gitignore"])) = level.versioned := by
    rw [h.rulesAt_file (by decide) rfl]
    decide +kernel
  rw [h.ignoreLevel_repository hat rfl (by decide) rfl, hrules,
    h.rulesAt_missing hat hes (by decide)]
  rfl

/-- At first, the only directory below the top is the one of the repository's data. -/
theorem eq_of_directory {es : List (String × FileNode)} (h : before.at? inner = some (.directory es)) :
    inner = [] ∨ inner = [".git"] := by
  cases inner with
  | nil => exact .inl rfl
  | cons s rest =>
    obtain ⟨n, hn, hrest⟩ := FileNode.at?_cons_eq_some_iff.1 h
    have hmem := FileNode.mem_of_entry_eq hn
    simp only [before, files, listing, FileNode.entries, List.mem_cons, Prod.mk.injEq, List.not_mem_nil,
      or_false] at hmem
    obtain ⟨rfl, rfl⟩ | ⟨rfl, rfl⟩ := hmem
    · obtain ⟨rfl, -⟩ := FileNode.at?_leaf rfl hrest
      exact .inr rfl
    · cases (FileNode.at?_leaf rfl hrest).2

/-- A watcher of the top. -/
def watcher : Watcher := { (default : Watcher) with roots := [pathOf []], watched := [pathOf []] }

theorem watched_perm : watcher.watched.Perm (before.watchListBelow (pathOf []) (pathOf [])) := by
  refine (List.perm_ext_iff_of_nodup (List.nodup_singleton _)
    (FileSystem.watchListBelow_nodup _ wellFormed_before admits_top rfl).1).2 fun p => ?_
  rw [FileSystem.mem_watchListBelow wellFormed_before admits_top rfl]
  refine List.mem_singleton.trans ?_
  have hgit : (pathOf []).isWatchableBelow (pathOf [".git"]) = false :=
    (Path.isWatchableBelow_pathOf (show ∀ s ∈ [] ++ [".git"], IsName s by decide)).trans
      (by simp [Scope.isHiddenName])
  constructor
  · rintro rfl
    exact ⟨[], _, Walk.reaches_refl _ _, rfl, rfl, by simp [Path.isWatchableBelow]⟩
  · rintro ⟨inner, es, -, hes, rfl, hwatch⟩
    rcases eq_of_directory hes with rfl | rfl
    · rfl
    · rw [hgit] at hwatch
      cases hwatch

section
variable {s : String} (hs : IsName s) (hgit : s ≠ ".git") (hgitignore : s ≠ ".gitignore")
  (hignore : s ≠ ".ignore")
include hs hgit hgitignore

theorem wellFormed_after : (after s).WellFormed := by
  have hnames : IsName ".git" ∧ IsName ".gitignore" := by decide
  refine ⟨?_, _, rfl⟩
  simp [after, files, listing, FileNode.wellFormed_directory, FileNode.wellFormed_file, hnames, hs, hgit.symm,
    hgitignore.symm]

theorem at?_after : (after s).at? [s] = some (.directory []) := by
  show (after s).at? ([] ++ [s]) = _
  exact (FileNode.at?_concat rfl).trans ((wellFormed_after hs hgit hgitignore).tree.entry?_eq_some_iff.2
    (by simp [after, files, listing, FileNode.entries]))

theorem isNewDir_iff (ha : Admits (pathOf [s])) : watcher.isNewDir (after s) (pathOf [s]) = true ↔
    (pathOf []).isWatchableBelow (pathOf [s]) = true := by
  have hnames : ∀ t ∈ [] ++ [s], IsName t := List.forall_mem_singleton.2 hs
  have hne : ¬ (pathOf []).Same (pathOf [s]) := fun h =>
    List.cons_ne_nil _ _ ((Path.same_pathOf_iff (List.forall_mem_nil _) hnames).1 h).symm
  have hunwatched : watcher.isWatching (pathOf [s]) = false := by simp [Watcher.isWatching, watcher, hne]
  have hdir : (after s).isDirectory (pathOf [s]) = true := FileSystem.isDirectory_iff.2
    ⟨_, _, (wellFormed_after hs hgit hgitignore).resolve_pathOf ha (at?_after hs hgit hgitignore) rfl
      nofun⟩
  have hunder : (pathOf []).isUnder (pathOf [s]) = true := Path.isUnder_pathOf_append hnames
  rw [Watcher.isNewDir_iff rfl]
  simp [hunwatched, hdir, hunder]

include hignore

theorem ignoreLevel_after : (after s).ignoreLevel [] = level :=
  ignoreLevel_eq (wellFormed_after hs hgit hgitignore) (List.lookup_eq_none_iff.2 (by simp [hignore.symm]))

/-- Another directory changes nothing for those that are there. -/
theorem appeared : before.Appeared (after s) [s] := by
  have hset : before.set ([] ++ [s]) (some (.directory [])) = after s := by
    simp [after, before, files, listing, FileSystem.set, FileNode.set, FileNode.setEntry, hgit.symm,
      hgitignore.symm]
  have hwf := wellFormed_after hs hgit hgitignore
  rw [← hset]
  refine .of_set rfl (List.lookup_eq_none_iff.2 (by simp [listing, hgit, hgitignore])) fun inner es hes => ?_
  rw [hset]
  rcases eq_of_directory hes with rfl | rfl
  · exact (ignoreLevel_after hs hgit hgitignore hignore).trans (ignoreLevel_eq wellFormed_before rfl).symm
  · exact (hwf.ignoreLevel_plain rfl rfl rfl rfl).trans
      (wellFormed_before.ignoreLevel_plain rfl rfl rfl rfl).symm

/-- A search from the top comes to the new directory, if the rule is not about it. -/
theorem reaches_iff : (Walk.forDirectories (after s) (pathOf [])).Reaches [] [s] ↔
    IgnoreLevel.verdict [level] [s] true ≠ .ignored ∧ (pathOf []).isWatchableBelow (pathOf [s]) = true := by
  have hat := at?_after hs hgit hgitignore
  have hlevels : (after s).levelsAbove [s] = [level] := by
    refine ((after s).levelsAbove_concat [] s).trans ?_
    rw [ignoreLevel_after hs hgit hgitignore hignore]
    rfl
  have hadmits : (Walk.forDirectories (after s) (pathOf [])).admits [level] [s] (pathOf [s]) (.directory []) =
      true ↔ _ := Walk.admits_iff.trans (and_congr_right fun _ => and_iff_left fun _ => nofun)
  refine Walk.reaches_concat.trans (Iff.trans ⟨?_, fun h => ⟨_, hat, hlevels ▸ h⟩⟩ hadmits)
  rintro ⟨n, hn, h⟩
  cases hat.symm.trans hn
  exact hlevels ▸ h

end

/-- The rule is about one of two directories, but both are to be watched by their names. -/
theorem verdict_eq : IgnoreLevel.verdict [level] ["src"] true = .undecided ∧
    IgnoreLevel.verdict [level] ["gen"] true = .ignored := ⟨by decide +kernel, by decide +kernel⟩

theorem isWatchableBelow_eq_true {s : String} (h : s = "src" ∨ s = "gen") :
    (pathOf []).isWatchableBelow (pathOf [s]) = true := by
  have hname : IsName s := by rcases h with rfl | rfl <;> decide
  refine (Path.isWatchableBelow_pathOf (show ∀ t ∈ [] ++ [s], IsName t by simpa)).trans ?_
  simp only [List.any_cons, List.any_nil, Scope.isIgnoredName_eq, Scope.isHiddenName_eq]
  rcases h with rfl | rfl <;> decide

theorem addTree_watched_perm_shown : (watcher.addTree (after "src") (pathOf ["src"])).watched.Perm
    ((after "src").watchListBelow (pathOf []) (pathOf [])) := by
  have hs : IsName "src" := by decide
  have hwf := wellFormed_after hs (by decide) (by decide)
  have hwatch := isWatchableBelow_eq_true (.inl rfl)
  have hnew := (isNewDir_iff hs (by decide) (by decide) (by decide)).2 hwatch
  refine (Watcher.addTree_watched_perm_iff wellFormed_before hwf isRoot rfl watched_perm
    (appeared hs (by decide) (by decide) (by decide)) hnew).2 (.inl ?_)
  -- No rule is about the new directory, so the search comes to it.
  have hreach := (reaches_iff hs (by decide) (by decide) (by decide)).2 ⟨by rw [verdict_eq.1]; decide, hwatch⟩
  exact (FileSystem.mem_watchListBelow hwf admits_top rfl).2 ⟨["src"], _, hreach, rfl, rfl, hwatch⟩

/-- A new directory that a rule ignores is watched, but a search from the top does not come to it. -/
theorem addTree_watched_not_perm_ignored : before.WellFormed ∧ (after "gen").WellFormed ∧
    before.IsRoot (pathOf []) ∧ watcher.watched.Perm (before.watchListBelow (pathOf []) (pathOf [])) ∧
    before.Appeared (after "gen") ["gen"] ∧ watcher.isNewDir (after "gen") (pathOf ["gen"]) = true ∧
    ¬ (watcher.addTree (after "gen") (pathOf ["gen"])).watched.Perm
      ((after "gen").watchListBelow (pathOf []) (pathOf [])) := by
  have hs : IsName "gen" := by decide
  have hwf := wellFormed_after hs (by decide) (by decide)
  have happ := appeared hs (by decide) (by decide) (by decide)
  have hwatch := isWatchableBelow_eq_true (.inr rfl)
  have hnew := (isNewDir_iff hs (by decide) (by decide) (by decide)).2 hwatch
  refine ⟨wellFormed_before, hwf, isRoot, watched_perm, happ, hnew, fun hperm => ?_⟩
  have hwatched := (Watcher.addTree_watched_new wellFormed_before hwf isRoot rfl watched_perm happ hnew).1
  have hmem : pathOf ["gen"] ∈ (watcher.addTree (after "gen") (pathOf ["gen"])).watched := by
    rw [hwatched]
    refine List.mem_append_right _ ((FileSystem.mem_watchListBelow hwf (by decide) rfl).2 ?_)
    exact ⟨["gen"], _, Walk.reaches_refl _ _, rfl, rfl, hwatch⟩
  obtain ⟨inner, es, hreach, hes, hpath, -⟩ :=
    (FileSystem.mem_watchListBelow hwf admits_top rfl).1 (hperm.mem_iff.1 hmem)
  have hinner : ["gen"] = inner := FileSystem.pathOf_inj (by decide) (hwf.isName hes) hpath
  rw [← hinner] at hreach
  exact ((reaches_iff hs (by decide) (by decide) (by decide)).1 hreach).1 verdict_eq.2

end Generated
end SymbolIndex
