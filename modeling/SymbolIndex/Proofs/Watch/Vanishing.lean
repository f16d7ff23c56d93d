import SymbolIndex.Proofs.Path.Parent
import SymbolIndex.Proofs.Watch.Settling

/-!
# A path that is gone

Whether a path that is gone was a directory is known from what is watched only. If something was
watched at or below it, the watcher forgets that and has the index drop the directory
(`forgetTree_eq`, `entries_invalidateUnder`); otherwise it has the index drop the path alone
(`entries_remove`). Either way nothing at or below the path is left, as long as the directories of
the files in the store are watched: then nothing below the path is in the store unless something was
watched there (`same_of_unwatched`).
-/
namespace SymbolIndex

namespace Store
variable {s : Store} {dir p : Path}

theorem entries_remove (s : Store) (p : Path) : (s.remove p).entries = s.others p := by
  cases h : s.find? p with
  | none => rw [remove_of_none h, others_of_find?_none h]
  | some e => simp only [remove, h]

theorem entries_foldl_remove (s : Store) (ps : List Path) :
    (ps.foldl remove s).entries = s.entries.filter fun e => ps.all (¬ e.key.Same ·) := by
  induction ps generalizing s with
  | nil => exact (List.filter_eq_self.2 fun _ _ => rfl).symm
  | cons p ps ih =>
    rw [List.foldl_cons, ih, entries_remove]
    simp [others, List.filter_filter, Bool.and_comm]

theorem entries_invalidateUnder (s : Store) (dir : Path) :
    (s.invalidateUnder dir).1.entries = s.entries.filter (!dir.isUnder ·.key) :=
  (entries_foldl_remove s _).trans (filter_inside s dir)

end Store

namespace Watcher
variable {w : Watcher} {x : Index} {fs : FileSystem} {p k : Path}

/-- Whether a directory at or below a path is watched. -/
def watchesBelow (w : Watcher) (p : Path) : Bool := w.watched.any p.isUnder

/-- What is told of a path that is gone. -/
def goneAs (w : Watcher) (p : Path) : Invalidation := if w.watchesBelow p then .removedTree p else .removed p

/-- What is told besides if a watched root is gone. -/
def goneNotice (w : Watcher) (p : Path) : List WatchMessage :=
  if w.watchesBelow p && w.roots.any (·.Same p) then [.degraded p rootRemovedText] else []

theorem goneAs_eq_removedTree : w.goneAs p = .removedTree p ↔ w.watchesBelow p = true := by
  unfold goneAs
  split <;> simp [*]

theorem goneAs_eq_removed : w.goneAs p = .removed p ↔ w.watchesBelow p = false := by
  unfold goneAs
  split <;> simp [*]

/-- The watcher without what it watches at and below a path. -/
def forget (w : Watcher) (p : Path) : Watcher :=
  let watched := w.watched.filter (!p.isUnder ·)
  let watchedDirs := if w.watchesBelow p then watched.length else w.health.watchedDirs
  { w with watched := watched, health := { w.health with watchedDirs := watchedDirs } }

theorem forget_of_unwatched (h : w.watchesBelow p = false) : w.forget p = w := by
  have hkept : w.watched.filter (!p.isUnder ·) = w.watched := by
    simpa [List.filter_eq_self, watchesBelow] using h
  simp [forget, h, hkept]

theorem forgetTree_eq (w : Watcher) (p : Path) : w.forgetTree p = (w.forget p, w.watchesBelow p) := by
  cases h : w.watchesBelow p with
  | true =>
    have hany : w.watched.any p.isUnder = true := h
    simp [forgetTree, forget, hany, h]
  | false =>
    have hany : w.watched.any p.isUnder = false := h
    simp [forgetTree, hany, forget_of_unwatched h]

/-- A look at a path that is gone. -/
theorem resolve_of_gone (hgone : fs.node p = .error .notFound) (w : Watcher) : w.resolve fs p =
    (if w.watchesBelow p && w.roots.any (·.Same p) then ((w.forget p).markDegraded p rootRemovedText).1
      else w.forget p, some (w.goneAs p)) := by
  have hroots : (w.forget p).roots = w.roots := rfl
  rw [resolve, hgone, goneAs]
  simp only [ne_eq, not_true_eq_false, if_false, forgetTree_eq]
  cases w.watchesBelow p with
  | false => rfl
  | true => simp only [hroots, Bool.true_and, if_true]

theorem look_of_gone (hgone : fs.node p = .error .notFound) (w : Watcher) :
    (w.look fs p).watched = (w.forget p).watched ∧
      (w.look fs p).health.watchedDirs = (w.forget p).health.watchedDirs ∧
      (w.look fs p).sent =
        if w.isHeard then w.sent ++ w.goneNotice p ++ [.invalidate (w.goneAs p)] else w.sent := by
  simp only [look, resolve_of_gone hgone, goneNotice]
  split <;> cases hh : w.isHeard <;> simp [markDegraded, recordDegraded, send, forget, hh]

/-- If nothing at or below a path is watched, no file below it has its directory watched. -/
theorem same_of_unwatched (hnone : w.watchesBelow p = false) (hu : p.isUnder k = true)
    (h : ¬ p.Same k → ∃ dir, k.parent? = some dir ∧ w.isWatching dir = true) : p.Same k := by
  by_contra hs
  obtain ⟨dir, hdir, hw⟩ := h hs
  obtain ⟨d, hd, hsame⟩ := List.any_eq_true.1 hw
  have hdu : p.isUnder d = true := by
    rw [(of_decide_eq_true hsame).isUnder p]
    exact Path.isUnder_parent? hu hs hdir
  exact List.any_eq_false.1 hnone d hd hdu

theorem entries_absorb_goneAs (hbelow : ∀ k ∈ x.store.keys, p.isUnder k = true → ¬ p.Same k →
      ∃ dir, k.parent? = some dir ∧ w.isWatching dir = true) :
    (x.absorb (.invalidate (w.goneAs p))).store.entries = x.store.entries.filter (!p.isUnder ·.key) := by
  cases hw : w.watchesBelow p with
  | true =>
    rw [goneAs_eq_removedTree.2 hw]
    exact x.store.entries_invalidateUnder p
  | false =>
    rw [goneAs_eq_removed.2 hw]
    refine (x.store.entries_remove p).trans (List.filter_congr fun e he => ?_)
    have hkey : e.key ∈ x.store.keys := List.mem_map_of_mem he
    rw [Bool.eq_iff_iff, decide_eq_true_iff, Bool.not_eq_true', ← Bool.not_eq_true]
    refine not_congr ⟨fun hs => Path.isUnder_of_same hs.symm, fun hu => ?_⟩
    exact (same_of_unwatched hw hu (hbelow e.key hkey hu)).symm

theorem settle_of_gone (hgone : fs.node p = .error .notFound) (w : Watcher) (x : Index) :
    w.settle x fs p = x.absorb (.invalidate (w.goneAs p)) := by
  rw [settle, resolve_of_gone hgone, goneAs]
  cases w.watchesBelow p <;> rfl

/-- A path that is gone leaves nothing behind, if the directories of what the store has below it are watched.
What is watched, and what is in the store, is what was there before and not at or below the path, in order.
That the directory is gone is told exactly if something there was watched, and otherwise that the path is; the
number of watched directories follows. If a root goes in this way, it is reported as degraded first. -/
theorem resolve_vanished (w : Watcher) (x : Index) (fs : FileSystem) (p : Path)
    (hgone : fs.node p = .error .notFound)
    (hbelow : ∀ k ∈ x.store.keys, p.isUnder k = true → ¬ p.Same k →
      ∃ dir, k.parent? = some dir ∧ w.isWatching dir = true) :
    ∃ outcome, (w.resolve fs p).2 = some outcome ∧
      (outcome = .removedTree p ↔ ∃ dir ∈ w.watched, p.isUnder dir = true) ∧
      (outcome = .removed p ↔ ∀ dir ∈ w.watched, p.isUnder dir = false) ∧
      (w.settle x fs p).store.entries = x.store.entries.filter (!p.isUnder ·.key) ∧
      let v := w.look fs p
      let notice : List WatchMessage :=
        if outcome = .removedTree p ∧ ∃ r ∈ w.roots, r.Same p then [.degraded p rootRemovedText] else []
      v.watched = w.watched.filter (!p.isUnder ·) ∧
        v.health.watchedDirs = (if outcome = .removedTree p then v.watched.length else w.health.watchedDirs) ∧
        v.sent = if w.isHeard then w.sent ++ notice ++ [.invalidate outcome] else w.sent := by
  obtain ⟨hwatched, hdirs, hsent⟩ := look_of_gone hgone w
  refine ⟨w.goneAs p, congrArg Prod.snd (resolve_of_gone hgone w), ?_, ?_, ?_, ?_, ?_, ?_⟩
  · rw [goneAs_eq_removedTree, watchesBelow, List.any_eq_true]
  · rw [goneAs_eq_removed, watchesBelow, List.any_eq_false]
    simp
  · rw [settle_of_gone hgone]
    exact entries_absorb_goneAs hbelow
  · exact hwatched
  · rw [hdirs, hwatched]
    simp only [goneAs_eq_removedTree]
    rfl
  · rw [hsent, goneNotice]
    simp [goneAs_eq_removedTree]

/-- A root in another root is gone, with what was watched and stored below it. -/
theorem resolve_vanished_nested_root :
    let w : Watcher := { (default : Watcher) with
      roots := [⟨"/repo"⟩, ⟨"/repo/src"⟩]
      watched := [⟨"/repo"⟩, ⟨"/repo/src"⟩, ⟨"/repo/src/pkg"⟩, ⟨"/repo/srcx"⟩]
      isHeard := true }
    let x := Index.over .standard ⟨fun _ => none⟩ ((Store.new 8 1000).run Store.repository)
    let fs : FileSystem := ⟨.directory [("repo", .directory [("srcx", .directory [])])], []⟩
    let p : Path := ⟨"/repo/src/"⟩
    x.store.keys = [⟨"/repo/src"⟩, ⟨"/repo/srcx/c.py"⟩, ⟨"/repo/src/pkg/b.py"⟩, ⟨"/repo/src/a.py"⟩] ∧
      (w.settle x fs p).store.keys = [⟨"/repo/srcx/c.py"⟩] ∧
      (w.look fs p).watched = [⟨"/repo"⟩, ⟨"/repo/srcx"⟩] ∧ (w.look fs p).health.watchedDirs = 2 ∧
      (w.look fs p).sent = [.degraded p rootRemovedText, .invalidate (.removedTree p)] := by
  intro w x fs p
  have hgone : fs.node ⟨"/repo/src/"⟩ = .error .notFound := FileSystem.node_of_resolveIn 9 rfl
  have hstored : ∀ k ∈ x.store.keys, p.isUnder k = true → ¬ p.Same k → k.parent?.any w.isWatching = true := by
    rw [show x.store.keys = _ from Store.keys_repository]
    decide +kernel
  obtain ⟨outcome, -, htree, -, hentries, hwatched, hdirs, hsent⟩ :=
    resolve_vanished w x fs p hgone fun k hk hu hs => (Option.any_eq_true ..).1 (hstored k hk hu hs)
  obtain rfl : outcome = .removedTree p := htree.2 (by decide +kernel)
  have hremain : w.watched.filter (!p.isUnder ·) = [⟨"/repo"⟩, ⟨"/repo/srcx"⟩] := by decide +kernel
  have hkept : x.store.keys.filter (!p.isUnder ·) = [⟨"/repo/srcx/c.py"⟩] := by
    rw [show x.store.keys = _ from Store.keys_repository]
    decide +kernel
  have hroot : ∃ r ∈ w.roots, r.Same p := by decide +kernel
  have hkeys : (w.settle x fs p).store.keys = [⟨"/repo/srcx/c.py"⟩] :=
    (congrArg (List.map StoreEntry.key) hentries).trans ((x.store.map_key_filter (!p.isUnder ·)).trans hkept)
  refine ⟨Store.keys_repository, hkeys, hwatched.trans hremain, ?_, ?_⟩
  · rw [hdirs, if_pos rfl, hwatched, hremain]
    rfl
  · rw [hsent, if_pos rfl, if_pos ⟨rfl, hroot⟩]
    rfl

end Watcher
end SymbolIndex
