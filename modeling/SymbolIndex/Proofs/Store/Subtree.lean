import SymbolIndex.Proofs.Path.Literal
import SymbolIndex.Proofs.Store.Invariant

/-!
# Dropping a directory

A directory is dropped from a store by dropping the paths in it one after another, and which those are is
a matter of components, not of texts. So the paths in the directory have no entry any more, and the others
have theirs (`find?_invalidateUnder`). In which order paths are dropped does not matter
(`Counted.foldl_invalidate_perm`).
-/
namespace SymbolIndex

namespace Store
open StoreEntry

variable {s : Store} {ps qs : List Path} {dir p q : Path}

theorem Counted.foldl_invalidate_perm (h : s.Counted) (hp : ps.Perm qs) :
    ps.foldl (fun u p => (u.invalidate p).1) s = qs.foldl (fun u p => (u.invalidate p).1) s := by
  show ps.foldl Store.remove s = qs.foldl Store.remove s
  have hall : ∀ e : StoreEntry, ps.all (¬ e.key.Same ·) = qs.all (¬ e.key.Same ·) := fun e => hp.all_eq
  rw [foldl_remove_eq h, foldl_remove_eq h]
  simp only [hall]

/-- Paths that are dropped one after another have no entry any more. -/
theorem find?_foldl_remove (s : Store) (ps : List Path) :
    (ps.foldl remove s).find? q = if ps.any (·.Same q) then none else s.find? q := by
  induction ps generalizing s with
  | nil => rfl
  | cons p ps ih =>
    rw [List.foldl_cons, ih, find?_remove, List.any_cons]
    by_cases hp : p.Same q <;> simp [hp]

/-- Nothing in a directory that is dropped has an entry any more. -/
theorem find?_invalidateUnder (s : Store) (dir q : Path) :
    (s.invalidateUnder dir).1.find? q = if dir.isUnder q then none else s.find? q := by
  have hmem : (s.keys.filter dir.isUnder).any (·.Same q) = (dir.isUnder q && (s.find? q).isSome) := by
    rw [Bool.eq_iff_iff, List.any_eq_true, Bool.and_eq_true, Option.isSome_iff_exists]
    constructor
    · -- The paths are dropped as the entries spell them, and `q` may be spelled otherwise.
      rintro ⟨p, hp, hs⟩
      obtain ⟨hp, hu⟩ := List.mem_filter.1 hp
      obtain ⟨e, he, rfl⟩ := List.mem_map.1 hp
      have hs : e.key.Same q := of_decide_eq_true hs
      refine ⟨hs.isUnder dir ▸ hu, Option.ne_none_iff_exists'.1 fun hnone => ?_⟩
      exact find?_eq_none.1 hnone e he hs
    · rintro ⟨hu, e, he⟩
      have hs : e.key.Same q := same_of_find? he
      refine ⟨e.key, List.mem_filter.2 ⟨List.mem_map_of_mem (mem_of_find? he), ?_⟩, decide_eq_true hs⟩
      rw [hs.isUnder dir, hu]
  rw [show (s.invalidateUnder dir).1 = (s.keys.filter dir.isUnder).foldl remove s from rfl,
    find?_foldl_remove, hmem]
  cases dir.isUnder q <;> cases s.find? q <;> rfl

/-- After any run of operations from an empty store, dropping a directory leaves exactly the entries whose
paths do not begin with the components of the directory, in order, and the counters. The answer is the
paths of the others, in order and each once, and the bytes are less by the sizes of their analyses. Dropping
these paths one by one, in any order, comes to the same store. Afterwards the directory itself and what is in
it have no entry, and all other paths have theirs. -/
theorem run_new_invalidateUnder (maxEntries maxBytes : Nat) (os : List Operation) (dir : Path) :
    let s := (Store.new maxEntries maxBytes).run os
    let t := (s.invalidateUnder dir).1
    let gone := (s.invalidateUnder dir).2
    let inside := s.entries.filter fun e => dir.components <+: e.key.components
    t = { s with
        entries := s.entries.filter fun e => ¬ dir.components <+: e.key.components
        bytes := t.bytes } ∧
      s.bytes = t.bytes + (inside.map (·.analysis.size)).sum ∧
      gone = inside.map (·.key) ∧ gone.Pairwise (fun p q => ¬ p.Same q) ∧
      (∀ ps : List Path, ps.Perm gone → ps.foldl (fun u p => (u.invalidate p).1) s = t) ∧
      t.find? dir = none ∧
      ∀ p, t.find? p = if dir.components <+: p.components then none else s.find? p := by
  intro s t gone inside
  have hs : s.Sound := (Sound.new maxEntries maxBytes).run os
  have heq := invalidateUnder_eq hs.toCounted dir
  have hunder : ∀ p, dir.isUnder p = decide (dir.components <+: p.components) := fun p =>
    Bool.eq_iff_iff.2 (Path.isUnder_iff.trans decide_eq_true_iff.symm)
  have hfind : ∀ p, t.find? p = if dir.components <+: p.components then none else s.find? p := fun p => by
    rw [show t.find? p = _ from find?_invalidateUnder s dir p, hunder]
    simp
  refine ⟨?_, ?_, ?_, ?_, fun ps hp => hs.toCounted.foldl_invalidate_perm hp,
    (hfind dir).trans (if_pos List.prefix_rfl), hfind⟩
  · simp only [t, heq, hunder]
    simp
  · have hsizes : (inside.map (·.analysis.size)).sum = weigh inside :=
      congrArg List.sum (List.map_congr_left fun e he =>
        (hs.genuine e (List.mem_filter.1 he).1).size_eq.symm)
    rw [hsizes, hs.bytes_eq, ← weigh_filter_add s.entries (dir.isUnder ·.key)]
    simp only [t, heq, inside, hunder]
  · simp only [gone, heq, inside, keys, List.filter_map, Function.comp_def, hunder]
  · have hdistinct : s.keys.Pairwise fun p q => ¬ p.Same q := List.pairwise_map.2 hs.distinct
    exact hdistinct.sublist List.filter_sublist

theorem map_key_filter (s : Store) (f : Path → Bool) :
    (s.entries.filter (f ·.key)).map (·.key) = s.keys.filter f := (List.filter_map ..).symm

/-- The analyses of some files and of a directory under its own name, in a store with room for all. -/
def repository : List Operation :=
  [⟨"/repo/src/a.py"⟩, ⟨"/repo/src/pkg/b.py"⟩, ⟨"/repo/srcx/c.py"⟩, ⟨"/repo/src"⟩].map
    fun p => .put p (.unsupported p ⟨1, "00"⟩) ⟨1, "00"⟩

theorem keys_repository : ((Store.new 8 1000).run repository).keys =
    [⟨"/repo/src"⟩, ⟨"/repo/srcx/c.py"⟩, ⟨"/repo/src/pkg/b.py"⟩, ⟨"/repo/src/a.py"⟩] := by decide +kernel

/-- A directory goes with what is below it, however it is spelled; a directory whose name only begins alike
stays. The paths may as well be dropped one by one, in another order. -/
theorem run_new_invalidateUnder_repository :
    let s := (Store.new 8 1000).run repository
    (s.invalidateUnder ⟨"/repo//src/"⟩).2 = [⟨"/repo/src"⟩, ⟨"/repo/src/pkg/b.py"⟩, ⟨"/repo/src/a.py"⟩] ∧
      (s.invalidateUnder ⟨"/repo//src/"⟩).1.keys = [⟨"/repo/srcx/c.py"⟩] ∧
      [⟨"/repo/src/pkg/b.py"⟩, ⟨"/repo/src/a.py"⟩, ⟨"/repo/src"⟩].foldl (fun u p => (u.invalidate p).1) s =
        (s.invalidateUnder ⟨"/repo//src/"⟩).1 := by
  intro s
  let dir : Path := ⟨"/repo//src/"⟩
  obtain ⟨hkept, -, hgone, -, hperm, -⟩ := run_new_invalidateUnder 8 1000 repository dir
  have hgone' : (s.invalidateUnder dir).2 = [⟨"/repo/src"⟩, ⟨"/repo/src/pkg/b.py"⟩, ⟨"/repo/src/a.py"⟩] := by
    refine hgone.trans ((map_key_filter s fun p => dir.components <+: p.components).trans ?_)
    rw [show s.keys = _ from keys_repository]
    simp only [Path.components_eq]
    decide
  have hkept' : (s.invalidateUnder dir).1.keys = [⟨"/repo/srcx/c.py"⟩] := by
    refine (congrArg keys hkept).trans
      ((map_key_filter s fun p => ¬ dir.components <+: p.components).trans ?_)
    rw [show s.keys = _ from keys_repository]
    simp only [Path.components_eq]
    decide
  exact ⟨hgone', hkept', hperm _ (hgone' ▸ by decide)⟩

end Store
end SymbolIndex
