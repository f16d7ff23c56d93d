import SymbolIndex.Proofs.Index.World

/-!
# Calls for the same file take turns

A call that finds nothing in the store gets the lock of its key from the index, waits until nobody holds
it, holds it while the content is analysed, and gives it back in steps of their own. `Exclusive` says how
the locks that the index knows and the stages of the calls belong together. It holds in every world
(`exclusive_run`), whatever order the steps are taken in: at most one call holds the lock of a key, as
long as a call refers to a lock the index knows it under the key, and an index whose calls are all done
with their locks knows none (`run_exclusion`).
-/
namespace SymbolIndex

namespace CallStage

/-- The lock that a call refers to, with the key it got it for. -/
def lock? : CallStage → Option (Path × Nat)
  | waiting s n | entered s n | examined s n _ | settled s n _ | unlocked s n _ => some (s.key, n)
  | _ => none

/-- The key that a call holds the lock of. -/
def heldKey? : CallStage → Option Path
  | entered s _ | examined s _ _ | settled s _ _ => some s.key
  | _ => none

/-- The key whose lock a call has got and not yet released. -/
def task? : CallStage → Option Path
  | waiting s _ | entered s _ | examined s _ _ | settled s _ _ | unlocked s _ _ | detached s _ => some s.key
  | _ => none

variable {c : CallStage} {p : Path} {n : Nat}

theorem refersTo_iff : c.refersTo n = true ↔ ∃ p, c.lock? = some (p, n) := by
  cases c <;> simp [lock?, refersTo]

theorem task?_of_lock? (h : c.lock? = some (p, n)) : c.task? = some p := by
  cases c <;> simp_all [lock?, task?]

/-- Who holds the lock of a key refers to it. -/
theorem lock?_of_heldKey? (h : c.heldKey? = some p) : ∃ n, c.lock? = some (p, n) ∧ c.holdsLock n = true := by
  cases c <;> simp_all [heldKey?, lock?, holdsLock]

end CallStage

/-- The lock that an index knows under a key. -/
def Index.lockAt? (x : Index) (p : Path) : Option Nat := (x.locks.find? (·.1.Same p)).map (·.2)

/-- The locks of an index and the stages of its calls belong together. -/
structure Exclusive (x : Index) (calls : List CallStage) : Prop where
  /-- A key has one lock. -/
  distinct : x.locks.Pairwise fun d e => ¬ d.1.Same e.1
  /-- A lock has one key. -/
  numbered : x.locks.Pairwise fun d e => d.2 ≠ e.2
  fresh : ∀ e ∈ x.locks, e.2 < x.nextLock
  /-- The index knows every lock that a call refers to. -/
  known : ∀ c ∈ calls, ∀ p n, c.lock? = some (p, n) → ∃ k, (k, n) ∈ x.locks ∧ k.Same p
  /-- A lock has one holder. -/
  single : ∀ (i j : Nat) (c d : CallStage) (n : Nat), calls[i]? = some c → calls[j]? = some d →
    c.holdsLock n = true → d.holdsLock n = true → i = j
  /-- There is a call that will release the lock. -/
  owed : ∀ e ∈ x.locks, ∃ c ∈ calls, ∃ p, c.task? = some p ∧ e.1.Same p

namespace Exclusive
open CallStage

variable {x x' : Index} {fs : FileSystem} {calls : List CallStage} {c c' : CallStage} {i : Nat}
  {p : Path} {n : Nat}

/-- Only the locks of an index matter. -/
theorem congr (h : Exclusive x calls) (hl : x'.locks = x.locks) (hn : x'.nextLock = x.nextLock) :
    Exclusive x' calls where
  distinct := hl ▸ h.distinct
  numbered := hl ▸ h.numbered
  fresh := by rw [hl, hn]; exact h.fresh
  known := hl ▸ h.known
  single := h.single
  owed := hl ▸ h.owed

/-- A lock has one holder after a step that takes none, as it had before. -/
theorem single_set (h : Exclusive x calls) (hc : calls[i]? = some c)
    (hh : ∀ n, c'.holdsLock n = true → c.holdsLock n = true) :
    ∀ (j k : Nat) (d e : CallStage) (n : Nat), (calls.set i c')[j]? = some d → (calls.set i c')[k]? = some e →
      d.holdsLock n = true → e.holdsLock n = true → j = k := by
  intro j k d e n hj hk hd he
  rcases getElem?_set_cases hj with ⟨rfl, rfl⟩ | ⟨-, hj'⟩ <;>
    rcases getElem?_set_cases hk with ⟨rfl, rfl⟩ | ⟨-, hk'⟩
  · rfl
  · exact h.single _ _ _ _ n hc hk' (hh n hd) he
  · exact h.single _ _ _ _ n hj' hc hd (hh n he)
  · exact h.single _ _ _ _ n hj' hk' hd he

/-- A step that takes no lock and releases none. -/
theorem set (h : Exclusive x calls) (hc : calls[i]? = some c)
    (hk : ∀ e, c'.lock? = some e → c.lock? = some e) (ht : ∀ p, c.task? = some p → c'.task? = some p)
    (hh : ∀ n, c'.holdsLock n = true → c.holdsLock n = true) : Exclusive x (calls.set i c') where
  distinct := h.distinct
  numbered := h.numbered
  fresh := h.fresh
  known d hd p n hdl := by
    rcases mem_set hd with rfl | hd
    · exact h.known c (List.mem_of_getElem? hc) p n (hk _ hdl)
    · exact h.known d hd p n hdl
  single := h.single_set hc hh
  owed e he := exists_mem_set hc (fun ⟨p, hp, hs⟩ => ⟨p, ht p hp, hs⟩) (h.owed e he)

/-- One more call. -/
theorem append (h : Exclusive x calls) (p : Path) : Exclusive x (calls ++ [.started p]) where
  distinct := h.distinct
  numbered := h.numbered
  fresh := h.fresh
  known d hd q n hdl := by
    rcases List.mem_append.1 hd with hd | hd
    · exact h.known d hd q n hdl
    · cases List.mem_singleton.1 hd
      cases hdl
  single j k d e n hj hk hd he := by
    rcases getElem?_concat_cases hj with ⟨-, rfl⟩ | hj
    · cases hd
    · rcases getElem?_concat_cases hk with ⟨-, rfl⟩ | hk
      · cases he
      · exact h.single j k d e n hj hk hd he
  owed e he := by
    obtain ⟨d, hd, hp⟩ := h.owed e he
    exact ⟨d, List.mem_append_left _ hd, hp⟩

/-! ### The steps that change a lock -/

theorem eq_of_same (h : Exclusive x calls) {d e : Path × Nat} (hd : d ∈ x.locks) (he : e ∈ x.locks)
    (hs : d.1.Same e.1) : d = e :=
  List.Pairwise.forall_of_forall_of_flip (R := fun d e => d.1.Same e.1 → d = e) (fun _ _ _ => rfl)
    (h.distinct.imp fun hn hs => absurd hs hn) (h.distinct.imp fun hn hs => absurd hs.symm hn) hd he hs

theorem eq_of_number (h : Exclusive x calls) {d e : Path × Nat} (hd : d ∈ x.locks) (he : e ∈ x.locks)
    (hs : d.2 = e.2) : d = e :=
  List.Pairwise.forall_of_forall_of_flip (R := fun d e => d.2 = e.2 → d = e) (fun _ _ _ => rfl)
    (h.numbered.imp fun hn hs => absurd hs hn) (h.numbered.imp fun hn hs => absurd hs.symm hn) hd he hs

theorem lockAt?_of_mem (h : Exclusive x calls) {k : Path} (hk : (k, n) ∈ x.locks) (hs : k.Same p) :
    x.lockAt? p = some n := by
  unfold Index.lockAt?
  cases hf : x.locks.find? (·.1.Same p) with
  | none => exact absurd hs (by simpa using List.find?_eq_none.1 hf _ hk)
  | some e =>
    have he : e.1.Same p := by simpa using List.find?_some hf
    rw [h.eq_of_same (List.mem_of_find?_eq_some hf) hk (he.trans hs.symm)]
    rfl

/-- At most one call is between taking and giving back the lock of a path. -/
theorem eq_of_held (h : Exclusive x calls) {i j : Nat} {c d : CallStage} {q : Path}
    (hi : calls[i]? = some c) (hj : calls[j]? = some d) (hc : c.heldKey? = some p)
    (hd : d.heldKey? = some q) (hs : p.Same q) : i = j := by
  obtain ⟨n, hln, hn⟩ := lock?_of_heldKey? hc
  obtain ⟨m, hlm, hm⟩ := lock?_of_heldKey? hd
  obtain ⟨k, hk, hkp⟩ := h.known c (List.mem_of_getElem? hi) p n hln
  obtain ⟨l, hl, hlq⟩ := h.known d (List.mem_of_getElem? hj) q m hlm
  have hkl : (k, n) = (l, m) := h.eq_of_same hk hl (hkp.trans (hs.trans hlq.symm))
  obtain ⟨-, rfl⟩ := Prod.mk.inj hkl
  exact h.single i j c d n hi hj hn hm

/-- What is forgotten when a lock is released is the lock of the key, unless it is referred to. -/
theorem locks_releaseLock (h : Exclusive x calls) (key : Path) (isReferred : Nat → Bool) :
    (x.releaseLock key isReferred).locks =
      x.locks.filter fun e => ¬ e.1.Same key ∨ isReferred e.2 = true := by
  unfold Index.releaseLock
  cases hf : x.locks.find? (·.1.Same key) with
  | none =>
    have hnone : ∀ e ∈ x.locks, ¬ e.1.Same key := by simpa using List.find?_eq_none.1 hf
    exact (List.filter_eq_self.2 fun e he => decide_eq_true (.inl (hnone e he))).symm
  | some e =>
    have he : e.1.Same key := by simpa using List.find?_some hf
    have hfound : ∀ d ∈ x.locks, d.1.Same key → d = e := fun d hd hs =>
      h.eq_of_same hd (List.mem_of_find?_eq_some hf) (hs.trans he.symm)
    cases hr : isReferred e.2 with
    | true =>
      simp only [hr, if_true]
      refine (List.filter_eq_self.2 fun d hd => ?_).symm
      by_cases hs : d.1.Same key
      · simp [hfound d hd hs, hr]
      · simp [hs]
    | false =>
      simp only [hr]
      refine List.filter_congr fun d hd => ?_
      by_cases hs : d.1.Same key
      · simp [hfound d hd hs, hr]
      · simp [hs]

/-- A call gets the lock of its key. -/
theorem refer (h : Exclusive x calls) {s : Source} (hc : calls[i]? = some (.missed s)) :
    Exclusive (x.lockOf s.key).1 (calls.set i (.waiting s (x.lockOf s.key).2)) := by
  have hi := (List.getElem?_eq_some_iff.1 hc).1
  unfold Index.lockOf
  cases hf : x.locks.find? (·.1.Same s.key) with
  | some e =>
    obtain ⟨k, n⟩ := e
    have hk : k.Same s.key := by simpa using List.find?_some hf
    refine { h with known := ?_, single := ?_, owed := ?_ }
    · intro d hd p m hdl
      rcases mem_set hd with rfl | hd
      · cases hdl
        exact ⟨k, List.mem_of_find?_eq_some hf, hk⟩
      · exact h.known d hd p m hdl
    · exact h.single_set hc (by simp [holdsLock])
    · exact fun e he => exists_mem_set hc (by simp [task?]) (h.owed e he)
  | none =>
    have hnew : ∀ e ∈ x.locks, ¬ e.1.Same s.key := by simpa using List.find?_eq_none.1 hf
    refine ⟨?_, ?_, ?_, ?_, h.single_set hc (by simp [holdsLock]), ?_⟩
    · exact List.pairwise_append.2 ⟨h.distinct, List.pairwise_singleton .., by simpa using hnew⟩
    · refine List.pairwise_append.2 ⟨h.numbered, List.pairwise_singleton .., fun e he d hd => ?_⟩
      have := h.fresh e he
      rw [List.mem_singleton.1 hd]
      exact Nat.ne_of_lt this
    · intro e he
      rcases List.mem_append.1 he with he | he
      · exact Nat.lt_succ_of_lt (h.fresh e he)
      · rw [List.mem_singleton.1 he]
        exact Nat.lt_succ_self _
    · intro d hd p m hdl
      rcases mem_set hd with rfl | hd
      · cases hdl
        exact ⟨s.key, List.mem_append_right _ (List.mem_singleton_self _), .refl _⟩
      · obtain ⟨k, hk, hs⟩ := h.known d hd p m hdl
        exact ⟨k, List.mem_append_left _ hk, hs⟩
    · intro e he
      rcases List.mem_append.1 he with he | he
      · exact exists_mem_set hc (by simp [task?]) (h.owed e he)
      · rw [List.mem_singleton.1 he]
        exact ⟨_, List.mem_set hi _, s.key, rfl, .refl _⟩

/-- A call takes a lock that nobody holds. -/
theorem enter (h : Exclusive x calls) {s : Source} (hc : calls[i]? = some (.waiting s n))
    (hfree : calls.any (·.holdsLock n) = false) : Exclusive x (calls.set i (.entered s n)) where
  distinct := h.distinct
  numbered := h.numbered
  fresh := h.fresh
  known d hd p m hdl := by
    rcases mem_set hd with rfl | hd
    · exact h.known _ (List.mem_of_getElem? hc) p m hdl
    · exact h.known d hd p m hdl
  single j k d e m hj hk hd he := by
    have hfree : ∀ {c : CallStage} {j : Nat}, calls[j]? = some c → ¬ c.holdsLock n = true :=
      fun hj => by simpa using List.any_eq_false.1 hfree _ (List.mem_of_getElem? hj)
    rcases getElem?_set_cases hj with ⟨rfl, rfl⟩ | ⟨-, hj'⟩ <;>
      rcases getElem?_set_cases hk with ⟨rfl, rfl⟩ | ⟨-, hk'⟩
    · rfl
    · have hnm : n = m := by simpa [holdsLock] using hd
      exact absurd (hnm ▸ he) (hfree hk')
    · have hnm : n = m := by simpa [holdsLock] using he
      exact absurd (hnm ▸ hd) (hfree hj')
    · exact h.single j k d e m hj' hk' hd he
  owed e he := exists_mem_set hc (by simp [task?]) (h.owed e he)

/-- A call that is done with the lock lets the index forget it, unless another call refers to it. -/
theorem release (h : Exclusive x calls) {s : Source} {r : Answer} (hc : calls[i]? = some (.detached s r)) :
    Exclusive (x.releaseLock s.key fun n => calls.any (·.refersTo n)) (calls.set i (.finished r)) := by
  have hlocks := h.locks_releaseLock s.key fun n => calls.any (·.refersTo n)
  have hsub : (x.locks.filter fun e => ¬ e.1.Same s.key ∨
      calls.any (·.refersTo e.2) = true).Sublist x.locks :=
    List.filter_sublist
  refine ⟨?_, ?_, ?_, ?_, h.single_set hc (by simp [holdsLock]), ?_⟩
  · rw [hlocks]
    exact h.distinct.sublist hsub
  · rw [hlocks]
    exact h.numbered.sublist hsub
  · rw [hlocks, Index.nextLock_releaseLock]
    exact fun e he => h.fresh e (hsub.subset he)
  · intro d hd p n hdl
    rcases mem_set hd with rfl | hd
    · cases hdl
    · obtain ⟨k, hk, hs⟩ := h.known d hd p n hdl
      have hrefer : calls.any (·.refersTo n) = true := List.any_eq_true.2 ⟨d, hd, refersTo_iff.2 ⟨p, hdl⟩⟩
      rw [hlocks]
      exact ⟨k, List.mem_filter.2 ⟨hk, decide_eq_true (.inr hrefer)⟩, hs⟩
  · intro e he
    rw [hlocks, List.mem_filter] at he
    obtain ⟨he, hleft⟩ := he
    rcases of_decide_eq_true hleft with hother | hrefer
    · -- The call that released its lock did not owe this one.
      refine exists_mem_set hc ?_ (h.owed e he)
      rintro ⟨p, hp, hep⟩
      cases hp
      exact absurd hep hother
    · obtain ⟨d, hd, hdr⟩ := List.any_eq_true.1 hrefer
      obtain ⟨p, hdl⟩ := refersTo_iff.1 hdr
      obtain ⟨k, hk, hkp⟩ := h.known d hd p e.2 hdl
      have hek : e = (k, e.2) := h.eq_of_number he hk rfl
      obtain ⟨d', hd', hdl'⟩ := exists_mem_set (P := fun d => d.lock? = some (p, e.2)) hc
        (fun hl => by cases hl) ⟨d, hd, hdl⟩
      exact ⟨d', hd', p, task?_of_lock? hdl', hek ▸ hkp⟩

/-- Every step of a call keeps the locks and the calls together. -/
theorem advance (h : Exclusive x calls) (hc : calls[i]? = some c) (hs : Index.Advance x fs calls c x' c') :
    Exclusive x' (calls.set i c') := by
  cases hs with
  | locate p => exact h.set hc (by simp [lock?]) (by simp [task?]) (by simp [holdsLock])
  | load key => exact h.set hc (by simp [lock?]) (by simp [task?]) (by simp [holdsLock])
  | fail key e =>
    obtain ⟨-, -, hl, hn, -⟩ := x.dropUnreadable_frame key e
    exact (h.congr hl hn).set hc (by simp [lock?]) (by simp [task?]) (by simp [holdsLock])
  | hit key s a _ => exact set (h.congr rfl rfl) hc (by simp [lock?]) (by simp [task?]) (by simp [holdsLock])
  | miss key s _ => exact set (h.congr rfl rfl) hc (by simp [lock?]) (by simp [task?]) (by simp [holdsLock])
  | refer s => exact h.refer hc
  | wait s n _ => exact h.set hc (fun _ => id) (fun _ => id) (fun _ => id)
  | enter s n hfree => exact h.enter hc hfree
  | share s n a _ => exact h.set hc (fun _ => id) (fun _ => id) (fun _ => id)
  | examine s n a _ _ =>
    obtain ⟨-, -, hl, hn, -⟩ := x.examine_frame s
    exact (h.congr hl hn).set hc (fun _ => id) (fun _ => id) (fun _ => id)
  | giveUp s n e _ _ =>
    obtain ⟨-, -, hl, hn, -⟩ := x.examine_frame s
    exact (h.congr hl hn).set hc (fun _ => id) (fun _ => id) (fun _ => id)
  | keep s n a =>
    obtain ⟨-, -, hl, hn, -⟩ := x.keep_frame s a
    exact (h.congr hl hn).set hc (fun _ => id) (fun _ => id) (fun _ => id)
  | unlock s n r => exact h.set hc (fun _ => id) (fun _ => id) (by simp [holdsLock])
  | detach s n r => exact h.set hc (by simp [lock?]) (fun _ => id) (by simp [holdsLock])
  | release s r => exact h.release hc
  | rest r => exact h.set hc (fun _ => id) (fun _ => id) (fun _ => id)

end Exclusive

namespace World
open CallStage

variable {w w' : World} {act : Action}

/-- The locks of a world and its calls belong together. -/
def IsExclusive (w : World) : Prop := Exclusive w.index w.calls

theorem IsExclusive.start (config : Config) (registry : Registry) (store : Store) (files : FileSystem) :
    (World.start (.over config registry store) files).IsExclusive where
  distinct := .nil
  numbered := .nil
  fresh := by simp [World.start, index, Index.over]
  known := by simp [World.start, calls]
  single i j c d n hi := by cases hi
  owed := by simp [World.start, index, Index.over]

theorem IsExclusive.turn (h : w.IsExclusive) (ht : Turn w act w') : w'.IsExclusive := by
  cases ht with
  | around ha =>
    have h : Exclusive w'.index w.calls := Exclusive.congr h ha.locks ha.nextLock
    unfold IsExclusive
    rcases ha.calls with hc | ⟨p, hc⟩ <;> rw [hc]
    · exact h
    · exact h.append p
  | advance i c x c' hc hs => exact Exclusive.advance h hc hs

theorem IsExclusive.run (h : w.IsExclusive) (acts : List Action) : (w.run acts).IsExclusive := by
  induction acts generalizing w with
  | nil => exact h
  | cons act acts ih => exact ih (h.turn (w.turn act))

/-- However many calls there are, for whatever files and in whatever order they and everything else
happen: at most one call is between taking and giving back the lock of a path, the index knows every lock
that a call refers to under the path it is of, and it knows none when no call is at work with one. -/
theorem run_exclusion (config : Config) (registry : Registry) (store : Store) (files : FileSystem)
    (acts : List Action) :
    let w := (World.start (.over config registry store) files).run acts
    (∀ (i j : Nat) (c d : CallStage) (p q : Path), w.calls[i]? = some c → w.calls[j]? = some d →
        c.heldKey? = some p → d.heldKey? = some q → p.Same q → i = j) ∧
      (∀ c ∈ w.calls, ∀ p n, c.lock? = some (p, n) → w.index.lockAt? p = some n) ∧
      ((∀ c ∈ w.calls, c.task? = none) → w.index.locks = []) := by
  intro w
  have h : w.IsExclusive := (IsExclusive.start config registry store files).run acts
  refine ⟨fun i j c d p q hi hj hc hd hs => ?_, fun c hc p n hl => ?_, fun hnone => ?_⟩
  · exact h.eq_of_held hi hj hc hd hs
  · obtain ⟨k, hk, hs⟩ := h.known c hc p n hl
    exact h.lockAt?_of_mem hk hs
  · refine List.eq_nil_iff_forall_not_mem.2 fun e he => ?_
    obtain ⟨c, hc, p, hp, -⟩ := h.owed e he
    rw [hnone c hc] at hp
    cases hp

end World
end SymbolIndex
