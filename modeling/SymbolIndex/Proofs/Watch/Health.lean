import SymbolIndex.Proofs.Watch.Conditions
import SymbolIndex.Proofs.Watch.Debouncing
import SymbolIndex.Proofs.Watch.Relevance

/-!
# What a watcher tells about itself

The health of a watcher is put together field by field, each time by what has just changed, and in
the middle of a step it lags behind: messages were received that are not counted yet, and paths wait
no more that are still told to. `Tallied` says how far behind it is. Each part of a step keeps that
or adds to it, whether what is told is received or not, and a step ends with nothing left
(`Tallied.step`). So health agrees with what the watcher has done after every run (`health_agrees`).
-/
namespace SymbolIndex

namespace WatchMessage

def isInvalidation : WatchMessage → Bool
  | invalidate _ => true
  | degraded .. => false

/-- The path that a message reports as degraded. -/
def degraded? : WatchMessage → Option Path
  | degraded p _ => some p
  | invalidate _ => none

end WatchMessage

namespace Debouncer

theorem pending_letGo (d : Debouncer) (due : Nat → Bool) :
    (d.letGo due).1.pending + (d.letGo due).2.length = d.pending := by
  have hall := List.length_eq_length_filter_add (l := d.deadlines) fun e => due e.2
  simp only [letGo, pending, (Path.sorted_perm _).length_eq, List.length_map]
  omega

end Debouncer

namespace Watcher
variable {c : Conditions} {p : Path} {watched : List Path} {config : Config} {given : List Path}

theorem pairwise_foldl_addDir (h : watched.Pairwise fun p q => ¬ p.Same q) (dirs : List Path) :
    (dirs.foldl addDir watched).Pairwise fun p q => ¬ p.Same q := by
  induction dirs generalizing watched with
  | nil => exact h
  | cons d dirs ih =>
    refine ih ?_
    unfold addDir
    split
    · exact h
    · rename_i hnew
      refine List.pairwise_append.2 ⟨h, List.pairwise_singleton _ _, ?_⟩
      simpa using hnew

namespace Account
variable {a : Account} {owed released : Nat}

/-- The messages that were received, in order. -/
def received (a : Account) : List WatchMessage := (a.produced.filter (·.2)).map (·.1)

/-- The paths that were reported as degraded, in order, each as often as it was. -/
def reported (a : Account) : List Path := a.produced.filterMap (·.1.degraded?)

/-- What a watcher tells about itself agrees with what it has done, but for messages that are owed, since they
were received and are not counted yet, and paths that were released and are still counted as waiting. -/
structure Tallied (owed released : Nat) (a : Account) : Prop where
  watchedDirs : a.health.watchedDirs = a.watched.length
  distinct : a.watched.Pairwise fun p q => ¬ p.Same q
  degraded : a.health.degraded = a.reported.foldl addDir []
  /-- Of the messages that were received, those that were not taken yet are the last ones. -/
  sent : a.sent <:+ a.received
  invalidations : a.health.invalidationsSent + owed = a.received.countP (·.isInvalidation)
  pending : a.isAlive = true → a.health.pendingPaths = a.debouncer.pending + released

/-! ### Parts of a step -/

theorem received_send (a : Account) (m : WatchMessage) :
    (a.send c m).1.received = a.received ++ if (a.send c m).2 then [m] else [] := by
  rw [received, send, List.filter_append, List.map_append, received]
  dsimp only
  cases a.isHeard && c.receives a.produced.length <;> rfl

theorem sent_send (a : Account) (m : WatchMessage) :
    (a.send c m).1.sent = a.sent ++ if (a.send c m).2 then [m] else [] := by
  unfold send
  dsimp only
  cases a.isHeard && c.receives a.produced.length <;> simp

theorem reported_send (a : Account) (m : WatchMessage) :
    (a.send c m).1.reported = a.reported ++ m.degraded?.toList := by
  rw [reported, send, List.filterMap_append, reported]
  cases h : m.degraded? <;> simp [h]

theorem suffix_send (h : a.sent <:+ a.received) (m : WatchMessage) :
    (a.send c m).1.sent <:+ (a.send c m).1.received := by
  rw [sent_send, received_send]
  obtain ⟨taken, htaken⟩ := h
  exact ⟨taken, by rw [← htaken, List.append_assoc]⟩

namespace Tallied

theorem markDegraded (h : a.Tallied owed released) (p : Path) (reason : String) :
    (a.markDegraded c p reason).1.Tallied owed released where
  watchedDirs := h.watchedDirs
  distinct := h.distinct
  degraded := by
    rw [Account.markDegraded, reported_send, WatchMessage.degraded?, Option.toList_some, List.foldl_append]
    exact congrArg (addDir · p) h.degraded
  sent := suffix_send h.sent _
  invalidations := by
    rw [Account.markDegraded, received_send, List.countP_append]
    split <;> exact h.invalidations
  pending := h.pending

theorem send_invalidate (h : a.Tallied owed released) (i : Invalidation) :
    (a.send c (.invalidate i)).1.Tallied (owed + (a.send c (.invalidate i)).2.toNat) released where
  watchedDirs := h.watchedDirs
  distinct := h.distinct
  degraded := by
    rw [reported_send, WatchMessage.degraded?, Option.toList_none, List.append_nil]
    exact h.degraded
  sent := suffix_send h.sent _
  invalidations := by
    rw [received_send, List.countP_append, ← h.invalidations, Nat.add_assoc]
    cases (a.send c (.invalidate i)).2 <;> rfl
  pending := h.pending

theorem each {α : Type} {f : Account → α → Account × Bool}
    (hf : ∀ a x, a.Tallied owed released → (f a x).1.Tallied owed released) (h : a.Tallied owed released)
    (xs : List α) : (each f a xs).1.Tallied owed released := by
  suffices ∀ r : Account × Bool, r.1.Tallied owed released →
      (xs.foldl (fun r x => ((f r.1 x).1, r.2 && (f r.1 x).2)) r).1.Tallied owed released from
    this (a, true) h
  induction xs with
  | nil => exact fun _ h => h
  | cons x xs ih => exact fun r h => ih _ (hf r.1 x h)

theorem markEach (h : a.Tallied owed released) (failures : List (Path × String)) :
    (a.markEach c failures).1.Tallied owed released :=
  h.each (fun _ _ h => h.markDegraded _ _) failures

theorem addTree (h : a.Tallied owed released) (start : Path) :
    (a.addTree c start).1.Tallied owed released := by
  unfold Account.addTree
  split
  · exact h
  · dsimp only
    split
    · exact h
    · refine markEach ?_ _
      exact ⟨rfl, (pairwise_foldl_addDir h.distinct _).filter _, h.degraded, h.sent, h.invalidations,
        h.pending⟩

theorem forget (h : a.Tallied owed released) (p : Path) :
    Tallied owed released ⟨a.forget p, a.produced⟩ := by
  cases hbelow : a.watchesBelow p with
  | false =>
    rw [forget_of_unwatched hbelow]
    exact h
  | true =>
    refine ⟨?_, h.distinct.filter _, h.degraded, h.sent, h.invalidations, h.pending⟩
    simp [Watcher.forget, hbelow]

theorem resolve (h : a.Tallied owed released) (p : Path) : (a.resolve c p).1.Tallied owed released := by
  unfold Account.resolve
  split
  · dsimp only
    split
    · exact (h.forget p).markDegraded ..
    · exact h.forget p
  · exact h

theorem tell (h : a.Tallied owed released) (paths : List Path) :
    (a.tell c paths).1.Tallied (owed + (a.tell c paths).2.1) released := by
  induction paths generalizing a owed with
  | nil => exact h
  | cons p ps ih =>
    have hresolve := h.resolve (c := c) p
    unfold Account.tell
    generalize a.resolve c p = r at hresolve
    obtain ⟨b, i⟩ := r
    cases i with
    | none => exact ih hresolve
    | some i =>
      have hsend := hresolve.send_invalidate (c := c) i
      dsimp only
      generalize b.send c (.invalidate i) = r at hsend
      obtain ⟨b, heard⟩ := r
      cases heard with
      | false => exact hsend
      | true =>
        show ((b.tell c ps).1).Tallied (owed + ((b.tell c ps).2.1 + 1)) released
        rw [Nat.add_comm _ 1, ← Nat.add_assoc]
        exact ih hsend

theorem shutdown (h : a.Tallied 0 0) : Tallied 0 0 ⟨a.shutdown, a.produced⟩ :=
  ⟨rfl, .nil, h.degraded, h.sent, h.invalidations, nofun⟩

theorem shutdownUnless {r : Account × Bool} (h : r.1.Tallied 0 0) : (shutdownUnless r).Tallied 0 0 := by
  unfold Account.shutdownUnless
  split
  · exact h
  · exact h.shutdown

/-- What was received is counted in the end, and what waits no more is not. -/
theorem emit (h : a.Tallied 0 released) (paths : List Path) : (a.emit c paths).Tallied 0 0 := by
  have htell := h.tell (c := c) paths
  unfold Account.emit
  generalize a.tell c paths = r at htell
  obtain ⟨b, n, heard⟩ := r
  have hcount := htell.invalidations
  rw [Nat.zero_add] at hcount
  exact shutdownUnless ⟨htell.watchedDirs, htell.distinct, htell.degraded, htell.sent, hcount, fun _ => rfl⟩

theorem letGo (h : a.Tallied 0 0) (due : Nat → Bool) :
    Tallied 0 (a.debouncer.letGo due).2.length { a with debouncer := (a.debouncer.letGo due).1 } where
  watchedDirs := h.watchedDirs
  distinct := h.distinct
  degraded := h.degraded
  sent := h.sent
  invalidations := h.invalidations
  pending halive := (h.pending halive).trans (a.debouncer.pending_letGo due).symm

/-- Paths that are recorded are counted at once. -/
theorem record (h : a.Tallied 0 0) (now : Nat) (paths : List Path) :
    Tallied 0 0 ⟨a.record now paths, a.produced⟩ := by
  unfold Watcher.record
  dsimp only
  split
  · exact h
  · exact ⟨h.watchedDirs, h.distinct, h.degraded, h.sent, h.invalidations, fun _ => rfl⟩

theorem notify (h : a.Tallied 0 0) (now : Nat) (n : Notification) : (a.notify c now n).Tallied 0 0 := by
  unfold Account.notify
  split
  · exact h
  · split
    · exact h
    · exact h.record now _
    · rename_i paths
      have hadd := h.each (f := Account.addTree c) (fun _ _ h => h.addTree _) (paths.filter (a.isNewDir c.fs))
      exact shutdownUnless (hadd.record now paths)
    · rename_i text paths
      have hnoted : Tallied 0 0
          { a with health := { a.health with lastError := some (faultText text paths) } } :=
        ⟨h.watchedDirs, h.distinct, h.degraded, h.sent, h.invalidations, h.pending⟩
      exact shutdownUnless (hnoted.markEach _)

theorem expire (h : a.Tallied 0 0) (now : Nat) : (a.expire c now).Tallied 0 0 := by
  unfold Account.expire
  rw [Debouncer.takeDue_eq]
  split
  · exact h
  · exact (h.letGo (· ≤ now)).emit _

theorem flush (h : a.Tallied 0 0) : (a.flush c).Tallied 0 0 := by
  unfold Account.flush
  rw [Debouncer.drain_eq]
  split
  · exact h
  · exact (h.letGo fun _ => true).emit _

/-! ### Steps and runs -/

theorem step (h : a.Tallied 0 0) (action : Action) : (a.step c action).Tallied 0 0 := by
  cases action with
  | notify now n => exact h.notify now n
  | expire now => exact h.expire now
  | flush => exact h.flush
  | stop =>
    unfold Account.step Watcher.stop
    dsimp only
    split
    · exact h.shutdown
    · exact h
  | unheard => exact ⟨h.watchedDirs, h.distinct, h.degraded, h.sent, h.invalidations, h.pending⟩
  | takeSent => exact ⟨h.watchedDirs, h.distinct, h.degraded, List.nil_suffix, h.invalidations, h.pending⟩

theorem run (h : a.Tallied 0 0) (steps : List (Conditions × Action)) : (a.run steps).Tallied 0 0 := by
  induction steps generalizing a with
  | nil => exact h
  | cons s steps ih => exact ih (h.step s.2)

theorem start (h : start c config given = .ok a) : a.Tallied 0 0 := by
  unfold Account.start at h
  split at h
  · cases h
  · split at h
    · cases h
    · cases h
    · cases h
      refine markEach ?_ _
      exact ⟨rfl, pairwise_foldl_addDir .nil _, rfl, List.nil_suffix, rfl, fun _ => rfl⟩

end Tallied

theorem mem_reported (a : Account) (p : Path) :
    p ∈ a.reported ↔ ∃ reason heard, (.degraded p reason, heard) ∈ a.produced := by
  rw [reported, List.mem_filterMap]
  constructor
  · rintro ⟨⟨m, heard⟩, hm, hp⟩
    cases m with
    | invalidate i => cases hp
    | degraded q reason =>
      cases hp
      exact ⟨reason, heard, hm⟩
  · rintro ⟨reason, heard, hm⟩
    exact ⟨_, hm, rfl⟩

end Account

/-- Whatever a watcher meets, what it tells about itself agrees with what it has done after each
step: how many directories it watches, as long as it is alive how many paths wait, how many of its
messages about changes were received, and all the paths that it reported as degraded, each once,
whether that was received or not. A watcher without an account takes the steps that one with an
account takes under fair conditions. -/
theorem health_agrees (config : Config) (given : List Path) :
    (∀ (c : Conditions) (a : Account) (steps : List (Conditions × Action)),
      Account.start c config given = .ok a →
      let b := a.run steps
      b.health.watchedDirs = b.watched.length ∧ (b.watched.Pairwise fun p q => ¬ p.Same q) ∧
      (b.isAlive = true → b.health.pendingPaths = b.debouncer.pending) ∧
      b.health.invalidationsSent = b.received.countP (·.isInvalidation) ∧ b.sent <:+ b.received ∧
      (b.health.degraded.Pairwise fun p q => ¬ p.Same q) ∧
      ∀ p, (∃ q ∈ b.health.degraded, q.Same p) ↔
        ∃ q reason heard, (.degraded q reason, heard) ∈ b.produced ∧ q.Same p) ∧
    ∀ (fs : FileSystem) (w : Watcher) (steps : List (FileSystem × Action)),
      Watcher.start config fs given = .ok w →
      ∃ a, Account.start (.fair fs) config given = .ok a ∧
        (a.run (steps.map fun s => (.fair s.1, s.2))).toWatcher = w.run steps := by
  refine ⟨fun c a steps hstart => ?_, fun fs w steps hstart => ?_⟩
  · have h := (Account.Tallied.start hstart).run steps
    refine ⟨h.watchedDirs, h.distinct, h.pending, h.invalidations, h.sent, ?_, fun p => ?_⟩
    · rw [h.degraded]
      exact pairwise_foldl_addDir .nil _
    · have hany := any_foldl_addDir [] (a.run steps).reported p
      rw [← h.degraded, List.any_nil, Bool.false_or, Bool.eq_iff_iff, List.any_eq_true,
        List.any_eq_true] at hany
      simpa only [decide_eq_true_eq, Account.mem_reported, ← exists_and_right] using hany
  · rw [← Account.start_fair] at hstart
    cases ha : Account.start (.fair fs) config given with
    | error e =>
      rw [ha] at hstart
      cases hstart
    | ok a =>
      rw [ha] at hstart
      cases hstart
      exact ⟨a, rfl, a.run_fair steps⟩

end Watcher

/-! ### A root that is refused -/

namespace Refusal
open Watcher (Account Conditions)

def root : Path := ⟨"/repo"⟩

/-- An empty directory. -/
def files : FileSystem := ⟨.directory [("repo", .directory [])], []⟩

/-- The directory cannot be watched, and after two messages nobody receives any. -/
def conditions : Conditions where
  fs := files
  refusal? p := if p.Same root then some "no space left" else none
  receives n := n < 2

def account : Account where
  config := .standard
  roots := [root]
  watched := []
  debouncer := .new Config.standard.debounceMs
  health := ⟨[root], 0, [root], 0, 0, some (IndexError.watchDegraded root "no space left").message, false⟩
  isHeard := true
  isAlive := true
  sent := [.degraded root "no space left"]
  produced := [(.degraded root "no space left", true)]

theorem resolve_eq (follow : Bool) : files.resolve follow root = .ok (["repo"], .directory []) := by
  cases follow <;> exact FileSystem.resolve_of_resolveIn 9 rfl

theorem rootsAt_eq : Watcher.rootsAt files [root] = ([root], []) := by
  have hroot : files.IsRoot root := FileSystem.isRoot_of_resolve (resolve_eq true) rfl
  exact Watcher.rootsAt_eq (List.forall_mem_singleton.2 hroot) (List.pairwise_singleton ..)
    (List.pairwise_singleton ..)

theorem watchListBelow_eq : files.watchListBelow root root = [root] := by
  have hdash : ¬ root.Same ⟨"-"⟩ := by decide +kernel
  have hwatch : root.isWatchableBelow root = true := by decide +kernel
  simp [FileSystem.watchListBelow, Walk.run, hdash, resolve_eq, Walk.node, Walk.entries, hwatch,
    FileNode.isDirectory]

theorem start_eq : Account.start conditions .standard [root] = .ok account := by
  have hfs : conditions.fs = files := rfl
  have hrefused : conditions.refusal? root = some "no space left" := by decide +kernel
  unfold Account.start
  rw [hfs, rootsAt_eq]
  simp [watchListBelow_eq, Conditions.refusals, hrefused]
  rfl

/-- A file has changed, and then there is a fault with the root again and with another path. -/
def steps : List (Conditions × Watcher.Action) :=
  [(conditions, .notify 0 (.event .other [⟨"/repo/a.py"⟩])),
    (conditions, .notify 1 (.fault "overflow" [⟨"/repo/"⟩, ⟨"/tmp"⟩]))]

/-- The root is reported twice and the other path once, and that is not received. -/
theorem health_agrees_refused :
    let a := account.run (steps.take 1)
    let b := account.run steps
    Account.start conditions .standard [root] = .ok account ∧
      (a.isAlive = true ∧ a.health.pendingPaths = 1) ∧
      (b.isAlive = false ∧ b.health.watchedDirs = 0 ∧ b.health.invalidationsSent = 0 ∧
        b.produced.map (·.2) = [true, true, false] ∧ b.health.degraded = [root, ⟨"/tmp"⟩] ∧
        ∃ q ∈ b.health.degraded, q.Same ⟨"/tmp"⟩) ∧
      ∃ w a, Watcher.start .standard files [root] = .ok w ∧
        Account.start (.fair files) .standard [root] = .ok a ∧
        (a.run [(.fair files, .flush)]).toWatcher = w.run [(files, .flush)] := by
  intro a b
  obtain ⟨hagrees, hfair⟩ := Watcher.health_agrees .standard [root]
  have hwaits : a.isAlive = true := by decide +kernel
  obtain ⟨-, -, hpending, -⟩ := hagrees conditions account (steps.take 1) start_eq
  obtain ⟨hdirs, -, -, hsent, -, -, hdegraded⟩ := hagrees conditions account steps start_eq
  refine ⟨start_eq, ⟨hwaits, (hpending hwaits).trans (by decide +kernel)⟩,
    ⟨by decide +kernel, ?_, ?_, ?_, ?_, ?_⟩, ?_⟩
  · exact hdirs.trans (by decide +kernel)
  · exact hsent.trans (by decide +kernel)
  · decide +kernel
  · decide +kernel
  · obtain ⟨reason, heard, htold⟩ := (Account.mem_reported b ⟨"/tmp"⟩).1 (by decide +kernel)
    exact (hdegraded ⟨"/tmp"⟩).2 ⟨_, reason, heard, htold, Path.Same.refl _⟩
  · obtain ⟨w, hw⟩ := Watcher.exists_start .standard (List.cons_ne_nil root []) rootsAt_eq
    obtain ⟨a, ha, hrun⟩ := hfair files w [(files, .flush)] hw
    exact ⟨w, a, hw, ha, hrun⟩

end Refusal
end SymbolIndex
