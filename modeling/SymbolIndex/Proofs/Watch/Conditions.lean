import SymbolIndex.Proofs.Watch.Growth
import SymbolIndex.Proofs.Watch.Vanishing

/-!
# Watchers that are refused

A watcher may be refused a directory that it is about to watch, and the receiver of its messages may
go away in the middle of a step. An account follows a watcher under such conditions, with all the
messages that the watcher has produced. Under fair conditions, where no directory is refused and each
message is received as long as anybody receives messages, it comes to what the watcher comes to
(`start_fair`, `run_fair`).
-/
namespace SymbolIndex
namespace Watcher

/-- What a watcher meets while it takes a step. -/
structure Conditions where
  fs : FileSystem
  /-- Why a directory cannot be watched, if it cannot. -/
  refusal? : Path → Option String
  /-- Whether a message is received that comes after so many others. -/
  receives : Nat → Bool

namespace Conditions

/-- All directories can be watched, and all messages are received. -/
def fair (fs : FileSystem) : Conditions := ⟨fs, fun _ => none, fun _ => true⟩

/-- The directories that cannot be watched among some, and why. -/
def refusals (c : Conditions) (dirs : List Path) : List (Path × String) :=
  dirs.filterMap fun dir => (c.refusal? dir).map (dir, ·)

@[simp] theorem fs_fair (fs : FileSystem) : (fair fs).fs = fs := rfl

@[simp] theorem refusals_fair (fs : FileSystem) (dirs : List Path) : (fair fs).refusals dirs = [] :=
  List.filterMap_eq_nil_iff.2 fun _ _ => rfl

end Conditions

/-- What makes a watcher take a step. -/
inductive Action
  | notify (now : Nat) (n : Notification)
  | expire (now : Nat)
  | flush
  | stop
  | unheard
  | takeSent

def step (w : Watcher) (fs : FileSystem) : Action → Watcher
  | .notify now n => w.notify fs now n
  | .expire now => w.expire fs now
  | .flush => w.flush fs
  | .stop => w.stop
  | .unheard => w.unheard
  | .takeSent => w.takeSent.1

/-- Takes one step after the other, each with the files that are there then. -/
def run (w : Watcher) (steps : List (FileSystem × Action)) : Watcher :=
  steps.foldl (fun w s => w.step s.1 s.2) w

/-- A watcher with all the messages that it has produced, and whether they were received. -/
structure Account extends Watcher where
  produced : List (WatchMessage × Bool)

namespace Account

/-! ### What a watcher does, with an account -/

/-- Sends a message, and tells whether it is received. -/
def send (c : Conditions) (a : Account) (m : WatchMessage) : Account × Bool :=
  let heard := a.isHeard && c.receives a.produced.length
  ({ a with
      sent := if heard then a.sent ++ [m] else a.sent
      produced := a.produced ++ [(m, heard)] }, heard)

def markDegraded (c : Conditions) (a : Account) (p : Path) (reason : String) : Account × Bool :=
  send c ⟨a.recordDegraded p reason, a.produced⟩ (.degraded p reason)

/-- Does something for one after the other, and tells whether all that was told was received. -/
def each {α : Type} (f : Account → α → Account × Bool) (a : Account) (xs : List α) : Account × Bool :=
  xs.foldl (fun (a, heard) x =>
    let (a, h) := f a x
    (a, heard && h)) (a, true)

/-- Marks some paths as no longer watched as they should be, each for a reason of its own. -/
def markEach (c : Conditions) : Account → List (Path × String) → Account × Bool :=
  each fun a failure => a.markDegraded c failure.1 failure.2

/-- Watches a directory and those below it. Those that are refused are marked. -/
def addTree (c : Conditions) (a : Account) (start : Path) : Account × Bool :=
  match a.roots.find? (·.isUnder start) with
  | none => (a, true)
  | some root =>
    let found := (c.fs.watchListBelow root start).foldl addDir a.watched
    if found.length = a.watched.length then (a, true)
    else
      let failures := c.refusals (found.drop a.watched.length)
      let watched := found.filter fun dir => !failures.any (·.1.Same dir)
      markEach c { a with
        watched := watched
        health := { a.health with watchedDirs := watched.length } } failures

def shutdownUnless (r : Account × Bool) : Account :=
  if r.2 then r.1 else ⟨r.1.shutdown, r.1.produced⟩

def notify (c : Conditions) (a : Account) (now : Nat) (n : Notification) : Account :=
  if !a.isAlive then a
  else
    match n with
    | .event .accessed _ => a
    | .event .other paths => ⟨a.record now paths, a.produced⟩
    | .event .changed paths =>
      let (b, heard) := each (addTree c) a (paths.filter (a.isNewDir c.fs))
      shutdownUnless (⟨b.record now paths, b.produced⟩, heard)
    | .fault text paths =>
      let reason := faultText text paths
      shutdownUnless (markEach c { a with health := { a.health with lastError := some reason } }
        (paths.map (·, reason)))

/-- What has become of a path, unless it is a directory. Only if it is gone, the look changes anything. -/
def resolve (c : Conditions) (a : Account) (p : Path) : Account × Option Invalidation :=
  match c.fs.node p with
  | .error .notFound =>
    let b : Account := ⟨a.forget p, a.produced⟩
    (if a.watchesBelow p && a.roots.any (·.Same p) then (b.markDegraded c p rootRemovedText).1 else b,
      some (a.goneAs p))
  | _ => (a, (a.toWatcher.resolve c.fs p).2)

def tell (c : Conditions) (a : Account) : List Path → Account × Nat × Bool
  | [] => (a, 0, true)
  | p :: ps =>
    match a.resolve c p with
    | (a, none) => tell c a ps
    | (a, some i) =>
      match a.send c (.invalidate i) with
      | (a, false) => (a, 0, false)
      | (a, true) =>
        let (a, n, heard) := tell c a ps
        (a, n + 1, heard)

def emit (c : Conditions) (a : Account) (paths : List Path) : Account :=
  let (a, n, heard) := a.tell c paths
  shutdownUnless ({ a with health := { a.health with
    invalidationsSent := a.health.invalidationsSent + n
    pendingPaths := a.debouncer.pending } }, heard)

def expire (c : Conditions) (a : Account) (now : Nat) : Account :=
  if !a.isAlive then a
  else
    let (debouncer, due) := a.debouncer.takeDue now
    emit c { a with debouncer := debouncer } due

def flush (c : Conditions) (a : Account) : Account :=
  if !a.isAlive then a
  else
    let (debouncer, due) := a.debouncer.drain
    emit c { a with debouncer := debouncer } due

def step (c : Conditions) (a : Account) : Action → Account
  | .notify now n => a.notify c now n
  | .expire now => a.expire c now
  | .flush => a.flush c
  | .stop => ⟨a.stop, a.produced⟩
  | .unheard => ⟨a.unheard, a.produced⟩
  | .takeSent => ⟨a.takeSent.1, a.produced⟩

/-- Takes one step after the other, each under the conditions that there are then. -/
def run (a : Account) (steps : List (Conditions × Action)) : Account :=
  steps.foldl (fun a s => a.step s.1 s.2) a

/-- Starts to watch some roots. What is refused is marked, after the roots that cannot be watched. -/
def start (c : Conditions) (config : Config) (roots : List Path) : Except IndexError Account :=
  if roots.isEmpty then .error (.invalidConfig "no watch roots configured")
  else
    match rootsAt c.fs roots with
    | ([], []) => .error (.watchDegraded ⟨""⟩ "no watchable roots")
    | ([], (p, reason) :: _) => .error (.watchDegraded p reason)
    | (roots, failures) =>
      let dirs := roots.flatMap fun root => c.fs.watchListBelow root root
      let watched := (dirs.filter fun dir => (c.refusal? dir).isNone).foldl addDir []
      let w : Watcher :=
        { config, roots, watched
          debouncer := .new config.debounceMs
          health := .new roots watched.length
          isHeard := true
          isAlive := true
          sent := [] }
      .ok (markEach c ⟨w, []⟩ (failures ++ c.refusals dirs)).1

/-! ### Fair conditions -/

variable {fs : FileSystem} {β : Type}

/-- The result for the watcher. -/
def outcome (r : Account × β) : Watcher × β := (r.1.toWatcher, r.2)

theorem send_fair (a : Account) (m : WatchMessage) :
    outcome (a.send (.fair fs) m) = a.toWatcher.send m := by
  obtain ⟨⟨config, roots, watched, debouncer, health, isHeard, isAlive, sent⟩, produced⟩ := a
  cases isHeard <;> rfl

theorem markDegraded_fair (a : Account) (p : Path) (reason : String) :
    outcome (a.markDegraded (.fair fs) p reason) = a.toWatcher.markDegraded p reason :=
  send_fair _ _

theorem outcome_each {α : Type} {f : Account → α → Account × Bool} (g : Watcher → α → Watcher × Bool)
    (h : ∀ a x, outcome (f a x) = g a.toWatcher x) (a : Account) (xs : List α) :
    outcome (each f a xs) = xs.foldl (fun (w, heard) x =>
      let (w, h) := g w x
      (w, heard && h)) (a.toWatcher, true) := by
  refine (List.foldl_hom outcome fun r x => ?_).symm
  simp only [outcome, ← h]

theorem markEach_fair (a : Account) (failures : List (Path × String)) :
    outcome (a.markEach (.fair fs) failures) = failures.foldl (fun (w, heard) failure =>
      let (w, h) := w.markDegraded failure.1 failure.2
      (w, heard && h)) (a.toWatcher, true) :=
  outcome_each (fun w (failure : Path × String) => w.markDegraded failure.1 failure.2)
    (fun a failure => markDegraded_fair a failure.1 failure.2) a failures

theorem addTree_fair (a : Account) (start : Path) :
    outcome (a.addTree (.fair fs) start) = (a.toWatcher.addTree fs start, true) := by
  unfold addTree Watcher.addTree
  cases a.roots.find? (·.isUnder start) with
  | none => rfl
  | some root =>
    simp only [Conditions.fs_fair, Conditions.refusals_fair, List.any_nil, Bool.not_false, List.filter_true]
    by_cases hold : ((fs.watchListBelow root start).foldl addDir a.watched).length = a.watched.length
    · rw [if_pos hold, if_pos hold]
      rfl
    · rw [if_neg hold, if_neg hold]
      rfl

theorem addTrees_fair (a : Account) (dirs : List Path) :
    outcome (each (addTree (.fair fs)) a dirs) = (dirs.foldl (·.addTree fs ·) a.toWatcher, true) := by
  rw [outcome_each (fun w dir => (w.addTree fs dir, true)) addTree_fair]
  exact List.foldl_hom (·, true) fun _ _ => rfl

theorem shutdownUnless_fair (r : Account × Bool) :
    (shutdownUnless r).toWatcher = Watcher.shutdownUnless (outcome r) := by
  unfold shutdownUnless Watcher.shutdownUnless outcome
  split <;> rfl

theorem notify_fair (a : Account) (now : Nat) (n : Notification) :
    (a.notify (.fair fs) now n).toWatcher = a.toWatcher.notify fs now n := by
  unfold notify Watcher.notify
  cases a.isAlive with
  | false => rfl
  | true =>
    simp only [Bool.not_true, Bool.false_eq_true, if_false]
    cases n with
    | fault text paths =>
      rw [shutdownUnless_fair, markEach_fair, List.foldl_map]
      rfl
    | event kind paths =>
      cases kind with
      | accessed => rfl
      | other => rfl
      | changed =>
        -- As no directory is refused, nothing is told, and so all of it is received.
        have hadd : outcome (each (addTree (.fair fs)) a (paths.filter (a.isNewDir fs))) = _ :=
          addTrees_fair a _
        simp only [Conditions.fs_fair]
        generalize each (addTree (.fair fs)) a (paths.filter (a.isNewDir fs)) = r at hadd ⊢
        obtain ⟨b, heard⟩ := r
        obtain ⟨hb, rfl⟩ := Prod.mk.inj hadd
        rw [← hb]
        rfl

/-- A look at a path that is not gone changes nothing. -/
theorem resolve_fst (w : Watcher) {p : Path} (h : fs.node p ≠ .error .notFound) : (w.resolve fs p).1 = w := by
  unfold Watcher.resolve
  split
  · split
    · rfl
    · split <;> rfl
  · rename_i fault hfault
    have hne : fault ≠ .notFound := fun heq => h (heq ▸ hfault)
    rw [if_pos hne]

theorem resolve_fair (a : Account) (p : Path) :
    outcome (a.resolve (.fair fs) p) = a.toWatcher.resolve fs p := by
  unfold resolve
  rw [Conditions.fs_fair]
  split
  · rename_i hgone
    rw [resolve_of_gone hgone]
    split
    · exact congrArg (·.1, _) (markDegraded_fair _ p rootRemovedText)
    · rfl
  · rename_i hthere
    exact Prod.ext (resolve_fst a.toWatcher hthere).symm rfl

theorem tell_fair (a : Account) (paths : List Path) :
    outcome (a.tell (.fair fs) paths) = a.toWatcher.tell fs paths := by
  induction paths generalizing a with
  | nil => rfl
  | cons p ps ih =>
    unfold tell Watcher.tell
    rw [← resolve_fair]
    generalize a.resolve (.fair fs) p = r
    obtain ⟨b, i⟩ := r
    cases i with
    | none => exact ih b
    | some i =>
      have hsend : outcome (b.send (.fair fs) (.invalidate i)) = _ := send_fair b _
      simp only [outcome] at hsend ⊢
      rw [← hsend]
      generalize b.send (.fair fs) (.invalidate i) = r
      obtain ⟨b, heard⟩ := r
      cases heard with
      | false => rfl
      | true => simp only [← ih, outcome]

theorem emit_fair (a : Account) (paths : List Path) :
    (a.emit (.fair fs) paths).toWatcher = a.toWatcher.emit fs paths := by
  unfold emit Watcher.emit
  rw [← tell_fair]
  exact shutdownUnless_fair _

theorem expire_fair (a : Account) (now : Nat) :
    (a.expire (.fair fs) now).toWatcher = a.toWatcher.expire fs now := by
  unfold expire Watcher.expire
  cases a.isAlive with
  | false => rfl
  | true => exact emit_fair _ _

theorem flush_fair (a : Account) : (a.flush (.fair fs)).toWatcher = a.toWatcher.flush fs := by
  unfold flush Watcher.flush
  cases a.isAlive with
  | false => rfl
  | true => exact emit_fair _ _

/-- Under fair conditions, a watcher takes each step as it does without an account. -/
theorem step_fair (a : Account) (action : Action) :
    (a.step (.fair fs) action).toWatcher = a.toWatcher.step fs action := by
  cases action with
  | notify now n => exact notify_fair a now n
  | expire now => exact expire_fair a now
  | flush => exact flush_fair a
  | _ => rfl

theorem run_fair (a : Account) (steps : List (FileSystem × Action)) :
    (a.run (steps.map fun s => (.fair s.1, s.2))).toWatcher = a.toWatcher.run steps := by
  rw [run, List.foldl_map]
  have hstep (a : Account) (s : FileSystem × Action) :
      a.toWatcher.step s.1 s.2 = (a.step (.fair s.1) s.2).toWatcher := (step_fair a s.2).symm
  exact (List.foldl_hom toWatcher hstep).symm

theorem start_fair (config : Config) (roots : List Path) :
    (start (.fair fs) config roots).map toWatcher = Watcher.start config fs roots := by
  unfold start Watcher.start
  rw [Conditions.fs_fair]
  generalize rootsAt fs roots = r
  split
  · rfl
  · obtain ⟨roots, failures⟩ := r
    cases roots with
    | nil => cases failures <;> rfl
    | cons root roots =>
      have hgranted : (fun dir => ((Conditions.fair fs).refusal? dir).isNone) = fun _ => true := rfl
      simp only [Except.map, Conditions.refusals_fair, List.append_nil, hgranted, List.filter_true]
      refine congrArg Except.ok ((congrArg Prod.fst (markEach_fair _ failures)).trans ?_)
      exact (List.foldl_hom Prod.fst fun _ _ => rfl).symm

end Account
end Watcher
end SymbolIndex
