import SymbolIndex.Config.Basic
import SymbolIndex.Scan
import SymbolIndex.Watch.Debouncer
import SymbolIndex.Watch.Message
import SymbolIndex.Watch.Notification

/-!
# Watchers

A watcher follows what the file system notifies it of in the directories it watches. It records the
paths that matter until they have been quiet for some time, and then tells what has become of each. New
directories are watched as they appear, with those below them, and directories that are gone are
forgotten. A watcher stops when nobody receives its messages any more.
-/
namespace SymbolIndex

/-- What a watcher tells about itself. -/
structure WatchHealth where
  roots : List Path
  watchedDirs : Nat
  /-- The paths that are no longer watched as they should be. -/
  degraded : List Path
  pendingPaths : Nat
  invalidationsSent : Nat
  lastError : Option String
  /-- Whether a path was ever recorded. -/
  hasLastEvent : Bool
  deriving DecidableEq, Repr, Inhabited

namespace WatchHealth

def new (roots : List Path) (watchedDirs : Nat) : WatchHealth :=
  ⟨roots, watchedDirs, [], 0, 0, none, false⟩

end WatchHealth

structure Watcher where
  config : Config
  roots : List Path
  /-- The directories that are watched. -/
  watched : List Path
  debouncer : Debouncer
  health : WatchHealth
  /-- Whether anybody receives messages. -/
  isHeard : Bool
  isAlive : Bool
  /-- The messages that were received, in order. -/
  sent : List WatchMessage
  deriving Inhabited

namespace Watcher

/-- Sends a message, and tells whether it is received. -/
def send (w : Watcher) (m : WatchMessage) : Watcher × Bool :=
  if w.isHeard then ({ w with sent := w.sent ++ [m] }, true) else (w, false)

/-- Whether a directory is watched. -/
def isWatching (w : Watcher) (dir : Path) : Bool := w.watched.any (·.Same dir)

/-- Notes that a path is no longer watched as it should be. -/
def recordDegraded (w : Watcher) (p : Path) (reason : String) : Watcher :=
  let degraded := w.health.degraded
  { w with health := { w.health with
      degraded := if degraded.any (·.Same p) then degraded else degraded ++ [p]
      lastError := some (IndexError.watchDegraded p reason).message } }

/-- Notes that a path is no longer watched as it should be, and tells it. -/
def markDegraded (w : Watcher) (p : Path) (reason : String) : Watcher × Bool :=
  (w.recordDegraded p reason).send (.degraded p reason)

/-- Adds a directory to some unless it is among them. -/
def addDir (watched : List Path) (dir : Path) : List Path :=
  if watched.any (·.Same dir) then watched else watched ++ [dir]

/-- Whether a path is a new directory that is to be watched. -/
def isNewDir (w : Watcher) (fs : FileSystem) (p : Path) : Bool :=
  !w.isWatching p && fs.isDirectory p && w.roots.any fun root => root.isUnder p && root.isWatchableBelow p

/-- Watches a directory and those below it, as far as they are to be watched below its root. -/
def addTree (w : Watcher) (fs : FileSystem) (start : Path) : Watcher :=
  match w.roots.find? (·.isUnder start) with
  | none => w
  | some root =>
    let watched := (fs.watchListBelow root start).foldl addDir w.watched
    if watched.length = w.watched.length then w
    else { w with watched := watched, health := { w.health with watchedDirs := watched.length } }

/-- Forgets a directory and those below it, and tells whether any of them was watched. -/
def forgetTree (w : Watcher) (dir : Path) : Watcher × Bool :=
  if w.watched.any dir.isUnder then
    let watched := w.watched.filter (!dir.isUnder ·)
    ({ w with watched := watched, health := { w.health with watchedDirs := watched.length } }, true)
  else (w, false)

/-- Lets the paths that matter wait from now on. -/
def record (w : Watcher) (now : Nat) (paths : List Path) : Watcher :=
  let relevant := paths.filter (Path.isRelevant w.roots)
  if relevant.isEmpty then w
  else
    let debouncer := relevant.foldl (fun d p => (d.record p now).1) w.debouncer
    { w with
      debouncer := debouncer
      health := { w.health with pendingPaths := debouncer.pending, hasLastEvent := true } }

/-- Stops watching. -/
def shutdown (w : Watcher) : Watcher :=
  { w with
    isAlive := false
    watched := []
    health := { w.health with watchedDirs := 0, pendingPaths := 0 } }

/-- Stops watching unless messages are still received. -/
def shutdownUnless (r : Watcher × Bool) : Watcher := if r.2 then r.1 else r.1.shutdown

/-- The text of a failure with its paths. -/
def faultText (text : String) (paths : List Path) : String :=
  if paths.isEmpty then text
  else text ++ " about [" ++ ", ".intercalate (paths.map fun p => Text.quoted p.text) ++ "]"

/-- Marks some paths as no longer watched as they should be, and tells whether all of it is received. -/
def markAll (w : Watcher) (reason : String) (paths : List Path) : Watcher × Bool :=
  paths.foldl (fun (w, heard) p =>
    let (w, h) := w.markDegraded p reason
    (w, heard && h)) (w, true)

/-- Follows a notification at a time. -/
def notify (w : Watcher) (fs : FileSystem) (now : Nat) (n : Notification) : Watcher :=
  if !w.isAlive then w
  else
    match n with
    | .event .accessed _ => w
    | .event .other paths => w.record now paths
    | .event .changed paths => ((paths.filter (w.isNewDir fs)).foldl (·.addTree fs ·) w).record now paths
    | .fault text paths =>
      let reason := faultText text paths
      shutdownUnless
        (markAll { w with health := { w.health with lastError := some reason } } reason paths)

/-- What has become of a file that was there. -/
def fingerprintFile (config : Config) (fs : FileSystem) (p : Path) : Invalidation :=
  match fs.read p with
  | .content bytes =>
    if config.maxSourceBytes < bytes.size then .changed p none
    else .changed p (some (.ofBytes bytes))
  | .fault fault => if fault = .notFound then .removed p else .changed p none
  | .stalled => .changed p none

/-- Why a root is degraded that is gone. -/
def rootRemovedText : String := "watched root was removed"

/-- What has become of a path, unless it is a directory. If it is gone, it is no longer watched. -/
def resolve (w : Watcher) (fs : FileSystem) (p : Path) : Watcher × Option Invalidation :=
  match fs.node p with
  | .ok n =>
    if n.isDirectory then (w, none)
    else if w.config.maxSourceBytes < n.size then (w, some (.changed p none))
    else (w, some (fingerprintFile w.config fs p))
  | .error fault =>
    if fault ≠ .notFound then (w, some (.changed p none))
    else
      match w.forgetTree p with
      | (w, false) => (w, some (.removed p))
      | (w, true) =>
        let w := if w.roots.any (·.Same p) then (w.markDegraded p rootRemovedText).1 else w
        (w, some (.removedTree p))

/-- Tells what has become of some paths, as long as it is received. The second part of the result is
how many messages were received, and the last whether all were. -/
def tell (w : Watcher) (fs : FileSystem) : List Path → Watcher × Nat × Bool
  | [] => (w, 0, true)
  | p :: ps =>
    match w.resolve fs p with
    | (w, none) => tell w fs ps
    | (w, some i) =>
      match w.send (.invalidate i) with
      | (w, false) => (w, 0, false)
      | (w, true) =>
        let (w, n, heard) := tell w fs ps
        (w, n + 1, heard)

/-- Tells what has become of paths that wait no more, and stops if that is not received. -/
def emit (w : Watcher) (fs : FileSystem) (paths : List Path) : Watcher :=
  let (w, n, heard) := w.tell fs paths
  shutdownUnless ({ w with health := { w.health with
    invalidationsSent := w.health.invalidationsSent + n
    pendingPaths := w.debouncer.pending } }, heard)

/-- Tells what has become of the paths whose waits are over. -/
def expire (w : Watcher) (fs : FileSystem) (now : Nat) : Watcher :=
  if !w.isAlive then w
  else
    let (debouncer, due) := w.debouncer.takeDue now
    emit { w with debouncer := debouncer } fs due

/-- Tells what has become of all paths that wait. -/
def flush (w : Watcher) (fs : FileSystem) : Watcher :=
  if !w.isAlive then w
  else
    let (debouncer, due) := w.debouncer.drain
    emit { w with debouncer := debouncer } fs due

/-- Stops watching on demand. -/
def stop (w : Watcher) : Watcher := if w.isAlive then w.shutdown else w

/-- The receiver of messages goes away. -/
def unheard (w : Watcher) : Watcher := { w with isHeard := false }

/-- Takes the messages that were received. -/
def takeSent (w : Watcher) : Watcher × List WatchMessage := ({ w with sent := [] }, w.sent)

/-- What is found at a root: a directory by its canonical path, or why it cannot be watched. -/
def rootAt (fs : FileSystem) (root : Path) : Except (Path × String) Path :=
  match fs.canonical root with
  | .error fault => .error (root, fault.text)
  | .ok p => if fs.isDirectory p then .ok p else .error (p, "not a directory")

/-- Paths without those that are the same as the one before. -/
def withoutRepeats : List Path → List Path
  | p :: q :: ps => if p.Same q then withoutRepeats (p :: ps) else p :: withoutRepeats (q :: ps)
  | ps => ps

/-- The roots that can be watched, in order, and why the others cannot. -/
def rootsAt (fs : FileSystem) (roots : List Path) : List Path × List (Path × String) :=
  let found := roots.map (rootAt fs)
  (withoutRepeats (Path.sorted (found.filterMap fun
      | .ok p => some p
      | .error _ => none)),
    found.filterMap fun
      | .ok _ => none
      | .error e => some e)

/-- Starts to watch some roots. It fails only if none of them can be watched. -/
def start (config : Config) (fs : FileSystem) (roots : List Path) : Except IndexError Watcher :=
  if roots.isEmpty then .error (.invalidConfig "no watch roots configured")
  else
    match rootsAt fs roots with
    | ([], []) => .error (.watchDegraded ⟨""⟩ "no watchable roots")
    | ([], (p, reason) :: _) => .error (.watchDegraded p reason)
    | (roots, failures) =>
      let watched := (roots.flatMap fun root => fs.watchListBelow root root).foldl addDir []
      let w : Watcher :=
        { config, roots, watched
          debouncer := .new config.debounceMs
          health := .new roots watched.length
          isHeard := true
          isAlive := true
          sent := [] }
      .ok (failures.foldl (fun w f => (w.markDegraded f.1 f.2).1) w)

end Watcher
end SymbolIndex
