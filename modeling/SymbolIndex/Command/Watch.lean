import SymbolIndex.Command.Analyze
import SymbolIndex.FileSystem.Difference
import SymbolIndex.Index.Change
import SymbolIndex.Watch.Watcher

/-!
# The command that watches directories

It analyses all files below some roots, and then follows the changes there and logs what the index
announces, until it is told to stop.
-/
namespace SymbolIndex.Command

namespace LogLine

/-- The line of the log for an event. -/
def ofEvent : IndexEvent → LogLine
  | .invalidated p => ⟨.info, s!"invalidated {p.text}"⟩
  | .removed p => ⟨.info, s!"removed {p.text}"⟩
  | .removedTree dir entries => ⟨.info, s!"removed {dir.text} ({entries} entries)"⟩
  | .reindexed p f symbols => ⟨.info, s!"reindexed {p.text} [{f.short}] {symbols} symbols"⟩
  | .evicted p => ⟨.debug, s!"evicted {p.text}"⟩
  | .watchDegraded p reason => ⟨.warn, s!"watch degraded for {p.text}: {reason}"⟩

end LogLine

/-- An index with a watcher whose messages it follows, and the log. -/
structure Watching where
  verbosity : Verbosity
  index : Index
  watcher : Watcher
  log : List LogLine

namespace Watching

def logLine (w : Watching) (l : LogLine) : Watching :=
  if w.verbosity.logs l.level then { w with log := w.log ++ [l] } else w

/-- Lets the index follow the messages of the watcher, and logs what it announces. -/
def settle (w : Watching) (fs : FileSystem) : Watching :=
  let (watcher, messages) := w.watcher.takeSent
  let index := w.index.applyAll fs messages
  let events := index.events.drop w.index.events.length
  (events.map LogLine.ofEvent).foldl logLine { w with watcher := watcher, index := index }

/-- Follows a change of the file system at a time. -/
def follow (w : Watching) (old new : FileSystem) (now : Nat) : Watching :=
  let found := FileSystem.differences old new w.watcher.watched
  { w with watcher := found.foldl (·.notify new now ·) w.watcher }

/-- Goes on with the paths that have been quiet for long enough. -/
def expire (w : Watching) (fs : FileSystem) (now : Nat) : Watching :=
  settle { w with watcher := w.watcher.expire fs now } fs

/-- The time at which the first path has been quiet for long enough. -/
def nextDeadline? (w : Watching) : Option Nat := w.watcher.debouncer.nextDeadline?

/-- What is logged at the end. -/
def stopLine (w : Watching) : LogLine :=
  let s := w.index.store
  ⟨.info, s!"Stopped: {s.len} entries cached, {w.index.parses} parses, {s.evictions} evictions"⟩

/-- Stops watching. -/
def stop (w : Watching) (fs : FileSystem) : Watching :=
  let w := settle { w with watcher := w.watcher.stop } fs
  w.logLine w.stopLine

/-- The roots to watch: the named ones, else the configured ones, else the current directory. -/
def rootsFor (fs : FileSystem) (config : Config) (roots : List Path) : List Path :=
  if !roots.isEmpty then roots
  else if !config.watchRoots.isEmpty then config.watchRoots
  else [FileSystem.pathOf fs.current]

/-- Analyses all files below the roots and starts to watch them. -/
def start (fs : FileSystem) (v : Verbosity) (a : WatchArguments) : Except Failure Watching := do
  let config ← loadConfig fs a.config
  let config := if a.eager then { config with eagerReindex := true } else config
  let roots := rootsFor fs config a.roots
  let x ← openIndex config
  let (x, tally) := x.warm fs roots
  let watcher ← (Watcher.start config fs roots).mapError (Failure.ofError "Failed to start watcher")
  let failed := tally.errors.length
  let w : Watching := ⟨v, x, watcher, []⟩
  let w := if failed = 0 then w
    else w.logLine ⟨.warn, s!"{failed} files could not be analyzed"⟩
  let w := w.logLine ⟨.info, s!"Watching {watcher.watched.length} directories under " ++
    s!"{roots.length} root(s); Ctrl-C to stop"⟩
  return w.settle fs

end Watching
end SymbolIndex.Command
