import SymbolIndex.Index.Analyze
import SymbolIndex.Watch.Message

/-!
# Changes of files

An index follows the messages of a watcher. What has changed or is gone leaves the store, and if the
configuration asks for it, a changed file is analysed again at once.
-/
namespace SymbolIndex

namespace Index

/-- Announces that a file was analysed again, if it was. -/
def announceReindexed (x : Index) (p : Path) : Answer → Index
  | .ok a => x.announce [.reindexed p a.fingerprint a.symbols.length]
  | .error _ => x

/-- Analyses a changed file again. -/
def reindex (x : Index) (fs : FileSystem) (p : Path) : Index :=
  let (x, r) := x.analyze fs p
  x.announceReindexed p r

/-- Whether a changed file is to be analysed again. -/
def wantsReindex (x : Index) (p : Path) (f : Fingerprint) : Bool :=
  x.config.eagerReindex && !x.store.holds p f && x.registry.supports (Language.ofPath p)

/-- Drops from the store what a message makes doubtful, and announces it. -/
def absorb (x : Index) : WatchMessage → Index
  | .invalidate (.changed p (some f)) =>
    let (store, dropped) := x.store.invalidateIfChanged p f
    announceIf { x with store := store } dropped (.invalidated p)
  | .invalidate (.changed p none) =>
    let (store, dropped) := x.store.invalidate p
    announceIf { x with store := store } dropped (.invalidated p)
  | .invalidate (.removed p) =>
    let (store, dropped) := x.store.invalidate p
    announceIf { x with store := store } dropped (.removed p)
  | .invalidate (.removedTree dir) =>
    let (store, doomed) := x.store.invalidateUnder dir
    announce { x with store := store } [.removedTree dir doomed.length]
  | .degraded p reason => x.announce [.watchDegraded p reason]

/-- Follows one message. -/
def apply (x : Index) (fs : FileSystem) (m : WatchMessage) : Index :=
  let x := x.absorb m
  match m.changed? with
  | some (p, f) => if x.wantsReindex p f then x.reindex fs p else x
  | none => x

/-- Follows some messages in order. -/
def applyAll (x : Index) (fs : FileSystem) (messages : List WatchMessage) : Index :=
  messages.foldl (·.apply fs ·) x

end Index
end SymbolIndex
