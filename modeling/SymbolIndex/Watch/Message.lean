import SymbolIndex.Fingerprint
import SymbolIndex.Path.Basic

/-!
# Messages of a watcher

What a watcher tells about the files it watches.
-/
namespace SymbolIndex

/-- Something that makes what is known of a file doubtful. -/
inductive Invalidation
  /-- The file is new or was written; it has a fingerprint if it could be read. -/
  | changed (path : Path) (fingerprint : Option Fingerprint)
  | removed (path : Path)
  /-- A watched directory is gone, with all that was below it. -/
  | removedTree (dir : Path)
  deriving DecidableEq, Repr, Inhabited

namespace Invalidation

def path : Invalidation → Path
  | changed p _ | removed p | removedTree p => p

end Invalidation

inductive WatchMessage
  | invalidate (i : Invalidation)
  /-- A directory is no longer watched. -/
  | degraded (path : Path) (reason : String)
  deriving DecidableEq, Repr, Inhabited

namespace WatchMessage

/-- The file that a message tells a new content of, and the fingerprint of that content. -/
def changed? : WatchMessage → Option (Path × Fingerprint)
  | invalidate (.changed p (some f)) => some (p, f)
  | _ => none

end WatchMessage
end SymbolIndex
