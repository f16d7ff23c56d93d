import SymbolIndex.Fingerprint
import SymbolIndex.Path.Basic

/-!
# Events of an index

What an index announces: analyses that leave its store other than by being replaced, files that are
analysed again after a change, and directories that are no longer watched.
-/
namespace SymbolIndex

inductive IndexEvent
  /-- The file has other content, or can no longer be read. -/
  | invalidated (path : Path)
  /-- The file is gone. -/
  | removed (path : Path)
  /-- A directory is gone, and with it the analyses of some files. -/
  | removedTree (dir : Path) (entries : Nat)
  | reindexed (path : Path) (fingerprint : Fingerprint) (symbols : Nat)
  /-- The analysis gave way to others. -/
  | evicted (path : Path)
  | watchDegraded (path : Path) (reason : String)
  deriving DecidableEq, Repr, Inhabited

end SymbolIndex
