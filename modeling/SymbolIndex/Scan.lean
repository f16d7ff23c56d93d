import SymbolIndex.Ignore.Walk
import SymbolIndex.Language.Basic
import SymbolIndex.Scope

/-!
# Scanning directories

Below a root, a scan finds the files to analyse and the directories to watch. Both leave out what the
ignore files say and what is of no interest; only a scan for files also leaves out hidden entries that
no rule keeps.
-/
namespace SymbolIndex

namespace FileSystem

/-- Files with more bytes are left out unless asked for. -/
def standardScanLimit : Nat := 8 * 1024 * 1024

/-- Whether a path names a file that has more bytes than a limit. If it cannot be looked up, the size
cannot be found out, and no limit applies. -/
def isLarge (fs : FileSystem) (limit : Nat) (p : Path) : Bool :=
  match fs.node p with
  | .ok n => limit < n.size
  | .error _ => false

/-- Whether an entry is a file to analyse. -/
def isSource (fs : FileSystem) (limit : Nat) (e : WalkEntry) : Bool :=
  e.node.isFile && Language.ofPath e.path ≠ .unknown && !e.path.isNoise && !fs.isLarge limit e.path

/-- The files to analyse at and below a root. -/
def sourcesBelow (fs : FileSystem) (limit : Nat) (root : Path) : List Path :=
  let w : Walk := ⟨fs, true, fun p => !root.isIgnoredBelow p⟩
  ((w.run root).filter (fs.isSource limit)).map (·.path)

/-- The directories to watch at and below `start`, as far as they are to be watched below `root`. -/
def watchListBelow (fs : FileSystem) (root start : Path) : List Path :=
  let w : Walk := ⟨fs, false, root.isWatchableBelow⟩
  ((w.run start).filter fun e => e.node.isDirectory && root.isWatchableBelow e.path).map (·.path)

end FileSystem
end SymbolIndex
