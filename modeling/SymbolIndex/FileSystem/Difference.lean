import SymbolIndex.FileSystem.Basic
import SymbolIndex.Watch.Notification

/-!
# Differences of file systems

What has changed in some directories between two states of a file system, as the notifications that
tell it.
-/
namespace SymbolIndex

namespace FileNode

/-- Whether two entries differ in a way that their directory shows. What is in a directory does not
count. -/
def differs : FileNode → FileNode → Bool
  | file a, file b => a != b
  | locked m f, locked n g | barred m f, barred n g => m != n || f != g
  | pipe, pipe => false
  | link s, link t => s != t
  | refused f, refused g => f != g
  | directory _, directory _ => false
  | _, _ => true

end FileNode

namespace FileSystem

/-- The entries of a directory, if there is one. -/
def entriesAt? (fs : FileSystem) (dir : Path) : Option (List (String × FileNode)) :=
  match fs.node dir with
  | .ok (.directory es) => some es
  | _ => none

/-- What has changed in a directory. -/
def differencesIn (old new : FileSystem) (dir : Path) : List Notification :=
  match old.entriesAt? dir, new.entriesAt? dir with
  | some before, some after =>
    let gone := before.filter fun e => (after.lookup e.1).isNone
    let changed := after.filter fun e => ((before.lookup e.1).map (·.differs e.2)).getD true
    gone.map (fun e => .event .other [dir.child e.1]) ++
      changed.map fun e => .event .changed [dir.child e.1]
  | some _, none => [.event .other [dir]]
  | none, _ => []

/-- What has changed in some directories. -/
def differences (old new : FileSystem) (dirs : List Path) : List Notification :=
  dirs.flatMap (differencesIn old new)

end FileSystem
end SymbolIndex
