import SymbolIndex.FileSystem.Basic

/-!
# Changing a file system

Writing, making, removing and moving what is in a file system. Missing directories on the way are made,
and a change that cannot be made leaves everything as it is.
-/
namespace SymbolIndex

namespace FileNode

/-- Sets or removes an entry. -/
def setEntry (name : String) (v : Option FileNode) (es : List (String × FileNode)) :
    List (String × FileNode) :=
  match v with
  | some n =>
    if es.any (·.1 = name) then es.map fun e => if e.1 = name then (name, n) else e
    else es ++ [(name, n)]
  | none => es.filter (·.1 ≠ name)

/-- Sets or removes what is at a place below a node; nothing changes if the way is missing. -/
def set (v : Option FileNode) : FileNode → Place → FileNode
  | n, [] => v.getD n
  | directory es, [name] => directory (setEntry name v es)
  | directory es, name :: names =>
    match es.lookup name with
    | some m => directory (setEntry name (some (set v m names)) es)
    | none => directory es
  | n, _ :: _ => n

end FileNode

namespace FileSystem

def set (fs : FileSystem) (place : Place) (v : Option FileNode) : FileSystem :=
  { fs with root := fs.root.set v place }

/-- Makes a directory and the missing ones on the way to it. -/
def makeDirectories (fs : FileSystem) (p : Path) : FileSystem :=
  let ways := (List.range (p.components.length + 1)).tail.map fun n =>
    Path.ofComponents (p.components.take n)
  ways.foldl (fun fs way =>
    match way.parent?, way.fileName? with
    | some parent, some name =>
      let parent : Path := if parent.text = "" then ⟨"."⟩ else parent
      match fs.resolve true way, fs.resolve true parent with
      | .error .notFound, .ok (place, .directory _) => fs.set (place ++ [name]) (some (.directory []))
      | _, _ => fs
    | _, _ => fs) fs

/-- Makes the directory that a path is in. -/
def makeParents (fs : FileSystem) (p : Path) : FileSystem :=
  match p.parent? with
  | some parent => fs.makeDirectories parent
  | none => fs

/-- The place that a path would name, whether or not something is there; links at its end are
followed. -/
def target? (fs : FileSystem) : Nat → Path → Option Place
  | 0, _ => none
  | fuel + 1, p =>
    match p.parent?, p.fileName? with
    | some parent, some name =>
      match fs.resolve true (if parent.text = "" then ⟨"."⟩ else parent) with
      | .ok (place, dir) =>
        match dir.entry? name with
        | some (.link t) => target? fs fuel ((pathOf place).join ⟨t⟩)
        | _ => if dir.isDirectory then some (place ++ [name]) else none
      | .error _ => none
    | _, _ => none

/-- Puts something new at a path, unless something is there already. -/
def create (fs : FileSystem) (p : Path) (n : FileNode) : FileSystem :=
  let fs := fs.makeParents p
  match fs.resolve false p, p.parent?, p.fileName? with
  | .error _, some parent, some name =>
    match fs.resolve true (if parent.text = "" then ⟨"."⟩ else parent) with
    | .ok (place, .directory _) => fs.set (place ++ [name]) (some n)
    | _ => fs
  | _, _, _ => fs

/-- Writes a file. -/
def write (fs : FileSystem) (p : Path) (content : ByteArray) : FileSystem :=
  let fs := fs.makeParents p
  match fs.target? (linkLimit + 1) p with
  | some place =>
    match fs.at? place with
    | none | some (.file _) => fs.set place (some (.file content))
    | _ => fs
  | none => fs

/-- Removes what is at a path, with all that is below it. -/
def remove (fs : FileSystem) (p : Path) : FileSystem :=
  match fs.resolve false p with
  | .ok (place, _) => fs.set place none
  | .error _ => fs

/-- Moves what is at a path to another one. A file gives way to a file, and an empty directory to a
directory. -/
def rename (fs : FileSystem) (p q : Path) : FileSystem :=
  match fs.resolve false p, q.parent?, q.fileName? with
  | .ok (place, n), some parent, some name =>
    match fs.resolve true (if parent.text = "" then ⟨"."⟩ else parent) with
    | .ok (dir, .directory es) =>
      let goal := dir ++ [name]
      let free := match es.lookup name with
        | none => true
        | some (.directory inner) => n.isDirectory && inner.isEmpty
        | some _ => !n.isDirectory
      if free && !(n.isDirectory && place.isPrefixOf goal) && place ≠ goal then
        (fs.set place none).set goal (some n)
      else fs
    | _ => fs
  | _, _, _ => fs

end FileSystem
end SymbolIndex
