import SymbolIndex.FileSystem.Fault
import SymbolIndex.Path.Basic

/-!
# File systems

A file system is a tree of directories with files, pipes and symbolic links, and one directory of it is
the current one. A place in it is named by the directories on the way down from the root. Looking up a
path follows links, and comes to a place that no link is on the way to.
-/
namespace SymbolIndex

/-- What is at a place of a file system. -/
inductive FileNode
  | file (content : ByteArray)
  /-- A file of so many bytes that cannot be read. -/
  | locked (size : Nat) (denial : Denial)
  /-- A file of so many bytes that its directory lists, but that cannot be looked up. -/
  | barred (size : Nat) (denial : Denial)
  /-- A pipe that nobody writes to: reading it never ends. -/
  | pipe
  | link (target : String)
  | directory (entries : List (String × FileNode))
  /-- Something that is no file and cannot be read. -/
  | refused (denial : Denial)
  deriving Inhabited

namespace FileNode

def isDirectory : FileNode → Bool
  | directory _ => true
  | _ => false

def isFile : FileNode → Bool
  | file _ | locked _ _ | barred _ _ => true
  | _ => false

/-- How many bytes a file has. What is no file counts as empty. -/
def size : FileNode → Nat
  | file content => content.size
  | locked size _ | barred size _ => size
  | _ => 0

/-- Why a node cannot be looked up, if it cannot. -/
def bar? : FileNode → Option Denial
  | barred _ denial => some denial
  | _ => none

/-- Why there is no way on below a node that is no directory. -/
def faultBelow : FileNode → IoFault
  | barred _ denial => denial.fault
  | _ => .notADirectory

/-- The entries of a directory. -/
def entries : FileNode → List (String × FileNode)
  | directory es => es
  | _ => []

/-- The entry of a directory. -/
def entry? (n : FileNode) (name : String) : Option FileNode := n.entries.lookup name

/-- What is at a place below a node. -/
def at? : FileNode → List String → Option FileNode
  | n, [] => some n
  | n, name :: names => (n.entry? name).bind (at? · names)

end FileNode

/-- The directories on the way down from the root, and a name. -/
abbrev Place := List String

structure FileSystem where
  root : FileNode
  /-- The current directory. -/
  current : Place

namespace FileSystem

/-- How many links are followed on the way to one place. -/
def linkLimit : Nat := 40

/-- Bytes that a name, and a path, must not exceed. -/
def nameLimit : Nat := 255
def pathLimit : Nat := 4095

/-- What stands between the slashes of a path, the slash that it begins with left out. -/
def piecesOf (path : String) : List String :=
  let pieces := Text.splitWhere Path.isSlash path
  if path.startsWith "/" then pieces.tail else pieces

/-- What is at a place. -/
def at? (fs : FileSystem) (place : Place) : Option FileNode := fs.root.at? place

/-- Goes on from a place along the pieces of a path. `links` more links may be followed; one at the
end is only followed if `follow` says so. -/
def walkPath (root : FileNode) (follow : Bool) (links : Nat) (place : Place) (n : FileNode)
    (todo : List String) : Except IoFault (Place × FileNode) :=
  match todo with
  | [] =>
    match n.bar? with
    | none => .ok (place, n)
    | some denial => .error denial.fault
  | piece :: rest =>
    if !n.isDirectory then .error n.faultBelow
    else if piece = "" ∨ piece = "." then walkPath root follow links place n rest
    else if piece = ".." then
      let above := place.dropLast
      walkPath root follow links above ((root.at? above).getD root) rest
    else
      match n.entry? piece with
      | none =>
        .error (if piece.utf8ByteSize > nameLimit then .nameTooLong else .notFound)
      | some (.link target) =>
        if rest = [] ∧ follow = false then .ok (place ++ [piece], .link target)
        else
          match links with
          | 0 => .error .tooManyLinks
          | links + 1 =>
            if target.startsWith "/" then
              walkPath root follow links [] root (piecesOf target ++ rest)
            else walkPath root follow links place n (piecesOf target ++ rest)
      | some m => walkPath root follow links (place ++ [piece]) m rest
  termination_by (links, todo.length)

/-- Looks up a path. The result is the place it names and what is there; a link at the end is only
followed if `follow` says so. -/
def resolve (fs : FileSystem) (follow : Bool) (p : Path) : Except IoFault (Place × FileNode) :=
  if p.text.any (· == '\x00') then .error .nulInPath
  else if p.text = "" then .error .notFound
  else if p.text.utf8ByteSize > pathLimit then .error .nameTooLong
  else if p.isAbsolute then walkPath fs.root follow linkLimit [] fs.root (piecesOf p.text)
  else
    match fs.at? fs.current with
    | some n => walkPath fs.root follow linkLimit fs.current n (piecesOf p.text)
    | none => .error .notFound

/-- The absolute path of a place. -/
def pathOf (place : Place) : Path := ⟨"/" ++ "/".intercalate place⟩

/-- The absolute path without links of what a path names. -/
def canonical (fs : FileSystem) (p : Path) : Except IoFault Path :=
  (fs.resolve true p).map fun (place, _) => pathOf place

/-- What a path names, links followed. -/
def node (fs : FileSystem) (p : Path) : Except IoFault FileNode := (fs.resolve true p).map (·.2)

/-- Whether a path names anything, links followed. -/
def isThere (fs : FileSystem) (p : Path) : Bool := (fs.node p).toBool

/-- Whether a path names a directory, links followed. -/
def isDirectory (fs : FileSystem) (p : Path) : Bool :=
  match fs.node p with
  | .ok n => n.isDirectory
  | .error _ => false

/-- What reading a file comes to. -/
inductive Reading
  | content (bytes : ByteArray)
  | fault (f : IoFault)
  /-- Reading does not end. -/
  | stalled

/-- Reads a file. -/
def read (fs : FileSystem) (p : Path) : Reading :=
  match fs.node p with
  | .ok (.file bytes) => .content bytes
  | .ok .pipe => .stalled
  | .ok (.directory _) => .fault .isADirectory
  | .ok (.link _) => .fault .tooManyLinks
  | .ok (.locked _ denial) | .ok (.barred _ denial) | .ok (.refused denial) => .fault denial.fault
  | .error f => .fault f

/-- The path under which a file is known: its canonical path, or if it is missing its name in the
canonical directory it would be in. -/
def key (fs : FileSystem) (p : Path) : Path :=
  match fs.canonical p with
  | .ok c => c
  | .error _ =>
    let absolute := if p.isAbsolute then p else (pathOf fs.current).join p
    match absolute.parent?, absolute.fileName? with
    | some parent, some name =>
      match fs.canonical parent with
      | .ok dir => dir.child name
      | .error _ => absolute
    | _, _ => absolute

end FileSystem
end SymbolIndex
