import SymbolIndex.FileSystem.Basic
import SymbolIndex.Ignore.Rules

/-!
# Walking directories

A walk lists what is below a directory, apart from what the ignore files there and in the directories
above say, and apart from what its caller does not accept; it does not go below what it leaves out. The
files that version control reads count only in a repository and up to its top, and a rule that keeps an
entry lets it be listed even if it is hidden. Links are listed but not followed, save the start itself.
-/
namespace SymbolIndex

/-- The ignore files of one directory. -/
structure IgnoreLevel where
  /-- How deep the directory is. -/
  depth : Nat
  /-- The rules that always count. -/
  plain : IgnoreRules
  /-- The rules of the repository, and those of its user. -/
  versioned : IgnoreRules
  excluded : IgnoreRules
  /-- Whether the directory is the top of a repository. -/
  isRepository : Bool

namespace IgnoreLevel

/-- A place as the rules of a level see it. -/
def pathOf (l : IgnoreLevel) (place : Place) : List UInt8 :=
  ("/".intercalate (place.drop l.depth)).toUTF8.toList

/-- What some levels say, the innermost first. `inRepository` tells whether the rules of repositories
count still. -/
def verdicts (place : Place) (isDirectory : Bool) :
    Bool → List IgnoreLevel → Verdict × Verdict × Verdict
  | _, [] => (.undecided, .undecided, .undecided)
  | inRepository, l :: ls =>
    let path := l.pathOf place
    let versioned := if inRepository then l.versioned.verdict path isDirectory else .undecided
    let excluded := if inRepository then l.excluded.verdict path isDirectory else .undecided
    let (p, v, e) := verdicts place isDirectory (inRepository && !l.isRepository) ls
    ((l.plain.verdict path isDirectory).or p, versioned.or v, excluded.or e)

/-- What the levels say about an entry: the plain rules come first, then those of the repository. -/
def verdict (levels : List IgnoreLevel) (place : Place) (isDirectory : Bool) : Verdict :=
  let (p, v, e) := verdicts place isDirectory (levels.any (·.isRepository)) levels
  p.or (v.or e)

end IgnoreLevel

namespace FileSystem

/-- The rules of an ignore file, if it is there. -/
def rulesAt (fs : FileSystem) (p : Path) : IgnoreRules :=
  match fs.read p with
  | .content bytes => .ofContent bytes.toList
  | _ => []

/-- The first line of a file. -/
def firstLine? (fs : FileSystem) (p : Path) : Option String :=
  match fs.read p with
  | .content bytes =>
    if bytes.isEmpty then none
    else
      let line := (Text.lines (Utf8.decodeLossy bytes)).headD ""
      some (if line.endsWith "\r" then (line.dropEnd 1).toString else line)
  | _ => none

/-- Where the data of a repository is that is shared by all its working trees. -/
def repositoryData? (fs : FileSystem) (dir : Path) : Option Path :=
  let git := dir.child ".git"
  if (fs.node git).toOption.any (·.isFile) then do
    let line ← fs.firstLine? git
    if line.startsWith "gitdir: " then
      let own : Path := ⟨(line.drop 8).toString⟩
      let shared ← fs.firstLine? (own.child "commondir")
      if shared.startsWith "." then some (own.child shared) else some ⟨shared⟩
    else none
  else some git

/-- The ignore files of the directory at a place. -/
def ignoreLevel (fs : FileSystem) (place : Place) : IgnoreLevel :=
  let dir := pathOf place
  { depth := place.length
    plain := fs.rulesAt (dir.child ".ignore")
    versioned := fs.rulesAt (dir.child ".gitignore")
    excluded := ((fs.repositoryData? dir).map fun data =>
      fs.rulesAt ((data.child "info").child "exclude")).getD []
    isRepository := fs.isThere (dir.child ".git") }

/-- The levels of the directories above a place, the innermost first. -/
def levelsAbove (fs : FileSystem) (place : Place) : List IgnoreLevel :=
  ((List.range place.length).map fun n => fs.ignoreLevel (place.take n)).reverse

end FileSystem

/-- What a walk comes across. -/
structure WalkEntry where
  path : Path
  node : FileNode

/-- What a walk leaves out, apart from what ignore files say. -/
structure Walk where
  fs : FileSystem
  /-- Whether hidden entries are left out. -/
  skipsHidden : Bool
  accepts : Path → Bool

namespace Walk

/-- Whether an entry is listed. -/
def admits (w : Walk) (levels : List IgnoreLevel) (place : Place) (path : Path) (n : FileNode) :
    Bool :=
  let allowed := match IgnoreLevel.verdict levels place n.isDirectory with
    | .ignored => false
    | .kept => true
    | .undecided => !(w.skipsHidden && (place.getLastD "").startsWith ".")
  allowed && w.accepts path

mutual

/-- What is at a place and below it. -/
def node (w : Walk) (levels : List IgnoreLevel) (place : Place) (path : Path) :
    FileNode → List WalkEntry
  | .directory es =>
    ⟨path, .directory es⟩ :: entries w (w.fs.ignoreLevel place :: levels) place path es
  | n => [⟨path, n⟩]

/-- What some entries of a directory and all below them come to. -/
def entries (w : Walk) (levels : List IgnoreLevel) (place : Place) (path : Path) :
    List (String × FileNode) → List WalkEntry
  | [] => []
  | (name, n) :: es =>
    let inner := place ++ [name]
    let found :=
      if w.admits levels inner (path.child name) n then node w levels inner (path.child name) n
      else []
    found ++ entries w levels place path es

end

/-- All that a walk from a path comes across, the start first. A single dash names nothing. -/
def run (w : Walk) (start : Path) : List WalkEntry :=
  if start.Same ⟨"-"⟩ then []
  else
    match w.fs.resolve false start with
    | .error _ => []
    | .ok (place, .directory es) => w.node (w.fs.levelsAbove place) place start (.directory es)
    | .ok (_, .link target) =>
      match w.fs.resolve true start with
      | .ok (place, .directory es) =>
        let levels := w.fs.ignoreLevel place :: w.fs.levelsAbove place
        ⟨start, .link target⟩ :: w.entries levels place start es
      | .ok (_, n) => [⟨start, if n.isFile then n else .link target⟩]
      | .error _ => []
    | .ok (_, n) => [⟨start, n⟩]

end Walk
end SymbolIndex
