import Std.Async.Signal
import Std.Data.HashMap
import SymbolIndex.Command.Watch
import SymbolIndex.FileSystem.Change

/-!
# The program

Reads the command line, takes a picture of the parts of the machine's file system that a command asks
about, and writes what the command comes to. A command that watches is shown a new picture again and
again until the program is interrupted.
-/
namespace SymbolIndex.Machine

/-! ### Pictures of the file system -/

/-- The files that were read, with the times of their last change. -/
abbrev Album := Std.HashMap String (IO.FS.SystemTime × FileNode)

/-- Takes pictures, and keeps the files that were read. -/
abbrev Camera := StateT Album IO

/-- The reason with a number. Some of the machine's answers hold the number negated. -/
def faultNumbered (n : UInt32) : IoFault := .numbered (if n < 0x80000000 then n else 0 - n).toNat

/-- Why the machine refuses something. -/
def faultOf : IO.Error → IoFault
  | .noFileOrDirectory _ n _ | .interrupted _ n _ | .alreadyExists _ n _ | .invalidArgument _ n _
  | .permissionDenied _ n _ | .resourceExhausted _ n _ | .inappropriateType _ n _
  | .noSuchThing _ n _ | .otherError n _ | .resourceBusy n _ | .resourceVanished n _
  | .unsupportedOperation n _ | .hardwareFault n _ | .unsatisfiedConstraints n _
  | .illegalOperation n _ | .protocolError n _ | .timeExpired n _ => faultNumbered n
  | .unexpectedEof => .other "unexpected end of file"
  | .userError text => .other text

/-- The entry of a directory of the machine. -/
def entryOf (dir name : String) : IO.FS.DirEntry := ⟨dir, name⟩

/-- Why the machine does not give something that it has; nothing if it has it no more. -/
def denialOf? (err : IO.Error) : Option Denial :=
  if h : faultOf err = .notFound then none else some ⟨faultOf err, h⟩

/-- Reads a file, unless it has not changed since it was read. The result is nothing if it is gone. -/
def pictureOfFile (e : IO.FS.DirEntry) (m : IO.FS.Metadata) : Camera (Option FileNode) := do
  let path := e.path.toString
  match (← get)[path]? with
  | some (t, n) => if t == m.modified then return n
  | none => pure ()
  let n ← match ← (IO.FS.readBinFile e.path).toBaseIO with
    | .ok content => pure (FileNode.file content)
    | .error err =>
      let some denial := denialOf? err | return none
      pure (.locked m.byteSize.toNat denial)
  modify (·.insert path (m.modified, n))
  return n

/-- A target that no link of the machine has, since no name holds its character. -/
def nowhere : String := "\x00"

/-- A link, by the path that it leads to in the end. One that never ends leads to itself. -/
def pictureOfLink (e : IO.FS.DirEntry) : IO FileNode := do
  match ← (IO.FS.realPath e.path).toBaseIO, ← e.path.metadata.toBaseIO with
  | .ok target, _ => return .link target.toString
  | .error _, .error err =>
    return .link (if faultOf err = .tooManyLinks then e.fileName else nowhere)
  | .error _, .ok _ => return .link nowhere

/-- What is at an entry and below it, unless it is gone. An entry that cannot be looked up is taken for
a file, and a directory that cannot be listed for an empty one. Of the directories that are never of
interest, only what a repository says there that it excludes is kept; the root of the picture is kept
whatever its name is. -/
partial def pictureOf (isRoot : Bool) (e : IO.FS.DirEntry) : Camera (Option FileNode) := do
  match ← e.path.symlinkMetadata.toBaseIO with
  | .error err => return (denialOf? err).map (.barred 0)
  | .ok m =>
    match m.type with
    | .file => pictureOfFile e m
    | .symlink => pictureOfLink e
    | .other => return some .pipe
    | .dir =>
      match ← e.path.readDir.toBaseIO with
      | .error _ => return some (.directory [])
      | .ok es =>
        let isKept (inner : IO.FS.DirEntry) : Bool :=
          isRoot || !Scope.isIgnoredName e.fileName || inner.fileName = "info"
        return some <| .directory <| ← (es.toList.filter isKept).filterMapM fun e => do
          return (← pictureOf false e).map (e.fileName, ·)

/-- Adds what is on the way from a directory along the pieces of a path. -/
partial def addWay (fs : FileSystem) (dir : Path) : List String → Camera FileSystem
  | [] => return fs
  | "" :: rest | "." :: rest => addWay fs dir rest
  | ".." :: rest => addWay fs (dir.parent?.getD dir) rest
  | name :: rest => do
    let e := entryOf dir.text name
    let p := dir.child name
    match ← e.path.symlinkMetadata.toBaseIO with
    | .error err => return ((denialOf? err).map (.barred 0)).elim fs (fs.create p)
    | .ok m =>
      match m.type with
      | .dir => addWay (fs.makeDirectories p) p rest
      | .file => return (← pictureOfFile e m).elim fs (fs.create p)
      | .other => return fs.create p .pipe
      | .symlink =>
        let n ← pictureOfLink e
        match n with
        | .link target =>
          if target.startsWith "/" then
            addWay (fs.create p n) ⟨"/"⟩ (FileSystem.piecesOf target ++ rest)
          else return fs.create p n
        | _ => return fs

/-- Adds what a path names, with the links on the way to it. -/
def addPath (fs : FileSystem) (p : Path) : Camera FileSystem :=
  let start := if p.isAbsolute then [] else fs.current
  addWay fs ⟨"/"⟩ (start ++ FileSystem.piecesOf p.text)

/-- Adds the ignore files of a directory, and the data of the repository that it is the top of. -/
def addIgnoreFiles (fs : FileSystem) (place : Place) : Camera FileSystem := do
  let dir := FileSystem.pathOf place
  let git := dir.child ".git"
  let fs ← [dir.child ".ignore", dir.child ".gitignore", git].foldlM addPath fs
  let fs ← match fs.firstLine? git with
    | some line => addPath fs ⟨(line.drop 8).toString ++ "/commondir"⟩
    | none => pure fs
  match fs.repositoryData? dir with
  | some data => addPath fs ((data.child "info").child "exclude")
  | none => return fs

/-- Adds all that is below a root, and the ignore files of the directories that it is in. -/
def addRoot (fs : FileSystem) (root : Path) : Camera FileSystem := do
  let fs ← addPath fs root
  match fs.resolve true root with
  | .ok (place, .directory _) =>
    let n ← pictureOf true (entryOf (FileSystem.pathOf place.dropLast).text (place.getLastD ""))
    ((List.range (place.length + 1)).map place.take).foldlM addIgnoreFiles (fs.set place n)
  | _ => return fs

/-- A picture with nothing but the way to the current directory. -/
def emptyPicture : IO FileSystem := do
  let dir ← IO.FS.realPath "."
  let fs : FileSystem := ⟨.directory [], FileSystem.piecesOf dir.toString⟩
  return fs.makeDirectories ⟨dir.toString⟩

/-! ### Commands -/

open Command

/-- Writes what a command comes to. -/
def finish (o : Outcome) : IO UInt32 := do
  for l in o.log do IO.eprintln l.render
  for line in o.output do IO.println line
  for line in o.complaints do IO.eprintln line
  return UInt32.ofNat o.code

/-- Milliseconds between two pictures. -/
def pollMs : UInt32 := 250

/-- A picture for a command that watches. -/
def pictureForWatch (a : WatchArguments) : Camera FileSystem := do
  let fs ← (a.config.toList).foldlM addPath (← emptyPicture)
  match loadConfig fs a.config with
  | .ok config => (Watching.rootsFor fs config a.roots).foldlM addRoot fs
  | .error _ => return fs

/-- Writes the log, and empties it. -/
def writeLog (w : Watching) : IO Watching := do
  for l in w.log do IO.eprintln l.render
  return { w with log := [] }

/-- Watches until the program is interrupted. -/
partial def watchUntil (interrupt : Std.Async.AsyncTask Int) (a : WatchArguments)
    (album : Album) (fs : FileSystem) (w : Watching) : IO Watching := do
  let w ← writeLog w
  if ← IO.hasFinished interrupt then writeLog (w.stop fs)
  else
    IO.sleep pollMs
    let (new, album) ← (pictureForWatch a).run album
    let now ← IO.monoMsNow
    watchUntil interrupt a album new ((w.follow fs new now).expire new now)

/-- Starts to watch, and fails if that cannot be done. -/
def watch (v : Verbosity) (a : WatchArguments) : IO UInt32 := do
  let waiter ← Std.Async.Signal.Waiter.mk .sigint false
  let interrupt ← waiter.wait
  let (fs, album) ← (pictureForWatch a).run ∅
  match Watching.start fs v a with
  | .error f => finish (.ofFailure? [] [] (some f))
  | .ok w =>
    discard (watchUntil interrupt a album fs w)
    return 0

/-- Answers a request. -/
def answer : Request → IO UInt32
  | .analyze v a => do
    let (fs, _) ← ((a.config.toList ++ a.paths).foldlM addPath (← emptyPicture)).run ∅
    finish (analyze fs v a)
  | .watch v a => watch v a
  | .version => finish (.ofOutput [versionLine])
  | .help => finish (.ofOutput helpLines)
  | .misuse => finish misuse

end SymbolIndex.Machine

def main (args : List String) : IO UInt32 :=
  SymbolIndex.Machine.answer (SymbolIndex.Command.Request.ofArguments args)
