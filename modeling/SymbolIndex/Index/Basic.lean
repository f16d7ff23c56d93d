import SymbolIndex.Analyzer.Content
import SymbolIndex.Analyzer.Registry
import SymbolIndex.Config.Basic
import SymbolIndex.FileSystem.Basic
import SymbolIndex.Index.Event
import SymbolIndex.Language.Shebang
import SymbolIndex.Store

/-!
# Indexes

An index analyses files and keeps the analyses in a store, by the key of each file. Calls for the same
file take turns: whoever wants to analyse it holds a lock of its key, and the index knows the lock for
as long as anybody refers to it.
-/
namespace SymbolIndex

/-- A content that was read, with the key it was read under. -/
structure Source where
  key : Path
  content : ByteArray
  fingerprint : Fingerprint

namespace Source

/-- Reads the file of a key. Directories and files above the size limit are refused, and a read that
does not end is given up. -/
def load (fs : FileSystem) (config : Config) (key : Path) : Except IndexError Source :=
  match fs.node key with
  | .error fault => .error (.ofRead key fault)
  | .ok n =>
    if n.isDirectory then .error (.unreadable key .isADirectoryText)
    else if config.maxSourceBytes < n.size then
      .error (.tooLarge key n.size config.maxSourceBytes)
    else
      match fs.read key with
      | .fault fault => .error (.ofRead key fault)
      | .stalled => .error (.readTimeout key config.readTimeoutMs)
      | .content bytes =>
        -- The file may have grown since its size was asked for.
        if config.maxSourceBytes < bytes.size then
          .error (.tooLarge key bytes.size config.maxSourceBytes)
        else .ok ⟨key, bytes, .ofBytes bytes⟩

end Source

namespace Registry

/-- The analyzer in charge of a content. -/
def analyzerFor? (r : Registry) (s : Source) : Option Analyzer :=
  r.resolve? (Language.ofFile s.key s.content.toList)

/-- The analysis of a content by the analyzer in charge of it, if there is one. -/
def analyze (r : Registry) (s : Source) : Except IndexError Analysis :=
  match r.analyzerFor? s with
  | none => .ok (.unsupported s.key s.fingerprint)
  | some analyzer =>
    match analyzer.analyzeContent s.content with
    | .ok e => .ok (.parsed s.key s.fingerprint e)
    | .error cause => .error (.analyzer cause)

end Registry

structure Index where
  config : Config
  registry : Registry
  store : Store
  /-- How many times an analyzer was run. -/
  parses : Nat
  /-- The locks of keys, by number. -/
  locks : List (Path × Nat)
  /-- The number of the next lock. -/
  nextLock : Nat
  /-- All that was announced, in order. -/
  events : List IndexEvent

namespace Index

/-- An empty index. The configuration must be valid. -/
def new (config : Config) (registry : Registry) : Except IndexError Index := do
  config.validate
  return ⟨config, registry, .new config.maxEntries config.maxBytes, 0, [], 0, []⟩

def announce (x : Index) (events : List IndexEvent) : Index := { x with events := x.events ++ events }

/-- Announces something if it is so. -/
def announceIf (x : Index) (b : Bool) (e : IndexEvent) : Index := x.announce (if b then [e] else [])

/-- What is announced if a file that cannot be read leaves the store; errors that tell nothing about
the file leave it there. -/
def lossOf? (key : Path) : IndexError → Option IndexEvent
  | .notFound _ => some (.removed key)
  | .unreadable _ _ | .tooLarge _ _ _ => some (.invalidated key)
  | _ => none

/-- Drops the analysis of a file that cannot be read. -/
def dropUnreadable (x : Index) (key : Path) (e : IndexError) : Index :=
  match lossOf? key e with
  | none => x
  | some loss =>
    let (store, dropped) := x.store.invalidate key
    announceIf { x with store := store } dropped loss

/-- The number of the lock of a key; there is one afterwards. -/
def lockOf (x : Index) (key : Path) : Index × Nat :=
  match x.locks.find? (·.1.Same key) with
  | some (_, n) => (x, n)
  | none => ({ x with locks := x.locks ++ [(key, x.nextLock)], nextLock := x.nextLock + 1 }, x.nextLock)

/-- Forgets the lock of a key unless it is still referred to. -/
def releaseLock (x : Index) (key : Path) (isReferred : Nat → Bool) : Index :=
  match x.locks.find? (·.1.Same key) with
  | some (_, n) =>
    if isReferred n then x else { x with locks := x.locks.filter (¬ ·.1.Same key) }
  | none => x

/-- Analyses a content, and counts the run of an analyzer. -/
def examine (x : Index) (s : Source) : Index × Except IndexError Analysis :=
  (if (x.registry.analyzerFor? s).isSome then { x with parses := x.parses + 1 } else x,
    x.registry.analyze s)

/-- Stores an analysis, and announces the ones that give way. -/
def keep (x : Index) (s : Source) (a : Analysis) : Index × Except IndexError Analysis :=
  match x.store.put s.key a s.fingerprint with
  | .ok (store, gone) => (announce { x with store := store } (gone.map .evicted), .ok a)
  | .error e => (x, .error e)

/-- The counters of an index in a description. -/
def statsText (x : Index) : String :=
  s!"ServiceStats \x7b store: {x.store.statsText}, parses: {x.parses}, " ++
    s!"in_flight: {x.locks.length} \x7d"

/-- A description of an index. -/
def description (x : Index) : String :=
  s!"AnalysisService \x7b languages: {x.registry.languagesText}, stats: {x.statsText} \x7d"

end Index
end SymbolIndex
