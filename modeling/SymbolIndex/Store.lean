import SymbolIndex.Analysis.Basic
import SymbolIndex.IndexError

/-!
# Stores of analyses

A store keeps analyses by path, most recently used first. It has two limits, on the number of entries
and on the bytes they are counted with; the least recently used entries give way, but never the one
that was put last. An analysis is only given out for the fingerprint it was made for.
-/
namespace SymbolIndex

/-- An analysis in a store. -/
structure StoreEntry where
  /-- The path it was first put under, as it was spelled. -/
  key : Path
  analysis : Analysis
  fingerprint : Fingerprint
  /-- The bytes it is counted with. -/
  size : Nat
  deriving DecidableEq, Repr, Inhabited

namespace StoreEntry

/-- Whether the entry is for the content that its analysis was made from. -/
def isConsistent (e : StoreEntry) : Bool := e.analysis.fingerprint = e.fingerprint

/-- Whether the analysis may be given out for a content. -/
def answers (e : StoreEntry) (f : Fingerprint) : Bool := e.isConsistent && e.fingerprint = f

end StoreEntry

/-- Analyses by path, most recently used first. -/
structure Store where
  capacity : Nat
  maxBytes : Nat
  entries : List StoreEntry
  bytes : Nat
  hits : Nat
  /-- Look-ups that found no entry. -/
  misses : Nat
  /-- Look-ups that found an entry for another content. -/
  staleMisses : Nat
  evictions : Nat
  deriving DecidableEq, Repr, Inhabited

namespace Store

/-- An empty store. There is room for one entry at least. -/
def new (maxEntries maxBytes : Nat) : Store := ⟨max 1 maxEntries, maxBytes, [], 0, 0, 0, 0, 0⟩

def len (s : Store) : Nat := s.entries.length

def isEmpty (s : Store) : Bool := s.entries.isEmpty

/-- The paths of the entries, most recently used first. -/
def keys (s : Store) : List Path := s.entries.map (·.key)

/-- The entry of a path. -/
def find? (s : Store) (p : Path) : Option StoreEntry := s.entries.find? (·.key.Same p)

/-- The entries of all other paths. -/
def others (s : Store) (p : Path) : List StoreEntry := s.entries.filter (¬ ·.key.Same p)

/-- Drops the entry of a path. -/
def remove (s : Store) (p : Path) : Store :=
  match s.find? p with
  | some e => { s with entries := s.others p, bytes := s.bytes - e.size }
  | none => s

/-- The analysis of a path for a content; the store stays as it is. -/
def peek? (s : Store) (p : Path) (f : Fingerprint) : Option Analysis :=
  ((s.find? p).filter (·.answers f)).map (·.analysis)

def holds (s : Store) (p : Path) (f : Fingerprint) : Bool := (s.peek? p f).isSome

/-- Looks up the analysis of a path for a content. The entry counts as used, whatever content it is
for; one that is not for the content of its analysis is dropped. -/
def get (s : Store) (p : Path) (f : Fingerprint) : Store × Option Analysis :=
  match s.find? p with
  | none => ({ s with misses := s.misses + 1 }, none)
  | some e =>
    if !e.isConsistent then
      let s := s.remove p
      ({ s with misses := s.misses + 1 }, none)
    else
      let s := { s with entries := e :: s.others p }
      if e.fingerprint = f then ({ s with hits := s.hits + 1 }, some e.analysis)
      else ({ s with staleMisses := s.staleMisses + 1 }, none)

/-- Puts an entry in front. The entry that had its path gives way to it, and if there is none and no
room, the least recently used one, which is the second part of the result. -/
def push (s : Store) (e : StoreEntry) : Store × Option StoreEntry :=
  match s.find? e.key with
  | some old =>
    ({ s with
        entries := { e with key := old.key } :: s.others e.key
        bytes := s.bytes - old.size + e.size }, none)
  | none =>
    if s.capacity ≤ s.entries.length then
      match s.entries.getLast? with
      | some last =>
        ({ s with
            entries := e :: s.entries.dropLast
            bytes := s.bytes - last.size + e.size }, some last)
      | none => ({ s with entries := [e], bytes := s.bytes + e.size }, none)
    else ({ s with entries := e :: s.entries, bytes := s.bytes + e.size }, none)

/-- Drops the least recently used entries until the bytes are within the limit, or one entry is left.
The second part of the result is what was dropped, in order. -/
def shrink (s : Store) (dropped : List Path) : Store × List Path :=
  if h : s.maxBytes < s.bytes ∧ 1 < s.entries.length then
    let last := s.entries.getLast (by intro e; simp [e] at h)
    shrink { s with entries := s.entries.dropLast, bytes := s.bytes - last.size }
      (dropped ++ [last.key])
  else (s, dropped)
  termination_by s.entries.length
  decreasing_by simp only [List.length_dropLast]; omega

/-- Puts an analysis under a path; it must be of the content it is put for. The second part of the
result is the paths of the entries that gave way, in order. -/
def put (s : Store) (p : Path) (a : Analysis) (f : Fingerprint) :
    Except IndexError (Store × List Path) :=
  if a.fingerprint ≠ f then .error (.fingerprintMismatch p)
  else
    let (s, gone) := s.push ⟨p, a, f, a.size⟩
    let (s, gone) := s.shrink (gone.map (·.key)).toList
    .ok ({ s with evictions := s.evictions + gone.length }, gone)

/-- Drops the entry of a path, and tells whether there was one. -/
def invalidate (s : Store) (p : Path) : Store × Bool := (s.remove p, (s.find? p).isSome)

/-- Drops all entries, and tells how many there were. -/
def invalidateAll (s : Store) : Store × Nat :=
  ({ s with entries := [], bytes := 0 }, s.entries.length)

/-- Drops the entry of a path unless it is for a content, and tells whether one was dropped. -/
def invalidateIfChanged (s : Store) (p : Path) (f : Fingerprint) : Store × Bool :=
  match s.find? p with
  | some e => if e.answers f then (s, false) else (s.remove p, true)
  | none => (s, false)

/-- Drops the entries at and below a directory. The second part of the result is their paths, most
recently used first. -/
def invalidateUnder (s : Store) (dir : Path) : Store × List Path :=
  let doomed := s.keys.filter dir.isUnder
  (doomed.foldl remove s, doomed)

/-- Overwrites the content that the entry of a path is for, and tells whether there is one. -/
def relabel (s : Store) (p : Path) (f : Fingerprint) : Store × Bool :=
  ({ s with entries := s.entries.map fun e => if e.key.Same p then { e with fingerprint := f } else e },
    (s.find? p).isSome)

/-- The counters of a store in a description. -/
def statsText (s : Store) : String :=
  s!"StoreStats \x7b entries: {s.len}, bytes: {s.bytes}, hits: {s.hits}, misses: {s.misses}, " ++
    s!"stale_misses: {s.staleMisses}, evictions: {s.evictions} \x7d"

/-- A description of a store. -/
def description (s : Store) : String :=
  s!"IndexStore \x7b stats: {s.statsText}, max_bytes: {s.maxBytes} \x7d"

end Store
end SymbolIndex
