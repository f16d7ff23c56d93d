import SymbolIndex.Index.Basic

/-!
# Calls

A call asks an index for the analysis of a file, and comes to its answer in stages. It finds the key of
the file, reads it and looks its content up in the store. If it finds nothing, it takes the lock of the
key, and while it holds the lock it looks again and, if need be, analyses the content and stores the
analysis. Each stage is one step, and the steps of several calls may be taken in any order.
-/
namespace SymbolIndex

/-- What a call comes to. -/
abbrev Answer := Except IndexError Analysis

/-- How far a call has come. A lock is given by its number. -/
inductive CallStage
  | started (path : Path)
  | located (key : Path)
  /-- The file was read, or could not be. -/
  | loaded (key : Path) (outcome : Except IndexError Source)
  /-- The store had no analysis of the content. -/
  | missed (s : Source)
  /-- The call refers to the lock of the key, and waits for it. -/
  | waiting (s : Source) (lock : Nat)
  /-- The call holds the lock. -/
  | entered (s : Source) (lock : Nat)
  /-- The content was analysed, but is not yet stored. -/
  | examined (s : Source) (lock : Nat) (a : Analysis)
  | settled (s : Source) (lock : Nat) (r : Answer)
  /-- The call no longer holds the lock, but still refers to it. -/
  | unlocked (s : Source) (lock : Nat) (r : Answer)
  /-- The call no longer refers to the lock. -/
  | detached (s : Source) (r : Answer)
  | finished (r : Answer)

namespace CallStage

/-- Whether a call holds a lock. -/
def holdsLock (n : Nat) : CallStage → Bool
  | entered _ m | examined _ m _ | settled _ m _ => m = n
  | _ => false

/-- Whether a call refers to a lock. -/
def refersTo (n : Nat) : CallStage → Bool
  | waiting _ m | entered _ m | examined _ m _ | settled _ m _ | unlocked _ m _ => m = n
  | _ => false

/-- The answer of a call that is finished. -/
def answer? : CallStage → Option Answer
  | finished r => some r
  | _ => none

/-- The steps from the start to the store's first answer, and those from there to the end. -/
def lookUpSteps : Nat := 3
def remainingSteps : Nat := 7

end CallStage

namespace Index

/-- The next step of a call; `calls` are the stages of all calls, its own among them. -/
def advance (x : Index) (fs : FileSystem) (calls : List CallStage) : CallStage → Index × CallStage
  | .started p => (x, .located (fs.key p))
  | .located key => (x, .loaded key (Source.load fs x.config key))
  | .loaded key (.error e) => (x.dropUnreadable key e, .finished (.error e))
  | .loaded _ (.ok s) =>
    let (store, hit) := x.store.get s.key s.fingerprint
    let x := { x with store := store }
    match hit with
    | some a => (x, .finished (.ok a))
    | none => (x, .missed s)
  | .missed s =>
    let (x, n) := x.lockOf s.key
    (x, .waiting s n)
  | .waiting s n => (x, if calls.any (·.holdsLock n) then .waiting s n else .entered s n)
  | .entered s n =>
    match x.store.peek? s.key s.fingerprint with
    | some a => (x, .settled s n (.ok a))
    | none =>
      match x.examine s with
      | (x, .ok a) => (x, .examined s n a)
      | (x, .error e) => (x, .settled s n (.error e))
  | .examined s n a =>
    let (x, r) := x.keep s a
    (x, .settled s n r)
  | .settled s n r => (x, .unlocked s n r)
  | .unlocked s _ r => (x, .detached s r)
  | .detached s r => (x.releaseLock s.key fun n => calls.any (·.refersTo n), .finished r)
  | .finished r => (x, .finished r)

end Index

/-- An index with the calls under way. -/
structure Session where
  index : Index
  calls : List CallStage

namespace Session

/-- Calls for some files at an index. -/
def start (x : Index) (paths : List Path) : Session := ⟨x, paths.map .started⟩

/-- The next step of the call at a position. -/
def step (fs : FileSystem) (s : Session) (i : Nat) : Session :=
  match s.calls[i]? with
  | none => s
  | some call =>
    let (x, call) := s.index.advance fs s.calls call
    ⟨x, s.calls.set i call⟩

/-- Takes the next steps of calls in some order. -/
def run (fs : FileSystem) (s : Session) (schedule : List Nat) : Session := schedule.foldl (step fs) s

/-- The order in which each of `n` calls takes `steps` steps in its turn. -/
def inTurn (n steps : Nat) : List Nat := (List.range n).flatMap (List.replicate steps)

/-- The answers of the calls that are finished. -/
def answers (s : Session) : List Answer := s.calls.filterMap CallStage.answer?

end Session
end SymbolIndex
