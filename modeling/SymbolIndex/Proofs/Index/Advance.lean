import SymbolIndex.Index.Call
import SymbolIndex.Proofs.Store.Operation

/-!
# The steps of a call

All that one step of a call can do is a case of `Index.Advance`: which stage it leads to, what it does
to the index, and on what that depends. What a step does to the store is at most one operation of it
(`Advance.store_eq`), and only the steps that take and give back the lock of a key change the locks.
-/
namespace SymbolIndex

/-- What a call asks of the store in the step that it takes from a stage. -/
def CallStage.operation? : CallStage → Option Store.Operation
  | loaded key (.error e) => if (Index.lossOf? key e).isSome then some (.invalidate key) else none
  | loaded _ (.ok s) => some (.get s.key s.fingerprint)
  | entered s _ => some (.peek s.key s.fingerprint)
  | examined s _ a => some (.put s.key a s.fingerprint)
  | _ => none

namespace Index
open CallStage

variable {x : Index} {fs : FileSystem} {calls : List CallStage} {c : CallStage}

/-- The next step of a call from a stage to a stage, and the index after it. -/
inductive Advance (x : Index) (fs : FileSystem) (calls : List CallStage) :
    CallStage → Index → CallStage → Prop
  | locate (p : Path) : Advance x fs calls (.started p) x (.located (fs.key p))
  | load (key : Path) : Advance x fs calls (.located key) x (.loaded key (Source.load fs x.config key))
  /-- The file could not be read. -/
  | fail (key : Path) (e : IndexError) :
      Advance x fs calls (.loaded key (.error e)) (x.dropUnreadable key e) (.finished (.error e))
  | hit (key : Path) (s : Source) (a : Analysis) (h : (x.store.get s.key s.fingerprint).2 = some a) :
      Advance x fs calls (.loaded key (.ok s))
        { x with store := (x.store.get s.key s.fingerprint).1 } (.finished (.ok a))
  | miss (key : Path) (s : Source) (h : (x.store.get s.key s.fingerprint).2 = none) :
      Advance x fs calls (.loaded key (.ok s))
        { x with store := (x.store.get s.key s.fingerprint).1 } (.missed s)
  | refer (s : Source) : Advance x fs calls (.missed s) (x.lockOf s.key).1 (.waiting s (x.lockOf s.key).2)
  /-- Somebody else holds the lock. -/
  | wait (s : Source) (n : Nat) (h : calls.any (·.holdsLock n) = true) :
      Advance x fs calls (.waiting s n) x (.waiting s n)
  | enter (s : Source) (n : Nat) (h : calls.any (·.holdsLock n) = false) :
      Advance x fs calls (.waiting s n) x (.entered s n)
  /-- Somebody else has stored the analysis meanwhile. -/
  | share (s : Source) (n : Nat) (a : Analysis) (h : x.store.peek? s.key s.fingerprint = some a) :
      Advance x fs calls (.entered s n) x (.settled s n (.ok a))
  | examine (s : Source) (n : Nat) (a : Analysis) (h : x.store.peek? s.key s.fingerprint = none)
      (ha : x.registry.analyze s = .ok a) :
      Advance x fs calls (.entered s n) (x.examine s).1 (.examined s n a)
  | giveUp (s : Source) (n : Nat) (e : IndexError) (h : x.store.peek? s.key s.fingerprint = none)
      (he : x.registry.analyze s = .error e) :
      Advance x fs calls (.entered s n) (x.examine s).1 (.settled s n (.error e))
  | keep (s : Source) (n : Nat) (a : Analysis) :
      Advance x fs calls (.examined s n a) (x.keep s a).1 (.settled s n (x.keep s a).2)
  | unlock (s : Source) (n : Nat) (r : Answer) : Advance x fs calls (.settled s n r) x (.unlocked s n r)
  | detach (s : Source) (n : Nat) (r : Answer) : Advance x fs calls (.unlocked s n r) x (.detached s r)
  | release (s : Source) (r : Answer) :
      Advance x fs calls (.detached s r)
        (x.releaseLock s.key fun n => calls.any (·.refersTo n)) (.finished r)
  | rest (r : Answer) : Advance x fs calls (.finished r) x (.finished r)

theorem advance_cases (x : Index) (fs : FileSystem) (calls : List CallStage) (c : CallStage) :
    Advance x fs calls c (x.advance fs calls c).1 (x.advance fs calls c).2 := by
  cases c with
  | started p => exact .locate p
  | located key => exact .load key
  | loaded key outcome =>
    cases outcome with
    | error e => exact .fail key e
    | ok s =>
      cases h : (x.store.get s.key s.fingerprint).2 with
      | some a => simpa only [advance, h] using .hit key s a h
      | none => simpa only [advance, h] using .miss key s h
  | missed s => exact .refer s
  | waiting s n =>
    cases h : calls.any (·.holdsLock n) with
    | true => simpa only [advance, h, if_true] using .wait s n h
    | false => simpa only [advance, h, if_false] using .enter s n h
  | entered s n =>
    cases h : x.store.peek? s.key s.fingerprint with
    | some a => simpa only [advance, h] using .share s n a h
    | none =>
      cases ha : x.registry.analyze s with
      | ok a => simpa only [advance, h, Index.examine, ha] using .examine s n a h ha
      | error e => simpa only [advance, h, Index.examine, ha] using .giveUp s n e h ha
  | examined s n a => exact .keep s n a
  | settled s n r => exact .unlock s n r
  | unlocked s n r => exact .detach s n r
  | detached s r => exact .release s r
  | finished r => exact .rest r

/-! ### What stays as it is -/

section
variable (x : Index) (key : Path) (e : IndexError) (s : Source) (a : Analysis)

theorem dropUnreadable_frame :
    (x.dropUnreadable key e).registry = x.registry ∧ (x.dropUnreadable key e).config = x.config ∧
      (x.dropUnreadable key e).locks = x.locks ∧ (x.dropUnreadable key e).nextLock = x.nextLock ∧
      (x.dropUnreadable key e).parses = x.parses := by
  unfold dropUnreadable
  cases lossOf? key e <;> exact ⟨rfl, rfl, rfl, rfl, rfl⟩

theorem examine_frame :
    (x.examine s).1.registry = x.registry ∧ (x.examine s).1.config = x.config ∧
      (x.examine s).1.locks = x.locks ∧ (x.examine s).1.nextLock = x.nextLock ∧
      (x.examine s).1.store = x.store := by
  unfold examine
  cases (x.registry.analyzerFor? s).isSome <;> exact ⟨rfl, rfl, rfl, rfl, rfl⟩

theorem keep_frame :
    (x.keep s a).1.registry = x.registry ∧ (x.keep s a).1.config = x.config ∧
      (x.keep s a).1.locks = x.locks ∧ (x.keep s a).1.nextLock = x.nextLock ∧
      (x.keep s a).1.parses = x.parses := by
  unfold keep
  cases x.store.put s.key a s.fingerprint <;> exact ⟨rfl, rfl, rfl, rfl, rfl⟩

theorem lockOf_frame :
    (x.lockOf key).1.registry = x.registry ∧ (x.lockOf key).1.config = x.config ∧
      (x.lockOf key).1.store = x.store ∧ (x.lockOf key).1.parses = x.parses := by
  unfold lockOf
  cases x.locks.find? (·.1.Same key) <;> exact ⟨rfl, rfl, rfl, rfl⟩

theorem releaseLock_frame (isReferred : Nat → Bool) :
    (x.releaseLock key isReferred).registry = x.registry ∧
      (x.releaseLock key isReferred).config = x.config ∧
      (x.releaseLock key isReferred).store = x.store ∧
      (x.releaseLock key isReferred).parses = x.parses := by
  unfold releaseLock
  cases x.locks.find? (·.1.Same key) with
  | none => exact ⟨rfl, rfl, rfl, rfl⟩
  | some e => cases h : isReferred e.2 <;> simp [h]

theorem nextLock_releaseLock (isReferred : Nat → Bool) :
    (x.releaseLock key isReferred).nextLock = x.nextLock := by
  unfold releaseLock
  cases x.locks.find? (·.1.Same key) with
  | none => rfl
  | some e => cases h : isReferred e.2 <;> simp [h]

theorem dropUnreadable_store : (x.dropUnreadable key e).store =
    if (lossOf? key e).isSome then x.store.after (.invalidate key) else x.store := by
  unfold dropUnreadable
  cases lossOf? key e <;> rfl

theorem keep_store : (x.keep s a).1.store = x.store.after (.put s.key a s.fingerprint) := by
  simp only [keep, Store.after, Store.perform]
  cases x.store.put s.key a s.fingerprint <;> rfl

/-- An analysis of a content can be stored for it. -/
theorem keep_answer (h : a.fingerprint = s.fingerprint) : (x.keep s a).2 = .ok a := by
  simp [keep, Store.put, h]

end

variable {x' : Index} {c' : CallStage}

theorem Advance.registry_eq (h : Advance x fs calls c x' c') : x'.registry = x.registry := by
  cases h with
  | fail key e => exact (dropUnreadable_frame x key e).1
  | refer s => exact (lockOf_frame x s.key).1
  | examine s n a _ _ => exact (examine_frame x s).1
  | giveUp s n e _ _ => exact (examine_frame x s).1
  | keep s n a => exact (keep_frame x s a).1
  | release s r => exact (releaseLock_frame x s.key _).1
  | _ => rfl

/-- A step does at most one operation of the store. -/
theorem Advance.store_eq (h : Advance x fs calls c x' c') :
    x'.store = c.operation?.elim x.store x.store.after := by
  cases h with
  | fail key e =>
    rw [dropUnreadable_store, operation?]
    split <;> rfl
  | refer s => exact (lockOf_frame x s.key).2.2.1
  | examine s n a _ _ => exact (examine_frame x s).2.2.2.2
  | giveUp s n e _ _ => exact (examine_frame x s).2.2.2.2
  | keep s n a => exact keep_store x s a
  | release s r => exact (releaseLock_frame x s.key _).2.2.1
  | _ => rfl

end Index
end SymbolIndex
