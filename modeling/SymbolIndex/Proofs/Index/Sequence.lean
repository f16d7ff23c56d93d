import SymbolIndex.Proofs.FileSystem.Key
import SymbolIndex.Proofs.Index.Alone
import SymbolIndex.Proofs.Index.Transparency
import SymbolIndex.Proofs.Store.Loss

/-!
# One call after another

An index that is asked for one file at a time never waits, and between its calls it knows no lock
(`Sequence.run_idle`). So each call comes out in one of four ways (`Index.analyze_outcome`): the file cannot
be read, or the store has its analysis, or it is analysed, which fails or is stored. What is answered is in
the store afterwards (`Index.peek?_of_analyze`), and what is not found leaves it (`Index.find?_of_notFound`).
-/
namespace SymbolIndex

/-- What was put is given out for the content that it was put for. -/
theorem Store.Sound.peek?_put {s : Store} {p : Path} {a : Analysis} {f : Fingerprint} (h : s.Sound)
    (ha : a.fingerprint = f) : (s.after (.put p a f)).peek? p f = some a := by
  rw [peek?_eq_some (h.after _).toCounted]
  obtain ⟨kept, dropped, -, -, -, heq⟩ := put_eq (p := p) h.toCounted a ha
  simp only [Store.after, perform, heq]
  exact ⟨_, List.mem_cons_self, front_same s _, rfl, rfl⟩

namespace Index

variable {x y : Index} {fs : FileSystem} {p key : Path} {s : Source} {a : Analysis} {e : IndexError}

/-- Between calls, the store is sound and no lock is known. -/
structure Idle (x : Index) : Prop where
  sound : x.store.Sound
  unlocked : x.locks = []

/-- An index that has looked for a content in vain, and has analysed it. -/
def examining (x : Index) (s : Source) : Index :=
  ({ x with store := (x.store.get s.key s.fingerprint).1, nextLock := x.nextLock + 1 }.examine s).1

theorem examining_frame (x : Index) (s : Source) :
    (x.examining s).registry = x.registry ∧ (x.examining s).config = x.config ∧
      (x.examining s).locks = x.locks ∧ (x.examining s).store = (x.store.get s.key s.fingerprint).1 := by
  obtain ⟨hr, hc, hl, -, hs⟩ :=
    examine_frame { x with store := (x.store.get s.key s.fingerprint).1, nextLock := x.nextLock + 1 } s
  exact ⟨hr, hc, hl, hs⟩

/-- How analysing a file comes out. -/
inductive Outcome (x : Index) (fs : FileSystem) (p : Path) : Index × Answer → Prop
  | unread (e : IndexError) (h : Source.load fs x.config (fs.key p) = .error e) :
      Outcome x fs p (x.dropUnreadable (fs.key p) e, .error e)
  | found (s : Source) (a : Analysis) (h : Source.load fs x.config (fs.key p) = .ok s)
      (ha : x.store.peek? s.key s.fingerprint = some a) :
      Outcome x fs p ({ x with store := (x.store.get s.key s.fingerprint).1 }, .ok a)
  | refused (s : Source) (e : IndexError) (h : Source.load fs x.config (fs.key p) = .ok s)
      (ha : x.registry.analyze s = .error e) : Outcome x fs p (x.examining s, .error e)
  | stored (s : Source) (a : Analysis) (h : Source.load fs x.config (fs.key p) = .ok s)
      (ha : x.registry.analyze s = .ok a) : Outcome x fs p (((x.examining s).keep s a).1, .ok a)

theorem analyze_outcome (hx : x.Idle) (fs : FileSystem) (p : Path) : Outcome x fs p (x.analyze fs p) := by
  cases h : Source.load fs x.config (fs.key p) with
  | error e =>
    rw [analyze_of_error h]
    exact .unread e h
  | ok s =>
    cases hp : x.store.peek? s.key s.fingerprint with
    | some a =>
      rw [analyze_of_hit h ((Store.get_snd hx.sound.toCounted).trans hp)]
      exact .found s a h hp
    | none =>
      have hmiss := analyze_of_miss h hx.sound.toCounted hp (by rw [hx.unlocked]; rfl)
      cases ha : x.registry.analyze s with
      | error e =>
        rw [ha] at hmiss
        rw [hmiss]
        exact .refused s e h ha
      | ok a =>
        have hkept : ((x.examining s).keep s a).2 = .ok a :=
          keep_answer _ s a (Registry.analyze_fingerprint ha)
        have heq : (x.examining s).keep s a = (((x.examining s).keep s a).1, .ok a) := Prod.ext rfl hkept
        rw [ha] at hmiss
        rw [hmiss]
        show Outcome x fs p ((x.examining s).keep s a)
        rw [heq]
        exact .stored s a h ha

/-- After a call, the index is idle again. -/
theorem Idle.analyze (hx : x.Idle) (fs : FileSystem) (p : Path) :
    (x.analyze fs p).1.Idle ∧ (x.analyze fs p).1.config = x.config := by
  have ho := analyze_outcome hx fs p
  generalize x.analyze fs p = r at ho
  cases ho with
  | unread e h =>
    obtain ⟨-, hc, hl, -⟩ := x.dropUnreadable_frame (fs.key p) e
    refine ⟨⟨?_, hl.trans hx.unlocked⟩, hc⟩
    rw [dropUnreadable_store]
    split
    · exact hx.sound.after _
    · exact hx.sound
  | found s a h ha => exact ⟨⟨hx.sound.get _ _, hx.unlocked⟩, rfl⟩
  | refused s e h ha =>
    obtain ⟨-, hc, hl, hs⟩ := x.examining_frame s
    exact ⟨⟨hs ▸ hx.sound.get _ _, hl.trans hx.unlocked⟩, hc⟩
  | stored s a h ha =>
    obtain ⟨-, hc, hl, hs⟩ := x.examining_frame s
    obtain ⟨-, hc', hl', -⟩ := (x.examining s).keep_frame s a
    refine ⟨⟨?_, hl'.trans (hl.trans hx.unlocked)⟩, hc'.trans hc⟩
    rw [keep_store, hs]
    exact (hx.sound.get _ _).after _

/-- What a call answers was read under the key of the file, and is in the store afterwards. -/
theorem peek?_of_analyze (hx : x.Idle) (h : (x.analyze fs p).2 = .ok a) :
    ∃ s, Source.load fs x.config (fs.key p) = .ok s ∧
      (x.analyze fs p).1.store.peek? s.key s.fingerprint = some a := by
  have ho := analyze_outcome hx fs p
  generalize x.analyze fs p = r at ho h
  cases ho with
  | unread e _ | refused s e _ _ => cases h
  | found s b hl ha =>
    cases h
    exact ⟨s, hl, (Store.peek?_get hx.sound.toCounted).trans ha⟩
  | stored s b hl ha =>
    cases h
    obtain ⟨-, -, -, hs⟩ := x.examining_frame s
    refine ⟨s, hl, ?_⟩
    rw [keep_store, hs]
    exact (hx.sound.get _ _).peek?_put (Registry.analyze_fingerprint ha)

/-- A file that is not found leaves the store. -/
theorem find?_of_notFound {q : Path} (hx : x.Idle) (h : (x.analyze fs p).2 = .error (.notFound q))
    (key : Path) :
    Source.load fs x.config (fs.key p) = .error (.notFound q) ∧ (x.analyze fs p).1.store.find? key =
      if (fs.key p).Same key then none else x.store.find? key := by
  have ho := analyze_outcome hx fs p
  generalize x.analyze fs p = r at ho h
  cases ho with
  | unread e hl =>
    cases h
    refine ⟨hl, ?_⟩
    rw [dropUnreadable_store]
    exact Store.find?_remove
  | refused s e _ ha =>
    cases h
    -- No analyzer fails because a file is missing.
    unfold Registry.analyze at ha
    split at ha
    · cases ha
    · split at ha <;> cases ha
  | found | stored => cases h

/-- A call stores nothing under another key. -/
theorem mem_of_analyze (hx : x.Idle) {d : StoreEntry} (hd : d ∈ (x.analyze fs p).1.store.entries) :
    d ∈ x.store.entries ∨ d.key.Same (fs.key p) := by
  have hc := hx.sound.toCounted
  have ho := analyze_outcome hx fs p
  generalize x.analyze fs p = r at ho hd
  cases ho with
  | unread e hl =>
    rw [dropUnreadable_store] at hd
    split at hd
    · rw [Store.after_invalidate, Store.remove_eq hc] at hd
      exact .inl (Store.mem_others.1 hd).1
    · exact .inl hd
  | found s a hl ha => exact .inl ((Store.get_perm hc).mem_iff.2 hd)
  | refused s e hl ha =>
    rw [(x.examining_frame s).2.2.2] at hd
    exact .inl ((Store.get_perm hc).mem_iff.2 hd)
  | stored s a hl ha =>
    rw [keep_store, (x.examining_frame s).2.2.2] at hd
    rcases Store.mem_after (hc.get _ _) hd with hd | ⟨key, b, f, hput, hs, -, -⟩
    · exact .inl ((Store.get_perm hc).mem_iff.2 hd)
    · cases hput
      obtain ⟨-, hs'⟩ := Source.eq_of_load hl
      rw [hs'] at hs
      exact .inr hs

/-- What is announced changes neither the store nor the locks. -/
theorem Idle.announceReindexed (hx : x.Idle) (p : Path) (r : Answer) : (x.announceReindexed p r).Idle := by
  cases r with
  | ok a => exact ⟨hx.sound, hx.unlocked⟩
  | error e => exact hx

/-- What a message makes doubtful leaves the store; the index stays idle. -/
theorem Idle.absorb (hx : x.Idle) (m : WatchMessage) : (x.absorb m).Idle := by
  constructor
  · rw [World.absorb_store]
    cases m.operation? with
    | none => exact hx.sound
    | some o => exact hx.sound.after o
  · have hl : (x.absorb m).locks = x.locks := by
      unfold Index.absorb
      split <;> rfl
    rw [hl, hx.unlocked]

theorem Idle.apply (hx : x.Idle) (fs : FileSystem) (m : WatchMessage) : (x.apply fs m).Idle := by
  have habsorbed := hx.absorb m
  have hreindexed (p : Path) : ((x.absorb m).reindex fs p).Idle := by
    have hidle := (habsorbed.analyze fs p).1
    rw [reindex]
    generalize (x.absorb m).analyze fs p = r at hidle
    exact hidle.announceReindexed p r.2
  rw [Index.apply]
  cases m.changed? with
  | none => exact habsorbed
  | some c =>
    dsimp only
    split
    · exact hreindexed _
    · exact habsorbed

end Index

/-! ### Histories -/

/-- An index that is asked for one file at a time, and the file system that it reads. -/
structure Sequence where
  index : Index
  files : FileSystem

/-- What may happen to it. -/
inductive Sequence.Action
  | analyze (path : Path)
  /-- The file system is another one from now on. -/
  | edit (files : FileSystem)
  /-- A message is followed, and the file analysed again if need be. -/
  | follow (message : WatchMessage)
  /-- An operation of the store, unless it puts something there. -/
  | use (operation : Store.Operation)

namespace Sequence

/-- An index that has not done anything yet. -/
def start (config : Config) (registry : Registry) (maxEntries maxBytes : Nat) (files : FileSystem) :
    Sequence :=
  ⟨.over config registry (.new maxEntries maxBytes), files⟩

def step (d : Sequence) : Action → Sequence
  | .analyze p => { d with index := (d.index.analyze d.files p).1 }
  | .edit files => { d with files := files }
  | .follow m => { d with index := d.index.apply d.files m }
  | .use o => if o.isPut then d else { d with index := { d.index with store := d.index.store.after o } }

def run (d : Sequence) (acts : List Action) : Sequence := acts.foldl step d

variable {d : Sequence}

theorem step_idle (h : d.index.Idle) (act : Action) : (d.step act).index.Idle := by
  cases act with
  | analyze p =>
    have hidle := (h.analyze d.files p).1
    simp only [step]
    exact hidle
  | edit files => exact h
  | follow m =>
    have hidle := h.apply d.files m
    simp only [step]
    exact hidle
  | use o =>
    rw [step]
    split
    · exact h
    · exact ⟨h.sound.after o, h.unlocked⟩

theorem run_idle (h : d.index.Idle) (acts : List Action) : (d.run acts).index.Idle := by
  induction acts generalizing d with
  | nil => exact h
  | cons act acts ih => exact ih (step_idle h act)

theorem start_idle (config : Config) (registry : Registry) (maxEntries maxBytes : Nat) (files : FileSystem) :
    (start config registry maxEntries maxBytes files).index.Idle :=
  ⟨.new maxEntries maxBytes, rfl⟩

end Sequence
end SymbolIndex
