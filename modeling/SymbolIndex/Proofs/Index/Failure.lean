import SymbolIndex.Proofs.Index.Alone

/-!
# Files that cannot be read

A call whose file cannot be read does at most one thing to the index, and does it before it looks anything up
or takes a lock: if the error tells something about the file, the entry of its key is dropped and its loss
announced. `ReadFailure` is the index afterwards for each error, and what happens in a world before the
call fails does not matter, as the books of the store are in order after any of it (`run_sound`).
-/
namespace SymbolIndex

/-- A store without the entry of a path. -/
def Store.without (s : Store) (p : Path) : Store :=
  let kept := s.entries.filter (¬ ·.key.Same p)
  { s with entries := kept, bytes := (kept.map (·.analysis.size)).sum }

theorem Store.Counted.remove_eq_without {s : Store} (h : s.Counted) (p : Path) :
    s.remove p = s.without p := by
  have hsizes : StoreEntry.weigh (s.others p) = ((s.others p).map (·.analysis.size)).sum :=
    congrArg List.sum (List.map_congr_left fun e he => (h.genuine e (others_sublist.subset he)).size_eq)
  rw [remove_eq h, hsizes]
  rfl

namespace Index

/-- An index without the entry of a key. If there was one, its loss is announced. -/
def losing (x : Index) (key : Path) (loss : IndexEvent) : Index :=
  { x with
    store := x.store.without key
    events := x.events ++ if ∃ e ∈ x.store.entries, e.key.Same key then [loss] else [] }

/-- What becomes of an index when the file of a key cannot be read. -/
inductive ReadFailure (x : Index) (key : Path) : IndexError → Index → Prop
  | notFound (p : Path) : ReadFailure x key (.notFound p) (x.losing key (.removed key))
  | unreadable (p : Path) (cause : IoFault) :
      ReadFailure x key (.unreadable p cause) (x.losing key (.invalidated key))
  | tooLarge (p : Path) (size limit : Nat) :
      ReadFailure x key (.tooLarge p size limit) (x.losing key (.invalidated key))
  /-- The error tells nothing about the file. -/
  | other (e : IndexError) (hn : ∀ p, e ≠ .notFound p) (hu : ∀ p cause, e ≠ .unreadable p cause)
      (ht : ∀ p size limit, e ≠ .tooLarge p size limit) : ReadFailure x key e x

variable {x : Index} {fs : FileSystem} {p key : Path} {e : IndexError}

/-- Dropping what cannot be read takes the entry from the store, and announces it if there was one. -/
theorem dropUnreadable_eq (h : x.store.Counted) (key : Path) (e : IndexError) :
    x.dropUnreadable key e = (lossOf? key e).elim x (x.losing key) := by
  have hany : (x.store.find? key).isSome = true ↔ ∃ e ∈ x.store.entries, e.key.Same key := by
    rw [← Option.ne_none_iff_isSome, ne_eq, Store.find?_eq_none]
    simp
  unfold dropUnreadable
  cases lossOf? key e with
  | none => rfl
  | some loss =>
    simp only [Option.elim_some, announceIf, announce, Store.invalidate, losing, h.remove_eq_without, hany]

theorem readFailure_dropUnreadable (h : x.store.Counted) (key : Path) (e : IndexError) :
    x.ReadFailure key e (x.dropUnreadable key e) := by
  rw [dropUnreadable_eq h]
  cases e with
  | notFound p => exact .notFound p
  | unreadable p cause => exact .unreadable p cause
  | tooLarge p size limit => exact .tooLarge p size limit
  | _ => exact .other _ nofun nofun nofun

end Index

namespace World
variable {w : World} {i : Nat} {key : Path} {e : IndexError}

/-- A call that is finding its file leaves the index alone. -/
theorem index_advance_of_reading {p : Path}
    (h : w.calls[i]? = some (.started p) ∨ w.calls[i]? = some (.located p)) :
    (w.step (.advance i)).index = w.index := by
  show (w.advance i).index = w.index
  unfold advance
  rcases h with h | h <;> rw [h] <;> rfl

/-- A call that could not read its file fails, and the others stay where they are. -/
theorem advance_of_unread (h : w.calls[i]? = some (.loaded key (.error e))) : w.step (.advance i) =
    { w with session := ⟨w.index.dropUnreadable key e, w.calls.set i (.finished (.error e))⟩ } := by
  have hsource :
      (fun j => if j = i then (CallStage.finished (.error e)).read?.or (w.source? i) else w.source? j) =
        w.source? := by
    funext j
    split
    · rename_i hj
      rw [hj]
      rfl
    · rfl
  show w.advance i = _
  unfold advance
  rw [h]
  simp only [Index.advance, hsource, Index.examined?, Option.toList_none, List.append_nil]

/-- Whatever has happened in a world, a call for a file that cannot be read answers why, and leaves the store
without the entry of its key, and nothing else changed, if the file is missing, unreadable or too large;
the loss is announced if there was an entry. With any other error the index stays as it is. So it is for
a call that is not interrupted and for one among others, which does nothing else to the index. -/
theorem run_failure (x : Index) (maxEntries maxBytes : Nat) (os : List Store.Operation) (files : FileSystem)
    (acts : List Action) :
    let w := (start { x with store := (Store.new maxEntries maxBytes).run os } files).run acts
    (∀ p e, Source.load w.files w.index.config (w.files.key p) = .error e →
      ∃ y, w.index.analyze w.files p = (y, .error e) ∧ w.index.ReadFailure (w.files.key p) e y) ∧
    (∀ i p, w.calls[i]? = some (.started p) ∨ w.calls[i]? = some (.located p) →
      (w.step (.advance i)).index = w.index) ∧
    ∀ i key e, w.calls[i]? = some (.loaded key (.error e)) →
      ∃ y, w.step (.advance i) = { w with session := ⟨y, w.calls.set i (.finished (.error e))⟩ } ∧
        w.index.ReadFailure key e y := by
  intro w
  have hstart : (start { x with store := (Store.new maxEntries maxBytes).run os } files).store.Sound :=
    (Store.Sound.new maxEntries maxBytes).run os
  have hs : w.store.Sound := run_sound hstart acts
  refine ⟨fun p e h => ⟨_, Index.analyze_of_error h, ?_⟩, fun i p => index_advance_of_reading,
    fun i key e h => ⟨_, advance_of_unread h, ?_⟩⟩
  · exact Index.readFailure_dropUnreadable hs.toCounted _ e
  · exact Index.readFailure_dropUnreadable hs.toCounted key e

/-- The analysis of a script is stored. -/
def filing : List Store.Operation := [.put ⟨"/a.py"⟩ (.unsupported ⟨"/a.py"⟩ ⟨1, "00"⟩) ⟨1, "00"⟩]

/-- An index with the analysis of a script. -/
def scripted : Index := .over .standard ⟨fun _ => none⟩ ((Store.new 4 64).run filing)

/-- When the script is gone, asking for it drops its analysis, which is announced once. -/
theorem run_failure_scripted : scripted.store.keys = [⟨"/a.py"⟩] ∧
    ∃ y, scripted.analyze ⟨.directory [], []⟩ ⟨"/a.py"⟩ = (y, .error (.notFound ⟨"/a.py"⟩)) ∧
      y.store.entries = [] ∧ y.store.bytes = 0 ∧ y.events = [.removed ⟨"/a.py"⟩] ∧ y.parses = 0 := by
  let files : FileSystem := ⟨.directory [], []⟩
  have hdir : files.canonical ⟨"/"⟩ = .ok ⟨"/"⟩ := FileSystem.canonical_of_resolveIn 9 rfl
  have hmissing : files.canonical ⟨"/a.py"⟩ = .error .notFound := FileSystem.canonical_of_resolveIn 9 rfl
  have hkey : files.key ⟨"/a.py"⟩ = ⟨"/a.py"⟩ :=
    FileSystem.key_of_missing hmissing hdir (by decide +kernel)
  have hnode : files.node ⟨"/a.py"⟩ = .error .notFound := FileSystem.node_of_resolveIn 9 rfl
  have hload : Source.load files .standard (files.key ⟨"/a.py"⟩) = .error (.notFound ⟨"/a.py"⟩) := by
    rw [hkey, Source.load, hnode]
    rfl
  obtain ⟨y, hy, hfailure⟩ := (run_failure scripted 4 64 filing files []).1 ⟨"/a.py"⟩ _ hload
  refine ⟨by decide +kernel, y, hy, ?_⟩
  rw [show World.files _ = files from rfl, hkey] at hfailure
  cases hfailure with
  | notFound p => exact ⟨by decide +kernel, by decide +kernel, by decide +kernel, rfl⟩
  | other _ hn => exact absurd rfl (hn _)

end World
end SymbolIndex
