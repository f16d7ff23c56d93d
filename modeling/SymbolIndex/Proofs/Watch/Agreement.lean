import SymbolIndex.Proofs.Watch.Pruning
import SymbolIndex.Proofs.Watch.Vanishing

/-!
# Readers that agree

The index reads files to analyse them, and the watcher to tell what has become of them; both look at
a path and read it, each in its own order, and both have a limit. With the same limit they come to
the same: what the watcher tells is read off what the index would come to (`fingerprintFile_eq`), and
a look of the watcher at anything but a directory tells that too, unless it tells of a directory that
is gone (`resolve_eq`). What a scan with that limit finds is not too large for them
(`load_of_scanned`).
-/
namespace SymbolIndex

/-- What there is to tell of a path, by what reading it comes to. -/
def Invalidation.ofLoad (p : Path) : Except IndexError Source → Invalidation
  | .ok s => .changed p (some s.fingerprint)
  | .error (.notFound _) => .removed p
  | .error _ => .changed p none

variable {fs : FileSystem} {reading watching : Config} {p root : Path} {e : IndexError} {s : Source}

/-- Why a file cannot be read. -/
theorem Source.load_eq_error (h : Source.load fs reading p = .error e) :
    e = .notFound p ∨ (∃ cause, e = .unreadable p cause) ∨
      (∃ n, fs.node p = .ok n ∧ reading.maxSourceBytes < n.size ∧
        e = .tooLarge p n.size reading.maxSourceBytes) ∨
      fs.read p = .stalled ∧ e = .readTimeout p reading.readTimeoutMs := by
  have of_ofRead (cause : IoFault) : IndexError.ofRead p cause = .notFound p ∨
      ∃ cause', IndexError.ofRead p cause = .unreadable p cause' := by
    unfold IndexError.ofRead
    split
    · exact .inl rfl
    · exact .inr ⟨cause, rfl⟩
  unfold Source.load at h
  cases hn : fs.node p with
  | error cause =>
    rw [hn] at h
    cases h
    exact (of_ofRead cause).imp_right .inl
  | ok n =>
    rw [hn] at h
    dsimp only at h
    split at h
    · cases h
      exact .inr (.inl ⟨_, rfl⟩)
    split at h
    · cases h
      exact .inr (.inr (.inl ⟨n, rfl, ‹_›, rfl⟩))
    cases hread : fs.read p with
    | fault cause =>
      rw [hread] at h
      cases h
      exact (of_ofRead cause).imp_right .inl
    | stalled =>
      rw [hread] at h
      cases h
      exact .inr (.inr (.inr ⟨rfl, rfl⟩))
    | content bytes =>
      -- The size is the one that was asked for, and so not too large.
      obtain rfl := Except.ok.inj (hn.symm.trans (FileSystem.read_eq_content_iff.1 hread))
      rw [hread] at h
      dsimp only at h
      rw [if_neg ‹_›] at h
      cases h

namespace Watcher

/-- Of what is too large there is no fingerprint, whether or not it can be read. -/
theorem fingerprintFile_of_large {config : Config} {n : FileNode} (hn : fs.node p = .ok n)
    (hlarge : config.maxSourceBytes < n.size) : fingerprintFile config fs p = .changed p none := by
  unfold fingerprintFile
  cases hread : fs.read p with
  | content bytes =>
    obtain rfl := Except.ok.inj (hn.symm.trans (FileSystem.read_eq_content_iff.1 hread))
    exact if_pos hlarge
  | fault cause =>
    have hc : cause ≠ .notFound := by
      rintro rfl
      exact FileSystem.read_ne_notFound hn hread
    exact if_neg hc
  | stalled => rfl

/-- What the watcher tells of a path that it reads is what there is to tell if the index reads it. -/
theorem fingerprintFile_eq (h : watching.maxSourceBytes = reading.maxSourceBytes) (fs : FileSystem)
    (p : Path) : fingerprintFile watching fs p = .ofLoad p (Source.load fs reading p) := by
  have of_fault (cause : IoFault) : (if cause = .notFound then Invalidation.removed p else .changed p none) =
      .ofLoad p (.error (.ofRead p cause)) := by
    unfold IndexError.ofRead
    split <;> rfl
  unfold Source.load
  cases hn : fs.node p with
  | error cause =>
    rw [fingerprintFile, FileSystem.read, hn]
    exact of_fault cause
  | ok n =>
    dsimp only
    by_cases hlarge : reading.maxSourceBytes < n.size
    · rw [fingerprintFile_of_large hn (h ▸ hlarge), if_pos hlarge]
      split <;> rfl
    rw [if_neg hlarge]
    split
    · obtain ⟨es, rfl⟩ : ∃ es, n = .directory es := by
        cases n with
        | directory es => exact ⟨es, rfl⟩
        | _ => contradiction
      rw [fingerprintFile, FileSystem.read, hn]
      rfl
    · rw [fingerprintFile, h]
      cases fs.read p with
      | content bytes => dsimp only; split <;> rfl
      | fault cause => exact of_fault cause
      | stalled => rfl

/-- A look at anything but a directory, where nothing was watched, tells the same. -/
theorem resolve_eq (w : Watcher) (hdir : fs.isDirectory p = false)
    (hwatched : fs.node p = .error .notFound → w.watchesBelow p = false) :
    w.resolve fs p = (w, some (fingerprintFile w.config fs p)) := by
  by_cases hgone : fs.node p = .error .notFound
  · have hnone := hwatched hgone
    rw [resolve_of_gone hgone, forget_of_unwatched hnone, goneAs_eq_removed.2 hnone, hnone, fingerprintFile,
      FileSystem.read, hgone]
    rfl
  · unfold FileSystem.isDirectory at hdir
    cases hn : fs.node p with
    | error cause =>
      have hc : cause ≠ .notFound := fun hc => hgone (hc ▸ hn)
      simp [resolve, fingerprintFile, FileSystem.read, hn, hc]
    | ok n =>
      rw [hn] at hdir
      have hd : ¬ n.isDirectory = true := by simpa using hdir
      rw [resolve, hn]
      dsimp only
      rw [if_neg hd]
      split
      · rw [fingerprintFile_of_large hn ‹_›]
      · rfl

end Watcher

namespace FileSystem

/-- What a scan finds is not too large to be read with the limit of the scan, since what could not be
looked up then cannot be looked up to be read. -/
theorem load_of_scanned (hp : p ∈ fs.sourcesBelow reading.maxSourceBytes root) (q : Path) (size limit : Nat) :
    Source.load fs reading p ≠ .error (.tooLarge q size limit) := by
  intro hload
  obtain ⟨e, he, rfl⟩ := List.mem_map.1 hp
  obtain ⟨-, -, -, hsize⟩ := isSource_iff.1 (List.mem_filter.1 he).2
  obtain hc | ⟨cause, hc⟩ | ⟨n, hn, hlarge, -⟩ | ⟨-, hc⟩ := Source.load_eq_error hload
  · cases hc
  · cases hc
  · simp [isLarge, hn, Nat.not_le.2 hlarge] at hsize
  · cases hc

end FileSystem

/-- The readers agree. Whatever is at a path, if reading it ends, the watcher tells of a new content
with a fingerprint exactly if the index reads a content with that fingerprint, of one without a
fingerprint exactly if the index cannot read it or finds it too large, and that the path is gone
exactly if the index does not find it. A look of the watcher at anything that is no directory tells
the same, if nothing at or below a missing path is watched. And the index finds nothing too large
that a scan with its limit has found. -/
theorem readers_agree (fs : FileSystem) (p : Path) (reading watching : Config)
    (hlimit : watching.maxSourceBytes = reading.maxSourceBytes) :
    (fs.read p ≠ .stalled →
      (∀ f, Watcher.fingerprintFile watching fs p = .changed p (some f) ↔
        ∃ s, Source.load fs reading p = .ok s ∧ s.fingerprint = f) ∧
      (Watcher.fingerprintFile watching fs p = .changed p none ↔
        (∃ cause, Source.load fs reading p = .error (.unreadable p cause)) ∨
          ∃ size limit, Source.load fs reading p = .error (.tooLarge p size limit)) ∧
      (Watcher.fingerprintFile watching fs p = .removed p ↔
        Source.load fs reading p = .error (.notFound p))) ∧
    (∀ w : Watcher, w.config = watching → fs.isDirectory p = false →
      (fs.node p = .error .notFound → ∀ dir ∈ w.watched, p.isUnder dir = false) →
      w.resolve fs p = (w, some (Watcher.fingerprintFile watching fs p))) ∧
    (∀ root, p ∈ fs.sourcesBelow reading.maxSourceBytes root →
      ∀ q size limit, Source.load fs reading p ≠ .error (.tooLarge q size limit)) := by
  refine ⟨fun hends => ?_, ?_, fun root hp => FileSystem.load_of_scanned hp⟩
  · rw [Watcher.fingerprintFile_eq hlimit]
    cases hload : Source.load fs reading p with
    | ok s => simp [Invalidation.ofLoad]
    | error e =>
      obtain rfl | ⟨cause, rfl⟩ | ⟨content, -, -, rfl⟩ | ⟨hstalled, -⟩ := Source.load_eq_error hload
      · simp [Invalidation.ofLoad]
      · simp [Invalidation.ofLoad]
      · simp [Invalidation.ofLoad]
      · exact absurd hstalled hends
  · rintro w rfl hdir hwatched
    refine w.resolve_eq hdir fun hgone => ?_
    rw [Watcher.watchesBelow, List.any_eq_false]
    simpa using hwatched hgone

/-- A file at the limit is read by all, and one above it by none. -/
theorem readers_agree_at_limit :
    let config : Config := { Config.standard with maxSourceBytes := 3 }
    let small : ByteArray := ⟨#[120, 61, 49]⟩
    let large : ByteArray := ⟨#[120, 61, 49, 10]⟩
    let fs : FileSystem := ⟨.directory [("a.py", .file small), ("b.py", .file large)], []⟩
    let w : Watcher := { (default : Watcher) with config := config }
    Watcher.fingerprintFile config fs ⟨"/a.py"⟩ = .changed ⟨"/a.py"⟩ (some (.ofBytes small)) ∧
      w.resolve fs ⟨"/a.py"⟩ = (w, some (.changed ⟨"/a.py"⟩ (some (.ofBytes small)))) ∧
      ⟨"/a.py"⟩ ∈ fs.sourcesBelow 3 ⟨"/a.py"⟩ ∧
      (∀ q size limit, Source.load fs config ⟨"/a.py"⟩ ≠ .error (.tooLarge q size limit)) ∧
      Watcher.fingerprintFile config fs ⟨"/b.py"⟩ = .changed ⟨"/b.py"⟩ none ∧
      Watcher.fingerprintFile config fs ⟨"/c.py"⟩ = .removed ⟨"/c.py"⟩ := by
  intro config small large fs w
  have hsmall : fs.node ⟨"/a.py"⟩ = .ok (.file small) := FileSystem.node_of_resolveIn 9 rfl
  have hlarge : fs.node ⟨"/b.py"⟩ = .ok (.file large) := FileSystem.node_of_resolveIn 9 rfl
  have hgone : fs.node ⟨"/c.py"⟩ = .error .notFound := FileSystem.node_of_resolveIn 9 rfl
  have hmem : ⟨"/a.py"⟩ ∈ fs.sourcesBelow 3 ⟨"/a.py"⟩ := by
    have hr : fs.resolve false ⟨"/a.py"⟩ = .ok (["a.py"], .file small) :=
      FileSystem.resolve_of_resolveIn 9 rfl
    have hdash : ¬ Path.Same ⟨"/a.py"⟩ ⟨"-"⟩ := by decide +kernel
    have hfits : fs.isLarge 3 ⟨"/a.py"⟩ = false := by
      rw [FileSystem.isLarge, hsmall]
      rfl
    have hsource : fs.isSource 3 ⟨⟨"/a.py"⟩, .file small⟩ = true :=
      FileSystem.isSource_iff.2 ⟨rfl, by decide +kernel, by decide +kernel, hfits⟩
    simp [FileSystem.sourcesBelow, Walk.run, hdash, hr, hsource]
  obtain ⟨hread, hlook, hscan⟩ := readers_agree fs ⟨"/a.py"⟩ config config rfl
  have htold : Watcher.fingerprintFile config fs ⟨"/a.py"⟩ = .changed ⟨"/a.py"⟩ (some (.ofBytes small)) :=
    ((hread (by simp [FileSystem.read, hsmall])).1 _).2
      ⟨⟨⟨"/a.py"⟩, small, .ofBytes small⟩, Source.load_file hsmall (by decide), rfl⟩
  have hdir : fs.isDirectory ⟨"/a.py"⟩ = false := by rw [FileSystem.isDirectory, hsmall]; rfl
  refine ⟨htold, htold ▸ hlook w rfl hdir (by simp [hsmall]), hmem, hscan _ hmem, ?_, ?_⟩
  · have hread := (readers_agree fs ⟨"/b.py"⟩ config config rfl).1 (by simp [FileSystem.read, hlarge])
    refine hread.2.1.2 (.inr ⟨4, 3, ?_⟩)
    rw [Source.load, hlarge]
    rfl
  · have hread := (readers_agree fs ⟨"/c.py"⟩ config config rfl).1 (by simp [FileSystem.read, hgone])
    refine hread.2.2.2 ?_
    rw [Source.load, hgone]
    rfl

end SymbolIndex
