import SymbolIndex.Proofs.Index.World
import SymbolIndex.Proofs.Store.Subtree
import SymbolIndex.Watch.Watcher

/-!
# From a change to the store

When a path has been quiet, the watcher looks at it once, and the index follows what it tells. What an
invalidation drops is said by `Invalidation.spares`, and which one the watcher comes to by
`resolve_spares`: the entry of the path is spared exactly if it is current, whatever was at the path
before. The one thing it tells nothing of is a directory, and so an entry stays when its file has made way
for one. With many paths, `Told` is what the watcher sends, path by path.
-/
namespace SymbolIndex

/-- Whether an invalidation leaves the entry of a path where it is. -/
def Invalidation.spares (i : Invalidation) (q : Path) (e : StoreEntry) : Bool :=
  match i with
  | changed p (some f) => !p.Same q || e.answers f
  | changed p none | removed p => !p.Same q
  | removedTree dir => !dir.isUnder q

/-- Whether an entry is for the content of a file, and the file is not too large. -/
def StoreEntry.IsCurrent (e : StoreEntry) (config : Config) (fs : FileSystem) (p : Path) : Prop :=
  ∃ content, fs.node p = .ok (.file content) ∧ content.size ≤ config.maxSourceBytes ∧
    e.answers (.ofBytes content) = true

namespace Index
variable {x : Index} {fs : FileSystem} {q : Path} {e : StoreEntry}

/-- When an invalidation is followed, a path keeps its entry if it is spared. -/
theorem find?_absorb {i : Invalidation} : (x.absorb (.invalidate i)).store.find? q = some e ↔
    x.store.find? q = some e ∧ i.spares q e = true := by
  cases i with
  | changed p f =>
    cases f with
    | none => exact Store.find?_remove_eq_some.trans (by simp [Invalidation.spares])
    | some f =>
      refine Store.find?_invalidateIfChanged_eq_some.trans (and_congr_right fun _ => ?_)
      simp [Invalidation.spares, imp_iff_not_or]
  | removed p => exact Store.find?_remove_eq_some.trans (by simp [Invalidation.spares])
  | removedTree dir =>
    have hfind : (x.absorb (.invalidate (.removedTree dir))).store.find? q = _ :=
      Store.find?_invalidateUnder x.store dir q
    rw [hfind]
    cases hu : dir.isUnder q <;> simp [Invalidation.spares, hu]

theorem config_absorb (x : Index) (m : WatchMessage) : (x.absorb m).config = x.config := by
  unfold absorb
  split <;> rfl

/-- If changed files are not analysed again at once, a message is only absorbed. -/
theorem apply_eq_absorb (h : x.config.eagerReindex = false) (fs : FileSystem) (m : WatchMessage) :
    x.apply fs m = x.absorb m := by
  have hwants (p : Path) (f : Fingerprint) : (x.absorb m).wantsReindex p f = false := by
    rw [wantsReindex, config_absorb, h, Bool.false_and, Bool.false_and]
  unfold apply
  cases m.changed? with
  | none => rfl
  | some c => simp [hwants]

/-- Then, after some messages, a path has its entry still if all of them spare it. -/
theorem find?_applyAll (h : x.config.eagerReindex = false) (fs : FileSystem) (ms : List WatchMessage) :
    (x.applyAll fs ms).store.find? q = some e ↔
      x.store.find? q = some e ∧ ∀ i, .invalidate i ∈ ms → i.spares q e = true := by
  induction ms generalizing x with
  | nil => simp [applyAll]
  | cons m ms ih =>
    have hconfig : (x.absorb m).config.eagerReindex = false := by rw [config_absorb, h]
    have hcons : x.applyAll fs (m :: ms) = (x.absorb m).applyAll fs ms := by
      rw [applyAll, List.foldl_cons, apply_eq_absorb h]
      rfl
    rw [hcons, ih hconfig]
    cases m with
    | invalidate i => simp [find?_absorb, and_assoc]
    | degraded p reason => simp [absorb, announce]

end Index

namespace Watcher
variable {w v u : Watcher} {fs : FileSystem} {p q : Path} {ps qs : List Path}

/-- The index when the watcher has looked at a path, and it has followed what the watcher tells. -/
def settle (w : Watcher) (x : Index) (fs : FileSystem) (p : Path) : Index :=
  match (w.resolve fs p).2 with
  | some i => x.apply fs (.invalidate i)
  | none => x

theorem fingerprintFile_of_not_file (config : Config) (h : ∀ content, fs.node p ≠ .ok (.file content)) :
    (fingerprintFile config fs p).path = p ∧
      (WatchMessage.invalidate (fingerprintFile config fs p)).changed? = none := by
  unfold fingerprintFile
  split
  · rename_i bytes hread
    unfold FileSystem.read at hread
    split at hread <;> cases hread
    exact absurd ‹_› (h bytes)
  · split <;> exact ⟨rfl, rfl⟩
  · exact ⟨rfl, rfl⟩

/-- All that a look at a path can come to: nothing for a directory, the fingerprint of a file that is not too
large, and no fingerprint for anything else. -/
theorem resolve_cases (w : Watcher) (fs : FileSystem) (p : Path) :
    fs.isDirectory p = true ∧ w.resolve fs p = (w, none) ∨
    (∃ content, fs.node p = .ok (.file content) ∧ content.size ≤ w.config.maxSourceBytes ∧
      w.resolve fs p = (w, some (.changed p (some (.ofBytes content))))) ∨
    fs.isDirectory p = false ∧
      (∀ content, fs.node p = .ok (.file content) → w.config.maxSourceBytes < content.size) ∧
      ∃ w' i, w.resolve fs p = (w', some i) ∧ i.path = p ∧ (WatchMessage.invalidate i).changed? = none := by
  unfold resolve FileSystem.isDirectory
  cases hn : fs.node p with
  | error fault =>
    refine .inr (.inr ⟨rfl, nofun, ?_⟩)
    by_cases hf : fault = .notFound
    · -- Whether a directory was watched there decides what is told, but neither message has a fingerprint.
      simp only [hf, ne_eq, not_true_eq_false, if_false]
      cases hw : w.forgetTree p with
      | mk w' b => cases b <;> exact ⟨_, _, rfl, rfl, rfl⟩
    · exact ⟨w, .changed p none, if_pos hf, rfl, rfl⟩
  | ok n =>
    dsimp only
    by_cases hdir : n.isDirectory = true
    · exact .inl ⟨hdir, if_pos hdir⟩
    have hd : n.isDirectory = false := by simpa using hdir
    rw [if_neg hdir]
    by_cases hs : w.config.maxSourceBytes < n.size
    · refine .inr (.inr ⟨hd, fun c hc => ?_, w, .changed p none, if_pos hs, rfl, rfl⟩)
      cases hc
      exact hs
    rw [if_neg hs]
    by_cases hfile : ∃ content, n = .file content
    · obtain ⟨content, rfl⟩ := hfile
      have hle : content.size ≤ w.config.maxSourceBytes := Nat.le_of_not_lt hs
      refine .inr (.inl ⟨content, rfl, hle, ?_⟩)
      simp [fingerprintFile, FileSystem.read, hn, Nat.not_lt.2 hle]
    · refine .inr (.inr ⟨hd, fun c hc => absurd ⟨c, Except.ok.inj hc⟩ hfile, w, _, rfl, ?_⟩)
      exact fingerprintFile_of_not_file w.config fun c hc => hfile ⟨c, Except.ok.inj (hn.symm.trans hc)⟩

theorem spares_of_changed?_eq_none {i : Invalidation} (h : (WatchMessage.invalidate i).changed? = none)
    (e : StoreEntry) : i.spares i.path e = false := by
  cases i with
  | changed p f =>
    cases f with
    | none => simp [Invalidation.spares, Invalidation.path]
    | some f => cases h
  | removed p => simp [Invalidation.spares, Invalidation.path]
  | removedTree dir =>
    simp [Invalidation.spares, Invalidation.path, Path.isUnder_of_same (Path.Same.refl dir)]

/-- Only the entries at and below its path are dropped by an invalidation. -/
theorem spares_of_not_isUnder {i : Invalidation} (h : i.path.isUnder q = false) (e : StoreEntry) :
    i.spares q e = true := by
  have hs : ¬ i.path.Same q := fun hs => by
    rw [Path.isUnder_of_same hs] at h
    cases h
  cases i with
  | changed p f =>
    have hp : ¬ p.Same q := hs
    cases f <;> simp [Invalidation.spares, hp]
  | removed p =>
    have hp : ¬ p.Same q := hs
    simp [Invalidation.spares, hp]
  | removedTree dir =>
    have hdir : dir.isUnder q = false := h
    simp [Invalidation.spares, hdir]

/-- What a look at a path spares, if it tells anything. -/
theorem resolve_spares (w : Watcher) (fs : FileSystem) (p : Path) :
    fs.isDirectory p = true ∧ (w.resolve fs p).2 = none ∨
    fs.isDirectory p = false ∧ ∃ i, (w.resolve fs p).2 = some i ∧ i.path = p ∧
      ∀ e : StoreEntry, i.spares p e = true ↔ e.IsCurrent w.config fs p := by
  rcases w.resolve_cases fs p with ⟨hd, hr⟩ | ⟨content, hn, hs, hr⟩ | ⟨hd, hlarge, w', i, hr, rfl, hi⟩
  · exact .inl ⟨hd, congrArg Prod.snd hr⟩
  · refine .inr ⟨by rw [FileSystem.isDirectory, hn]; rfl, _, congrArg Prod.snd hr, rfl, fun e => ?_⟩
    have hself : p.Same p := Path.Same.refl p
    simp only [Invalidation.spares, hself, decide_true, Bool.not_true, Bool.false_or]
    refine ⟨fun he => ⟨content, hn, hs, he⟩, fun ⟨c, hc, _, he⟩ => ?_⟩
    rw [hn] at hc
    cases hc
    exact he
  · refine .inr ⟨hd, i, congrArg Prod.snd hr, rfl, fun e => ?_⟩
    rw [spares_of_changed?_eq_none hi e]
    refine ⟨nofun, fun ⟨c, hc, hs, _⟩ => ?_⟩
    exact absurd (hlarge c hc) (Nat.not_lt.2 hs)

/-! ### Telling of several paths -/

/-- What becomes of a watcher that tells of some paths: of each it has told what has become of it, and of no
others. -/
structure Told (w : Watcher) (fs : FileSystem) (ps : List Path) (v : Watcher) : Prop where
  config : v.config = w.config
  isHeard : v.isHeard = w.isHeard
  sent : ∃ ms, v.sent = w.sent ++ ms ∧
    (∀ p ∈ ps, fs.isDirectory p = true ∨ ∃ i, .invalidate i ∈ ms ∧
      ∀ e : StoreEntry, i.spares p e = true → e.IsCurrent w.config fs p) ∧
    ∀ i, .invalidate i ∈ ms → i.path ∈ ps

theorem Told.append (h : Told w fs ps v) (h' : Told v fs qs u) : Told w fs (ps ++ qs) u := by
  obtain ⟨ms, hms, htold, hof⟩ := h.sent
  obtain ⟨ms', hms', htold', hof'⟩ := h'.sent
  rw [h.config] at htold'
  refine ⟨h'.config.trans h.config, h'.isHeard.trans h.isHeard, ms ++ ms', ?_, fun p hp => ?_, fun i hi => ?_⟩
  · rw [hms', hms, List.append_assoc]
  · rcases List.mem_append.1 hp with hp | hp
    · exact (htold p hp).imp_right fun ⟨i, hi, hs⟩ => ⟨i, List.mem_append_left _ hi, hs⟩
    · exact (htold' p hp).imp_right fun ⟨i, hi, hs⟩ => ⟨i, List.mem_append_right _ hi, hs⟩
  · rcases List.mem_append.1 hi with hi | hi
    · exact List.mem_append_left _ (hof i hi)
    · exact List.mem_append_right _ (hof' i hi)

theorem Told.nothing (hc : v.config = w.config) (hh : v.isHeard = w.isHeard) (hs : v.sent = w.sent) :
    Told w fs [] v := ⟨hc, hh, [], by simp [hs], nofun, nofun⟩

theorem told_markDegraded (w : Watcher) (fs : FileSystem) (p : Path) (reason : String) :
    Told w fs [] (w.markDegraded p reason).1 := by
  unfold markDegraded send
  split
  · exact ⟨rfl, rfl, [.degraded p reason], rfl, nofun, by simp⟩
  · exact .nothing rfl rfl rfl

theorem told_resolve (w : Watcher) (fs : FileSystem) (p : Path) : Told w fs [] (w.resolve fs p).1 := by
  have hself : Told w fs [] w := .nothing rfl rfl rfl
  have hforget : Told w fs [] (w.forgetTree p).1 := by
    unfold forgetTree
    split <;> exact .nothing rfl rfl rfl
  unfold resolve
  split
  · split
    · exact hself
    · split <;> exact hself
  · split
    · exact hself
    · cases hw : w.forgetTree p with
      | mk v b =>
        rw [hw] at hforget
        cases b with
        | false => exact hforget
        | true =>
          dsimp only
          split
          · exact hforget.append (v.told_markDegraded fs p rootRemovedText)
          · exact hforget

/-- The watcher when it has looked at a path and told what has become of it. -/
def look (w : Watcher) (fs : FileSystem) (p : Path) : Watcher :=
  match w.resolve fs p with
  | (v, some i) => (v.send (.invalidate i)).1
  | (v, none) => v

theorem tell_cons (h : w.isHeard = true) (fs : FileSystem) (p : Path) (ps : List Path) :
    (w.tell fs (p :: ps)).1 = ((w.look fs p).tell fs ps).1 := by
  have hheard := (w.told_resolve fs p).isHeard.trans h
  rw [tell, look]
  generalize w.resolve fs p = r at hheard
  obtain ⟨v, o⟩ := r
  cases o with
  | none => rfl
  | some i => simp only [send, show v.isHeard = true from hheard, if_true]

theorem told_look (h : w.isHeard = true) (fs : FileSystem) (p : Path) : Told w fs [p] (w.look fs p) := by
  -- The look itself tells of no path, though it may report that a root is gone; the message does.
  have htold := w.told_resolve fs p
  have hspares := w.resolve_spares fs p
  rw [look]
  generalize w.resolve fs p = r at htold hspares
  obtain ⟨v, o⟩ := r
  rcases hspares with ⟨hd, rfl⟩ | ⟨-, i, rfl, rfl, hspares⟩
  · have hnone : Told v fs [p] v := ⟨rfl, rfl, [], by simp, by simp [hd], nofun⟩
    exact htold.append hnone
  · have hheard : v.isHeard = true := htold.isHeard.trans h
    have hconfig : v.config = w.config := htold.config
    have hsend : Told v fs [i.path] (v.send (.invalidate i)).1 := by
      rw [send, if_pos hheard]
      refine ⟨rfl, rfl, [.invalidate i], rfl, fun p hp => .inr ⟨i, by simp, fun e he => ?_⟩, by simp⟩
      cases List.mem_singleton.1 hp
      exact hconfig ▸ (hspares e).1 he
    exact htold.append hsend

/-- So it is for any paths, as long as it is received. -/
theorem told_tell (h : w.isHeard = true) (fs : FileSystem) (ps : List Path) :
    Told w fs ps (w.tell fs ps).1 := by
  induction ps generalizing w with
  | nil => exact .nothing rfl rfl rfl
  | cons p ps ih =>
    have hlook : Told w fs [p] (w.look fs p) := told_look h fs p
    rw [tell_cons h]
    exact hlook.append (ih (hlook.isHeard.trans h))

theorem emit_sent (w : Watcher) (fs : FileSystem) (ps : List Path) :
    (w.emit fs ps).sent = (w.tell fs ps).1.sent := by
  unfold emit shutdownUnless
  dsimp only
  split <;> rfl

/-- When a watcher has looked at a path and the index has followed what it tells, whatever the store and the
files are, the path has its entry still exactly if it is a directory, or a file that is not too large, with
the content that the entry is for. The paths that are not below it have theirs. When the watcher has told
of all the paths whose waits were over, each of them has an entry only if that is so. -/
theorem find?_settle (w : Watcher) (x : Index) (fs : FileSystem) (h : x.config.eagerReindex = false) :
    (∀ p e, (w.settle x fs p).store.find? p = some e ↔
      x.store.find? p = some e ∧ (fs.isDirectory p = true ∨ e.IsCurrent w.config fs p)) ∧
    (∀ p q, p.isUnder q = false → (w.settle x fs p).store.find? q = x.store.find? q) ∧
    ∀ ps, w.isHeard = true →
      let y := x.applyAll fs (w.takeSent.1.emit fs ps).sent
      (∀ p ∈ ps, ∀ e, y.store.find? p = some e →
        x.store.find? p = some e ∧ (fs.isDirectory p = true ∨ e.IsCurrent w.config fs p)) ∧
      ∀ q, (∀ p ∈ ps, p.isUnder q = false) → y.store.find? q = x.store.find? q := by
  refine ⟨fun p e => ?_, fun p q hq => ?_, fun ps hw => ⟨fun p hp e he => ?_, fun q hq => ?_⟩⟩
  · rcases w.resolve_spares fs p with ⟨hd, hr⟩ | ⟨hd, i, hr, -, hspares⟩
    · simp [settle, hr, hd]
    · simp [settle, hr, Index.apply_eq_absorb h, Index.find?_absorb, hspares, hd]
  · rcases w.resolve_spares fs p with ⟨hd, hr⟩ | ⟨hd, i, hr, rfl, hspares⟩
    · simp [settle, hr]
    · refine Option.ext fun e => ?_
      simp [settle, hr, Index.apply_eq_absorb h, Index.find?_absorb, spares_of_not_isUnder hq]
  · obtain ⟨ms, hms, htold, -⟩ := (told_tell (w := w.takeSent.1) hw fs ps).sent
    rw [emit_sent, hms] at he
    obtain ⟨he, hall⟩ := (Index.find?_applyAll h fs _).1 he
    refine ⟨he, (htold p hp).imp_right fun ⟨i, hi, hs⟩ => hs e (hall i ?_)⟩
    exact List.mem_append_right _ hi
  · obtain ⟨ms, hms, -, hof⟩ := (told_tell (w := w.takeSent.1) hw fs ps).sent
    rw [emit_sent, hms]
    refine Option.ext fun e => (Index.find?_applyAll h fs _).trans ⟨And.left, fun he => ⟨he, ?_⟩⟩
    intro i hi
    exact spares_of_not_isUnder (hq i.path (hof i hi)) e

end Watcher

/-! ### A script that makes way -/

namespace MakingWay

/-- An index with the analysis of a script. -/
def index (f : Fingerprint) : Index :=
  .over .standard ⟨fun _ => none⟩
    ((Store.new 4 64).after (.put ⟨"/a.py"⟩ (.unsupported ⟨"/a.py"⟩ f) f))

def entry (f : Fingerprint) : StoreEntry :=
  ⟨⟨"/a.py"⟩, .unsupported ⟨"/a.py"⟩ f, f, (Analysis.unsupported ⟨"/a.py"⟩ f).size⟩

/-- A file system with one thing in it. -/
def files (n : FileNode) : FileSystem := ⟨.directory [("a.py", n)], []⟩

def watcher : Watcher :=
  { (default : Watcher) with config := .standard, roots := [⟨"/"⟩], watched := [⟨"/"⟩], isHeard := true }

theorem find?_index (f : Fingerprint) : (index f).store.find? ⟨"/a.py"⟩ = some (entry f) := by
  have hf : (Analysis.unsupported ⟨"/a.py"⟩ f).fingerprint = f := rfl
  simp [index, Index.over, entry, Store.after, Store.perform, Store.put, Store.push, Store.new, Store.find?,
    Store.shrink, hf]

/-- The script has its entry as long as it is what was analysed, and none when it is gone or cannot be
read. -/
theorem find?_settle_script :
    let settled := fun fs : FileSystem =>
      (watcher.settle (index (.ofBytes ⟨#[]⟩)) fs ⟨"/a.py"⟩).store.find? ⟨"/a.py"⟩
    settled (files (.file ⟨#[]⟩)) = some (entry (.ofBytes ⟨#[]⟩)) ∧ settled (files .pipe) = none ∧
      settled ⟨.directory [], []⟩ = none := by
  intro settled
  have hiff (fs : FileSystem) (e : StoreEntry) := (Watcher.find?_settle watcher (index (.ofBytes ⟨#[]⟩)) fs
    rfl).1 ⟨"/a.py"⟩ e
  have hgone (fs : FileSystem) (hd : fs.isDirectory ⟨"/a.py"⟩ = false)
      (hn : ∀ content, fs.node ⟨"/a.py"⟩ ≠ .ok (.file content)) : settled fs = none :=
    Option.eq_none_iff_forall_ne_some.2 fun e he => by
      rcases ((hiff fs e).1 he).2 with hdir | ⟨content, hc, -⟩
      · rw [hd] at hdir
        cases hdir
      · exact hn content hc
  have hfile : (files (.file ⟨#[]⟩)).node ⟨"/a.py"⟩ = .ok (.file ⟨#[]⟩) := FileSystem.node_of_resolveIn 9 rfl
  have hpipe : (files .pipe).node ⟨"/a.py"⟩ = .ok .pipe := FileSystem.node_of_resolveIn 9 rfl
  have hmissing : (⟨.directory [], []⟩ : FileSystem).node ⟨"/a.py"⟩ = .error .notFound :=
    FileSystem.node_of_resolveIn 9 rfl
  refine ⟨(hiff _ _).2 ⟨find?_index _, .inr ⟨⟨#[]⟩, hfile, by decide, ?_⟩⟩, hgone _ ?_ ?_, hgone _ ?_ ?_⟩
  · simp [entry, StoreEntry.answers, StoreEntry.isConsistent, Analysis.unsupported]
  · rw [FileSystem.isDirectory, hpipe]
    rfl
  · rw [hpipe]
    intro content hc
    cases hc
  · rw [FileSystem.isDirectory, hmissing]
  · rw [hmissing]
    intro content hc
    cases hc

/-- When the script has made way for a directory, the watcher tells nothing, and the entry stays. -/
theorem settle_directory :
    let fs := files (.directory [])
    let x := index ⟨1, "00"⟩
    x.config.eagerReindex = false ∧ (watcher.resolve fs ⟨"/a.py"⟩).2 = none ∧
      (watcher.settle x fs ⟨"/a.py"⟩).store.find? ⟨"/a.py"⟩ = some (entry ⟨1, "00"⟩) ∧
      ¬ ∃ content, fs.node ⟨"/a.py"⟩ = .ok (.file content) := by
  intro fs x
  have hnode : fs.node ⟨"/a.py"⟩ = .ok (.directory []) := FileSystem.node_of_resolveIn 9 rfl
  have hresolve : watcher.resolve fs ⟨"/a.py"⟩ = (watcher, none) := by
    rw [Watcher.resolve, hnode]
    rfl
  refine ⟨rfl, congrArg Prod.snd hresolve, ?_, ?_⟩
  · rw [Watcher.settle, hresolve]
    exact find?_index _
  · rw [hnode]
    rintro ⟨content, hc⟩
    cases hc

end MakingWay
end SymbolIndex
