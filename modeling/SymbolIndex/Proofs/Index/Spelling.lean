import SymbolIndex.Proofs.FileSystem.Canonical
import SymbolIndex.Proofs.Index.Sequence
import SymbolIndex.Proofs.Path.Literal

/-!
# Where analyses are stored, and whether they leave with their files

An analysis is stored under the canonical path of the file that was read, so all spellings of the file's
path share it, unless the key that was found for the path names a link (`Sequence.run_canonical`). When a
file is not found, what is stored under its key leaves the store; that is the key the file had if the path
leads to the same name in the same directory, and that was no link (`Sequence.run_forgets`).
-/
namespace SymbolIndex
open FileSystem (pathOf)

namespace Sequence

variable {p q : Path} {a : Analysis}

/-- What a call answers is stored under the key of the file that was read, which is the file's canonical
path unless it names a link; so is the key of every path that can be looked up itself. All other paths
whose keys name the file, and no link, have the same key, and are answered from the store. -/
theorem run_canonical (config : Config) (registry : Registry) (maxEntries maxBytes : Nat) (files : FileSystem)
    (acts : List Action) (p : Path) (y : Index) (a : Analysis) :
    let d := (start config registry maxEntries maxBytes files).run acts
    d.files.WellFormed → d.index.analyze d.files p = (y, .ok a) →
      ∃ place content, d.files.resolve true (d.files.key p) = .ok (place, .file content) ∧
        y.store.peek? (d.files.key p) (.ofBytes content) = some a ∧
        (d.files.key p = pathOf place ↔ ¬ d.files.NamesLink (d.files.key p)) ∧
        (∀ r, d.files.resolve true p = .ok r → ¬ d.files.NamesLink (d.files.key p)) ∧
        ∀ q n, d.files.resolve true (d.files.key q) = .ok (place, n) → ¬ d.files.NamesLink (d.files.key p) →
          ¬ d.files.NamesLink (d.files.key q) → d.files.key q = d.files.key p ∧
            y.analyze d.files q =
              ({ y with store := (y.store.get (d.files.key p) (.ofBytes content)).1 }, .ok a) := by
  intro d hfs h
  have hidle : d.index.Idle := run_idle (start_idle config registry maxEntries maxBytes files) acts
  obtain ⟨s, hl, hpeek⟩ := Index.peek?_of_analyze hidle (congrArg Prod.snd h)
  rw [h] at hpeek
  obtain ⟨hn, hs⟩ := Source.eq_of_load hl
  obtain ⟨place, hr⟩ := FileSystem.node_eq_ok_iff.1 hn
  have hkey : s.key = d.files.key p := by rw [hs]
  have hfingerprint : s.fingerprint = .ofBytes s.content := by rw [hs]
  have hcanonical := hfs.key_canonical_iff hr
  rw [hkey, hfingerprint] at hpeek
  refine ⟨place, s.content, hr, hpeek, hcanonical, fun r hr' => ?_, fun q n hq hlink hlink' => ?_⟩
  · refine hfs.not_namesLink_of_resolve hr' ?_
    rw [← FileSystem.key_of_resolve hr']
    exact (FileSystem.resolve_eq_ok_iff.1 hr).1
  · -- Both keys are the path of the place, so the file is read again, and its analysis is there.
    obtain ⟨hidle', hconfig⟩ := hidle.analyze d.files p
    rw [h] at hidle' hconfig
    have hsame : n = .file s.content := Option.some.inj ((hfs.lands hq).1.symm.trans (hfs.lands hr).1)
    rw [hsame] at hq
    have hkeys : d.files.key q = d.files.key p :=
      ((hfs.key_canonical_iff hq).2 hlink').trans (hcanonical.2 hlink).symm
    refine ⟨hkeys, ?_⟩
    rw [← hkey, ← hfingerprint] at hpeek ⊢
    exact Index.analyze_of_hit (by rw [hkeys, hconfig]; exact hl)
      ((Store.get_snd hidle'.sound.toCounted).trans hpeek)

/-- When a file is not found, the index holds no analysis any more under the key that it was stored under
before if and only if it held none already, or the file has this key still; it has, if the path can be
traced from one file system to the other. -/
theorem run_forgets (config : Config) (registry : Registry) (maxEntries maxBytes : Nat) (files : FileSystem)
    (acts acts' : List Action) (p q : Path) (a : Analysis) :
    let d := (start config registry maxEntries maxBytes files).run acts
    let d' := (d.step (.analyze p)).run acts'
    let store := (d'.step (.analyze p)).index.store
    d.files.WellFormed → d'.files.WellFormed → (d.index.analyze d.files p).2 = .ok a →
      (d'.index.analyze d'.files p).2 = .error (.notFound q) →
      (store.find? (d.files.key p) = none ↔
        (d'.files.key p).Same (d.files.key p) ∨ d'.index.store.find? (d.files.key p) = none) ∧
      (d.files.Traceable d'.files p → store.find? (d.files.key p) = none) := by
  intro d d' store hfs hfs' hok hgone
  have hidle : d'.index.Idle :=
    run_idle (step_idle (run_idle (start_idle config registry maxEntries maxBytes files) acts) _) acts'
  have hstore : store = (d'.index.analyze d'.files p).1.store := by simp only [store, step]
  obtain ⟨hl, hfind⟩ := Index.find?_of_notFound hidle hgone (d.files.key p)
  rw [← hstore] at hfind
  rw [hfind]
  constructor
  · split <;> simp [*]
  · intro ht
    obtain ⟨f, hc⟩ := Source.canonical_of_notFound hfs' hl
    rw [if_pos (ht.key_same hfs hfs' hc)]

end Sequence

/-! ### A file with a link to it -/

namespace Linked

/-- A file and a link to it, and the link without the file. -/
def files : FileSystem := ⟨.directory [("a.py", .file ⟨#[]⟩), ("l.py", .link "/a.py")], []⟩
def bare : FileSystem := ⟨.directory [("l.py", .link "/a.py")], []⟩

/-- An index that knows no language, and has not done anything yet. -/
def fresh : Sequence := .start .standard ⟨fun _ => none⟩ 4 64 files

theorem wellFormed : files.WellFormed ∧ bare.WellFormed := by
  constructor <;> refine ⟨?_, _, rfl⟩
  · simp [files, FileNode.wellFormed_directory, FileNode.wellFormed_file, FileNode.wellFormed_link]
    decide
  · simp [bare, FileNode.wellFormed_directory, FileNode.wellFormed_link]
    decide

theorem idle : fresh.index.Idle := Sequence.start_idle ..

/-- The first call for a file stores that there is no analyzer for it. -/
theorem analyze_fresh {p key : Path} (hkey : files.key p = key) (hnode : files.node key = .ok (.file ⟨#[]⟩)) :
    (fresh.index.analyze files p).2 = .ok (.unsupported key (.ofBytes ⟨#[]⟩)) := by
  have hl : Source.load files fresh.index.config (files.key p) = .ok ⟨key, ⟨#[]⟩, .ofBytes ⟨#[]⟩⟩ := by
    rw [hkey]
    exact Source.load_file hnode (Nat.zero_le _)
  have ha (s : Source) : fresh.index.registry.analyze s = .ok (.unsupported s.key s.fingerprint) := by
    simp [Registry.analyze, Registry.analyzerFor?, Registry.resolve?, fresh, Sequence.start, Index.over]
  have ho := Index.analyze_outcome idle files p
  generalize fresh.index.analyze files p = r at ho
  cases ho with
  | unread e h => cases hl.symm.trans h
  | found s a _ h => cases h
  | refused s e _ h => cases (ha s).symm.trans h
  | stored s a h h' =>
    cases hl.symm.trans h
    exact ((ha _).symm.trans h').symm

theorem exists_fst {r : Index × Answer} {b : Answer} (h : r.2 = b) : ∃ y, r = (y, b) := ⟨r.1, Prod.ext rfl h⟩

/-- Both the file and the link lead to the file. -/
theorem resolve_eq : files.resolve true ⟨"/a.py"⟩ = .ok (["a.py"], .file ⟨#[]⟩) ∧
    files.resolve true ⟨"/l.py"⟩ = .ok (["a.py"], .file ⟨#[]⟩) :=
  ⟨FileSystem.resolve_of_resolveIn 9 rfl, FileSystem.resolve_of_resolveIn 9 rfl⟩

theorem key_eq : files.key ⟨"/a.py"⟩ = ⟨"/a.py"⟩ ∧ files.key ⟨"/l.py"⟩ = ⟨"/a.py"⟩ ∧
    files.key ⟨"/l.py/"⟩ = ⟨"/l.py"⟩ := by
  have hdir : files.canonical ⟨"/"⟩ = .ok ⟨"/"⟩ := FileSystem.canonical_of_resolveIn 9 rfl
  have hslash : files.canonical ⟨"/l.py/"⟩ = .error .notADirectory := FileSystem.canonical_of_resolveIn 9 rfl
  exact ⟨FileSystem.key_of_resolveIn 9 rfl, FileSystem.key_of_resolveIn 9 rfl,
    FileSystem.key_of_missing hslash hdir (by decide +kernel)⟩

theorem node_eq : files.node ⟨"/a.py"⟩ = .ok (.file ⟨#[]⟩) ∧ files.node ⟨"/l.py"⟩ = .ok (.file ⟨#[]⟩) := by
  simp only [FileSystem.node, resolve_eq.1, resolve_eq.2]
  exact ⟨rfl, rfl⟩

/-- A file that was asked for by its link is found in the store by its own path. -/
theorem run_canonical_link : ∃ y a, fresh.index.analyze files ⟨"/l.py"⟩ = (y, .ok a) ∧
    y.store.peek? ⟨"/a.py"⟩ (.ofBytes ⟨#[]⟩) = some a ∧ (y.analyze files ⟨"/a.py"⟩).2 = .ok a := by
  obtain ⟨y, h⟩ : ∃ y, fresh.index.analyze files ⟨"/l.py"⟩ =
      (y, .ok (.unsupported ⟨"/a.py"⟩ (.ofBytes ⟨#[]⟩))) :=
    exists_fst (analyze_fresh key_eq.2.1 node_eq.1)
  obtain ⟨place, content, hr, hpeek, -, hnot, hshare⟩ :=
    Sequence.run_canonical .standard ⟨fun _ => none⟩ 4 64 files [] ⟨"/l.py"⟩ y _ wellFormed.1 h
  change files.resolve true (files.key ⟨"/l.py"⟩) = _ at hr
  change y.store.peek? (files.key ⟨"/l.py"⟩) _ = _ at hpeek
  rw [key_eq.2.1] at hr hpeek
  cases resolve_eq.1.symm.trans hr
  have hlink : ¬ files.NamesLink (files.key ⟨"/l.py"⟩) := hnot _ resolve_eq.2
  have hlink' : ¬ files.NamesLink (files.key ⟨"/a.py"⟩) := by rwa [key_eq.1, ← key_eq.2.1]
  obtain ⟨-, hanswer⟩ := hshare ⟨"/a.py"⟩ _ (by
    change files.resolve true (files.key ⟨"/a.py"⟩) = _
    rw [key_eq.1]
    exact resolve_eq.1) hlink hlink'
  exact ⟨y, _, h, hpeek, congrArg Prod.snd hanswer⟩

theorem not_same : ¬ Path.Same ⟨"/l.py"⟩ ⟨"/a.py"⟩ := by
  rw [Path.Same, Path.components_eq, Path.components_eq]
  decide

/-- With a slash after the link, the file is stored under the link's path, and not under its own. -/
theorem run_not_canonical_slash :
    files.WellFormed ∧ ∃ y a, fresh.index.analyze files ⟨"/l.py/"⟩ = (y, .ok a) ∧
    files.resolve true (files.key ⟨"/l.py/"⟩) = .ok (["a.py"], .file ⟨#[]⟩) ∧
    y.store.peek? ⟨"/l.py"⟩ (.ofBytes ⟨#[]⟩) = some a ∧ y.store.find? ⟨"/a.py"⟩ = none := by
  have hok := analyze_fresh key_eq.2.2 node_eq.2
  obtain ⟨s, hl, hpeek⟩ := Index.peek?_of_analyze idle hok
  have hmem (e : StoreEntry) (he : e ∈ (fresh.index.analyze files ⟨"/l.py/"⟩).1.store.entries) :=
    Index.mem_of_analyze idle he
  obtain ⟨y, h⟩ := exists_fst hok
  rw [h] at hpeek hmem
  obtain ⟨hn, hs⟩ := Source.eq_of_load hl
  rw [key_eq.2.2] at hn hs hmem
  have hcontent : s.content = ⟨#[]⟩ := FileNode.file.inj (Except.ok.inj (hn.symm.trans node_eq.2))
  rw [hs, hcontent] at hpeek
  refine ⟨wellFormed.1, y, _, h, by rw [key_eq.2.2]; exact resolve_eq.2, hpeek, ?_⟩
  refine Store.find?_eq_none.2 fun e he hsame => ?_
  rcases hmem e he with hold | hlink
  · cases hold
  · exact not_same (hlink.symm.trans hsame)

/-- Without the file, both paths lead nowhere. -/
theorem bare_eq : (bare.key ⟨"/a.py"⟩ = ⟨"/a.py"⟩ ∧ bare.node ⟨"/a.py"⟩ = .error .notFound) ∧
    bare.key ⟨"/l.py"⟩ = ⟨"/l.py"⟩ ∧ bare.node ⟨"/l.py"⟩ = .error .notFound := by
  have hdir : bare.canonical ⟨"/"⟩ = .ok ⟨"/"⟩ := FileSystem.canonical_of_resolveIn 9 rfl
  have hfile : bare.canonical ⟨"/a.py"⟩ = .error .notFound := FileSystem.canonical_of_resolveIn 9 rfl
  have hlink : bare.canonical ⟨"/l.py"⟩ = .error .notFound := FileSystem.canonical_of_resolveIn 9 rfl
  exact ⟨⟨FileSystem.key_of_missing hfile hdir (by decide +kernel), FileSystem.node_of_resolveIn 9 rfl⟩,
    FileSystem.key_of_missing hlink hdir (by decide +kernel), FileSystem.node_of_resolveIn 9 rfl⟩

theorem analyze_bare {x : Index} {p key : Path} (hkey : bare.key p = key)
    (hnode : bare.node key = .error .notFound) : (x.analyze bare p).2 = .error (.notFound key) := by
  have hl : Source.load bare x.config (bare.key p) = .error (.notFound key) := by
    rw [hkey, Source.load, hnode]
    rfl
  rw [Index.analyze_of_error hl]

/-- A file that is gone is forgotten when it is asked for again. -/
theorem run_forgets_file :
    let d := (Sequence.start .standard ⟨fun _ => none⟩ 4 64 files).run []
    let d' := (d.step (.analyze ⟨"/a.py"⟩)).run [.edit bare]
    (d'.step (.analyze ⟨"/a.py"⟩)).index.store.find? (d.files.key ⟨"/a.py"⟩) = none := by
  have hseat : files.seat? ⟨"/a.py"⟩ = some ([], "a.py") := FileSystem.seat?_eq_some_iff.2
    ⟨by decide +kernel, ⟨"/"⟩, _, by decide +kernel, FileSystem.resolve_of_resolveIn 9 rfl⟩
  have hseat' : bare.seat? ⟨"/a.py"⟩ = some ([], "a.py") := FileSystem.seat?_eq_some_iff.2
    ⟨by decide +kernel, ⟨"/"⟩, _, by decide +kernel, FileSystem.resolve_of_resolveIn 9 rfl⟩
  have htrace : files.Traceable bare ⟨"/a.py"⟩ := .seated [] "a.py" hseat hseat' fun _ h => by cases h
  exact (Sequence.run_forgets .standard ⟨fun _ => none⟩ 4 64 files [] [.edit bare] ⟨"/a.py"⟩ ⟨"/a.py"⟩ _
    wellFormed.1 wellFormed.2 (analyze_fresh key_eq.1 node_eq.1)
      (analyze_bare bare_eq.1.1 bare_eq.1.2)).2 htrace

/-- A file that was asked for by a link is not forgotten when it is gone and the link is asked for again. -/
theorem run_not_forgets_link :
    let d := (fresh.step (.analyze ⟨"/l.py"⟩)).run [.edit bare]
    files.WellFormed ∧ bare.WellFormed ∧ (∃ a, (fresh.index.analyze files ⟨"/l.py"⟩).2 = .ok a) ∧
      files.key ⟨"/l.py"⟩ = ⟨"/a.py"⟩ ∧ bare.node ⟨"/a.py"⟩ = .error .notFound ∧
      (d.index.analyze bare ⟨"/l.py"⟩).2 = .error (.notFound ⟨"/l.py"⟩) ∧
      (d.step (.analyze ⟨"/l.py"⟩)).index.store.find? ⟨"/a.py"⟩ ≠ none := by
  intro d
  have hok := analyze_fresh key_eq.2.1 node_eq.1
  have hgone : (d.index.analyze bare ⟨"/l.py"⟩).2 = .error (.notFound ⟨"/l.py"⟩) :=
    analyze_bare bare_eq.2.1 bare_eq.2.2
  have hidle : d.index.Idle := Sequence.run_idle (Sequence.step_idle idle _) _
  refine ⟨wellFormed.1, wellFormed.2, ⟨_, hok⟩, key_eq.2.1, bare_eq.1.2, hgone, ?_⟩
  have hindex : d.index = (fresh.index.analyze files ⟨"/l.py"⟩).1 := by
    simp only [d, Sequence.run, Sequence.step, List.foldl_cons, List.foldl_nil]
    exact congrArg (fun fs => (fresh.index.analyze fs ⟨"/l.py"⟩).1) rfl
  have hfiles : d.files = bare := by
    simp only [d, Sequence.run, Sequence.step, List.foldl_cons, List.foldl_nil]
  have hstore : (d.step (.analyze ⟨"/l.py"⟩)).index.store = (d.index.analyze bare ⟨"/l.py"⟩).1.store := by
    simp only [Sequence.step, hfiles]
  -- The analysis was stored under the path of the file, and it is the path of the link that is dropped.
  obtain ⟨s, hl, hpeek⟩ := Index.peek?_of_analyze idle hok
  obtain ⟨-, hs⟩ := Source.eq_of_load hl
  rw [hs, key_eq.2.1] at hpeek
  rw [hstore, (Index.find?_of_notFound hidle hgone ⟨"/a.py"⟩).2, bare_eq.2.1, if_neg not_same, hindex]
  intro hnone
  rw [Store.peek?, hnone] at hpeek
  cases hpeek

end Linked
end SymbolIndex
