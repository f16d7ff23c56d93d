import Mathlib.Algebra.Order.BigOperators.Group.List
import Mathlib.Algebra.Order.Group.Nat
import Mathlib.Data.List.Dedup
import Mathlib.Data.List.Perm.Subperm
import SymbolIndex.Proofs.Analyzer.Failure
import SymbolIndex.Proofs.Index.Batch
import SymbolIndex.Proofs.Index.Scanned
import SymbolIndex.Proofs.Index.Sequence
import SymbolIndex.Proofs.Store.Looking

/-!
# Warming an index

While the files stay as they are, all that calls for some paths put into a store are the analyses of
what is under the keys of the paths, and if there is room for all of these together, none ever gives
way (`Stocks.put`). So, in whatever order the calls take their steps, each of them leaves the
analysis of its file in the store (`OnTrack.run`), and calls that come after that find all they look
for (`OnTrack.parses_run`).
-/
namespace SymbolIndex

/-! ### Paths that an index is asked for -/

/-- Some paths, and what decides what their analyses come to. -/
structure Workload where
  registry : Registry
  config : Config
  files : FileSystem
  paths : List Path

namespace Workload

/-- What is read for a path. -/
def load (w : Workload) (p : Path) : Except IndexError Source := Source.load w.files w.config (w.files.key p)

def answer (w : Workload) (p : Path) : Answer := w.registry.answer w.config w.files p

/-- The analyses that the paths come to, each of them once. -/
def analyses (w : Workload) : List Analysis := (w.paths.filterMap fun p => (w.answer p).toOption).dedup

/-- An entry has what the analysis of a path comes to, under the key of the path. -/
def Yields (w : Workload) (e : StoreEntry) : Prop :=
  ∃ p ∈ w.paths, ∃ s, w.load p = .ok s ∧ w.registry.analyze s = .ok e.analysis ∧ e.key = s.key

/-- A store that has nothing but analyses of the paths, and room for all of them together. -/
structure Stocks (w : Workload) (s : Store) : Prop where
  sound : s.Sound
  yields : ∀ e ∈ s.entries, w.Yields e
  length_le : w.analyses.length ≤ s.capacity
  size_le : (w.analyses.map Analysis.size).sum ≤ s.maxBytes

variable {w : Workload} {p q : Path} {s t : Source} {a : Analysis} {e : StoreEntry} {es : List StoreEntry}
  {store : Store}

theorem answer_of_load (h : w.load p = .ok s) : w.answer p = w.registry.analyze s := by
  rw [answer, Registry.answer, ← load, h]

theorem answer_of_error {err : IndexError} (h : w.load p = .error err) : w.answer p = .error err := by
  rw [answer, Registry.answer, ← load, h]

theorem mem_analyses (hp : p ∈ w.paths) (hl : w.load p = .ok s) (ha : w.registry.analyze s = .ok a) :
    a ∈ w.analyses := by
  rw [analyses, List.mem_dedup, List.mem_filterMap]
  exact ⟨p, hp, by rw [answer_of_load hl, ha]; rfl⟩

theorem path_of_analyze {r : Registry} (h : r.analyze s = .ok a) : a.path = s.key := by
  unfold Registry.analyze at h
  split at h
  · cases h; rfl
  · split at h <;> cases h
    rfl

/-- There is room for entries of different paths, if each has the analysis of a path. -/
theorem fits (hd : StoreEntry.Distinct es) (hg : ∀ e ∈ es, e.Genuine) (hy : ∀ e ∈ es, w.Yields e) :
    es.length ≤ w.analyses.length ∧ StoreEntry.weigh es ≤ (w.analyses.map Analysis.size).sum := by
  have hnodup : (es.map (·.analysis)).Nodup := by
    refine List.pairwise_map.2 (hd.imp_of_mem fun {c d} hc hd hne heq => hne ?_)
    obtain ⟨-, -, s, -, hs, hkey⟩ := hy c hc
    obtain ⟨-, -, t, -, ht, hkey'⟩ := hy d hd
    rw [hkey, hkey', ← path_of_analyze hs, ← path_of_analyze ht, heq]
    exact Path.Same.refl _
  have hsubset : es.map (·.analysis) ⊆ w.analyses := by
    intro a ha
    obtain ⟨e, he, rfl⟩ := List.mem_map.1 ha
    obtain ⟨p, hp, s, hl, hs, -⟩ := hy e he
    exact mem_analyses hp hl hs
  obtain ⟨as, hperm, hsub⟩ := List.subperm_of_subset hnodup hsubset
  have hsizes : es.map (·.size) = (es.map (·.analysis)).map Analysis.size := by
    rw [List.map_map]
    exact List.map_congr_left fun e he => (hg e he).size_eq
  constructor
  · rw [← List.length_map (·.analysis), ← hperm.length_eq]
    exact hsub.length_le
  · rw [StoreEntry.weigh, hsizes, ← (hperm.map Analysis.size).sum_nat]
    exact (hsub.map Analysis.size).sum_le_sum fun _ _ => Nat.zero_le _

/-- Of one key, one content is read. -/
theorem eq_of_load (hfs : w.files.WellFormed) (hp : w.load p = .ok s) (hq : w.load q = .ok t)
    (h : s.key.Same t.key) : s = t := Source.eq_of_same hfs.grounded hp hq h

namespace Stocks

/-- What is stored under the key of a content is its analysis. -/
theorem peek? (h : w.Stocks store) (hfs : w.files.WellFormed) (hl : w.load p = .ok s)
    (hs : s.key ∈ store.keys) :
    ∃ a, w.registry.analyze s = .ok a ∧ store.peek? s.key s.fingerprint = some a := by
  obtain ⟨e, he, hkey⟩ := List.mem_map.1 hs
  obtain ⟨q, -, t, hl', ha, hkey'⟩ := h.yields e he
  obtain rfl := eq_of_load hfs hl hl' (by rw [← hkey, ← hkey']; exact Path.Same.refl _)
  refine ⟨e.analysis, ha, (Store.peek?_eq_some h.sound.toCounted).2 ⟨e, he, ?_, ?_, rfl⟩⟩
  · rw [hkey]
    exact Path.Same.refl _
  · rw [(h.sound.genuine e he).fingerprint_eq, Registry.analyze_fingerprint ha]

/-- Keys of what was read differ in more than their spelling. -/
theorem key_eq (h : w.Stocks store) (hfs : w.files.WellFormed) (hl : w.load p = .ok s)
    (he : e ∈ store.entries) (hs : e.key.Same s.key) : e.key = s.key := by
  obtain ⟨q, -, t, hl', -, hkey⟩ := h.yields e he
  rw [hkey] at hs ⊢
  rw [eq_of_load hfs hl' hl hs]

/-- What is given out for a content is its analysis. -/
theorem of_peek? (h : w.Stocks store) (hfs : w.files.WellFormed) (hl : w.load p = .ok s)
    (ha : store.peek? s.key s.fingerprint = some a) : w.registry.analyze s = .ok a ∧ s.key ∈ store.keys := by
  obtain ⟨e, he, hsame, -, -⟩ := (Store.peek?_eq_some h.sound.toCounted).1 ha
  have hs : s.key ∈ store.keys := List.mem_map.2 ⟨e, he, h.key_eq hfs hl he hsame⟩
  obtain ⟨b, hb, hpeek⟩ := h.peek? hfs hl hs
  cases hpeek.symm.trans ha
  exact ⟨hb, hs⟩

theorem get (h : w.Stocks store) (q : Path) (f : Fingerprint) :
    w.Stocks (store.get q f).1 ∧ store.keys ⊆ (store.get q f).1.keys := by
  have hperm : store.entries.Perm (store.get q f).1.entries := Store.get_perm h.sound.toCounted
  have hframe := Store.get_frame (p := q) (f := f) h.sound.toCounted
  refine ⟨⟨h.sound.get q f, fun e he => h.yields e (hperm.mem_iff.2 he), ?_, ?_⟩, (hperm.map _).subset⟩
  · exact hframe.1 ▸ h.length_le
  · exact hframe.2.1 ▸ h.size_le

/-- A path that cannot be read has no entry that would be dropped. -/
theorem remove (h : w.Stocks store) (hfs : w.files.WellFormed) {err : IndexError}
    (hl : w.load p = .error err) : store.remove (w.files.key p) = store := by
  refine Store.remove_of_none (Store.find?_eq_none.2 fun e he hs => ?_)
  obtain ⟨q, -, t, hl', -, hkey⟩ := h.yields e he
  obtain ⟨hn, ht⟩ := Source.eq_of_load hl'
  obtain ⟨place, hr⟩ := FileSystem.node_eq_ok_iff.1 hn
  rw [hkey, ht] at hs
  rw [load, hfs.key_eq_of_same hr rfl hs.symm, ← load, hl'] at hl
  cases hl

/-- The analysis of a path is stored, and none gives way to it. -/
theorem put (h : w.Stocks store) (hfs : w.files.WellFormed) (hp : p ∈ w.paths) (hl : w.load p = .ok s)
    (ha : w.registry.analyze s = .ok a) : w.Stocks (store.after (.put s.key a s.fingerprint)) ∧
      store.keys ⊆ (store.after (.put s.key a s.fingerprint)).keys ∧
      s.key ∈ (store.after (.put s.key a s.fingerprint)).keys := by
  have hc := h.sound.toCounted
  have hf : a.fingerprint = s.fingerprint := Registry.analyze_fingerprint ha
  have hfront : (store.front ⟨s.key, a, s.fingerprint, a.size⟩).key = s.key := by
    cases hfind : store.find? s.key with
    | none => simp [Store.front, hfind]
    | some old =>
      simp [Store.front, hfind, h.key_eq hfs hl (Store.mem_of_find? hfind) (Store.same_of_find? hfind)]
  have hyields : ∀ e ∈ store.placed ⟨s.key, a, s.fingerprint, a.size⟩, w.Yields e := by
    intro e he
    rcases List.mem_cons.1 he with rfl | he
    · exact ⟨p, hp, s, hl, ha, hfront⟩
    · exact h.yields e (Store.mem_others.1 he).1
  have hgenuine : ∀ e ∈ store.placed ⟨s.key, a, s.fingerprint, a.size⟩, e.Genuine := by
    intro e he
    rcases List.mem_cons.1 he with rfl | he
    · exact ⟨hf.symm, rfl⟩
    · exact hc.genuine e (Store.mem_others.1 he).1
  obtain ⟨hlength, hweigh⟩ := fits (hc.distinct_placed _) hgenuine hyields
  have hentries : (store.after (.put s.key a s.fingerprint)).entries =
      store.placed ⟨s.key, a, s.fingerprint, a.size⟩ := by
    rw [Store.after, Store.perform, Store.put_of_room hc a hf (Nat.le_trans hlength h.length_le)
      (Nat.le_trans hweigh h.size_le)]
  obtain ⟨hcapacity, hbytes⟩ := Store.limits_after hc (.put s.key a s.fingerprint)
  have hmem : s.key ∈ (store.after (.put s.key a s.fingerprint)).keys := by
    rw [Store.keys, hentries, List.mem_map]
    exact ⟨_, List.mem_cons_self, hfront⟩
  refine ⟨⟨h.sound.after _, hentries ▸ hyields, hcapacity ▸ h.length_le, hbytes ▸ h.size_le⟩, ?_, hmem⟩
  intro key hkey
  obtain ⟨e, he, rfl⟩ := List.mem_map.1 hkey
  by_cases hsame : e.key.Same s.key
  · rwa [h.key_eq hfs hl he hsame]
  · rw [Store.keys, hentries]
    exact List.mem_map_of_mem (List.mem_cons_of_mem _ (Store.mem_others.2 ⟨he, hsame⟩))

end Stocks

/-! ### Calls for the paths -/

/-- How far a call for a path has come, and that it has left its analysis in the store. -/
def Stage (w : Workload) (store : Store) (p : Path) : CallStage → Prop
  | .started q => q = p
  | .located key => key = w.files.key p
  | .loaded key outcome => key = w.files.key p ∧ outcome = w.load p
  | .missed s | .waiting s _ | .entered s _ => w.load p = .ok s
  | .examined s _ a => w.load p = .ok s ∧ w.registry.analyze s = .ok a
  | .settled s _ r | .unlocked s _ r | .detached s r =>
    w.load p = .ok s ∧ w.registry.analyze s = r ∧ (r.toBool = true → s.key ∈ store.keys)
  | .finished r => w.answer p = r ∧ ∀ s, w.load p = .ok s → r.toBool = true → s.key ∈ store.keys

theorem Stage.mono {store' : Store} {c : CallStage} (h : w.Stage store p c) (hk : store.keys ⊆ store'.keys) :
    w.Stage store' p c := by
  cases c with
  | settled s n r | unlocked s n r | detached s r => exact ⟨h.1, h.2.1, fun hr => hk (h.2.2 hr)⟩
  | finished r => exact ⟨h.1, fun s hl hr => hk (h.2 s hl hr)⟩
  | _ => exact h

/-- An index that the calls go on with. -/
structure Serves (w : Workload) (x : Index) : Prop where
  registry_eq : x.registry = w.registry
  config_eq : x.config = w.config
  stocks : w.Stocks x.store

variable {x x' : Index} {calls : List CallStage} {c c' : CallStage}

/-- A step of a call keeps what is stored, and leads the call on. -/
theorem Serves.advance (h : w.Serves x) (hfs : w.files.WellFormed) (hp : p ∈ w.paths)
    (hc : w.Stage x.store p c) (hs : Index.Advance x w.files calls c x' c') :
    w.Serves x' ∧ x.store.keys ⊆ x'.store.keys ∧ w.Stage x'.store p c' := by
  obtain ⟨hregistry, hconfig, hstocks⟩ := h
  have hregistry' : x'.registry = w.registry := hs.registry_eq.trans hregistry
  have hconfig' : x'.config = w.config := (World.config_advance hs).trans hconfig
  -- Most steps leave the store as it is.
  have same (hstore : x'.store = x.store) (hc' : w.Stage x.store p c') :
      w.Serves x' ∧ x.store.keys ⊆ x'.store.keys ∧ w.Stage x'.store p c' := by
    rw [hstore]
    exact ⟨⟨hregistry', hconfig', hstore ▸ hstocks⟩, List.Subset.refl _, hc'⟩
  cases hs with
  | locate q => exact same rfl (congrArg w.files.key hc)
  | load key => exact same rfl ⟨hc, by rw [hconfig, show key = _ from hc]; rfl⟩
  | fail key e =>
    obtain ⟨rfl, hl⟩ := hc
    refine same ?_ ⟨answer_of_error hl.symm, fun s _ hr => by cases hr⟩
    rw [Index.dropUnreadable_store, Store.after_invalidate, hstocks.remove hfs hl.symm, ite_self]
  | hit key s a hg =>
    obtain ⟨-, hl⟩ := hc
    obtain ⟨hstocks', hkeys⟩ := hstocks.get s.key s.fingerprint
    rw [Store.get_snd hstocks.sound.toCounted] at hg
    obtain ⟨ha, hs⟩ := hstocks.of_peek? hfs hl.symm hg
    refine ⟨⟨hregistry', hconfig', hstocks'⟩, hkeys, (answer_of_load hl.symm).trans ha, fun t ht _ => ?_⟩
    cases hl.trans ht
    exact hkeys hs
  | miss key s hg =>
    obtain ⟨hstocks', hkeys⟩ := hstocks.get s.key s.fingerprint
    exact ⟨⟨hregistry', hconfig', hstocks'⟩, hkeys, hc.2.symm⟩
  | refer s => exact same (x.lockOf_frame s.key).2.2.1 hc
  | wait s n _ => exact same rfl hc
  | enter s n _ => exact same rfl hc
  | share s n a hpeek =>
    obtain ⟨ha, hs⟩ := hstocks.of_peek? hfs hc hpeek
    exact same rfl ⟨hc, ha, fun _ => hs⟩
  | examine s n a _ ha => exact same (x.examine_frame s).2.2.2.2 ⟨hc, hregistry ▸ ha⟩
  | giveUp s n e _ he => exact same (x.examine_frame s).2.2.2.2 ⟨hc, hregistry ▸ he, nofun⟩
  | keep s n a =>
    obtain ⟨hl, ha⟩ := hc
    obtain ⟨hstocks', hkeys, hmem⟩ := hstocks.put hfs hp hl ha
    rw [← Index.keep_store x s a] at hstocks' hkeys hmem
    refine ⟨⟨hregistry', hconfig', hstocks'⟩, hkeys, hl, ?_, fun _ => hmem⟩
    rw [Index.keep_answer x s a (Registry.analyze_fingerprint ha), ha]
  | unlock s n r => exact same rfl hc
  | detach s n r => exact same rfl hc
  | release s r =>
    obtain ⟨hl, hr, hmem⟩ := hc
    refine same (x.releaseLock_frame s.key _).2.2.1 ⟨(answer_of_load hl).trans hr, fun t ht hok => ?_⟩
    cases hl.symm.trans ht
    exact hmem hok
  | rest r => exact same rfl hc

/-- The calls of a session are calls for the paths. -/
structure OnTrack (w : Workload) (s : Session) : Prop where
  serves : w.Serves s.index
  length_eq : s.calls.length = w.paths.length
  stages : ∀ (i : Nat) (p : Path) (c : CallStage), w.paths[i]? = some p → s.calls[i]? = some c →
    w.Stage s.index.store p c

variable {session : Session}

namespace OnTrack

theorem start (h : w.Serves x) : w.OnTrack (Session.start x w.paths) where
  serves := h
  length_eq := List.length_map ..
  stages i p c hp hc := by
    rw [Session.start, List.getElem?_map, hp] at hc
    cases hc
    rfl

theorem exists_path {i : Nat} (h : w.OnTrack session) (hc : session.calls[i]? = some c) :
    ∃ p, w.paths[i]? = some p :=
  ⟨_, List.getElem?_eq_getElem (h.length_eq ▸ (List.getElem?_eq_some_iff.1 hc).1)⟩

theorem step (h : w.OnTrack session) (hfs : w.files.WellFormed) (i : Nat) :
    w.OnTrack (session.step w.files i) ∧
    session.index.store.keys ⊆ (session.step w.files i).index.store.keys := by
  cases hc : session.calls[i]? with
  | none =>
    rw [Session.step, hc]
    exact ⟨h, List.Subset.refl _⟩
  | some c =>
    obtain ⟨p, hp⟩ := h.exists_path hc
    obtain ⟨hserves, hkeys, hstage⟩ := h.serves.advance hfs (List.mem_of_getElem? hp) (h.stages i p c hp hc)
      (Index.advance_cases session.index w.files session.calls c)
    rw [Session.step_eq hc]
    refine ⟨⟨hserves, (List.length_set ..).trans h.length_eq, fun j q d hq hd => ?_⟩, hkeys⟩
    rcases CallStage.getElem?_set_cases hd with ⟨rfl, rfl⟩ | ⟨-, hd⟩
    · cases hp.symm.trans hq
      exact hstage
    · exact (h.stages j q d hq hd).mono hkeys

theorem run (h : w.OnTrack session) (hfs : w.files.WellFormed) (schedule : List Nat) :
    w.OnTrack (session.run w.files schedule) ∧
      session.index.store.keys ⊆ (session.run w.files schedule).index.store.keys := by
  induction schedule generalizing session with
  | nil => exact ⟨h, List.Subset.refl _⟩
  | cons i schedule ih =>
    obtain ⟨hstep, hkeys⟩ := h.step hfs i
    obtain ⟨hrun, hkeys'⟩ := ih hstep
    exact ⟨hrun, List.Subset.trans hkeys hkeys'⟩

/-- When all calls are finished, each has come to what its file comes to, and has left it in the store. -/
theorem of_finished (h : w.OnTrack session) (hf : session.Finished) :
    session.report w.paths = w.paths.map (fun p => ⟨p, w.answer p⟩) ∧
      ∀ p ∈ w.paths, ∀ s a, w.load p = .ok s → w.registry.analyze s = .ok a →
        s.key ∈ session.index.store.keys := by
  have hcalls := hf.calls_eq
  have hlength : session.answers.length = w.paths.length := by
    rw [← h.length_eq, hcalls, List.length_map]
  have hstage (i : Nat) (p : Path) (r : Answer) (hp : w.paths[i]? = some p)
      (hr : session.answers[i]? = some r) :
      w.Stage session.index.store p (.finished r) :=
    h.stages i p _ hp (by rw [hcalls, List.getElem?_map, hr]; rfl)
  have hanswers : session.answers = w.paths.map w.answer := by
    refine List.ext_getElem (hlength.trans (List.length_map _).symm) fun i hi hi' => ?_
    rw [List.getElem_map]
    rw [List.length_map] at hi'
    exact (hstage i _ _ (List.getElem?_eq_getElem hi') (List.getElem?_eq_getElem hi)).1.symm
  refine ⟨?_, fun p hp s a hl ha => ?_⟩
  · rw [Session.report, hanswers, List.zipWith_map_right, List.zipWith_self]
  · obtain ⟨i, hi⟩ := List.mem_iff_getElem?.1 hp
    have hr : session.answers[i]? = some (.ok a) := by
      rw [hanswers, List.getElem?_map, hi, Option.map_some, answer_of_load hl, ha]
    exact (hstage i p _ hi hr).2 s hl rfl

end OnTrack

/-- A store that has the analyses of all paths. -/
structure Supplies (w : Workload) (store : Store) : Prop extends w.Stocks store where
  complete : ∀ p ∈ w.paths, ∀ s, w.load p = .ok s → s.key ∈ store.keys

/-- With all that is looked for in the store, no analyzer is run. -/
theorem OnTrack.parses_step (h : w.OnTrack session) (hfs : w.files.WellFormed)
    (hs : w.Supplies session.index.store)
    (i : Nat) : (session.step w.files i).index.parses = session.index.parses := by
  cases hc : session.calls[i]? with
  | none => rw [Session.step, hc]
  | some c =>
    obtain ⟨p, hp⟩ := h.exists_path hc
    have hstage := h.stages i p c hp hc
    -- What a call would analyse is in the store.
    have found {t : Source} (hl : w.load p = .ok t) :
        session.index.store.peek? t.key t.fingerprint ≠ none := fun hnone => by
      obtain ⟨a, -, ha⟩ := hs.peek? hfs hl (hs.complete p (List.mem_of_getElem? hp) t hl)
      cases hnone.symm.trans ha
    rw [Session.step_eq hc]
    have hadvance := Index.advance_cases session.index w.files session.calls c
    generalize session.index.advance w.files session.calls c = r at hadvance
    obtain ⟨x', c'⟩ := r
    dsimp only at hadvance ⊢
    cases hadvance with
    | fail key e => exact (session.index.dropUnreadable_frame key e).2.2.2.2
    | refer s => exact (session.index.lockOf_frame s.key).2.2.2
    | examine s n a hpeek _ => exact absurd hpeek (found hstage)
    | giveUp s n e hpeek _ => exact absurd hpeek (found hstage)
    | keep s n a => exact (session.index.keep_frame s a).2.2.2.2
    | release s r => exact (session.index.releaseLock_frame s.key _).2.2.2
    | _ => rfl

theorem OnTrack.parses_run (h : w.OnTrack session) (hfs : w.files.WellFormed)
    (hs : w.Supplies session.index.store) (schedule : List Nat) :
    (session.run w.files schedule).index.parses = session.index.parses := by
  induction schedule generalizing session with
  | nil => rfl
  | cons i schedule ih =>
    obtain ⟨hstep, hkeys⟩ := h.step hfs i
    have hsupplies : w.Supplies (session.step w.files i).index.store :=
      ⟨hstep.serves.stocks, fun p hp s hl => hkeys (hs.complete p hp s hl)⟩
    exact (ih hstep hsupplies).trans (h.parses_step hfs hs i)

end Workload

/-! ### What is counted -/

namespace Tally

/-- A tally in which every file is counted once, and every parsed one with its language. -/
structure Balanced (t : Tally) : Prop where
  files_eq : t.files = t.parsed + t.unsupported + t.errors.length
  sum_eq : (t.languages.map (·.2)).sum = t.parsed

variable {t : Tally} {report : List ReportEntry}

theorem sum_bump (language : String) (counts : List (String × Nat)) :
    ((bump language counts).map (·.2)).sum = (counts.map (·.2)).sum + 1 := by
  induction counts with
  | nil => rfl
  | cons c counts ih =>
    unfold bump
    split
    · simp only [List.map_cons, List.sum_cons]
      omega
    · simp only [List.map_cons, List.sum_cons, ih]
      omega

theorem Balanced.count (h : t.Balanced) (r : ReportEntry) : (Index.count t r).Balanced := by
  obtain ⟨hfiles, hsum⟩ := h
  unfold Index.count
  cases r.outcome with
  | error e =>
    refine ⟨?_, hsum⟩
    simp only [addError, List.length_append, List.length_singleton]
    omega
  | ok a =>
    dsimp only
    split
    · exact ⟨by simp only [addUnsupported]; omega, hsum⟩
    · exact ⟨by simp only [addFile]; omega, (sum_bump ..).trans (congrArg (· + 1) hsum)⟩

theorem Balanced.foldl (h : t.Balanced) : (report.foldl Index.count t).Balanced := by
  induction report generalizing t with
  | nil => exact h
  | cons r report ih => exact ih (h.count r)

/-- Without analyses that no analyzer made, none is counted. -/
theorem unsupported_foldl (h : ∀ r ∈ report, ∀ a, r.outcome = .ok a → a.isUnsupported = false) :
    (report.foldl Index.count t).unsupported = t.unsupported := by
  induction report generalizing t with
  | nil => rfl
  | cons r report ih =>
    obtain ⟨hr, hreport⟩ := List.forall_mem_cons.1 h
    refine (ih hreport).trans ?_
    unfold Index.count
    cases ho : r.outcome with
    | error e => rfl
    | ok a =>
      dsimp only
      rw [if_neg (by simp [hr a ho])]
      rfl

/-- What is said of a file that has no analysis. -/
def complaint? (r : ReportEntry) : Option String :=
  match r.outcome with
  | .ok _ => none
  | .error e => some (Index.tallyError r.path e)

/-- What went wrong is kept, in order. -/
theorem errors_foldl : (report.foldl Index.count t).errors = t.errors ++ report.filterMap complaint? := by
  induction report generalizing t with
  | nil => exact (List.append_nil _).symm
  | cons r report ih =>
    rw [List.foldl_cons, ih]
    unfold Index.count
    cases ho : r.outcome with
    | error e =>
      rw [List.filterMap_cons_some (show complaint? r = some _ by rw [complaint?, ho])]
      exact List.append_assoc ..
    | ok a =>
      rw [List.filterMap_cons_none (by rw [complaint?, ho])]
      dsimp only
      split <;> rfl

end Tally

/-! ### Warm indexes -/

namespace Index
variable {x y z : Index} {fs : FileSystem} {roots : List Path} {t u : Tally} {p : Path} {s : Source}

/-- The files to analyse below some roots. -/
def sources (x : Index) (fs : FileSystem) (roots : List Path) : List Path :=
  roots.flatMap (fs.sourcesBelow x.config.maxSourceBytes)

def workload (x : Index) (fs : FileSystem) (roots : List Path) : Workload :=
  ⟨x.registry, x.config, fs, x.sources fs roots⟩

/-- Warming an index, in some order of the steps of its calls, leads to an index and a tally. -/
def WarmsTo (x : Index) (fs : FileSystem) (roots : List Path) (y : Index) (t : Tally) : Prop :=
  ∃ schedule, let s := (Session.start x (x.sources fs roots)).run fs schedule
    s.Finished ∧ s.index = y ∧ (s.report (x.sources fs roots)).foldl count .zero = t

theorem warm_warmsTo (x : Index) (fs : FileSystem) (roots : List Path) :
    x.WarmsTo fs roots (x.warm fs roots).1 (x.warm fs roots).2 :=
  ⟨_, Session.finished_inTurn x fs (x.sources fs roots), rfl, rfl⟩

section
variable (h : x.WarmsTo fs roots y t) (hfs : fs.WellFormed)
include h hfs

/-- A warm index has the analyses of all that can be analysed, and the tally counts what each file
comes to. -/
theorem WarmsTo.serves (hx : (x.workload fs roots).Stocks x.store) : (x.workload fs roots).Serves y ∧
    (∀ p ∈ x.sources fs roots, ∀ s a, Source.load fs x.config (fs.key p) = .ok s →
      x.registry.analyze s = .ok a →
      s.key ∈ y.store.keys) ∧
    t = ((x.sources fs roots).map fun p => ⟨p, (x.workload fs roots).answer p⟩).foldl count .zero := by
  obtain ⟨schedule, hf, rfl, rfl⟩ := h
  have hstart : (x.workload fs roots).OnTrack (Session.start x (x.sources fs roots)) := .start ⟨rfl, rfl, hx⟩
  obtain ⟨hrun, -⟩ := hstart.run hfs schedule
  obtain ⟨hreport, hkeys⟩ := hrun.of_finished hf
  exact ⟨hrun.serves, hkeys, congrArg (List.foldl count .zero) hreport⟩

/-- Warming an index that has all analyses runs no analyzer. -/
theorem WarmsTo.parses_eq (hx : (x.workload fs roots).Supplies x.store) : y.parses = x.parses := by
  obtain ⟨schedule, -, rfl, -⟩ := h
  have hstart : (x.workload fs roots).OnTrack (Session.start x (x.sources fs roots)) :=
    .start ⟨rfl, rfl, hx.toStocks⟩
  exact hstart.parses_run hfs hx schedule

end

/-- Asking a warm index for a file is a hit. -/
theorem analyze_of_supplies {w : Workload} (hw : w.Serves x) (hs : w.Supplies x.store)
    (hfs : w.files.WellFormed)
    (hp : p ∈ w.paths) (hl : w.load p = .ok s) : ∃ a, w.registry.analyze s = .ok a ∧
      x.analyze w.files p = ({ x with store := (x.store.get s.key s.fingerprint).1 }, .ok a) ∧
      (x.store.get s.key s.fingerprint).1.hits = x.store.hits + 1 := by
  obtain ⟨a, ha, hpeek⟩ := hs.peek? hfs hl (hs.complete p hp s hl)
  refine ⟨a, ha, analyze_of_hit ?_ ((Store.get_snd hs.sound.toCounted).trans hpeek), ?_⟩
  · rw [hw.config_eq]
    exact hl
  · rw [Store.get_eq, hpeek]
    rfl

/-- What is found below directories has an analysis by the analyzer of its language. -/
theorem isUnsupported_of_scanned (hfs : fs.WellFormed) (hroots : ∀ root ∈ roots, fs.isDirectory root = true)
    (hregistry : x.registry = .builtins) (hp : p ∈ x.sources fs roots) {a : Analysis}
    (ha : (x.workload fs roots).answer p = .ok a) : a.isUnsupported = false := by
  obtain ⟨root, hroot, hp⟩ := List.mem_flatMap.1 hp
  cases hl : (x.workload fs roots).load p with
  | error e =>
    rw [Workload.answer_of_error hl] at ha
    cases ha
  | ok s =>
    have hanalyzer : (Registry.builtins.analyzerFor? s).isSome = true := by
      obtain ⟨hlanguage, hknown⟩ :=
        FileSystem.ofFile_key_of_scanned hfs (hroots root hroot) hp s.content.toList
      have hkey : s.key = fs.key p := congrArg Source.key (Source.eq_of_load hl).2
      rw [Registry.analyzerFor?, hkey, hlanguage]
      exact Registry.isSome_resolve?_builtins hknown
    obtain ⟨analyzer, hanalyzer⟩ := Option.isSome_iff_exists.1 hanalyzer
    rw [Workload.answer_of_load hl, show (x.workload fs roots).registry = .builtins from hregistry,
      Registry.analyze, hanalyzer] at ha
    dsimp only at ha
    split at ha <;> cases ha
    rfl

/-- What warming says of a file that it cannot read. -/
def unread? (x : Index) (fs : FileSystem) (p : Path) : Option String :=
  match Source.load fs x.config (fs.key p) with
  | .ok _ => none
  | .error e => some (tallyError p e)

end Index

/-! ### One root, twice -/

namespace Overlap
open FileSystem (pathOf)

/-- A file that must not be read. -/
def secret : FileNode := .locked 3 ⟨.permissionDenied, by decide⟩

/-- A file system with one file and one more that cannot be read, and its root in two spellings. -/
def listing : List (String × FileNode) := [("a.yml", .file ⟨#[]⟩), ("b.yml", secret)]
def files : FileSystem := ⟨.directory listing, []⟩
def roots : List Path := [⟨"/"⟩, ⟨"/."⟩]

def workload : Workload :=
  ⟨.builtins, .standard, files, roots.flatMap (files.sourcesBelow Config.standard.maxSourceBytes)⟩

/-- An index that knows all languages and has just the room that is needed. -/
def fresh : Index :=
  ⟨.standard, .builtins, .new workload.analyses.length (workload.analyses.map Analysis.size).sum, 0, [],
    0, []⟩

theorem wellFormed : files.WellFormed := by
  refine ⟨?_, _, rfl⟩
  have hsecret : secret.WellFormed := .intro nofun .nil nofun
  simp [files, listing, FileNode.wellFormed_directory, FileNode.wellFormed_file, hsecret]
  decide

/-- There is the root, and the files in it. -/
theorem eq_of_at? {place : Place} {n : FileNode} (h : files.at? place = some n) :
    place = [] ∧ n = files.root ∨ ∃ s, place = [s] ∧ (s, n) ∈ listing := by
  cases place with
  | nil => exact .inl ⟨rfl, (FileNode.at?_nil_eq_some_iff.1 h).symm⟩
  | cons s rest =>
    obtain ⟨m, hm, hrest⟩ := FileNode.at?_cons_eq_some_iff.1 h
    have hmem : (s, m) ∈ listing := FileNode.mem_of_entry_eq hm
    have hleaf : m.entries = [] := by
      rcases List.mem_pair.1 hmem with heq | heq <;> cases heq <;> rfl
    obtain ⟨rfl, rfl⟩ := FileNode.at?_leaf hleaf hrest
    exact .inr ⟨s, rfl, hmem⟩

theorem isUnruled : files.IsUnruled [] := by
  refine FileSystem.isUnruled_of_plain wellFormed fun place es hes _ => ?_
  rcases eq_of_at? hes with ⟨-, heq⟩ | ⟨s, -, hmem⟩
  · cases heq
    exact ⟨rfl, rfl, rfl⟩
  · rcases List.mem_pair.1 hmem with heq | heq <;> cases heq

theorem resolve_eq {root : Path} (hroot : root ∈ roots) :
    files.resolve true root = .ok ([], .directory listing) := by
  rcases List.mem_pair.1 hroot with rfl | rfl <;> exact FileSystem.resolve_of_resolveIn 9 rfl

theorem mem_sources {root p : Path} (hroot : root ∈ roots) :
    p ∈ files.sourcesBelow Config.standard.maxSourceBytes root ↔ ∃ e ∈ listing, p = root.child e.1 := by
  have hr := resolve_eq hroot
  have habs : root.isAbsolute = true := by
    rcases List.mem_pair.1 hroot with rfl | rfl <;> decide +kernel
  rw [FileSystem.mem_sourcesBelow_iff wellFormed (Walk.not_same_dash habs) hr isUnruled]
  constructor
  · rintro ⟨names, n, hat, hfile, rfl, -⟩
    rcases eq_of_at? hat with ⟨-, rfl⟩ | ⟨s, heq, hmem⟩
    · cases hfile
    · rw [show names = [s] from heq]
      exact ⟨(s, n), hmem, rfl⟩
  · rintro ⟨e, he, rfl⟩
    have hyaml : Language.ofPath (root.child e.1) = .yaml := by
      rcases List.mem_pair.1 hroot with rfl | rfl <;> rcases List.mem_pair.1 he with rfl | rfl <;>
        decide +kernel
    have hnoise : (root.child e.1).isNoise = false := by
      rcases List.mem_pair.1 hroot with rfl | rfl <;> rcases List.mem_pair.1 he with rfl | rfl <;>
        decide +kernel
    have hshown : Scope.isIgnoredName e.1 = false ∧ Scope.isHiddenName e.1 = false := by
      rcases List.mem_pair.1 he with rfl | rfl <;> exact ⟨by decide +kernel, by decide +kernel⟩
    have hfile : e.2.isFile = true ∧ e.2.size ≤ Config.standard.maxSourceBytes := by
      rcases List.mem_pair.1 he with rfl | rfl <;> decide
    refine ⟨[e.1], e.2, ?_, hfile.1, rfl, List.forall_mem_singleton.2 hshown, by simp [hyaml], hnoise,
      .inl hfile.2⟩
    rcases List.mem_pair.1 he with rfl | rfl <;> rfl

/-- What the files are known under, whatever the root. -/
theorem key_eq {root : Path} (hroot : root ∈ roots) {e : String × FileNode} (he : e ∈ listing) :
    files.key (root.child e.1) = pathOf [e.1] := by
  have hspelled : root.child e.1 = ⟨"/" ++ e.1⟩ ∨ root.child e.1 = ⟨"/./" ++ e.1⟩ := by
    rcases List.mem_pair.1 hroot with rfl | rfl <;> rcases List.mem_pair.1 he with rfl | rfl <;>
      decide +kernel
  rcases hspelled with h | h <;> rcases List.mem_pair.1 he with rfl | rfl <;> rw [h] <;>
    exact FileSystem.key_of_resolveIn 9 rfl

theorem analyzerFor?_eq {p : Path} (hp : p ∈ workload.paths) {s : Source}
    (h : Source.load files .standard (files.key p) = .ok s) :
    Registry.builtins.analyzerFor? s = some Analyzer.yaml := by
  obtain ⟨root, hroot, hp⟩ := List.mem_flatMap.1 hp
  obtain ⟨e, he, rfl⟩ := (mem_sources hroot).1 hp
  have hlanguage (content : List UInt8) : Language.ofFile (pathOf [e.1]) content = .yaml := by
    have hextension : (pathOf [e.1]).extension? = some "yml" := by
      rcases List.mem_pair.1 he with rfl | rfl <;> decide +kernel
    have hyaml : Language.ofPath (pathOf [e.1]) = .yaml := by
      rcases List.mem_pair.1 he with rfl | rfl <;> decide +kernel
    rw [Language.ofFile, hextension, hyaml]
    rfl
  rw [Registry.analyzerFor?, show s.key = _ from congrArg Source.key (Source.eq_of_load h).2,
    key_eq hroot he, hlanguage]
  rfl

end Overlap
end SymbolIndex
