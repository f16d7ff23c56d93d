import Mathlib.Data.Finset.Card
import SymbolIndex.Proofs.Index.Sequence

/-!
# What is heard of an index

Somebody who hears which files were analysed, and what the index announces, knows at any time which paths
have an entry in its store: `Notice.hear` is what such a listener makes of one notice, and it fails if a path
is said to leave that has no entry, or if the entries of a directory are not as many as was said. Of
each thing that an index does, all that is heard is right (`Index.Reports`), and so of a whole history
(`Sequence.run_chronicle`).
-/
namespace SymbolIndex

/-! ### The paths that have an entry -/

namespace Store
open StoreEntry

/-- The paths that have an entry. Two spellings of a path are one. -/
def keySet (s : Store) : Finset (List Component) := (s.keys.map Path.components).toFinset

variable {s : Store} {p : Path} {a : Analysis} {f : Fingerprint} {k : List Component}

theorem mem_keySet : k ∈ s.keySet ↔ ∃ e ∈ s.entries, e.key.components = k := by
  simp [keySet, keys]

theorem components_mem_keySet : p.components ∈ s.keySet ↔ (s.find? p).isSome = true := by
  rw [mem_keySet, Option.isSome_iff_ne_none, ne_eq, find?_eq_none]
  simp [Path.Same]

theorem nodup_components {es : List StoreEntry} (h : Distinct es) : (es.map (·.key.components)).Nodup :=
  List.pairwise_map.2 h

theorem keySet_get (h : s.Counted) : (s.get p f).1.keySet = s.keySet :=
  List.toFinset_eq_of_perm _ _ (((get_perm h).symm.map _).map _)

theorem keySet_remove (h : s.Counted) : (s.remove p).keySet = s.keySet.erase p.components := by
  ext k
  rw [Finset.mem_erase, mem_keySet, mem_keySet, remove_eq h]
  constructor
  · rintro ⟨e, he, rfl⟩
    exact ⟨(mem_others.1 he).2, e, (mem_others.1 he).1, rfl⟩
  · rintro ⟨hk, e, he, rfl⟩
    exact ⟨e, mem_others.2 ⟨he, hk⟩, rfl⟩

/-- The paths at and below a directory leave the store, and they are as many as is told. -/
theorem keySet_invalidateUnder (h : s.Counted) (dir : Path) :
    (s.keySet.filter (dir.components.isPrefixOf ·)).card = (s.invalidateUnder dir).2.length ∧
      (s.invalidateUnder dir).1.keySet = s.keySet \ s.keySet.filter (dir.components.isPrefixOf ·) := by
  rw [invalidateUnder_eq h]
  have hgone : s.keySet.filter (dir.components.isPrefixOf ·) =
      ((s.keys.filter dir.isUnder).map Path.components).toFinset := by
    rw [keySet, ← List.toFinset_filter, List.filter_map]
    rfl
  have hnodup : ((s.keys.filter dir.isUnder).map Path.components).Nodup := by
    have hall : (s.keys.map Path.components).Nodup := by
      rw [keys, List.map_map]
      exact nodup_components h.distinct
    exact hall.sublist (List.filter_sublist.map _)
  constructor
  · rw [hgone, List.toFinset_card_of_nodup hnodup, List.length_map]
  · ext k
    rw [Finset.mem_sdiff, Finset.mem_filter, mem_keySet, mem_keySet]
    constructor
    · rintro ⟨e, he, rfl⟩
      obtain ⟨he, hu⟩ := List.mem_filter.1 he
      exact ⟨⟨e, he, rfl⟩, fun hgone => by simp [Path.isUnder, hgone.2] at hu⟩
    · rintro ⟨⟨e, he, rfl⟩, hu⟩
      have hkept : (!dir.isUnder e.key) = true := by
        rw [Bool.not_eq_true', Bool.eq_false_iff]
        exact fun hu' => hu ⟨⟨e, he, rfl⟩, hu'⟩
      exact ⟨e, List.mem_filter.2 ⟨he, hkept⟩, rfl⟩

theorem distinct_placed (h : s.Counted) (e : StoreEntry) : Distinct (s.placed e) :=
  List.pairwise_cons.2 ⟨fun _ hd hs => (mem_others.1 hd).2 (hs.symm.trans (front_same s e)),
    h.distinct.sublist others_sublist⟩

theorem mem_placed {e : StoreEntry} :
    k ∈ (s.placed e).map (·.key.components) ↔ k ∈ insert e.key.components s.keySet := by
  rw [Finset.mem_insert, mem_keySet, placed, List.map_cons, List.mem_cons, front_same s e, List.mem_map]
  constructor
  · rintro (rfl | ⟨d, hd, rfl⟩)
    · exact .inl rfl
    · exact .inr ⟨d, (mem_others.1 hd).1, rfl⟩
  · rintro (rfl | ⟨d, hd, rfl⟩)
    · exact .inl rfl
    · by_cases hs : d.key.Same e.key
      · exact .inl hs
      · exact .inr ⟨d, mem_others.2 ⟨hd, hs⟩, rfl⟩

/-- What gives way in a put is of different paths, each of which had an entry or is the one that was put;
all other paths have an entry afterwards. -/
theorem keySet_put (h : s.Counted) (ha : a.fingerprint = f) :
    ∃ t gone, s.put p a f = .ok (t, gone) ∧ (gone.map Path.components).Nodup ∧
      (gone.map Path.components).toFinset ⊆ insert p.components s.keySet ∧
      t.keySet = insert p.components s.keySet \ (gone.map Path.components).toFinset := by
  obtain ⟨k, -, hput⟩ := put_eq_take (p := p) h a ha
  have hplaced : insert p.components s.keySet =
      ((s.placed ⟨p, a, f, a.size⟩).map (·.key.components)).toFinset := by
    ext k
    rw [List.mem_toFinset, mem_placed]
  have hnodup := nodup_components (distinct_placed h ⟨p, a, f, a.size⟩)
  rw [hplaced]
  generalize s.placed ⟨p, a, f, a.size⟩ = all at hput hnodup
  -- What is kept and what gives way are the two parts of one list of different paths.
  rw [← List.take_append_drop k all, List.map_append] at hnodup ⊢
  obtain ⟨-, hdropped, hdisjoint⟩ := List.nodup_append'.1 hnodup
  have hgone : ((all.drop k).reverse.map (·.key)).map Path.components =
      ((all.drop k).map (·.key.components)).reverse := by
    rw [List.map_reverse, List.map_reverse, List.map_map]
    rfl
  refine ⟨_, _, hput, ?_, ?_, ?_⟩
  · rw [hgone]
    exact List.nodup_reverse.2 hdropped
  · rw [hgone, List.toFinset_reverse, List.toFinset_append]
    exact Finset.subset_union_right
  · rw [hgone, List.toFinset_reverse, List.toFinset_append,
      Finset.union_sdiff_cancel_right (List.disjoint_toFinset_iff_disjoint.2 hdisjoint), keySet, keys,
      List.map_map]
    rfl

end Store

/-! ### What is heard -/

/-- Something that is heard of an index. -/
inductive Notice
  /-- A file was analysed; the analysis has the key of the file. -/
  | analyzed (key : Path)
  | announced (e : IndexEvent)

namespace Notice

/-- What is known when a path no longer has an entry. It must have had one. -/
def lose (known : Finset (List Component)) (p : Path) : Option (Finset (List Component)) :=
  if p.components ∈ known then some (known.erase p.components) else none

/-- What is known of the paths that have an entry after one more notice, if that can be true. -/
def hear (known : Finset (List Component)) : Notice → Option (Finset (List Component))
  | analyzed key => some (insert key.components known)
  | announced (.invalidated p) | announced (.removed p) | announced (.evicted p) => lose known p
  | announced (.removedTree dir entries) =>
    let gone := known.filter (dir.components.isPrefixOf ·)
    if gone.card = entries then some (known \ gone) else none
  | announced (.reindexed _ _ _) | announced (.watchDegraded _ _) => some known

/-- What is known after some notices in order, if all can be true. -/
def hearAll (known : Finset (List Component)) (ns : List Notice) : Option (Finset (List Component)) :=
  ns.foldlM hear known

def event? : Notice → Option IndexEvent
  | analyzed _ => none
  | announced e => some e

@[simp] theorem filterMap_event? (es : List IndexEvent) : (es.map announced).filterMap event? = es := by
  simp [List.filterMap_map, Function.comp_def, event?]

theorem hearAll_append (known : Finset (List Component)) (ns ms : List Notice) :
    hearAll known (ns ++ ms) = (hearAll known ns).bind (hearAll · ms) := List.foldlM_append

/-- When different paths give way that are known to have an entry, the others are left. -/
theorem hearAll_evicted {known : Finset (List Component)} {gone : List Path}
    (hd : (gone.map Path.components).Nodup) (hs : (gone.map Path.components).toFinset ⊆ known) :
    hearAll known (gone.map fun p => announced (.evicted p)) =
      some (known \ (gone.map Path.components).toFinset) := by
  induction gone generalizing known with
  | nil => simp [hearAll]
  | cons p gone ih =>
    simp only [List.map_cons, List.nodup_cons, List.toFinset_cons, Finset.insert_subset_iff] at hd hs ⊢
    have hrest : (gone.map Path.components).toFinset ⊆ known.erase p.components :=
      Finset.subset_erase.2 ⟨hs.2, fun hp => hd.1 (List.mem_toFinset.1 hp)⟩
    have hstep : hear known (announced (.evicted p)) = some (known.erase p.components) := if_pos hs.1
    have hind := ih hd.2 hrest
    rw [hearAll] at hind ⊢
    rw [List.foldlM_cons, hstep, Finset.sdiff_insert, ← Finset.erase_sdiff_comm]
    exact hind

end Notice

namespace Index

/-- What an index has announced since it was another one. -/
def announcedSince (y x : Index) : List Notice := (y.events.drop x.events.length).map .announced

/-- What is heard when a file is analysed: the key first, and then what gave way. -/
def noticesOfAnalyze (x : Index) (fs : FileSystem) (p : Path) : List Notice :=
  let (y, r) := x.analyze fs p
  (match r with
    | .ok _ => [.analyzed (fs.key p)]
    | .error _ => []) ++ y.announcedSince x

/-- What is heard when a message is followed. -/
def noticesOfApply (x : Index) (fs : FileSystem) (m : WatchMessage) : List Notice :=
  let y := x.absorb m
  y.announcedSince x ++
    match m.changed? with
    | some (p, f) =>
      if y.wantsReindex p f then
        y.noticesOfAnalyze fs p ++ (y.reindex fs p).announcedSince (y.analyze fs p).1
      else []
    | none => []

/-- What is heard from one index to another is all that was announced, and tells which paths have an entry. -/
structure Reports (x : Index) (ns : List Notice) (y : Index) : Prop where
  events : y.events = x.events ++ ns.filterMap Notice.event?
  keys : Notice.hearAll x.store.keySet ns = some y.store.keySet

variable {x y z : Index} {fs : FileSystem} {p : Path} {ns ms : List Notice} {es : List IndexEvent}

theorem Reports.trans (h : x.Reports ns y) (h' : y.Reports ms z) : x.Reports (ns ++ ms) z where
  events := by rw [h'.events, h.events, List.filterMap_append, List.append_assoc]
  keys := by rw [Notice.hearAll_append, h.keys]; exact h'.keys

/-- Nothing is heard while neither the announcements nor the paths in the store change. -/
theorem Reports.silent (he : y.events = x.events) (hk : y.store.keySet = x.store.keySet) :
    x.Reports [] y where
  events := by rw [he]; exact (List.append_nil _).symm
  keys := by rw [hk]; rfl

theorem announcedSince_eq (h : y.events = x.events ++ es) : y.announcedSince x = es.map .announced := by
  rw [announcedSince, h, List.drop_left]

/-- What was announced from one index to another is all that there is to hear. -/
def Tells (x y : Index) : Prop := x.Reports (y.announcedSince x) y

theorem Reports.tells (es : List IndexEvent) (h : x.Reports (es.map .announced) y) : x.Tells y := by
  rw [Tells, announcedSince_eq (by rw [h.events, Notice.filterMap_event?])]
  exact h

theorem Tells.silent (he : y.events = x.events) (hk : y.store.keySet = x.store.keySet) : x.Tells y :=
  Reports.tells [] (.silent he hk)

/-- One event is announced that says how the paths in the store have changed. -/
theorem Tells.event {s : Store} {e : IndexEvent}
    (h : Notice.hear x.store.keySet (.announced e) = some s.keySet) :
    x.Tells (announce { x with store := s } [e]) :=
  Reports.tells [e] ⟨rfl, by simp [Notice.hearAll, h, announce]⟩

/-! ### What each thing that an index does tells -/

/-- A path that loses its entry is told to have lost it. -/
theorem tells_remove (h : x.store.Counted) {e : IndexEvent}
    (he : ∀ known, Notice.hear known (.announced e) = Notice.lose known p) (dropped : Bool)
    (hd : dropped = true → (x.store.find? p).isSome = true) :
    x.Tells (announceIf { x with store := if dropped then x.store.remove p else x.store } dropped e) := by
  cases dropped with
  | false => exact .silent (List.append_nil _) rfl
  | true =>
    refine .event ?_
    rw [he, Notice.lose, if_pos (Store.components_mem_keySet.2 (hd rfl)), ← Store.keySet_remove h]
    rfl

/-- Without an entry, there is nothing to drop and nothing to tell. -/
theorem tells_invalidate (h : x.store.Counted) {e : IndexEvent}
    (he : ∀ known, Notice.hear known (.announced e) = Notice.lose known p) :
    x.Tells (announceIf { x with store := (x.store.invalidate p).1 } (x.store.invalidate p).2 e) := by
  have hremove : (if (x.store.find? p).isSome then x.store.remove p else x.store) = x.store.remove p := by
    split
    · rfl
    · exact (Store.remove_of_none (Option.not_isSome_iff_eq_none.1 ‹_›)).symm
  have ht := tells_remove h he (x.store.find? p).isSome id
  rwa [hremove] at ht

theorem tells_absorb (h : x.store.Counted) (m : WatchMessage) : x.Tells (x.absorb m) := by
  unfold absorb
  split
  case h_1 p f =>
    have ht := tells_remove (e := .invalidated p) h (fun _ => rfl) ((x.store.find? p).any (·.fingerprint ≠ f))
      (by cases x.store.find? p <;> simp)
    rw [← Store.invalidateIfChanged_eq h, ← Store.invalidateIfChanged_snd h] at ht
    exact ht
  case h_2 p | h_3 p => exact tells_invalidate h fun _ => rfl
  case h_4 dir =>
    obtain ⟨hcard, hleft⟩ := Store.keySet_invalidateUnder h dir
    exact .event ((if_pos hcard).trans (congrArg some hleft.symm))
  case h_5 p reason => exact .event rfl

theorem tells_dropUnreadable (h : x.store.Counted) (key : Path) (e : IndexError) :
    x.Tells (x.dropUnreadable key e) := by
  unfold dropUnreadable
  cases hl : lossOf? key e with
  | none => exact .silent rfl rfl
  | some loss =>
    refine tells_invalidate h fun known => ?_
    unfold lossOf? at hl
    split at hl <;> cases hl <;> rfl

theorem tells_announceReindexed (p : Path) (r : Answer) : x.Tells (x.announceReindexed p r) := by
  cases r with
  | ok a => exact .event rfl
  | error e => exact .silent rfl rfl

/-- When an analysis is stored, the entries that give way are announced. -/
theorem reports_keep {s : Source} {a : Analysis} (h : x.store.Counted) (ha : a.fingerprint = s.fingerprint) :
    x.Reports (.analyzed s.key :: (x.keep s a).1.announcedSince x) (x.keep s a).1 := by
  obtain ⟨t, gone, hput, hd, hs, ht⟩ := Store.keySet_put (p := s.key) h ha
  have hkeep : (x.keep s a).1 = announce { x with store := t } (gone.map .evicted) := by
    simp only [keep, hput]
  have hevents : (x.keep s a).1.events = x.events ++ gone.map .evicted := by rw [hkeep]; rfl
  have hevicted := Notice.hearAll_evicted hd hs
  rw [announcedSince_eq hevents]
  constructor
  · rw [hevents, List.filterMap_cons_none rfl, Notice.filterMap_event?]
  · rw [hkeep, List.map_map]
    exact hevicted.trans (congrArg some ht.symm)

/-- Before the analysis of a content is stored, nothing is announced and nothing leaves the store. -/
theorem examining_silent (h : x.store.Counted) (s : Source) :
    (x.examining s).events = x.events ∧ (x.examining s).store.keySet = x.store.keySet := by
  constructor
  · unfold examining examine
    dsimp only
    split <;> rfl
  · rw [(x.examining_frame s).2.2.2, Store.keySet_get h]

/-- What the store gives out has a key that is known already. -/
theorem reports_hit {s : Source} {a : Analysis} (h : x.store.Counted)
    (ha : x.store.peek? s.key s.fingerprint = some a) :
    let y := { x with store := (x.store.get s.key s.fingerprint).1 }
    x.Reports (.analyzed s.key :: y.announcedSince x) y := by
  intro y
  obtain ⟨e, he, hs, -⟩ := (Store.peek?_eq_some h).1 ha
  have hkey : s.key.components ∈ x.store.keySet := Store.mem_keySet.2 ⟨e, he, hs⟩
  have hevents : y.events = x.events ++ [] := (List.append_nil _).symm
  have hset : y.store.keySet = x.store.keySet := Store.keySet_get h
  rw [announcedSince_eq hevents]
  exact ⟨hevents, by rw [hset]; exact congrArg some (Finset.insert_eq_of_mem hkey)⟩

theorem reports_analyze (hx : x.Idle) (fs : FileSystem) (p : Path) :
    x.Reports (x.noticesOfAnalyze fs p) (x.analyze fs p).1 := by
  have hc := hx.sound.toCounted
  have ho := analyze_outcome hx fs p
  have hkey : ∀ s, Source.load fs x.config (fs.key p) = .ok s → s.key = fs.key p :=
    fun s h => congrArg Source.key (Source.eq_of_load h).2
  simp only [noticesOfAnalyze]
  generalize x.analyze fs p = r at ho ⊢
  cases ho with
  | unread e h => exact tells_dropUnreadable hc (fs.key p) e
  | found s a h ha =>
    show x.Reports (.analyzed (fs.key p) :: _) _
    rw [← hkey s h]
    exact reports_hit hc ha
  | refused s e h ha =>
    obtain ⟨he, hk⟩ := examining_silent hc s
    exact Tells.silent he hk
  | stored s a h ha =>
    obtain ⟨he, hk⟩ := examining_silent hc s
    have hcounted : (x.examining s).store.Counted := by
      rw [(x.examining_frame s).2.2.2]
      exact hc.get _ _
    have hr := (Reports.silent he hk).trans (reports_keep hcounted (Registry.analyze_fingerprint ha))
    -- Nothing was announced while the content was analysed, so what is announced since is the same.
    rw [announcedSince, he] at hr
    show x.Reports (.analyzed (fs.key p) :: _) _
    rw [← hkey s h]
    exact hr

theorem reports_reindex (hx : x.Idle) (fs : FileSystem) (p : Path) :
    x.Reports (x.noticesOfAnalyze fs p ++ (x.reindex fs p).announcedSince (x.analyze fs p).1)
      (x.reindex fs p) := by
  have hr := reports_analyze hx fs p
  rw [reindex]
  generalize x.analyze fs p = r at hr ⊢
  exact hr.trans (tells_announceReindexed p r.2)

theorem reports_apply (hx : x.Idle) (fs : FileSystem) (m : WatchMessage) :
    x.Reports (x.noticesOfApply fs m) (x.apply fs m) := by
  have habsorb : x.Tells (x.absorb m) := tells_absorb hx.sound.toCounted m
  have hidle := hx.absorb m
  rw [noticesOfApply, Index.apply]
  generalize x.absorb m = y at habsorb hidle ⊢
  refine habsorb.trans ?_
  cases m.changed? with
  | none => exact .silent rfl rfl
  | some c =>
    dsimp only
    split
    · exact reports_reindex hidle fs c.1
    · exact .silent rfl rfl

end Index

namespace Sequence

variable {d : Sequence}

/-- What is heard when something happens. -/
def notices (d : Sequence) : Action → List Notice
  | .analyze p => d.index.noticesOfAnalyze d.files p
  | .follow m => d.index.noticesOfApply d.files m
  | .edit _ | .use _ => []

/-- What is heard in a history. -/
def chronicle (d : Sequence) : List Action → List Notice
  | [] => []
  | act :: acts => d.notices act ++ (d.step act).chronicle acts

theorem reports_step (h : d.index.Idle) {act : Action} (hact : ∀ o, act ≠ .use o) :
    d.index.Reports (d.notices act) (d.step act).index := by
  cases act with
  | analyze p =>
    -- The step is opened by name, for otherwise the analysis would be evaluated.
    have hr := Index.reports_analyze h d.files p
    simp only [notices, step]
    exact hr
  | edit files => exact .silent rfl rfl
  | follow m =>
    have hr := Index.reports_apply h d.files m
    simp only [notices, step]
    exact hr
  | use o => exact absurd rfl (hact o)

theorem reports_run (h : d.index.Idle) {acts : List Action} (hacts : ∀ o, .use o ∉ acts) :
    d.index.Reports (d.chronicle acts) (d.run acts).index := by
  induction acts generalizing d with
  | nil => exact .silent rfl rfl
  | cons act acts ih =>
    have hact : ∀ o, act ≠ .use o := fun o ho => hacts o (ho ▸ List.mem_cons_self)
    exact (reports_step h hact).trans (ih (step_idle h act) fun o ho => hacts o (List.mem_cons_of_mem _ ho))

/-- Of an index that analyses one file at a time and follows messages, what is heard are its announcements in
order, and the keys of the files that were analysed. Whoever starts with an empty store and takes away what is
announced to have left and adds what was analysed knows exactly which paths have an entry: nothing is said
to have left that had none, and a directory that is gone had as many entries as is said. -/
theorem run_chronicle (config : Config) (registry : Registry) (maxEntries maxBytes : Nat) (files : FileSystem)
    (acts : List Action) (h : ∀ o, .use o ∉ acts) :
    let d := start config registry maxEntries maxBytes files
    (d.chronicle acts).filterMap Notice.event? = (d.run acts).index.events ∧
      Notice.hearAll ∅ (d.chronicle acts) = some (d.run acts).index.store.keySet := by
  intro d
  have hr := reports_run (start_idle config registry maxEntries maxBytes files) h
  exact ⟨hr.events.symm, hr.keys⟩

/-- The first analysis that is stored makes nothing give way. -/
theorem keep_of_empty {x : Index} {s : Source} {a : Analysis} (hc : x.store.Counted)
    (he : x.store.entries = []) (ha : a.fingerprint = s.fingerprint) : (x.keep s a).1.events = x.events ∧
      (x.keep s a).1.store.entries = [⟨s.key, a, s.fingerprint, a.size⟩] := by
  obtain ⟨kept, dropped, hsplit, -, -, hput⟩ := Store.put_eq (p := s.key) hc a ha
  have hothers : x.store.others s.key = [] := by rw [Store.others, he]; rfl
  have hfront : ∀ e, x.store.front e = e := fun e => by rw [Store.front, Store.find?, he]; rfl
  obtain ⟨rfl, rfl⟩ := List.append_eq_nil_iff.1 (hsplit.symm.trans hothers)
  simp only [Index.keep, hput, hfront]
  exact ⟨List.append_nil _, rfl⟩

/-- An entry that is alone leaves the store empty, and is announced. -/
theorem absorb_removed_of_single {x : Index} {e : StoreEntry} (h : x.store.entries = [e]) :
    (x.absorb (.invalidate (.removed e.key))).events = x.events ++ [.removed e.key] ∧
      (x.absorb (.invalidate (.removed e.key))).store.keySet = ∅ := by
  have hfind : x.store.find? e.key = some e := by
    rw [Store.find?, h]
    exact List.find?_cons_of_pos (decide_eq_true (Path.Same.refl _))
  simp [Index.absorb, Store.invalidate, Index.announceIf, Index.announce, Store.remove, hfind,
    Store.keySet, Store.keys, Store.others, h]

theorem index_run_removed (d : Sequence) (p q : Path) :
    (d.run [.analyze p, .follow (.invalidate (.removed q))]).index =
      (d.index.analyze d.files p).1.absorb (.invalidate (.removed q)) := by
  simp only [run, List.foldl_cons, List.foldl_nil, step, Index.apply, WatchMessage.changed?]

/-- A script that was analysed is told to be gone when it is. -/
theorem run_chronicle_script :
    let d := start .standard Script.registry 4 0 Script.files
    let acts : List Action := [.analyze ⟨"/a.py"⟩, .follow (.invalidate (.removed ⟨"/a.py"⟩))]
    (∀ o, .use o ∉ acts) ∧ (d.chronicle acts).filterMap Notice.event? = [.removed ⟨"/a.py"⟩] ∧
      Notice.hearAll ∅ (d.chronicle acts) = some ∅ := by
  intro d acts
  have hacts : ∀ o, .use o ∉ acts := by simp [acts]
  obtain ⟨hevents, hkeys⟩ := run_chronicle .standard Script.registry 4 0 Script.files acts hacts
  have hd : d.index.Idle := start_idle ..
  have hmiss : d.index.analyze d.files ⟨"/a.py"⟩ =
      (d.index.examining Script.source).keep Script.source Script.analysis := by
    refine (Index.analyze_of_miss (x := d.index) Script.load_key hd.sound.toCounted rfl rfl).trans ?_
    rw [show d.index.registry.analyze Script.source = .ok Script.analysis from Script.analyze,
      Index.examining]
  obtain ⟨he, hs⟩ := keep_of_empty (x := d.index.examining Script.source) (a := Script.analysis)
    (by rw [(d.index.examining_frame _).2.2.2]; exact hd.sound.toCounted.get _ _)
    (by rw [(d.index.examining_frame _).2.2.2]; rfl) rfl
  rw [(Index.examining_silent hd.sound.toCounted _).1] at he
  rw [← hmiss] at he hs
  obtain ⟨hgone, hnone⟩ := absorb_removed_of_single hs
  rw [hevents, hkeys, index_run_removed]
  exact ⟨hacts, hgone.trans (by rw [he]; rfl), congrArg some hnone⟩

end Sequence
end SymbolIndex
