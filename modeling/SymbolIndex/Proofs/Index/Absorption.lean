import SymbolIndex.Proofs.Index.Exclusion
import SymbolIndex.Proofs.Index.Spelling
import SymbolIndex.Proofs.Store.History

/-!
# Changes that are told twice

An index that analyses changed files at once is told that a file reads as some content. It acts if its store
has no analysis of that content under the path that it was told, and what it analyses is stored under the
key of the path. So when the path is spelled as its key, what it announces is what it has stored, and being
told again changes nothing (`World.run_absorbs`); when the path is a link, it announces an analysis that the
store may have held all the time, and does so each time.
-/
namespace SymbolIndex

namespace Store
open StoreEntry

variable {s : Store} {p q : Path} {f g : Fingerprint} {a : Analysis} {e : StoreEntry} {es : List StoreEntry}

/-- Looking up what is in front already leaves the entries as they are. -/
theorem Counted.entries_get_of_head (h : s.Counted) (hs : s.entries = e :: es) (he : e.key.Same p) :
    (s.get p f).1.entries = s.entries := by
  have hmem : e ∈ s.entries := hs ▸ List.mem_cons_self
  have hothers : s.others p = es := by
    have hdistinct : Distinct (e :: es) := hs ▸ h.distinct
    have hrest : ∀ d ∈ es, ¬ d.key.Same p := fun d hd hsame =>
      List.rel_of_pairwise_cons hdistinct hd (he.trans hsame.symm)
    rw [others, hs, List.filter_cons_of_neg (by simpa using he), List.filter_eq_self]
    exact fun d hd => decide_eq_true (hrest d hd)
  rw [get_eq_of_some (find?_of_mem h.distinct hmem he) (h.genuine e hmem), hothers, hs]
  split <;> rfl

/-- Looking up the same path again leaves the entries as they are. -/
theorem Counted.entries_get_get (h : s.Counted) :
    ((s.get p f).1.get p g).1.entries = (s.get p f).1.entries := by
  cases hf : s.find? p with
  | none =>
    have hnone : (s.get p f).1.find? p = none := by rw [get_eq_of_none hf]; exact hf
    rw [get_eq_of_none hnone]
  | some e =>
    have hhead : (s.get p f).1.entries = e :: s.others p := by
      rw [get_eq_of_some hf (h.genuine e (mem_of_find? hf))]
      split <;> rfl
    exact (h.get p f).entries_get_of_head hhead (same_of_find? hf)

theorem Sound.entries_get_put (h : s.Sound) (ha : a.fingerprint = f) :
    ((s.after (.put p a f)).get p g).1.entries = (s.after (.put p a f)).entries := by
  obtain ⟨kept, dropped, -, -, -, heq⟩ := put_eq (p := p) h.toCounted a ha
  have hhead : (s.after (.put p a f)).entries = s.front ⟨p, a, f, a.size⟩ :: kept := by
    simp only [Store.after, perform, heq]
  exact (h.after _).toCounted.entries_get_of_head hhead (front_same s _)

/-- What the store has for a path is for a content. -/
def IsCurrent (s : Store) (p : Path) (f : Fingerprint) : Prop :=
  ∀ e ∈ s.entries, e.key.Same p → e.fingerprint = f

theorem IsCurrent.get (h : s.IsCurrent p f) (hc : s.Counted) : (s.get q g).1.IsCurrent p f :=
  fun e he => h e ((get_perm hc).mem_iff.2 he)

/-- What is put may be for any path if it is for the content. -/
theorem IsCurrent.put (h : s.IsCurrent p f) (hc : s.Counted) : (s.after (.put q a f)).IsCurrent p f := by
  intro e he hs
  rcases mem_after hc he with he | ⟨_, _, _, hput, -, hf, -⟩
  · exact h e he hs
  · cases hput
    exact hf

/-- Entries for another content than a given one are dropped, and no others. -/
theorem Sound.invalidateIfChanged (h : s.Sound) :
    (s.after (.invalidateIfChanged p f)).IsCurrent p f ∧
      (s.after (.invalidateIfChanged p f)).peek? q f = s.peek? q f := by
  refine ⟨fun e he => ((mem_after_invalidateIfChanged h.toCounted).1 he).2, ?_⟩
  refine peek?_congr h.toCounted (h.after _).toCounted fun e _ hf => ?_
  rw [mem_after_invalidateIfChanged h.toCounted, and_iff_left fun _ => hf]

theorem IsCurrent.invalidateIfChanged_eq (h : s.IsCurrent p f) (hc : s.Counted) :
    s.invalidateIfChanged p f = (s, false) := by
  have hnone : (s.find? p).any (·.fingerprint ≠ f) = false := by
    cases hf : s.find? p with
    | none => rfl
    | some e => simp [h e (mem_of_find? hf) (same_of_find? hf)]
  refine Prod.ext ?_ ((invalidateIfChanged_snd hc).trans hnone)
  rw [Store.invalidateIfChanged_eq hc, hnone]
  rfl

/-- What is held after a put under another path was held before it. -/
theorem Sound.holds_of_put (h : s.Sound) (hq : ¬ q.Same p) (hp : s.holds q f = false) :
    (s.after (.put p a g)).holds q f = false := by
  rw [Bool.eq_false_iff] at hp ⊢
  intro hput
  obtain ⟨e, he, hk, hf⟩ := (holds_iff (h.after _).toCounted).1 hput
  rcases mem_after h.toCounted he with he | ⟨_, _, _, ho, hs, -, -⟩
  · exact hp ((holds_iff h.toCounted).2 ⟨e, he, hk, hf⟩)
  · cases ho
    exact hq (hk.symm.trans hs)

end Store

/-- It is announced that a file was analysed again. -/
def IndexEvent.isReindexed : IndexEvent → Bool
  | reindexed _ _ _ => true
  | _ => false

namespace Index

/-- What an index has announced of files that were analysed again, in order. -/
def renewals (x : Index) : List IndexEvent := x.events.filter IndexEvent.isReindexed

/-- The store holds a newly computed analysis of a content that it did not hold before. -/
def Stores (x y : Index) (s : Source) : Prop :=
  x.store.holds s.key s.fingerprint = false ∧
    ∃ a, x.registry.analyze s = .ok a ∧ y.store.peek? s.key s.fingerprint = some a

/-- A file has changed that the store has no analysis of, and there is an analyzer for files like it. -/
def IsDue (x : Index) (p : Path) (f : Fingerprint) : Prop :=
  x.store.holds p f = false ∧ x.registry.supports (Language.ofPath p) = true

instance (x : Index) (p : Path) (f : Fingerprint) : Decidable (x.IsDue p f) :=
  inferInstanceAs (Decidable (_ ∧ _))

/-- The store is sound, no call is at work with the lock of a key, and changed files are analysed at once. -/
structure IsEager (x : Index) (key : Path) : Prop where
  sound : x.store.Sound
  unlocked : x.locks.find? (·.1.Same key) = none
  eager : x.config.eagerReindex = true

variable {x y : Index} {fs : FileSystem} {p key : Path} {s : Source} {a : Analysis} {f : Fingerprint}

/-- The message that a file reads as some content. -/
abbrev changed (p : Path) (f : Fingerprint) : WatchMessage := .invalidate (.changed p (some f))

section
variable (x : Index) (p : Path) (f : Fingerprint)

theorem absorb_changed_frame :
    (x.absorb (changed p f)).registry = x.registry ∧ (x.absorb (changed p f)).config = x.config ∧
      (x.absorb (changed p f)).locks = x.locks ∧ (x.absorb (changed p f)).parses = x.parses ∧
      (x.absorb (changed p f)).renewals = x.renewals := by
  refine ⟨rfl, rfl, rfl, rfl, ?_⟩
  simp only [absorb, announceIf, announce, renewals, List.filter_append]
  split <;> simp [IndexEvent.isReindexed]

end

theorem IsEager.absorb (h : x.IsEager key) (p : Path) (f : Fingerprint) :
    (x.absorb (changed p f)).IsEager key where
  sound := by
    rw [World.absorb_store]
    exact h.sound.after _
  unlocked := h.unlocked
  eager := h.eager

/-- A message drops no analysis of the content that it tells of. -/
theorem holds_absorb (h : x.store.Sound) (p q : Path) (f : Fingerprint) :
    (x.absorb (changed p f)).store.holds q f = x.store.holds q f := by
  rw [World.absorb_store]
  exact congrArg Option.isSome h.invalidateIfChanged.2

/-- What was absorbed is not absorbed again. -/
theorem absorb_of_isCurrent (hc : x.store.Counted) (h : x.store.IsCurrent p f) :
    x.absorb (changed p f) = x := by
  simp only [absorb, h.invalidateIfChanged_eq hc, announceIf, announce]
  exact congrArg (fun es => { x with events := es }) (List.append_nil x.events)

theorem apply_changed (h : x.IsEager key) (fs : FileSystem) (p : Path) (f : Fingerprint) :
    x.apply fs (changed p f) =
      if x.IsDue p f then (x.absorb (changed p f)).reindex fs p else x.absorb (changed p f) := by
  have hwants : (x.absorb (changed p f)).wantsReindex p f = true ↔ x.IsDue p f := by
    simp [wantsReindex, holds_absorb h.sound, IsDue, (x.absorb_changed_frame p f).1,
      (x.absorb_changed_frame p f).2.1, h.eager]
  unfold apply
  simp only [WatchMessage.changed?, hwants]

/-- How analysing a file again comes out when it reads as a content. -/
inductive Renewal (x : Index) (p : Path) (s : Source) : Index → Prop
  /-- The store gives the analysis out. -/
  | held (a : Analysis) (h : x.store.peek? s.key s.fingerprint = some a) :
      Renewal x p s ({ x with store := (x.store.get s.key s.fingerprint).1 }.announce
        [.reindexed p s.fingerprint a.symbols.length])
  | stored (a : Analysis) (h : x.store.peek? s.key s.fingerprint = none) (ha : x.registry.analyze s = .ok a) :
      Renewal x p s (((x.examining s).keep s a).1.announce [.reindexed p s.fingerprint a.symbols.length])
  | failed (e : IndexError) (h : x.store.peek? s.key s.fingerprint = none)
      (ha : x.registry.analyze s = .error e) : Renewal x p s (x.examining s)

theorem reindex_renewal (h : x.IsEager s.key) (hl : Source.load fs x.config (fs.key p) = .ok s) :
    Renewal x p s (x.reindex fs p) := by
  have hc := h.sound.toCounted
  cases hp : x.store.peek? s.key s.fingerprint with
  | some a =>
    obtain ⟨e, he, -, hf, rfl⟩ := (Store.peek?_eq_some hc).1 hp
    have hfingerprint : e.analysis.fingerprint = s.fingerprint :=
      (hc.genuine e he).fingerprint_eq.symm.trans hf
    rw [reindex, analyze_of_hit hl ((Store.get_snd hc).trans hp)]
    simp only [announceReindexed, hfingerprint]
    exact .held _ hp
  | none =>
    have hmiss := analyze_of_miss hl hc hp h.unlocked
    cases ha : x.registry.analyze s with
    | error e =>
      rw [ha] at hmiss
      rw [reindex, hmiss]
      exact .failed e hp ha
    | ok a =>
      have hfingerprint := Registry.analyze_fingerprint ha
      rw [ha] at hmiss
      have hanswer : x.analyze fs p = (((x.examining s).keep s a).1, .ok a) :=
        hmiss.trans (Prod.ext rfl (keep_answer _ s a hfingerprint))
      rw [reindex, hanswer]
      simp only [announceReindexed, hfingerprint]
      exact .stored a hp ha

/-- What is announced of a file that was analysed again: the analysis that the store gives out, if any. -/
def told (x : Index) (p : Path) (s : Source) : List IndexEvent :=
  ((x.store.peek? s.key s.fingerprint).map fun a => .reindexed p s.fingerprint a.symbols.length).toList

theorem told_eq_nil : x.told p s = [] ↔ x.store.peek? s.key s.fingerprint = none := by
  simp [told]

theorem told_of_some (h : x.store.peek? s.key s.fingerprint = some a) :
    x.told p s = [.reindexed p s.fingerprint a.symbols.length] := by
  simp [told, h]

theorem IsEager.examining (h : x.IsEager s.key) : (x.examining s).IsEager s.key := by
  obtain ⟨-, hc, hl, hs⟩ := x.examining_frame s
  exact ⟨hs ▸ h.sound.get _ _, by rw [hl]; exact h.unlocked, by rw [hc]; exact h.eager⟩

theorem IsEager.keep (h : x.IsEager key) (s : Source) (a : Analysis) : (x.keep s a).1.IsEager key := by
  obtain ⟨-, hc, hl, -⟩ := x.keep_frame s a
  exact ⟨by rw [keep_store]; exact h.sound.after _, by rw [hl]; exact h.unlocked, by rw [hc]; exact h.eager⟩

theorem IsEager.announce (h : x.IsEager key) (events : List IndexEvent) : (x.announce events).IsEager key :=
  ⟨h.sound, h.unlocked, h.eager⟩

theorem renewals_announce (x : Index) (events : List IndexEvent) :
    (x.announce events).renewals = x.renewals ++ events.filter IndexEvent.isReindexed := List.filter_append ..

/-- Nothing else is said to have been analysed again. -/
theorem renewals_keep (x : Index) (s : Source) (a : Analysis) : (x.keep s a).1.renewals = x.renewals := by
  unfold keep
  cases x.store.put s.key a s.fingerprint with
  | error e => rfl
  | ok r =>
    refine (renewals_announce _ _).trans ?_
    simp [renewals, IndexEvent.isReindexed, List.filter_map, Function.comp_def]

theorem renewals_examining (x : Index) (s : Source) : (x.examining s).renewals = x.renewals := by
  unfold examining examine renewals
  dsimp only
  split <;> rfl

/-- What is so when a file was analysed again, whichever way that came out. -/
structure Renewed (x : Index) (p : Path) (s : Source) (y : Index) : Prop where
  eager : y.IsEager s.key
  registry : y.registry = x.registry
  config : y.config = x.config
  renewals : y.renewals = x.renewals ++ y.told p s
  /-- The file need not move to the front of the store any more. -/
  resting : (y.store.get s.key s.fingerprint).1.entries = y.store.entries
  current : ∀ q, x.store.IsCurrent q s.fingerprint → y.store.IsCurrent q s.fingerprint
  found : y.store.holds s.key s.fingerprint = true ↔
    x.store.holds s.key s.fingerprint = true ∨ ∃ a, x.registry.analyze s = .ok a
  /-- What was not in the store before has been computed. -/
  computed : x.store.holds s.key s.fingerprint = false → ∀ a, y.store.peek? s.key s.fingerprint = some a →
    x.registry.analyze s = .ok a
  apart : ∀ q, ¬ q.Same s.key → x.store.holds q s.fingerprint = false → y.store.holds q s.fingerprint = false

/-- Looking a file up does not change what the store has for the content that it was read as. -/
theorem holds_get (h : x.store.Counted) (q : Path) :
    (x.store.get s.key s.fingerprint).1.holds q s.fingerprint = x.store.holds q s.fingerprint :=
  congrArg Option.isSome (Store.peek?_get h)

theorem renewed_of_held (h : x.IsEager s.key) (hp : x.store.peek? s.key s.fingerprint = some a) :
    Renewed x p s ({ x with store := (x.store.get s.key s.fingerprint).1 }.announce
      [.reindexed p s.fingerprint a.symbols.length]) := by
  have hc := h.sound.toCounted
  have hp' : (x.store.get s.key s.fingerprint).1.peek? s.key s.fingerprint = some a :=
    (Store.peek?_get hc).trans hp
  have hheld : x.store.holds s.key s.fingerprint = true := congrArg Option.isSome hp
  exact {
    eager := ⟨h.sound.get _ _, h.unlocked, h.eager⟩
    registry := rfl
    config := rfl
    renewals := by
      rw [renewals_announce, told_of_some hp']
      rfl
    resting := hc.entries_get_get
    current := fun q hq => hq.get hc
    found := iff_of_true ((holds_get hc s.key).trans hheld) (.inl hheld)
    computed := fun hnone => by rw [hheld] at hnone; cases hnone
    apart := fun q _ hq => (holds_get hc q).trans hq }

theorem renewed_of_stored (h : x.IsEager s.key) (ha : x.registry.analyze s = .ok a) :
    Renewed x p s (((x.examining s).keep s a).1.announce [.reindexed p s.fingerprint a.symbols.length]) := by
  have hfingerprint := Registry.analyze_fingerprint ha
  have hc := h.sound.toCounted
  have hsound := h.sound.get s.key s.fingerprint
  obtain ⟨hregistry, hconfig, -, hstore⟩ := x.examining_frame s
  obtain ⟨hregistry', hconfig', -⟩ := (x.examining s).keep_frame s a
  let y := ((x.examining s).keep s a).1.announce [.reindexed p s.fingerprint a.symbols.length]
  have hput : y.store = (x.store.get s.key s.fingerprint).1.after (.put s.key a s.fingerprint) := by
    rw [← hstore]
    exact keep_store _ s a
  have hp : y.store.peek? s.key s.fingerprint = some a := by
    rw [hput]
    exact hsound.peek?_put hfingerprint
  exact {
    eager := (h.examining.keep s a).announce _
    registry := hregistry'.trans hregistry
    config := hconfig'.trans hconfig
    renewals := by
      rw [renewals_announce, renewals_keep, renewals_examining, told_of_some hp]
      rfl
    resting := by
      change (y.store.get _ _).1.entries = y.store.entries
      rw [hput]
      exact hsound.entries_get_put hfingerprint
    current := fun q hq => by
      change y.store.IsCurrent q s.fingerprint
      rw [hput]
      exact (hq.get hc).put hsound.toCounted
    found := iff_of_true (congrArg Option.isSome hp) (.inr ⟨a, ha⟩)
    computed := fun _ b hb => by rw [ha, Option.some.inj (hp.symm.trans hb)]
    apart := fun q hq hnone => by
      change y.store.holds q s.fingerprint = false
      rw [hput]
      exact hsound.holds_of_put hq ((holds_get hc q).trans hnone) }

theorem renewed_of_failed {e : IndexError} (h : x.IsEager s.key)
    (hp : x.store.peek? s.key s.fingerprint = none) (ha : x.registry.analyze s = .error e) :
    Renewed x p s (x.examining s) := by
  have hc := h.sound.toCounted
  obtain ⟨hregistry, hconfig, -, hstore⟩ := x.examining_frame s
  have hnone : (x.examining s).store.peek? s.key s.fingerprint = none := by
    rw [hstore, Store.peek?_get hc, hp]
  exact {
    eager := h.examining
    registry := hregistry
    config := hconfig
    renewals := by rw [renewals_examining, told_eq_nil.2 hnone, List.append_nil]
    resting := by
      rw [hstore]
      exact hc.entries_get_get
    current := fun q hq => by
      rw [hstore]
      exact hq.get hc
    found := by simp [Store.holds, hnone, hp, ha]
    computed := fun _ b hb => by cases hnone.symm.trans hb
    apart := fun q _ hq => by
      rw [hstore]
      exact (holds_get hc q).trans hq }

theorem Renewal.renewed (h : x.IsEager s.key) (hr : Renewal x p s y) : Renewed x p s y := by
  cases hr with
  | held a hp => exact renewed_of_held h hp
  | stored a hp ha => exact renewed_of_stored h ha
  | failed e hp ha => exact renewed_of_failed h hp ha

/-- Analysing a file again that was just analysed again announces the same once more. An analyzer is run only
if it has failed. -/
theorem Renewed.again (h : Renewed x p s y) {z : Index} (hz : Renewal y p s z) :
    z.store.entries = y.store.entries ∧ z.events = y.events ++ y.told p s ∧
      z.parses = y.parses + if y.told p s = [] then 1 else 0 := by
  cases hz with
  | held a hp =>
    have htold := told_of_some (p := p) hp
    exact ⟨h.resting, by rw [htold]; rfl, by simp [htold, Index.announce]⟩
  | stored a hp ha =>
    rw [h.registry] at ha
    have hholds := h.found.2 (.inr ⟨a, ha⟩)
    simp [Store.holds, hp] at hholds
  | failed e hp ha =>
    have hanalyzer : (y.registry.analyzerFor? s).isSome = true := by
      unfold Registry.analyze at ha
      cases hr : y.registry.analyzerFor? s with
      | none => rw [hr] at ha; cases ha
      | some analyzer => rfl
    have htold := (told_eq_nil (p := p)).2 hp
    refine ⟨(congrArg Store.entries (y.examining_frame s).2.2.2).trans h.resting, ?_, ?_⟩
    · simp [htold, Index.examining, Index.examine, hanalyzer]
    · simp [htold, Index.examining, Index.examine, hanalyzer]

/-! ### Being told once, and again -/

/-- What is announced when an index is told of a change, and what becomes of it when it is told again. -/
structure Absorbs (x : Index) (p : Path) (s : Source) (y z : Index) (told : List IndexEvent) : Prop where
  /-- The first time, at most one analysis is announced. -/
  renewals : y.renewals = x.renewals ++ told
  single : told = [] ∨ ∃ n, told = [.reindexed p s.fingerprint n]
  told_iff : told ≠ [] ↔ x.IsDue p s.fingerprint ∧
    (x.store.holds s.key s.fingerprint = true ∨ ∃ a, x.registry.analyze s = .ok a)
  /-- What is announced was computed and stored, unless the store held it under the key of the file. -/
  stores_iff : told ≠ [] → (x.Stores y s ↔ x.store.holds s.key s.fingerprint = false)
  /-- It was, if the path is spelled as the key. -/
  stores_same : p.Same s.key → (told ≠ [] ↔ x.Stores y s)
  entries : z.store.entries = y.store.entries
  /-- An analyzer that fails is run each time. -/
  parses : z.parses = y.parses + if x.IsDue p s.fingerprint ∧ told = [] then 1 else 0
  /-- The second time, the same is announced again unless the path is spelled as the key. -/
  events : z.events = y.events ++ if p.Same s.key then [] else told

theorem absorbs_of_not_due (h : x.IsEager s.key) (hd : ¬ x.IsDue p s.fingerprint) :
    Absorbs x p s (x.absorb (changed p s.fingerprint)) (x.absorb (changed p s.fingerprint)) [] where
  renewals := by rw [(x.absorb_changed_frame p s.fingerprint).2.2.2.2, List.append_nil]
  single := .inl rfl
  told_iff := by simp [hd]
  stores_iff hne := absurd rfl hne
  stores_same hs := by
    refine iff_of_false (fun hne => hne rfl) ?_
    rintro ⟨hnone, a, -, ha⟩
    rw [World.absorb_store] at ha
    have hheld := h.sound.invalidateIfChanged.2.symm.trans ha
    simp [Store.holds, hheld] at hnone
  entries := rfl
  parses := by simp [hd]
  events := by simp

theorem Renewed.told_ne_nil (h : Renewed x p s y) : y.told p s ≠ [] ↔
    x.store.holds s.key s.fingerprint = true ∨ ∃ a, x.registry.analyze s = .ok a := by
  rw [← h.found, Store.holds, ne_eq, told_eq_nil, ← ne_eq, Option.isSome_iff_ne_none]

theorem Renewed.stores_iff (h : Renewed x p s y) (ht : y.told p s ≠ []) :
    x.Stores y s ↔ x.store.holds s.key s.fingerprint = false := by
  refine ⟨And.left, fun hnone => ⟨hnone, ?_⟩⟩
  rw [ne_eq, told_eq_nil] at ht
  obtain ⟨a, ha⟩ := Option.ne_none_iff_exists'.1 ht
  exact ⟨a, h.computed hnone a ha, ha⟩

/-- After a file was analysed again, being told again has it analysed again unless the path that is told is
spelled as its key and the analysis has come out well. -/
theorem Renewed.isDue_iff (h : Renewed x p s y) (hd : x.IsDue p s.fingerprint) :
    y.IsDue p s.fingerprint ↔ ¬ (p.Same s.key ∧ y.told p s ≠ []) := by
  have hsupports : y.registry.supports (Language.ofPath p) = true := by rw [h.registry]; exact hd.2
  rw [IsDue, and_iff_left hsupports]
  by_cases hs : p.Same s.key
  · rw [Store.holds_congr hs, h.told_ne_nil, ← h.found]
    simp [hs]
  · simp [hs, h.apart p hs hd.1]

/-- Being told of a change that is due, and then again. -/
theorem absorbs_of_due (h : x.IsEager s.key) (hd : x.IsDue p s.fingerprint)
    (hy : Renewed (x.absorb (changed p s.fingerprint)) p s y) {z : Index}
    (hz : z = y ∧ ¬ y.IsDue p s.fingerprint ∨ Renewal y p s z ∧ y.IsDue p s.fingerprint) :
    Absorbs x p s y z (y.told p s) := by
  have hholds := holds_absorb h.sound p s.key s.fingerprint
  obtain ⟨hregistry, -, -, -, hrenewals⟩ := x.absorb_changed_frame p s.fingerprint
  have hdue : (x.absorb (changed p s.fingerprint)).IsDue p s.fingerprint := by
    rw [IsDue, holds_absorb h.sound, hregistry]
    exact hd
  have hstores (ht : y.told p s ≠ []) : x.Stores y s ↔ x.store.holds s.key s.fingerprint = false := by
    have hst := hy.stores_iff ht
    rwa [Stores, hregistry, hholds] at hst
  have hne := hy.told_ne_nil
  rw [hholds, hregistry] at hne
  have hsecond : z.store.entries = y.store.entries ∧
      (z.events = y.events ++ if p.Same s.key then [] else y.told p s) ∧
      z.parses = y.parses + if y.told p s = [] then 1 else 0 := by
    rcases hz with ⟨rfl, hn⟩ | ⟨hz, hn⟩
    · rw [hy.isDue_iff hdue, not_not] at hn
      simp [hn.1, hn.2]
    · obtain ⟨he, hev, hp⟩ := hy.again hz
      refine ⟨he, ?_, hp⟩
      rw [hev]
      rw [hy.isDue_iff hdue] at hn
      by_cases hs : p.Same s.key
      · simp [hs, not_not.1 fun ht => hn ⟨hs, ht⟩]
      · simp [hs]
  exact {
    renewals := hy.renewals.trans (by rw [hrenewals])
    single := by
      unfold told
      cases y.store.peek? s.key s.fingerprint with
      | none => exact .inl rfl
      | some a => exact .inr ⟨_, rfl⟩
    told_iff := hne.trans (and_iff_right hd).symm
    stores_iff := hstores
    stores_same := fun hs => by
      have hnone : x.store.holds s.key s.fingerprint = false := by
        rw [← Store.holds_congr hs]
        exact hd.1
      refine ⟨fun ht => (hstores ht).2 hnone, fun hst => ?_⟩
      obtain ⟨-, a, -, ha⟩ := hst
      rw [told_of_some ha]
      exact List.cons_ne_nil _ _
    entries := hsecond.1
    parses := by simp [hsecond.2.2, hd]
    events := hsecond.2.1 }

theorem apply_absorbs (h : x.IsEager s.key) (hl : Source.load fs x.config (fs.key p) = .ok s) :
    let y := x.apply fs (changed p s.fingerprint)
    ∃ told, Absorbs x p s y (y.apply fs (changed p s.fingerprint)) told := by
  intro y
  have habsorbed := h.absorb p s.fingerprint
  have hcurrent : (x.absorb (changed p s.fingerprint)).store.IsCurrent p s.fingerprint := by
    rw [World.absorb_store]
    exact (h.sound.invalidateIfChanged (q := p)).1
  by_cases hd : x.IsDue p s.fingerprint
  · have hy : y = (x.absorb (changed p s.fingerprint)).reindex fs p :=
      (apply_changed h fs p _).trans (if_pos hd)
    have hrenewed : Renewed (x.absorb (changed p s.fingerprint)) p s y := by
      rw [hy]
      exact (reindex_renewal habsorbed hl).renewed habsorbed
    have hagain : y.absorb (changed p s.fingerprint) = y :=
      absorb_of_isCurrent hrenewed.eager.sound.toCounted (hrenewed.current p hcurrent)
    refine ⟨_, absorbs_of_due h hd hrenewed ?_⟩
    rw [apply_changed hrenewed.eager, hagain]
    split
    · exact .inr ⟨reindex_renewal hrenewed.eager (by rw [hrenewed.config]; exact hl), ‹_›⟩
    · exact .inl ⟨rfl, ‹_›⟩
  · have hy : y = x.absorb (changed p s.fingerprint) := (apply_changed h fs p _).trans (if_neg hd)
    have hd' : ¬ y.IsDue p s.fingerprint := by
      rw [hy, IsDue, holds_absorb h.sound, (x.absorb_changed_frame p s.fingerprint).1]
      exact hd
    have hagain : y.apply fs (changed p s.fingerprint) = y := by
      rw [hy] at hd' ⊢
      rw [apply_changed habsorbed, if_neg hd', absorb_of_isCurrent habsorbed.sound.toCounted hcurrent]
    rw [hagain, hy]
    exact ⟨[], absorbs_of_not_due h hd⟩

end Index

namespace World

/-- An index that analyses changed files at once, whatever has happened to it, is told that a file reads as
some content while no call is at work with the file, and is told so again. -/
theorem run_absorbs (config : Config) (registry : Registry) (maxEntries maxBytes : Nat) (files : FileSystem)
    (acts : List Action) (p : Path) (s : Source) :
    let w := (start (.over config registry (.new maxEntries maxBytes)) files).run acts
    let message : WatchMessage := .invalidate (.changed p (some s.fingerprint))
    let y := w.index.apply w.files message
    w.index.config.eagerReindex = true → Source.load w.files w.index.config (w.files.key p) = .ok s →
      (∀ c ∈ w.calls, ∀ key, c.task? = some key → ¬ key.Same s.key) →
      ∃ told, Index.Absorbs w.index p s y (y.apply w.files message) told := by
  intro w message y heager hl hfree
  have hsound : w.index.store.Sound :=
    run_sound (w := start (.over config registry (.new maxEntries maxBytes)) files)
      (.new maxEntries maxBytes) acts
  have hexclusive : w.IsExclusive := (IsExclusive.start config registry _ files).run acts
  have hunlocked : w.index.locks.find? (·.1.Same s.key) = none := by
    refine List.find?_eq_none.2 fun e he hs => ?_
    obtain ⟨c, hc, key, hkey, hsame⟩ := hexclusive.owed e he
    exact hfree c hc key hkey (hsame.symm.trans (of_decide_eq_true hs))
  exact Index.apply_absorbs ⟨hsound, hunlocked, heager⟩ hl

end World

theorem Sequence.index_run_analyze (d : Sequence) (p : Path) :
    (d.run [.analyze p]).index = (d.index.analyze d.files p).1 := by
  simp only [run, List.foldl_cons, List.foldl_nil, step]

/-! ### A script that changes, and a link to it -/

namespace Linked

/-- A configuration in which changed files are analysed at once. -/
def eager : Config := { Config.standard with eagerReindex := true }

/-- An index that has not done anything yet. -/
def attentive : Index := .over eager Script.registry (.new 4 64)

/-- What the script reads as. -/
def blank : Fingerprint := .ofBytes ⟨#[]⟩

theorem load_script {p : Path} (hkey : files.key p = ⟨"/a.py"⟩) :
    Source.load files eager (files.key p) = .ok Script.source := by
  rw [hkey]
  exact Source.load_file node_eq.1 (Nat.zero_le _)

theorem supports_script {p : Path} (h : Language.ofPath p = .python) :
    Script.registry.supports (Language.ofPath p) = true := by
  rw [h]
  rfl

/-- A script that has changed is analysed and stored, which is announced once however often it is told. -/
theorem run_absorbs_script : ∃ n,
    let y := attentive.apply files (.invalidate (.changed ⟨"/a.py"⟩ (some blank)))
    let z := y.apply files (.invalidate (.changed ⟨"/a.py"⟩ (some blank)))
    y.renewals = [.reindexed ⟨"/a.py"⟩ blank n] ∧ attentive.Stores y Script.source ∧
      z.store.entries = y.store.entries ∧ z.parses = y.parses ∧ z.events = y.events := by
  have hdue : attentive.IsDue ⟨"/a.py"⟩ blank := ⟨rfl, supports_script (by decide +kernel)⟩
  obtain ⟨told, h⟩ := World.run_absorbs eager Script.registry 4 64 files [] ⟨"/a.py"⟩ Script.source rfl
    (load_script key_eq.1) (fun _ hc => absurd hc List.not_mem_nil)
  have htold : told ≠ [] := h.told_iff.2 ⟨hdue, .inr ⟨_, Script.analyze⟩⟩
  obtain ⟨n, hn⟩ := h.single.resolve_left htold
  have hsame : Path.Same ⟨"/a.py"⟩ Script.source.key := .refl _
  have hparses := h.parses
  have hevents := h.events
  rw [if_neg fun hd => htold hd.2, Nat.add_zero] at hparses
  rw [if_pos hsame, List.append_nil] at hevents
  exact ⟨n, h.renewals.trans hn, (h.stores_same (.refl _)).1 htold, h.entries, hparses, hevents⟩

/-- The index when the script was analysed. -/
def informed : Index := (attentive.analyze files ⟨"/a.py"⟩).1

theorem attentive_idle : attentive.Idle := Sequence.start_idle eager Script.registry 4 64 files

theorem informed_eq :
    informed = ((attentive.examining Script.source).keep Script.source Script.analysis).1 := by
  have hmiss :=
    Index.analyze_of_miss (x := attentive) (load_script key_eq.1) attentive_idle.sound.toCounted rfl rfl
  rw [show attentive.registry.analyze Script.source = .ok Script.analysis from Script.analyze] at hmiss
  exact congrArg Prod.fst hmiss

/-- The script is in the store under its own path, and not under that of the link. -/
theorem informed_holds : informed.store.holds ⟨"/a.py"⟩ blank = true ∧
    informed.store.holds ⟨"/l.py"⟩ blank = false := by
  have hsound := attentive_idle.sound.get Script.source.key Script.source.fingerprint
  rw [informed_eq, Index.keep_store, (attentive.examining_frame Script.source).2.2.2]
  exact ⟨hsound.holds_put rfl, hsound.holds_of_put not_same rfl⟩

/-- When the script was analysed and is told to have changed by the path of the link, an analysis is announced
that the store held already, and again when it is told again. -/
theorem run_not_absorbs_link : ∃ n,
    let x := ((Sequence.start eager Script.registry 4 64 files).run [.analyze ⟨"/a.py"⟩]).index
    let y := x.apply files (.invalidate (.changed ⟨"/l.py"⟩ (some blank)))
    let z := y.apply files (.invalidate (.changed ⟨"/l.py"⟩ (some blank)))
    files.node ⟨"/l.py"⟩ = .ok (.file ⟨#[]⟩) ∧ x.store.holds ⟨"/a.py"⟩ blank = true ∧
      y.renewals = x.renewals ++ [.reindexed ⟨"/l.py"⟩ blank n] ∧ ¬ x.Stores y Script.source ∧
      z.events = y.events ++ [.reindexed ⟨"/l.py"⟩ blank n] := by
  obtain ⟨hheld, hfree⟩ := informed_holds
  have hidle : informed.Idle := (attentive_idle.analyze files ⟨"/a.py"⟩).1
  have hconfig : informed.config = eager := (attentive_idle.analyze files ⟨"/a.py"⟩).2
  have hregistry : informed.registry = Script.registry := by
    rw [informed_eq, (Index.keep_frame _ _ _).1, (attentive.examining_frame _).1]
    rfl
  have heager : informed.IsEager Script.source.key :=
    ⟨hidle.sound, by rw [hidle.unlocked]; rfl, by rw [hconfig]; rfl⟩
  have hdue : informed.IsDue ⟨"/l.py"⟩ blank :=
    ⟨hfree, by rw [hregistry]; exact supports_script (by decide +kernel)⟩
  obtain ⟨told, h⟩ :=
    Index.apply_absorbs (p := ⟨"/l.py"⟩) heager (by rw [hconfig]; exact load_script key_eq.2.1)
  have htold : told ≠ [] := h.told_iff.2 ⟨hdue, .inl hheld⟩
  obtain ⟨n, hn⟩ := h.single.resolve_left htold
  have hsame : ¬ Path.Same ⟨"/l.py"⟩ Script.source.key := not_same
  have hevents := h.events
  rw [if_neg hsame, hn] at hevents
  have hrenewals := h.renewals
  rw [hn] at hrenewals
  have hnone : ¬ informed.Stores (informed.apply files (Index.changed ⟨"/l.py"⟩ blank)) Script.source :=
    fun hst => Bool.noConfusion (hheld.symm.trans hst.1)
  have hrun : ((Sequence.start eager Script.registry 4 64 files).run [.analyze ⟨"/a.py"⟩]).index = informed :=
    Sequence.index_run_analyze ..
  refine ⟨n, ?_⟩
  rw [hrun]
  exact ⟨node_eq.2, hheld, hrenewals, hnone, hevents⟩

end Linked
end SymbolIndex
