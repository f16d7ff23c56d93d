import SymbolIndex.Proofs.Index.Alone

/-!
# Answers are those of an index without a store

What a call answers may come from its own look-up in the store, from the second one when it holds the
lock, or from an analyzer; and what it puts in the store may be older than what is there. `Traced` ties
all of it to what was read: an analysis that is stored, or that a call has come to, is `Vouched` for by a
content with the path and the fingerprint that it is for. This holds in every world (`Traced.run`), and
so every answer is the analysis of what the call itself has read (`run_transparent`), as long as no two
contents that were read have the same fingerprint.
-/
namespace SymbolIndex

/-- Two analyses that differ at most in the spelling of their paths. -/
structure Analysis.Same (a b : Analysis) : Prop where
  path : a.path.Same b.path
  language : a.language = b.language
  status : a.status = b.status
  symbols : a.symbols = b.symbols
  errors : a.errors = b.errors
  fingerprint : a.fingerprint = b.fingerprint

namespace Registry
variable {r : Registry} {s t : Source} {a : Analysis}

theorem analyzerFor?_congr (hk : s.key.Same t.key) (hc : s.content = t.content) :
    r.analyzerFor? s = r.analyzerFor? t := by
  unfold analyzerFor?
  rw [Language.ofFile_congr hk, hc]

/-- An analysis is for the content that it was made from. -/
theorem analyze_fingerprint (h : r.analyze s = .ok a) : a.fingerprint = s.fingerprint := by
  unfold analyze at h
  split at h
  · cases h; rfl
  · split at h <;> cases h
    rfl

/-- Contents that are the same have the same analysis. -/
theorem analyze_congr (hk : s.key.Same t.key) (hc : s.content = t.content)
    (hf : s.fingerprint = t.fingerprint) (h : r.analyze s = .ok a) : ∃ b, r.analyze t = .ok b ∧ a.Same b := by
  unfold analyze at h ⊢
  rw [← analyzerFor?_congr hk hc]
  cases hr : r.analyzerFor? s with
  | none =>
    simp only [hr] at h ⊢
    cases h
    exact ⟨_, rfl, hk, rfl, rfl, rfl, rfl, hf⟩
  | some analyzer =>
    simp only [hr, ← hc] at h ⊢
    cases he : analyzer.analyzeContent s.content with
    | error cause => simp only [he] at h; cases h
    | ok e =>
      simp only [he] at h ⊢
      cases h
      exact ⟨_, rfl, hk, rfl, rfl, rfl, rfl, hf⟩

theorem analyze_error_congr {e : IndexError} (hk : s.key.Same t.key) (hc : s.content = t.content)
    (h : r.analyze s = .error e) : r.analyze t = .error e := by
  unfold analyze at h ⊢
  rw [← analyzerFor?_congr hk hc, ← hc]
  cases hr : r.analyzerFor? s with
  | none => simp only [hr] at h; cases h
  | some analyzer =>
    simp only [hr] at h ⊢
    cases he : analyzer.analyzeContent s.content with
    | error cause => simp only [he] at h ⊢; exact h
    | ok e => simp only [he] at h; cases h

end Registry

namespace World

variable {w w' : World} {act : Action} {i : Nat} {c : CallStage} {p q : Path} {f : Fingerprint}
  {a : Analysis} {r : Answer}

/-- An analysis is that of a content with a path and a fingerprint that a call has read, and if there is
an analyzer in charge of the content, it was run on it. -/
def Vouched (w : World) (p : Path) (f : Fingerprint) (a : Analysis) : Prop :=
  ∃ i s, w.source? i = some s ∧ s.key.Same p ∧ s.fingerprint = f ∧ w.index.registry.analyze s = .ok a ∧
    ((w.index.registry.analyzerFor? s).isSome = true → s ∈ w.analyzed)

/-- An answer goes with what the call at a position has read. -/
def Answered (w : World) (i : Nat) : Answer → Prop
  | .ok a => ∃ s, w.source? i = some s ∧ w.Vouched s.key s.fingerprint a
  | .error e => ∀ s, w.source? i = some s → w.index.registry.analyze s = .error e

/-- A stage goes with what the call at a position has read. -/
def Accords (w : World) (i : Nat) : CallStage → Prop
  | .started _ | .located _ | .loaded _ (.error _) => w.source? i = none
  | .loaded _ (.ok s) | .missed s | .waiting s _ | .entered s _ => w.source? i = some s
  | .examined s _ a => w.source? i = some s ∧ w.Vouched s.key s.fingerprint a
  | .settled s _ r | .unlocked s _ r | .detached s r => w.source? i = some s ∧ w.Answered i r
  | .finished r => w.Answered i r

/-- All analyses of a world go back to what its calls have read. -/
structure Traced (w : World) : Prop where
  sound : w.store.Sound
  read : ∀ i s, w.source? i = some s → s.fingerprint = .ofBytes s.content
  unasked : ∀ i, w.calls[i]? = none → w.source? i = none
  stages : ∀ i c, w.calls[i]? = some c → w.Accords i c
  analyzed : ∀ s ∈ w.analyzed, ∃ i, w.source? i = some s
  stored : ∀ e ∈ w.store.entries, w.Vouched e.key e.fingerprint e.analysis

/-- A world remembers what another one does. -/
structure Remembers (w w' : World) : Prop where
  registry : w'.index.registry = w.index.registry
  source? : ∀ i s, w.source? i = some s → w'.source? i = some s
  analyzed : ∀ s ∈ w.analyzed, s ∈ w'.analyzed

theorem Vouched.congr (h : w.Vouched p f a) (hs : p.Same q) : w.Vouched q f a := by
  obtain ⟨i, s, hi, hp, hf, ha, hn⟩ := h
  exact ⟨i, s, hi, hp.trans hs, hf, ha, hn⟩

theorem Vouched.fingerprint_eq (h : w.Vouched p f a) : a.fingerprint = f := by
  obtain ⟨i, s, -, -, hf, ha, -⟩ := h
  rw [Registry.analyze_fingerprint ha, hf]

theorem Vouched.mono (h : w.Vouched p f a) (hr : Remembers w w') : w'.Vouched p f a := by
  obtain ⟨i, s, hi, hp, hf, ha, hn⟩ := h
  rw [← hr.registry] at ha hn
  exact ⟨i, s, hr.source? i s hi, hp, hf, ha, fun hs => hr.analyzed s (hn hs)⟩

theorem Answered.mono (h : w.Answered i r) (hr : Remembers w w') (hi : w'.source? i = w.source? i) :
    w'.Answered i r := by
  cases r with
  | ok a =>
    obtain ⟨s, hs, ha⟩ := h
    exact ⟨s, hr.source? i s hs, ha.mono hr⟩
  | error e =>
    intro s hs
    rw [hr.registry]
    exact h s (hi ▸ hs)

theorem Accords.mono (h : w.Accords i c) (hr : Remembers w w') (hi : w'.source? i = w.source? i) :
    w'.Accords i c := by
  cases c with
  | loaded key outcome => cases outcome <;> exact hi.trans h
  | examined s n a => exact ⟨hi.trans h.1, h.2.mono hr⟩
  | settled s n r => exact ⟨hi.trans h.1, h.2.mono hr hi⟩
  | unlocked s n r => exact ⟨hi.trans h.1, h.2.mono hr hi⟩
  | detached s r => exact ⟨hi.trans h.1, h.2.mono hr hi⟩
  | finished r => exact h.mono hr hi
  | _ => exact hi.trans h

/-! ### What an action does to what is known -/

namespace Traced

/-- What a call has read is never read again. -/
theorem remembers (h : w.Traced) (ht : Turn w act w') : Remembers w w' := by
  cases ht with
  | around ha =>
    exact ⟨ha.registry, fun i s hs => ha.source? ▸ hs, fun s hs => ha.analyzed ▸ hs⟩
  | advance i c x c' hc hs =>
    refine ⟨hs.registry_eq, fun j s hj => ?_, fun s hs => List.mem_append_left _ hs⟩
    by_cases hji : j = i
    · subst hji
      cases hr : c'.read? with
      | none => simpa [hr] using hj
      | some t =>
        obtain ⟨key, rfl, -⟩ := hs.located_of_read? hr
        exact absurd (hj.symm.trans (h.stages j _ hc)) (by simp)
    · simpa [hji] using hj

/-- What the calls have come to when one has taken a step. -/
theorem accords_advance {x : Index} {c' : CallStage} (h : w.Traced) (hc : w.calls[i]? = some c)
    (hs : Index.Advance w.index w.files w.calls c x c') (hr : Remembers w w')
    (hi : w'.source? i = c'.read?.or (w.source? i))
    (hn : ∀ s, w.index.examined? c = some s → s ∈ w'.analyzed) : w'.Accords i c' := by
  have hold := h.stages i c hc
  have hit : ∀ {s : Source} {a : Analysis}, w.store.peek? s.key s.fingerprint = some a →
      w'.Vouched s.key s.fingerprint a := by
    intro s a hp
    obtain ⟨e, he, hk, hf, rfl⟩ := (Store.peek?_eq_some h.sound.toCounted).1 hp
    exact hf ▸ ((h.stored e he).congr hk).mono hr
  cases hs with
  | locate p => exact hi.trans hold
  | load key =>
    cases hl : Source.load w.files w.index.config key with
    | error e => rw [hl] at hi; exact hi.trans hold
    | ok s => rw [hl] at hi; exact hi
  | fail key e =>
    intro s hs
    exact absurd (hs.symm.trans (hi.trans hold)) (by simp)
  | hit key s a hg =>
    exact ⟨s, hi.trans hold, hit (Store.get_snd h.sound.toCounted ▸ hg)⟩
  | examine s n a hp ha =>
    refine ⟨hi.trans hold, i, s, hi.trans hold, .refl _, rfl, ?_, fun hsome => hn s ?_⟩
    · rw [hr.registry]; exact ha
    · rw [hr.registry] at hsome
      simp only [Index.examined?, show w.index.store.peek? s.key s.fingerprint = none from hp, hsome]
      rfl
  | share s n a hp =>
    exact ⟨hi.trans hold, s, hi.trans hold, hit hp⟩
  | giveUp s n e hp he =>
    refine ⟨hi.trans hold, fun t ht => ?_⟩
    obtain rfl := Option.some.inj ((hi.trans hold).symm.trans ht)
    rw [hr.registry]
    exact he
  | keep s n a =>
    obtain ⟨hs, ha⟩ := hold
    refine ⟨hi.trans hs, ?_⟩
    rw [Index.keep_answer _ _ _ ha.fingerprint_eq]
    exact ⟨s, hi.trans hs, ha.mono hr⟩
  | release s r => exact hold.2.mono hr hi
  | unlock s n r => exact hold.mono hr hi
  | detach s n r => exact hold.mono hr hi
  | rest r => exact Answered.mono hold hr hi
  | _ => exact hi.trans hold

theorem stages_turn (h : w.Traced) (ht : Turn w act w') (i : Nat) (c : CallStage)
    (hi : w'.calls[i]? = some c) : w'.Accords i c := by
  have hr := h.remembers ht
  cases ht with
  | around ha =>
    have hs : ∀ j, w'.source? j = w.source? j := fun j => by rw [ha.source?]
    rcases ha.calls with hc | ⟨p, hc⟩
    · rw [hc] at hi
      exact (h.stages i c hi).mono hr (hs i)
    · rw [hc] at hi
      rcases CallStage.getElem?_concat_cases hi with ⟨ho, rfl⟩ | hi
      · exact (hs i).trans (h.unasked i ho)
      · exact (h.stages i c hi).mono hr (hs i)
  | advance j d x d' hd hs =>
    rcases CallStage.getElem?_set_cases hi with ⟨rfl, rfl⟩ | ⟨hne, hi⟩
    · exact h.accords_advance hd hs hr (by simp) fun s hs => List.mem_append_right _ (by simp [hs])
    · exact (h.stages i c hi).mono hr (by simp [hne])

theorem read_turn (h : w.Traced) (ht : Turn w act w') (i : Nat) (s : Source)
    (hi : w'.source? i = some s) : s.fingerprint = .ofBytes s.content := by
  cases ht with
  | around ha => exact h.read i s (ha.source? ▸ hi)
  | advance j c x c' hc hs =>
    by_cases hij : i = j
    · simp only [hij, if_true] at hi
      rcases Option.or_eq_some_iff.1 hi with hr | ⟨-, hi⟩
      · obtain ⟨key, -, hl⟩ := hs.located_of_read? hr
        exact Source.load_fingerprint hl
      · exact h.read j s hi
    · simp only [hij, if_false] at hi
      exact h.read i s hi

theorem unasked_turn (h : w.Traced) (ht : Turn w act w') (i : Nat) (hi : w'.calls[i]? = none) :
    w'.source? i = none := by
  cases ht with
  | around ha =>
    rw [ha.source?]
    refine h.unasked i ?_
    rcases ha.calls with hc | ⟨p, hc⟩ <;> rw [hc] at hi
    · exact hi
    · exact List.getElem?_eq_none (by have := List.getElem?_eq_none_iff.1 hi; simp at this; omega)
  | advance j c x c' hc hs =>
    have hold : w.calls[i]? = none := by simpa [calls] using hi
    have hij : i ≠ j := fun hij => by rw [hij, hc] at hold; cases hold
    simp only [hij, if_false]
    exact h.unasked i hold

/-- What an action leaves in the store goes back to what was read. -/
theorem stored_step (h : w.Traced) (act : Action) (e : StoreEntry) (he : e ∈ (w.step act).store.entries) :
    (w.step act).Vouched e.key e.fingerprint e.analysis := by
  have hr := h.remembers (w.turn act)
  rw [store_step] at he
  cases ho : w.operation? act with
  | none => rw [ho] at he; exact (h.stored e he).mono hr
  | some o =>
    rw [ho] at he
    rcases Store.mem_after h.sound.toCounted he with he | ⟨p, a, f, rfl, hp, hf, ha⟩
    · exact (h.stored e he).mono hr
    · obtain ⟨i, s, n, rfl, hi, rfl, rfl⟩ := operation?_put ho
      rw [hf, ha]
      exact ((h.stages i _ hi).2.congr hp.symm).mono hr

theorem analyzed_turn (h : w.Traced) (ht : Turn w act w') (s : Source) (hs : s ∈ w'.analyzed) :
    ∃ i, w'.source? i = some s := by
  have hr := h.remembers ht
  have old : s ∈ w.analyzed → ∃ i, w'.source? i = some s := fun hs =>
    let ⟨i, hi⟩ := h.analyzed s hs
    ⟨i, hr.source? i s hi⟩
  cases ht with
  | around ha => exact old (ha.analyzed ▸ hs)
  | advance i c x c' hc _ =>
    rcases List.mem_append.1 hs with hs | hs
    · exact old hs
    · obtain ⟨n, rfl, -⟩ := Index.entered_of_examined? (Option.mem_toList.1 hs)
      exact ⟨i, hr.source? i s (h.stages i _ hc)⟩

theorem step (h : w.Traced) (act : Action) : (w.step act).Traced where
  sound := sound_step h.sound act
  read := h.read_turn (w.turn act)
  unasked := h.unasked_turn (w.turn act)
  stages := h.stages_turn (w.turn act)
  analyzed := h.analyzed_turn (w.turn act)
  stored := h.stored_step act

theorem run (h : w.Traced) (acts : List Action) : (w.run acts).Traced := by
  induction acts generalizing w with
  | nil => exact h
  | cons act acts ih => exact ih (h.step act)

theorem start (config : Config) (registry : Registry) (maxEntries maxBytes : Nat) (files : FileSystem) :
    (World.start (.over config registry (.new maxEntries maxBytes)) files).Traced where
  sound := .new maxEntries maxBytes
  read i s hs := by cases hs
  unasked _ _ := rfl
  stages i c hc := by cases hc
  analyzed s hs := by cases hs
  stored := by simp [World.start, store, Index.over, Store.new]

/-- The answer of a call that has read something is vouched for. -/
theorem vouched_of_finished (h : w.Traced) {s : Source} (hi : w.calls[i]? = some (.finished (.ok a)))
    (hs : w.source? i = some s) : w.Vouched s.key s.fingerprint a := by
  obtain ⟨t, ht, hv⟩ := h.stages i _ hi
  rw [hs] at ht
  cases ht
  exact hv

end Traced

/-- No two contents that were read in a world have the same fingerprint. -/
def CollisionFree (w : World) : Prop :=
  ∀ i j s t, w.source? i = some s → w.source? j = some t → s.fingerprint = t.fingerprint →
    s.content = t.content

theorem registry_run (w : World) (acts : List Action) :
    (w.run acts).index.registry = w.index.registry := by
  induction acts generalizing w with
  | nil => rfl
  | cons act acts ih => exact (ih (w.step act)).trans (w.turn act).registry_eq

/-- Whatever has happened to an index that began with nothing in its store: what a call answers is for
the content that the call itself has read, and it is the analysis of that content, unless two contents
that were read have the same fingerprint. -/
theorem run_transparent (config : Config) (registry : Registry) (maxEntries maxBytes : Nat)
    (files : FileSystem) (acts : List Action) (i : Nat) (a : Analysis) :
    let w := (World.start (.over config registry (.new maxEntries maxBytes)) files).run acts
    w.calls[i]? = some (.finished (.ok a)) →
      ∃ s, w.source? i = some s ∧ a.fingerprint = .ofBytes s.content ∧
        (w.CollisionFree → ∃ b, registry.analyze s = .ok b ∧ a.Same b) := by
  intro w hi
  have h : w.Traced := (Traced.start config registry maxEntries maxBytes files).run acts
  have hreg : w.index.registry = registry := registry_run _ acts
  obtain ⟨s, hs, hv⟩ := h.stages i _ hi
  refine ⟨s, hs, hv.fingerprint_eq.trans (h.read i s hs), fun hfree => ?_⟩
  obtain ⟨j, t, ht, hk, hf, ha, -⟩ := hv
  rw [hreg] at ha
  exact Registry.analyze_congr hk (hfree j i t s ht hs hf) hf ha

/-- The analysis of a script that is found in the store, under another spelling of its path. -/
theorem run_transparent_script :
    let w := (World.start (.over .standard Script.registry (.new 4 64)) Script.files).run
      (askTwice ⟨"/./a.py"⟩ ⟨"/a.py"⟩)
    w.calls[1]? = some (.finished (.ok Script.analysis)) ∧ w.CollisionFree ∧
      ∃ s b, w.source? 1 = some s ∧ Script.analysis.fingerprint = .ofBytes s.content ∧
        Script.registry.analyze s = .ok b ∧ Script.analysis.Same b := by
  intro w
  obtain ⟨hc, hs, -⟩ := run_askTwice 4 64 Script.load_key_dotted Script.load_key
    Script.isSome_analyzerFor? Script.analyze rfl
  have hdone : w.calls[1]? = some (.finished (.ok Script.analysis)) := by rw [hc]; rfl
  have hread : ∀ i s, w.source? i = some s → s = Script.source := by
    intro i s hi
    rw [hs i] at hi
    split at hi <;> cases hi
    rfl
  have hfree : w.CollisionFree := fun i j s t hi hj _ => by rw [hread i s hi, hread j t hj]
  obtain ⟨s, hs, hf, hb⟩ :=
    run_transparent .standard Script.registry 4 64 Script.files _ 1 Script.analysis hdone
  obtain ⟨b, hb, hsame⟩ := hb hfree
  exact ⟨hdone, hfree, s, b, hs, hf, hb, hsame⟩

end World
end SymbolIndex
