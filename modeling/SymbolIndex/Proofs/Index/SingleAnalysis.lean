import SymbolIndex.Proofs.Index.Exclusion
import SymbolIndex.Proofs.Index.Transparency
import SymbolIndex.Proofs.Store.Loss

/-!
# A content is analysed once

Between the run of an analyzer and the end of its call the analysis is with the call, and then in the
store: the path is `Armed`. It stays so until the store loses the analysis (`Armed.step`), and as long as
it is so, no analyzer is run on the same content of the path again (`Armed.not_examines`): a call that
looked into the store too early waits for the lock, and looks again. So between two runs there is a loss,
and calls for an unchanged file run one analyzer once and come to the same answer
(`run_single_analysis`).
-/
namespace SymbolIndex
namespace World

variable {w : World} {act : Action} {acts : List Action} {k : Path} {f : Fingerprint} {s : Source}

/-- In an action, the store loses the analysis of a path for a content. -/
def Loses (w : World) (act : Action) (k : Path) (f : Fingerprint) : Prop :=
  ∃ o, w.operation? act = some o ∧ w.store.Loses k f o

/-- In one of some actions, the store loses the analysis of a path for a content. -/
def LosesDuring (w : World) (k : Path) (f : Fingerprint) : List Action → Prop
  | [] => False
  | act :: acts => w.Loses act k f ∨ (w.step act).LosesDuring k f acts

/-- The analysis of a path for a content is in the store, or a call is about to put it there. -/
def Armed (w : World) (k : Path) (f : Fingerprint) : Prop :=
  w.store.holds k f = true ∨
    ∃ (i : Nat) (s : Source) (n : Nat) (a : Analysis), w.calls[i]? = some (.examined s n a) ∧
      s.key.Same k ∧ s.fingerprint = f

/-- What holds in every world that began with an empty store. -/
structure Orderly (w : World) : Prop where
  traced : w.Traced
  exclusive : w.IsExclusive

namespace Orderly

theorem start (config : Config) (registry : Registry) (maxEntries maxBytes : Nat) (files : FileSystem) :
    (World.start (.over config registry (.new maxEntries maxBytes)) files).Orderly :=
  ⟨.start config registry maxEntries maxBytes files, .start config registry _ files⟩

theorem step (h : w.Orderly) (act : Action) : (w.step act).Orderly :=
  ⟨h.traced.step act, h.exclusive.turn (w.turn act)⟩

theorem run (h : w.Orderly) (acts : List Action) : (w.run acts).Orderly :=
  ⟨h.traced.run acts, h.exclusive.run acts⟩

end Orderly

/-- What is in the store stays there, or is lost. -/
theorem holds_step (h : w.Orderly) (hs : w.store.holds k f = true) :
    (w.step act).store.holds k f = true ∨ w.Loses act k f := by
  rw [store_step]
  cases ho : w.operation? act with
  | none => exact .inl hs
  | some o => exact (h.traced.sound.holds_after hs o).imp id fun hl => ⟨o, ho, hl⟩

/-- What is armed stays so, or is lost. -/
theorem Armed.step (ha : w.Armed k f) (h : w.Orderly) : (w.step act).Armed k f ∨ w.Loses act k f := by
  rcases ha with hs | ⟨i, s, n, a, hi, hk, hf⟩
  · exact (holds_step h hs).imp .inl id
  · refine .inl ?_
    by_cases hact : act = .advance i
    · -- The call puts its analysis in the store.
      have ha : a.fingerprint = s.fingerprint := (h.traced.stages i _ hi).2.fingerprint_eq
      have ho : w.operation? act = some (.put s.key a s.fingerprint) := by
        simp [hact, operation?, hi, CallStage.operation?]
      refine .inl ?_
      rw [store_step, ho, ← Store.holds_congr hk, ← hf]
      exact h.traced.sound.holds_put ha
    · exact .inr ⟨i, s, n, a, (w.turn act).calls_eq hi hact, hk, hf⟩

/-- As long as the analysis of a path for a content is there, no analyzer is run on the content. -/
theorem Armed.not_examines (ha : w.Armed k f) (h : w.Orderly) (hx : w.examines? act = some s)
    (hk : s.key.Same k) : s.fingerprint ≠ f := by
  intro hf
  obtain ⟨i, n, rfl, hi, hp⟩ := advance_of_examines? hx
  rcases ha with hs | ⟨j, t, m, a, hj, hk', -⟩
  · rw [← Store.holds_congr hk, ← hf, Store.holds, hp] at hs
    cases hs
  · -- Both calls would hold the lock.
    have hij : i = j := Exclusive.eq_of_held h.exclusive hi hj rfl rfl (hk.trans hk'.symm)
    rw [hij, hj] at hi
    cases hi

/-- When an analyzer has come to an analysis, it is there. -/
theorem armed_of_examines (hx : w.examines? act = some s) {a : Analysis}
    (ha : w.index.registry.analyze s = .ok a) : (w.step act).Armed s.key s.fingerprint := by
  obtain ⟨i, n, rfl, hi, hp⟩ := advance_of_examines? hx
  refine .inr ⟨i, s, n, a, ?_, .refl _, rfl⟩
  have hstep : (w.index.advance w.files w.calls (.entered s n)).2 = .examined s n a := by
    simp only [Index.advance, show w.index.store.peek? s.key s.fingerprint = none from hp, Index.examine, ha]
  show (w.advance i).calls[i]? = _
  rw [calls_advance hi, hstep, List.getElem?_set_self (List.getElem?_eq_some_iff.1 hi).1]

/-- The runs of analyzers on a content of a path. -/
def runsOn (w : World) (k : Path) (f : Fingerprint) : List Source :=
  w.analyzed.filter fun s => s.key.Same k ∧ s.fingerprint = f

theorem runsOn_step (h : ∀ s, w.examines? act = some s → s.key.Same k → s.fingerprint ≠ f) :
    (w.step act).runsOn k f = w.runsOn k f := by
  unfold runsOn
  rw [analyzed_step, List.filter_append]
  cases hx : w.examines? act with
  | none => simp
  | some s => simpa using h s hx

/-- Without a loss, what is armed stays so, and no analyzer is run on it. -/
theorem Armed.run (ha : w.Armed k f) (h : w.Orderly) (hl : ¬ w.LosesDuring k f acts) :
    (w.run acts).Armed k f ∧ (w.run acts).runsOn k f = w.runsOn k f := by
  induction acts generalizing w with
  | nil => exact ⟨ha, rfl⟩
  | cons act acts ih =>
    obtain ⟨hnow, hlater⟩ := not_or.1 hl
    have ha' := (ha.step h).resolve_right hnow
    obtain ⟨hend, hruns⟩ := ih ha' (h.step act) hlater
    exact ⟨hend, hruns.trans (runsOn_step fun s hx hk => ha.not_examines h hx hk)⟩

theorem Armed.congr {p : Path} (ha : w.Armed p f) (hk : p.Same k) : w.Armed k f := by
  rcases ha with hs | ⟨i, s, n, a, hi, hp, hf⟩
  · exact .inl (Store.holds_congr hk ▸ hs)
  · exact .inr ⟨i, s, n, a, hi, hp.trans hk, hf⟩

theorem mem_analyzed_run (hs : s ∈ w.analyzed) (acts : List Action) : s ∈ (w.run acts).analyzed := by
  induction acts generalizing w with
  | nil => exact hs
  | cons act acts ih => exact ih (by rw [analyzed_step]; exact List.mem_append_left _ hs)

/-- Without a loss, an analyzer that comes to an analysis is run on a content of a path at most once. -/
theorem length_runsOn_le (h : w.Orderly) (hl : ¬ w.LosesDuring k f acts)
    (hok : ∀ s ∈ (w.run acts).runsOn k f, ∃ a, w.index.registry.analyze s = .ok a) :
    ((w.run acts).runsOn k f).length ≤ (w.runsOn k f).length + 1 := by
  induction acts generalizing w with
  | nil => exact Nat.le_succ _
  | cons act acts ih =>
    obtain ⟨hnow, hlater⟩ := not_or.1 hl
    by_cases hx : ∃ s, w.examines? act = some s ∧ s.key.Same k ∧ s.fingerprint = f
    · obtain ⟨s, hx, hk, hf⟩ := hx
      have hs : s ∈ (w.step act).analyzed := by rw [analyzed_step, hx]; simp
      obtain ⟨a, ha⟩ := hok s (List.mem_filter.2 ⟨mem_analyzed_run hs acts, by simp [hk, hf]⟩)
      have harmed : (w.step act).Armed k f := hf ▸ (armed_of_examines hx ha).congr hk
      have hruns : ((w.step act).run acts).runsOn k f = (w.step act).runsOn k f :=
        (harmed.run (h.step act) hlater).2
      rw [run_cons, hruns, runsOn, analyzed_step, hx, List.filter_append, List.length_append]
      exact Nat.add_le_add_left (List.length_filter_le ..) _
    · have hruns : (w.step act).runsOn k f = w.runsOn k f :=
        runsOn_step fun s hs hk hf => hx ⟨s, hs, hk, hf⟩
      rw [← hruns]
      refine ih (h.step act) hlater ?_
      rw [(w.turn act).registry_eq]
      exact hok

/-- All that calls have read of a file is one content. -/
def ReadsOnly (w : World) (k : Path) (content : ByteArray) : Prop :=
  ∀ i s, w.source? i = some s → s.key.Same k → s.content = content

namespace ReadsOnly

variable {content : ByteArray} {i j : Nat} {t u : Source} {a : Analysis} {e : IndexError} {r : Answer}

theorem content_eq (hone : w.ReadsOnly k content) (hs : w.source? i = some s) (hk : s.key.Same k)
    (ht : w.source? j = some t) (hkt : t.key.Same k) : s.content = t.content :=
  (hone i s hs hk).trans (hone j t ht hkt).symm

theorem fingerprint_eq (hone : w.ReadsOnly k content) (h : w.Orderly) (hs : w.source? i = some s)
    (hk : s.key.Same k) : s.fingerprint = .ofBytes content := by
  rw [h.traced.read i s hs, hone i s hs hk]

/-- All runs of an analyzer on a file are runs on the content that was read of it. -/
theorem runsOn_eq (hone : w.ReadsOnly k content) (h : w.Orderly) :
    w.runsOn k (.ofBytes content) = w.analyzed.filter fun s => s.key.Same k := by
  refine List.filter_congr fun s hs => ?_
  obtain ⟨i, hi⟩ := h.traced.analyzed s hs
  exact decide_eq_decide.2 ⟨And.left, fun hk => ⟨hk, hone.fingerprint_eq h hi hk⟩⟩

/-- If what calls read of a file has an analyzer, an answer is what the analyzer has come to. -/
theorem mem_runsOn (hone : w.ReadsOnly k content) (h : w.Orderly) (hs : w.source? i = some s)
    (hk : s.key.Same k) (hsome : (w.index.registry.analyzerFor? s).isSome = true)
    (ha : w.Vouched s.key s.fingerprint a) :
    ∃ u ∈ w.runsOn k (.ofBytes content), w.index.registry.analyze u = .ok a := by
  obtain ⟨m, u, hu, hus, huf, hua, hrun⟩ := ha
  have huk : u.key.Same k := hus.trans hk
  rw [Registry.analyzerFor?_congr hus.symm (hone.content_eq hs hk hu huk)] at hsome
  exact ⟨u, List.mem_filter.2 ⟨hrun hsome, by simp [huk, hone.fingerprint_eq h hu huk]⟩, hua⟩

/-- All that calls have read of a file has an analysis if one of it has. -/
theorem analyze_ok (hone : w.ReadsOnly k content) (h : w.Orderly)
    (hu : u ∈ w.runsOn k (.ofBytes content)) (ha : w.index.registry.analyze u = .ok a)
    (ht : w.source? j = some t) (hk : t.key.Same k) : ∃ b, w.index.registry.analyze t = .ok b := by
  obtain ⟨hu, hku⟩ := List.mem_filter.1 hu
  obtain ⟨i, hi⟩ := h.traced.analyzed u hu
  obtain ⟨hku, hfu⟩ : u.key.Same k ∧ u.fingerprint = .ofBytes content := of_decide_eq_true hku
  obtain ⟨b, hb, -⟩ := Registry.analyze_congr (hku.trans hk.symm) (hone.content_eq hi hku ht hk)
    (hfu.trans (hone.fingerprint_eq h ht hk).symm) ha
  exact ⟨b, hb⟩

/-- When a call finds that the content of a file has no analysis, so do all. -/
theorem eq_of_error (hone : w.ReadsOnly k content) (h : w.Orderly)
    (hi : w.calls[i]? = some (.finished (.error e))) (hs : w.source? i = some s) (hk : s.key.Same k)
    (hj : w.calls[j]? = some (.finished r)) (ht : w.source? j = some t) (hkt : t.key.Same k) :
    r = .error e := by
  have hall : ∀ u m, w.source? m = some u → u.key.Same k → w.index.registry.analyze u = .error e :=
    fun u m hu hku => Registry.analyze_error_congr (hk.trans hku.symm) (hone.content_eq hs hk hu hku)
      (h.traced.stages i _ hi s hs)
  cases r with
  | error e' => exact (h.traced.stages j _ hj t ht).symm.trans (hall t j ht hkt)
  | ok a =>
    obtain ⟨m, u, hu, hut, -, hua, -⟩ := h.traced.vouched_of_finished hj ht
    rw [hall u m hu (hut.trans hkt)] at hua
    cases hua

/-- When one analyzer was run on the content of a file, once, its analysis is what all calls answer. -/
theorem eq_of_ok (hone : w.ReadsOnly k content) (h : w.Orderly) (hu : w.runsOn k (.ofBytes content) = [u])
    (hua : w.index.registry.analyze u = .ok a) (hj : w.calls[j]? = some (.finished r))
    (ht : w.source? j = some t) (hkt : t.key.Same k)
    (hsome : (w.index.registry.analyzerFor? t).isSome = true) : r = .ok a := by
  cases r with
  | error e =>
    obtain ⟨b, hb⟩ := hone.analyze_ok h (hu ▸ List.mem_singleton_self u) hua ht hkt
    rw [h.traced.stages j _ hj t ht] at hb
    cases hb
  | ok b =>
    obtain ⟨v, hv, hvb⟩ := hone.mem_runsOn h ht hkt hsome (h.traced.vouched_of_finished hj ht)
    rw [hu, List.mem_singleton] at hv
    exact hvb.symm.trans (hv ▸ hua)

/-- When a call has come to an analysis of a file and the store has not lost it, one analyzer was run on
the file, once. -/
theorem runsOn_eq_singleton {w₀ : World} (hone : (w₀.run acts).ReadsOnly k content) (h₀ : w₀.Orderly)
    (hnone : w₀.analyzed = []) (hl : ¬ w₀.LosesDuring k (.ofBytes content) acts)
    (hi : (w₀.run acts).calls[i]? = some (.finished (.ok a))) (hs : (w₀.run acts).source? i = some s)
    (hk : s.key.Same k) (hsome : (w₀.index.registry.analyzerFor? s).isSome = true) :
    ∃ u, (w₀.run acts).runsOn k (.ofBytes content) = [u] ∧ w₀.index.registry.analyze u = .ok a := by
  have h : (w₀.run acts).Orderly := h₀.run acts
  have hreg := registry_run w₀ acts
  obtain ⟨u, hu, hua⟩ := hone.mem_runsOn h hs hk (by rw [hreg]; exact hsome)
    (h.traced.vouched_of_finished hi hs)
  have hle : ((w₀.run acts).runsOn k (.ofBytes content)).length ≤
      (w₀.runsOn k (.ofBytes content)).length + 1 := by
    refine length_runsOn_le h₀ hl fun v hv => ?_
    obtain ⟨hv, hkv⟩ := List.mem_filter.1 hv
    obtain ⟨m, hm⟩ := h.traced.analyzed v hv
    rw [← hreg]
    exact hone.analyze_ok h hu hua hm (of_decide_eq_true hkv).1
  have hlength : ((w₀.run acts).runsOn k (.ofBytes content)).length = 1 := by
    rw [show w₀.runsOn k (.ofBytes content) = [] by simp [runsOn, hnone]] at hle
    exact Nat.le_antisymm hle (List.length_pos_of_mem hu)
  obtain ⟨v, hv⟩ := List.length_eq_one_iff.1 hlength
  rw [hv, List.mem_singleton] at hu
  exact ⟨v, hv, hu ▸ hreg ▸ hua⟩

end ReadsOnly

/-- Between two runs of an analyzer on the same content of a path, of which the first has come to an
analysis, the store has lost it. So if the content of a file stays the same and the store does not lose
its analysis, all calls for the file that come to an end come to the same answer, and if that is an
analysis, one analyzer was run on the file, once. All this holds whatever else happens, and whatever the
limits of the store are. -/
theorem run_single_analysis (config : Config) (registry : Registry) (maxEntries maxBytes : Nat)
    (files : FileSystem) :
    let w₀ := World.start (.over config registry (.new maxEntries maxBytes)) files
    (∀ (before between : List Action) (first second : Action) (s t : Source) (a : Analysis),
        (w₀.run before).examines? first = some s → registry.analyze s = .ok a →
        (w₀.run (before ++ first :: between)).examines? second = some t →
        t.key.Same s.key → t.fingerprint = s.fingerprint →
        ((w₀.run before).step first).LosesDuring s.key s.fingerprint between) ∧
      ∀ (acts : List Action) (k : Path) (content : ByteArray),
        let w := w₀.run acts
        w.ReadsOnly k content → ¬ w₀.LosesDuring k (.ofBytes content) acts →
        ∀ i s r, w.calls[i]? = some (.finished r) → w.source? i = some s → s.key.Same k →
          (registry.analyzerFor? s).isSome = true →
          ((∃ a, r = .ok a) → (w.analyzed.filter (·.key.Same k)).length = 1) ∧
            ∀ j t r', w.calls[j]? = some (.finished r') → w.source? j = some t → t.key.Same k → r' = r := by
  intro w₀
  have h₀ : w₀.Orderly := .start config registry maxEntries maxBytes files
  constructor
  · intro before between first second s t a hfirst ha hsecond hk hf
    have h₁ : (w₀.run before).Orderly := h₀.run before
    rw [run_append, run_cons] at hsecond
    refine Classical.byContradiction fun hl => ?_
    have harmed : ((w₀.run before).step first).Armed s.key s.fingerprint :=
      armed_of_examines hfirst (by rw [registry_run]; exact ha)
    have hend := (harmed.run (h₁.step first) hl).1
    exact hend.not_examines ((h₁.step first).run between) hsecond hk hf
  · intro acts k content w hone hl i s r hi hs hk hsome
    have h : w.Orderly := h₀.run acts
    have hreg : w.index.registry = registry := registry_run w₀ acts
    cases r with
    | error e =>
      exact ⟨(by rintro ⟨a, ha⟩; cases ha), fun j t r' hj ht hkt => hone.eq_of_error h hi hs hk hj ht hkt⟩
    | ok a =>
      obtain ⟨u, hu, hua⟩ := hone.runsOn_eq_singleton h₀ rfl hl hi hs hk hsome
      refine ⟨fun _ => by rw [← hone.runsOn_eq h, hu]; rfl, fun j t r' hj ht hkt => ?_⟩
      refine hone.eq_of_ok h hu (by rw [hreg]; exact hua) hj ht hkt ?_
      rwa [hreg, ← Registry.analyzerFor?_congr (hk.trans hkt.symm) (hone.content_eq hs hk ht hkt)]

/-- Two calls for a file do not make the store lose its analysis. -/
theorem not_losesDuring_askTwice {config : Config} {registry : Registry} {files : FileSystem} {p q : Path}
    {a : Analysis} (maxEntries maxBytes : Nat) (hp : Source.load files config (files.key p) = .ok s)
    (hq : Source.load files config (files.key q) = .ok s)
    (hs : (registry.analyzerFor? s).isSome = true) (ha : registry.analyze s = .ok a)
    (hf : a.fingerprint = s.fingerprint) :
    ¬ (start (.over config registry (.new maxEntries maxBytes)) files).LosesDuring s.key s.fingerprint
      (askTwice p q) := by
  have hcap : ¬ max 1 maxEntries ≤ 0 := by omega
  simp only [askTwice, List.replicate, List.cons_append, List.nil_append]
  simp [LosesDuring, Loses, Store.Loses, operation?, Store.holds, store, CallStage.operation?, start,
    Index.over, Store.new, step, ask, advance, calls, index, Index.advance, hp, hq, Store.get,
    Store.find?, Index.lockOf, CallStage.holdsLock, Store.peek?, Index.examine, hs, ha, Index.keep,
    Store.put, hf, Store.push, hcap, Store.shrink, Index.announce, Index.releaseLock, CallStage.refersTo]
  exact fun _ h => by cases h

/-- A script that is asked for twice is analysed once, though its analysis weighs more than the store may
hold. -/
theorem run_single_analysis_script :
    let w := (World.start (.over .standard Script.registry (.new 4 0)) Script.files).run
      (askTwice ⟨"/./a.py"⟩ ⟨"/a.py"⟩)
    w.calls = [.finished (.ok Script.analysis), .finished (.ok Script.analysis)] ∧
      (w.analyzed.filter (·.key.Same Script.source.key)).length = 1 := by
  intro w
  obtain ⟨hc, hs, -⟩ := run_askTwice 4 0 Script.load_key_dotted Script.load_key
    Script.isSome_analyzerFor? Script.analyze rfl
  have hone : w.ReadsOnly Script.source.key Script.source.content := by
    intro i s hi _
    rw [hs i] at hi
    split at hi <;> cases hi
    rfl
  have hkept := not_losesDuring_askTwice 4 0 Script.load_key_dotted Script.load_key
    Script.isSome_analyzerFor? Script.analyze rfl
  rw [Script.fingerprint_eq] at hkept
  have hdone : w.calls[1]? = some (.finished (.ok Script.analysis)) := by rw [hc]; rfl
  have hread : w.source? 1 = some Script.source := hs 1
  have h := (run_single_analysis .standard Script.registry 4 0 Script.files).2 _ Script.source.key
    Script.source.content hone hkept 1 Script.source (.ok Script.analysis) hdone hread (.refl _)
    Script.isSome_analyzerFor?
  exact ⟨hc, h.1 ⟨_, rfl⟩⟩

end World
end SymbolIndex
