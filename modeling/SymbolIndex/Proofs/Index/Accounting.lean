import Mathlib.Data.List.Pairwise
import Mathlib.Data.Finset.Card
import SymbolIndex.Proofs.Index.Progress
import SymbolIndex.Proofs.Index.Transparency
import SymbolIndex.Proofs.Store.History

/-!
# What is counted of calls

A call that has read its file looks it up in the store once, and that is all that the store counts. If it
finds nothing, it is pending until it holds the lock of its key; then it shares an analysis that somebody else
has stored meanwhile, or an analyzer is run. So the counters of a world are those of a ledger of its calls
(`World.Ledger`): one step enters the same on both sides, whatever order the steps are taken in, and so does
a run (`World.run_accounting`). Nothing is shared when there is one call at a time.
-/
namespace SymbolIndex

namespace Store

variable {s : Store} {p : Path} {f : Fingerprint}

/-- The look-ups that a store has counted. -/
def lookUps (s : Store) : Nat := s.hits + s.misses + s.staleMisses

/-- The look-ups that gave nothing out. -/
def vain (s : Store) : Nat := s.misses + s.staleMisses

theorem lookUps_get (h : s.Counted) : (s.get p f).1.lookUps = s.lookUps + 1 ∧
    (s.get p f).1.vain = s.vain + (s.get p f).2.isNone.toNat := by
  cases hf : s.find? p with
  | none =>
    rw [get_eq_of_none hf]
    exact ⟨by simp only [lookUps]; omega, by simp only [vain, Option.isNone_none, Bool.toNat_true]; omega⟩
  | some e =>
    rw [get_eq_of_some hf (h.genuine e (mem_of_find? hf))]
    split
    · exact ⟨by simp only [lookUps]; omega, rfl⟩
    · exact ⟨rfl, rfl⟩

/-- No other operation counts as a look-up. -/
theorem lookUps_after (h : s.Counted) {o : Operation} (ho : o.isGet = false) :
    (s.after o).lookUps = s.lookUps ∧ (s.after o).vain = s.vain := by
  rw [after_eq h ho]
  exact ⟨rfl, rfl⟩

end Store

/-- Whether there is an analyzer in charge of a content. -/
def Registry.handles (r : Registry) (s : Source) : Bool := (r.analyzerFor? s).isSome

/-- The content that a call has looked up in vain and has not come to the analysis of. -/
def CallStage.pending? : CallStage → Option Source
  | missed s | waiting s _ | entered s _ => some s
  | _ => none

theorem countP_toList (P : Source → Bool) (o : Option Source) : o.toList.countP P = (o.any P).toNat := by
  cases o with
  | none => rfl
  | some s => cases h : P s <;> simp [h]

theorem CallStage.countP_set {calls : List CallStage} {c : CallStage} {i : Nat} (P : CallStage → Bool)
    (c' : CallStage) (hc : calls[i]? = some c) :
    (calls.set i c').countP P + (P c).toNat = calls.countP P + (P c').toNat := by
  obtain ⟨hi, rfl⟩ := List.getElem?_eq_some_iff.1 hc
  have hle : (P calls[i]).toNat ≤ calls.countP P := by
    cases hP : P calls[i] with
    | false => exact Nat.zero_le _
    | true => exact List.countP_pos_iff.2 ⟨_, List.getElem_mem hi, hP⟩
  have hite : ∀ b : Bool, (if b = true then 1 else 0) = b.toNat := by decide
  rw [List.countP_set hi, hite, hite]
  omega

/-- What a message asks of the store is to drop something. -/
theorem WatchMessage.drops_of_operation? (m : WatchMessage) {o : Store.Operation}
    (h : m.operation? = some o) : o.isGet = false ∧ o.isPut = false := by
  unfold operation? at h
  split at h <;> cases h <;> exact ⟨rfl, rfl⟩

namespace Index

/-- The content that a call looks up in vain when it takes its step from a stage. -/
def missed? (x : Index) : CallStage → Option Source
  | .loaded _ (.ok s) => if (x.store.get s.key s.fingerprint).2.isNone then some s else none
  | _ => none

/-- The content that a call finds the analysis of when it holds the lock. -/
def shared? (x : Index) : CallStage → Option Source
  | .entered s _ => if (x.store.peek? s.key s.fingerprint).isSome then some s else none
  | _ => none

variable {x x' : Index} {fs : FileSystem} {calls : List CallStage} {c c' : CallStage}

/-- A call that has read its file looks it up, and no other step counts as a look-up. -/
theorem Advance.lookUps_eq (h : Advance x fs calls c x' c') (hs : x.store.Counted) :
    x'.store.lookUps = x.store.lookUps + c.read?.isSome.toNat ∧
      x'.store.vain = x.store.vain + (x.missed? c).toList.length := by
  rw [h.store_eq]
  cases c with
  | loaded key outcome =>
    cases outcome with
    | ok s =>
      obtain ⟨hl, hv⟩ := Store.lookUps_get (p := s.key) (f := s.fingerprint) hs
      refine ⟨hl, hv.trans ?_⟩
      simp only [missed?]
      cases (x.store.get s.key s.fingerprint).2 <;> rfl
    | error e =>
      simp only [CallStage.operation?]
      split
      · exact Store.lookUps_after hs rfl
      · exact ⟨rfl, rfl⟩
  | entered s n => exact Store.lookUps_after hs rfl
  | examined s n a => exact Store.lookUps_after hs rfl
  | _ => exact ⟨rfl, rfl⟩

/-- What is looked up in vain becomes pending, and what no longer is has been shared, or an analyzer
was run on it if there is one. -/
theorem Advance.pending_eq (h : Advance x fs calls c x' c') :
    (c'.pending?.any x.registry.handles).toNat + ((x.shared? c).any x.registry.handles).toNat +
        (x.examined? c).toList.length =
      (c.pending?.any x.registry.handles).toNat + ((x.missed? c).any x.registry.handles).toNat := by
  have examined_eq : ∀ s n, x.store.peek? s.key s.fingerprint = none →
      (x.examined? (.entered s n)).toList.length = (x.registry.handles s).toNat := by
    intro s n hp
    simp only [examined?, hp, Registry.handles]
    cases (x.registry.analyzerFor? s).isSome <;> rfl
  cases h with
  | load key => cases Source.load fs x.config key <;> rfl
  | hit key s a hg => simp [CallStage.pending?, shared?, missed?, examined?, hg]
  | miss key s hg => simp [CallStage.pending?, shared?, missed?, examined?, hg]
  | share s n a hp => simp [CallStage.pending?, shared?, missed?, examined?, hp]
  | examine s n a hp _ =>
    rw [examined_eq s n hp]
    simp [CallStage.pending?, shared?, missed?, hp]
  | giveUp s n e hp _ =>
    rw [examined_eq s n hp]
    simp [CallStage.pending?, shared?, missed?, hp]
  | _ => rfl

/-- A call that is pending after a step was so before, or the store has nothing to give out for it. -/
theorem Advance.of_pending {s : Source} (h : Advance x fs calls c x' c') (hs : x.store.Counted)
    (hp : c'.pending? = some s) :
    (c.pending? = some s ∨ x.store.peek? s.key s.fingerprint = none) ∧
      ∀ o, c.operation? = some o → o.isPut = false := by
  cases h with
  | miss key t hg =>
    cases hp
    exact ⟨.inr (Store.get_snd hs ▸ hg), by rintro o ⟨⟩; rfl⟩
  | refer t | wait t n _ | enter t n _ => exact ⟨.inl hp, nofun⟩
  | _ => cases hp

end Index

namespace World

variable {w w' : World} {act : Action} {i : Nat} {c : CallStage} {ms ss : List Source}

/-- The content that a call looks up in vain in an action. -/
def misses? (w : World) : Action → Option Source
  | .advance i => (w.calls[i]?).bind w.index.missed?
  | _ => none

/-- The content that a call finds the analysis of when it holds the lock, in an action. -/
def shares? (w : World) : Action → Option Source
  | .advance i => (w.calls[i]?).bind w.index.shared?
  | _ => none

/-- The contents that calls look up in vain in some actions, in order. -/
def missed (w : World) : List Action → List Source
  | [] => []
  | act :: acts => (w.misses? act).toList ++ (w.step act).missed acts

/-- The contents that calls find the analysis of when they hold the lock, in order. -/
def shared (w : World) : List Action → List Source
  | [] => []
  | act :: acts => (w.shares? act).toList ++ (w.step act).shared acts

/-- The calls that have read their files. -/
def readers (w : World) : Finset Nat := (Finset.range w.calls.length).filter fun i => (w.source? i).isSome

/-- All look-ups of a world are those of calls that have read their files. Each that was in vain is of a call
that is pending, that shares an analysis, or that an analyzer was run for if there is one. -/
structure Ledger (w : World) (ms ss : List Source) : Prop where
  traced : w.Traced
  lookUps : w.store.lookUps + w.calls.countP (·.read?.isSome) = w.readers.card
  vain : w.store.vain = ms.length
  parses : w.index.parses + w.calls.countP (·.pending?.any w.index.registry.handles) +
    ss.countP w.index.registry.handles = ms.countP w.index.registry.handles

/-- An action in which no call takes a step. -/
structure Quiet (w : World) (act : Action) : Prop where
  around : Around w (w.step act)
  operation : ∀ o, w.operation? act = some o → o.isGet = false ∧ o.isPut = false
  misses? : w.misses? act = none
  shares? : w.shares? act = none

/-- Unless somebody uses the store directly, an action is the step of a call or a quiet one. -/
theorem quiet_or_advance (w : World) (hact : ∀ o, act ≠ .use o) :
    w.Quiet act ∨ ∃ i c, act = .advance i ∧ w.calls[i]? = some c := by
  cases act with
  | ask p => exact .inl ⟨around_ask w p, by rintro o ⟨⟩, rfl, rfl⟩
  | advance i =>
    cases hc : w.calls[i]? with
    | some c => exact .inr ⟨i, c, rfl, hc⟩
    | none =>
      have hstep : w.step (.advance i) = w := by simp [step, advance, hc]
      exact .inl ⟨hstep.symm ▸ .refl w, by simp [operation?, hc], by simp [World.misses?, hc],
        by simp [World.shares?, hc]⟩
  | edit files => exact .inl ⟨⟨.inl rfl, rfl, rfl, rfl, rfl, rfl, rfl⟩, by rintro o ⟨⟩, rfl, rfl⟩
  | follow m =>
    refine .inl ⟨?_, fun o ho => m.drops_of_operation? ho, rfl, rfl⟩
    obtain ⟨hc, hr, hl, hn, hp, hs, ha⟩ := around_absorb w m
    exact ⟨hc, hr, hl, hn, hp, hs, ha⟩
  | react i => exact .inl ⟨around_react w i, by rintro o ⟨⟩, rfl, rfl⟩
  | use o => exact absurd rfl (hact o)

theorem step_advance (hc : w.calls[i]? = some c) : ∃ c',
    Index.Advance w.index w.files w.calls c (w.step (.advance i)).index c' ∧
      (w.step (.advance i)).calls = w.calls.set i c' ∧
      ∀ j, (w.step (.advance i)).source? j = if j = i then c'.read?.or (w.source? i) else w.source? j := by
  have hindex : (w.step (.advance i)).index = (w.index.advance w.files w.calls c).1 := by
    simp only [step, advance, hc, index]
  refine ⟨_, hindex ▸ Index.advance_cases w.index w.files w.calls c, calls_advance hc, fun j => ?_⟩
  simp only [step, advance, hc]

/-- A call that was just asked for has done nothing that is counted. -/
theorem Around.countP_eq (h : Around w w') (P : CallStage → Bool) (hP : ∀ p, P (.started p) = false) :
    w'.calls.countP P = w.calls.countP P := by
  rcases h.calls with hc | ⟨p, hc⟩ <;> rw [hc]
  simp [List.countP_append, hP]

theorem Around.readers_eq (h : Around w w') (ht : w.Traced) : w'.readers = w.readers := by
  unfold readers
  rw [h.source?]
  rcases h.calls with hc | ⟨p, hc⟩ <;> rw [hc]
  have hnew : w.source? w.calls.length = none := ht.unasked _ (List.getElem?_eq_none (Nat.le_refl _))
  rw [List.length_append, List.length_singleton, Finset.range_add_one, Finset.filter_insert, hnew]
  rfl

/-- A call reads its file once. -/
theorem card_readers_advance {c' : CallStage} {x : Index} (ht : w.Traced) (hc : w.calls[i]? = some c)
    (h : Index.Advance w.index w.files w.calls c x c') (hl : w'.calls.length = w.calls.length)
    (hs : ∀ j, w'.source? j = if j = i then c'.read?.or (w.source? i) else w.source? j) :
    w'.readers.card = w.readers.card + c'.read?.isSome.toNat := by
  have hi := (List.getElem?_eq_some_iff.1 hc).1
  cases hr : c'.read? with
  | none =>
    have hsame : ∀ j, w'.source? j = w.source? j := fun j => by rw [hs, hr]; split <;> simp_all
    simp only [readers, hl, hsame]
    rfl
  | some s =>
    -- The call has just read, and had not read before.
    obtain ⟨key, rfl, -⟩ := h.located_of_read? hr
    have hnone : w.source? i = none := ht.stages i _ hc
    have hinsert : w'.readers = insert i w.readers := by
      ext j
      simp only [readers, hl, hs, hr, Finset.mem_insert, Finset.mem_filter, Finset.mem_range]
      by_cases hj : j = i
      · simp [hj, hi]
      · simp [hj]
    rw [hinsert, Finset.card_insert_of_notMem (by simp [readers, hnone])]
    rfl

theorem Quiet.store (h : w.Quiet act) (hs : w.store.Counted) :
    (w.step act).store.lookUps = w.store.lookUps ∧ (w.step act).store.vain = w.store.vain := by
  rw [store_step]
  cases ho : w.operation? act with
  | none => exact ⟨rfl, rfl⟩
  | some o => exact Store.lookUps_after hs (h.operation o ho).1

namespace Ledger

theorem quiet (h : w.Ledger ms ss) (hq : w.Quiet act) : (w.step act).Ledger ms ss := by
  obtain ⟨hlookUps, hvain⟩ := hq.store h.traced.sound.toCounted
  have ha := hq.around
  exact {
    traced := h.traced.step act
    lookUps := by rw [hlookUps, ha.countP_eq _ fun _ => rfl, ha.readers_eq h.traced, h.lookUps]
    vain := hvain.trans h.vain
    parses := by rw [ha.parses, ha.registry, ha.countP_eq _ fun _ => rfl, h.parses] }

/-- What a call does in a step is entered on both sides. -/
theorem advance (h : w.Ledger ms ss) (hc : w.calls[i]? = some c) : (w.step (.advance i)).Ledger
    (ms ++ (w.index.missed? c).toList) (ss ++ (w.index.shared? c).toList) := by
  obtain ⟨c', ha, hcalls, hsource⟩ := step_advance hc
  obtain ⟨hlookUps, hvain⟩ := ha.lookUps_eq h.traced.sound.toCounted
  have hreaders := card_readers_advance h.traced hc ha (by rw [hcalls, List.length_set]) hsource
  -- The call is no longer counted at the stage it has left, but at the one it has come to.
  have hloaded := CallStage.countP_set (·.read?.isSome) c' hc
  have hpending := CallStage.countP_set (·.pending?.any w.index.registry.handles) c' hc
  have hparses := ha.parses_eq
  have hbalance := ha.pending_eq
  have hold : w.index.store.lookUps + _ = _ := h.lookUps
  have holdParses := h.parses
  refine { traced := h.traced.step _, lookUps := ?_, vain := ?_, parses := ?_ }
  · rw [hreaders, hcalls, show (w.step (.advance i)).store.lookUps = _ from hlookUps]
    omega
  · rw [List.length_append, ← h.vain]
    exact hvain
  · rw [ha.registry_eq, hcalls, hparses, List.countP_append, List.countP_append, countP_toList, countP_toList]
    omega

theorem step (h : w.Ledger ms ss) (hact : ∀ o, act ≠ .use o) :
    (w.step act).Ledger (ms ++ (w.misses? act).toList) (ss ++ (w.shares? act).toList) := by
  rcases w.quiet_or_advance hact with hq | ⟨i, c, rfl, hc⟩
  · rw [hq.misses?, hq.shares?, Option.toList_none, List.append_nil, List.append_nil]
    exact h.quiet hq
  · rw [World.misses?, World.shares?, hc]
    exact h.advance hc

theorem run (h : w.Ledger ms ss) {acts : List Action} (hacts : ∀ o, .use o ∉ acts) :
    (w.run acts).Ledger (ms ++ w.missed acts) (ss ++ w.shared acts) := by
  induction acts generalizing w ms ss with
  | nil => rw [missed, shared, List.append_nil, List.append_nil]; exact h
  | cons act acts ih =>
    have hact : ∀ o, act ≠ .use o := fun o ho => hacts o (ho ▸ List.mem_cons_self)
    have hlater := ih (h.step hact) fun o ho => hacts o (List.mem_cons_of_mem _ ho)
    rw [missed, shared, ← List.append_assoc, ← List.append_assoc]
    exact hlater

theorem start (config : Config) (registry : Registry) (maxEntries maxBytes : Nat) (files : FileSystem) :
    (World.start (.over config registry (.new maxEntries maxBytes)) files).Ledger [] [] where
  traced := .start config registry maxEntries maxBytes files
  lookUps := rfl
  vain := rfl
  parses := rfl

end Ledger

/-! ### One call at a time -/

/-- Of any two calls, one is finished. -/
def OneAtATime (w : World) : Prop := w.calls.Pairwise fun c d => c.answer?.isSome ∨ d.answer?.isSome

/-- Before and after each of some actions, no two calls are under way. -/
def Sequential (w : World) : List Action → Prop
  | [] => w.OneAtATime
  | act :: acts => w.OneAtATime ∧ (w.step act).Sequential acts

/-- The store has nothing to give out for the pending calls. -/
def Unanswered (w : World) : Prop :=
  ∀ c ∈ w.calls, ∀ s, c.pending? = some s → w.store.peek? s.key s.fingerprint = none

/-- If nobody puts anything in the store, there is nothing that was not there before. -/
theorem peek?_step_eq_none (hs : w.store.Sound) (hp : ∀ o, w.operation? act = some o → o.isPut = false)
    {p : Path} {f : Fingerprint} (h : w.store.peek? p f = none) : (w.step act).store.peek? p f = none := by
  rw [store_step]
  cases ho : w.operation? act with
  | none => exact h
  | some o =>
    refine Store.peek?_eq_none (hs.after o).toCounted fun e he hk hf => ?_
    rcases Store.mem_after hs.toCounted he with he | ⟨_, _, _, rfl, -⟩
    · rw [(Store.peek?_eq_some hs.toCounted).2 ⟨e, he, hk, hf, rfl⟩] at h
      cases h
    · cases hp _ ho

/-- While a call is pending, no other one comes to an analysis that it could put in the store. -/
theorem OneAtATime.isPut_eq_false (h : w.OneAtATime) {d : CallStage} {s : Source} (hd : d ∈ w.calls)
    (hp : d.pending? = some s) {o : Store.Operation} (ho : w.operation? act = some o) : o.isPut = false := by
  cases o with
  | put p a f =>
    obtain ⟨i, t, n, rfl, hi, -, -⟩ := operation?_put ho
    -- Of the pending call and the one that is about to put something, neither is finished.
    have hne : d ≠ .examined t n a := fun hd => by rw [hd] at hp; cases hp
    have : Std.Symm fun c d : CallStage => c.answer?.isSome ∨ d.answer?.isSome := ⟨fun _ _ => Or.symm⟩
    have hdone := h.forall hd (List.mem_of_getElem? hi) hne
    cases d <;> simp_all [CallStage.pending?, CallStage.answer?]
  | _ => rfl

theorem Unanswered.step (h : w.Unanswered) (hs : w.store.Sound) (hone : w.OneAtATime)
    (hact : ∀ o, act ≠ .use o) : (w.step act).Unanswered := by
  have hold : ∀ d ∈ w.calls, ∀ s, d.pending? = some s → (w.step act).store.peek? s.key s.fingerprint = none :=
    fun d hd s hp => peek?_step_eq_none hs (fun _ => hone.isPut_eq_false hd hp) (h d hd s hp)
  intro d hd s hp
  rcases w.quiet_or_advance hact with hq | ⟨i, c, rfl, hc⟩
  · rcases hq.around.calls with hcalls | ⟨p, hcalls⟩ <;> rw [hcalls] at hd
    · exact hold d hd s hp
    · rcases List.mem_append.1 hd with hd | hd
      · exact hold d hd s hp
      · cases List.mem_singleton.1 hd
        cases hp
  · obtain ⟨c', ha, hcalls, -⟩ := step_advance hc
    rw [hcalls] at hd
    rcases CallStage.mem_set hd with rfl | hd
    · obtain ⟨hbefore | hnone, hput⟩ := ha.of_pending hs.toCounted hp
      · exact hold c (List.mem_of_getElem? hc) s hbefore
      · exact peek?_step_eq_none hs (by simpa [operation?, hc] using hput) hnone
    · exact hold d hd s hp

theorem Unanswered.shares?_eq (h : w.Unanswered) (act : Action) : w.shares? act = none := by
  cases act with
  | advance i =>
    rw [World.shares?]
    refine Option.bind_eq_none_iff.2 fun c hc => ?_
    cases c with
    | entered s n =>
      have hp := h _ (List.mem_of_getElem? hc) s rfl
      rw [store] at hp
      simp [Index.shared?, index, hp]
    | _ => rfl
  | _ => rfl

theorem Unanswered.shared_eq (h : w.Unanswered) (hs : w.store.Sound) {acts : List Action}
    (hseq : w.Sequential acts) (hacts : ∀ o, .use o ∉ acts) : w.shared acts = [] := by
  induction acts generalizing w with
  | nil => rfl
  | cons act acts ih =>
    have hact : ∀ o, act ≠ .use o := fun o ho => hacts o (ho ▸ List.mem_cons_self)
    rw [shared, h.shares?_eq, Option.toList_none, List.nil_append]
    exact ih (h.step hs hseq.1 hact) (sound_step hs act)
      hseq.2 fun o ho => hacts o (List.mem_cons_of_mem _ ho)

/-- Whatever order the steps of calls are taken in, with files that change and messages that are followed in
between: when all calls are finished, the store has counted one look-up for each call that has read its file,
and one in vain for each content that it gave nothing out for. Analyzers were run no more often than
that; and if no two calls were ever under way at once, one was run for each of these contents that has one. -/
theorem run_accounting (config : Config) (registry : Registry) (maxEntries maxBytes : Nat)
    (files : FileSystem) (acts : List Action) (hacts : ∀ o, .use o ∉ acts) :
    let w₀ := start (.over config registry (.new maxEntries maxBytes)) files
    let w := w₀.run acts
    w.session.Finished →
      w.store.hits + w.store.misses + w.store.staleMisses =
          ((Finset.range w.calls.length).filter fun i => (w.source? i).isSome).card ∧
        w.store.misses + w.store.staleMisses = (w₀.missed acts).length ∧
        w.index.parses ≤ w.store.misses + w.store.staleMisses ∧
        (w₀.Sequential acts →
          w.index.parses = (w₀.missed acts).countP fun s => (registry.analyzerFor? s).isSome) := by
  intro w₀ w hfinished
  have h : w.Ledger (w₀.missed acts) (w₀.shared acts) :=
    (Ledger.start config registry maxEntries maxBytes files).run hacts
  have hreg : w.index.registry = registry := registry_run w₀ acts
  have hlooked : w.calls.countP (·.read?.isSome) = 0 := List.countP_eq_zero.2 fun c hc => by
    obtain ⟨r, rfl⟩ := hfinished c hc
    nofun
  have hpending : w.calls.countP (·.pending?.any w.index.registry.handles) = 0 :=
    List.countP_eq_zero.2 fun c hc => by
      obtain ⟨r, rfl⟩ := hfinished c hc
      nofun
  have hlookUps := h.lookUps
  have hvain : w.store.misses + w.store.staleMisses = (w₀.missed acts).length := h.vain
  have hparses := h.parses
  rw [hlooked] at hlookUps
  rw [hpending, hreg] at hparses
  refine ⟨hlookUps, hvain, ?_, fun hseq => ?_⟩
  · have hle := List.countP_le_length (p := registry.handles) (l := w₀.missed acts)
    omega
  · have hnone : w₀.Unanswered := by simp [Unanswered, calls, World.start, w₀]
    have hsound : w₀.store.Sound := .new maxEntries maxBytes
    have hshared : w₀.shared acts = [] := hnone.shared_eq hsound hseq hacts
    rw [hshared] at hparses
    exact hparses

/-- The second of two calls for a file begins when the first one is finished. -/
theorem sequential_askTwice {config : Config} {registry : Registry} {files : FileSystem} {p q : Path}
    {s : Source}
    {a : Analysis} (maxEntries maxBytes : Nat) (hp : Source.load files config (files.key p) = .ok s)
    (hq : Source.load files config (files.key q) = .ok s)
    (hs : (registry.analyzerFor? s).isSome = true) (ha : registry.analyze s = .ok a)
    (hf : a.fingerprint = s.fingerprint) :
    (start (.over config registry (.new maxEntries maxBytes)) files).Sequential (askTwice p q) := by
  have hcap : ¬ max 1 maxEntries ≤ 0 := by omega
  simp only [askTwice, List.replicate, List.cons_append, List.nil_append]
  simp [Sequential, OneAtATime, CallStage.answer?, start, Index.over, Store.new, step, ask, advance, calls,
    index, Index.advance, hp, hq, Store.get, Store.find?, Index.lockOf, CallStage.holdsLock, Store.peek?,
    Index.examine, hs, ha, Index.keep, Store.put, hf, Store.push, hcap, Store.shrink, Index.announce,
    Index.releaseLock, CallStage.refersTo, StoreEntry.isConsistent]

/-- A script that is asked for twice is looked up twice, once in vain, and is analysed once. -/
theorem run_accounting_script :
    let w₀ := World.start (.over .standard Script.registry (.new 4 64)) Script.files
    let acts := askTwice ⟨"/./a.py"⟩ ⟨"/a.py"⟩
    let w := w₀.run acts
    (∀ o, .use o ∉ acts) ∧ w.session.Finished ∧ w₀.Sequential acts ∧
      w.store.hits + w.store.misses + w.store.staleMisses = 2 ∧
      (w₀.missed acts).countP (fun s => (Script.registry.analyzerFor? s).isSome) = 1 := by
  intro w₀ acts w
  obtain ⟨hcalls, hsource, hanalyzed⟩ := run_askTwice 4 64 Script.load_key_dotted Script.load_key
    Script.isSome_analyzerFor? Script.analyze rfl
  have hacts : ∀ o, .use o ∉ acts := by simp [acts, askTwice]
  have hfinished : w.session.Finished := by
    intro c hmem
    have hc : c ∈ w.calls := hmem
    rw [hcalls] at hc
    exact ⟨.ok Script.analysis, by simpa using hc⟩
  have hseq : w₀.Sequential acts := sequential_askTwice 4 64 Script.load_key_dotted Script.load_key
    Script.isSome_analyzerFor? Script.analyze rfl
  obtain ⟨hlookUps, -, -, hparses⟩ :=
    run_accounting .standard Script.registry 4 64 Script.files acts hacts hfinished
  have hparsed : w.index.parses = w.analyzed.length :=
    parses_run (.over .standard Script.registry (.new 4 64)) Script.files rfl acts
  refine ⟨hacts, hfinished, hseq, ?_, ?_⟩
  · rw [hlookUps, hcalls, Finset.filter_true_of_mem]
    · rfl
    · intro i hi
      have hi : i ≤ 1 := Nat.le_of_lt_succ (Finset.mem_range.1 hi)
      rw [hsource i, if_pos hi]
      rfl
  · rw [← hparses hseq, hparsed, hanalyzed]
    rfl

end World
end SymbolIndex
