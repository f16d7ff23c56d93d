import SymbolIndex.Index.Change
import SymbolIndex.Proofs.FileSystem.Key
import SymbolIndex.Proofs.Index.Advance
import SymbolIndex.Proofs.Store.Invariant

/-!
# An index at work

A `World` is an index with its calls under way, the files they read, and what it still has to do about
the messages of a watcher. Anything may happen in it in any order: files change, somebody asks for an
analysis or uses the store, a call or a reaction takes its next step, a message comes in. A world
remembers what each call has read and which contents an analyzer was run on.

An action is either the step of a call, which is one of the cases of `Index.Advance`, or leaves the calls
and the locks as they are, but for one more call that may be asked for (`turn`). What it does to the
store is at most one operation of it (`store_step`).
-/
namespace SymbolIndex

/-- What an index still has to do about a message. -/
inductive World.Reaction
  /-- A file has a new content, and may have to be analysed again. -/
  | considering (p : Path) (f : Fingerprint)
  /-- The file is analysed again by the call at a position. -/
  | awaiting (p : Path) (call : Nat)
  | settled

structure World where
  files : FileSystem
  session : Session
  reactions : List World.Reaction
  /-- What the call at each position has read. -/
  source? : Nat → Option Source
  /-- The contents that an analyzer was run on, in order. -/
  analyzed : List Source

/-- What can happen in a world. -/
inductive World.Action
  /-- Somebody asks for the analysis of a file. -/
  | ask (p : Path)
  /-- The call at a position takes its next step. -/
  | advance (i : Nat)
  /-- The files become others. -/
  | edit (files : FileSystem)
  /-- A message comes in. -/
  | follow (m : WatchMessage)
  /-- The reaction at a position takes its next step. -/
  | react (i : Nat)
  /-- Somebody uses the store directly. Only calls put something in it. -/
  | use (o : Store.Operation)

/-- The content that a call has read when it is at a stage. -/
def CallStage.read? : CallStage → Option Source
  | loaded _ (.ok s) => some s
  | _ => none

/-- The content that an analyzer is run on when a call takes its step from a stage. -/
def Index.examined? (x : Index) : CallStage → Option Source
  | .entered s _ =>
    if (x.store.peek? s.key s.fingerprint).isNone && (x.registry.analyzerFor? s).isSome then some s else none
  | _ => none

/-! ### The stages of calls, when one moves on or comes in -/

namespace CallStage
variable {calls : List CallStage} {c c' d : CallStage} {i j : Nat}

theorem mem_set (h : d ∈ calls.set i c') : d = c' ∨ d ∈ calls := (List.mem_or_eq_of_mem_set h).symm

theorem getElem?_set_cases (h : (calls.set i c')[j]? = some d) :
    j = i ∧ d = c' ∨ j ≠ i ∧ calls[j]? = some d := by
  by_cases hij : i = j
  · have hj := (List.getElem?_eq_some_iff.1 h).1
    rw [List.length_set] at hj
    rw [hij, List.getElem?_set_self hj] at h
    exact .inl ⟨hij.symm, (Option.some.inj h).symm⟩
  · exact .inr ⟨fun h => hij h.symm, by rwa [List.getElem?_set_ne hij] at h⟩

theorem getElem?_concat_cases (h : (calls ++ [c])[j]? = some d) :
    calls[j]? = none ∧ d = c ∨ calls[j]? = some d := by
  rw [List.getElem?_append] at h
  split at h
  · exact .inr h
  · exact .inl ⟨List.getElem?_eq_none (Nat.le_of_not_lt ‹_›), List.mem_singleton.1 (List.mem_of_getElem? h)⟩

/-- What there is among the calls is still there if the one that moves on keeps it. -/
theorem exists_mem_set {P : CallStage → Prop} (hc : calls[i]? = some c) (hP : P c → P c')
    (h : ∃ d ∈ calls, P d) : ∃ d ∈ calls.set i c', P d := by
  obtain ⟨d, hd, hPd⟩ := h
  obtain ⟨j, hj⟩ := List.mem_iff_getElem?.1 hd
  by_cases hij : i = j
  · have hdc : d = c := Option.some.inj (by rw [← hj, ← hij, hc])
    exact ⟨c', List.mem_set (List.getElem?_eq_some_iff.1 hc).1 c', hP (hdc ▸ hPd)⟩
  · exact ⟨d, List.mem_iff_getElem?.2 ⟨j, by rw [List.getElem?_set_ne hij, hj]⟩, hPd⟩

end CallStage

/-- An analyzer is run for a call that holds the lock and finds nothing in the store. -/
theorem Index.entered_of_examined? {x : Index} {c : CallStage} {s : Source} (h : x.examined? c = some s) :
    ∃ n, c = .entered s n ∧ x.store.peek? s.key s.fingerprint = none := by
  cases c with
  | entered t n =>
    simp only [examined?] at h
    split at h
    · cases h
      obtain ⟨hp, -⟩ := Bool.and_eq_true_iff.1 ‹_›
      exact ⟨n, rfl, Option.isNone_iff_eq_none.1 hp⟩
    · cases h
  | _ => cases h

/-- A call reads when it has the key of its file, and at no other time. -/
theorem Index.Advance.located_of_read? {x x' : Index} {fs : FileSystem} {calls : List CallStage}
    {c c' : CallStage} {s : Source} (h : Advance x fs calls c x' c') (hr : c'.read? = some s) :
    ∃ key, c = .located key ∧ Source.load fs x.config key = .ok s := by
  cases h with
  | load key =>
    cases hl : Source.load fs x.config key with
    | error e => rw [hl] at hr; cases hr
    | ok t => rw [hl] at hr; cases hr; exact ⟨key, rfl, hl⟩
  | _ => cases hr

theorem Source.load_fingerprint {fs : FileSystem} {config : Config} {key : Path} {s : Source}
    (h : Source.load fs config key = .ok s) : s.fingerprint = .ofBytes s.content :=
  congrArg Source.fingerprint (Source.eq_of_load h).2

/-- An index over a store, of which nothing was asked yet. -/
def Index.over (config : Config) (registry : Registry) (store : Store) : Index :=
  ⟨config, registry, store, 0, [], 0, []⟩

/-- The index counts the contents that an analyzer is run on. -/
theorem Index.Advance.parses_eq {x x' : Index} {fs : FileSystem} {calls : List CallStage}
    {c c' : CallStage} (h : Advance x fs calls c x' c') :
    x'.parses = x.parses + (x.examined? c).toList.length := by
  have examine_parses : ∀ s n, x.store.peek? s.key s.fingerprint = none →
      (x.examine s).1.parses = x.parses + (x.examined? (.entered s n)).toList.length := by
    intro s n hp
    simp only [Index.examine, examined?, hp, Option.isNone_none, Bool.true_and]
    split <;> rfl
  cases h with
  | fail key e => exact (dropUnreadable_frame x key e).2.2.2.2
  | refer s => exact (lockOf_frame x s.key).2.2.2
  | share s n a hp => simp [examined?, hp]
  | examine s n a hp _ => exact examine_parses s n hp
  | giveUp s n e hp _ => exact examine_parses s n hp
  | keep s n a => exact (keep_frame x s a).2.2.2.2
  | release s r => exact (releaseLock_frame x s.key _).2.2.2
  | _ => rfl

/-- What following a message asks of the store. -/
def WatchMessage.operation? : WatchMessage → Option Store.Operation
  | invalidate (.changed p (some f)) => some (.invalidateIfChanged p f)
  | invalidate (.changed p none) => some (.invalidate p)
  | invalidate (.removed p) => some (.invalidate p)
  | invalidate (.removedTree dir) => some (.invalidateUnder dir)
  | degraded _ _ => none

theorem Index.new_eq_ok {config : Config} {registry : Registry} {x : Index}
    (h : Index.new config registry = .ok x) :
    x = .over config registry (.new config.maxEntries config.maxBytes) := by
  unfold Index.new at h
  cases hv : config.validate with
  | error e => rw [hv] at h; cases h
  | ok u => rw [hv] at h; exact (Except.ok.inj h).symm

namespace World

/-- A world in which nothing has happened yet. -/
def start (x : Index) (files : FileSystem) : World := ⟨files, ⟨x, []⟩, [], fun _ => none, []⟩

/-- The index of a world. -/
def index (w : World) : Index := w.session.index

def calls (w : World) : List CallStage := w.session.calls

def store (w : World) : Store := w.session.index.store

/-- Another index with the same calls. -/
def withIndex (w : World) (x : Index) : World := { w with session := ⟨x, w.calls⟩ }

/-- Somebody asks for the analysis of a file. -/
def ask (w : World) (p : Path) : World := { w with session := ⟨w.index, w.calls ++ [.started p]⟩ }

/-- The call at a position takes its next step. -/
def advance (w : World) (i : Nat) : World :=
  match w.calls[i]? with
  | none => w
  | some c =>
    let (x, c') := w.index.advance w.files w.calls c
    { w with
      session := ⟨x, w.calls.set i c'⟩
      source? := fun j => if j = i then c'.read?.or (w.source? i) else w.source? j
      analyzed := w.analyzed ++ (w.index.examined? c).toList }

/-- The reaction at a position takes its next step. One that waits for a call goes on when the call is
finished. -/
def react (w : World) (i : Nat) : World :=
  match w.reactions[i]? with
  | some (.considering p f) =>
    if w.index.wantsReindex p f then
      { w.ask p with reactions := w.reactions.set i (.awaiting p w.calls.length) }
    else { w with reactions := w.reactions.set i .settled }
  | some (.awaiting p n) =>
    match w.calls[n]? with
    | some (.finished r) =>
      { w.withIndex (w.index.announceReindexed p r) with reactions := w.reactions.set i .settled }
    | _ => w
  | _ => w

/-- What happens in an action. -/
def step (w : World) : Action → World
  | .ask p => w.ask p
  | .advance i => w.advance i
  | .edit files => { w with files := files }
  | .follow m =>
    { w.withIndex (w.index.absorb m) with
      reactions := w.reactions ++ (m.changed?.map fun (p, f) => .considering p f).toList }
  | .react i => w.react i
  | .use o => if o.isPut then w else w.withIndex { w.index with store := w.store.after o }

/-- What happens in some actions, one after another. -/
def run (w : World) (acts : List Action) : World := acts.foldl step w

@[simp] theorem run_nil (w : World) : w.run [] = w := rfl

@[simp] theorem run_cons (w : World) (act : Action) (acts : List Action) :
    w.run (act :: acts) = (w.step act).run acts := rfl

theorem run_append (w : World) (acts acts' : List Action) : w.run (acts ++ acts') = (w.run acts).run acts' :=
  List.foldl_append

variable {w : World} {i : Nat} {c : CallStage}

/-- A call takes its steps as in a session of its own. -/
theorem advance_session (w : World) (i : Nat) : (w.advance i).session = w.session.step w.files i := by
  unfold advance Session.step calls
  cases w.session.calls[i]? <;> rfl

theorem calls_advance (hi : w.calls[i]? = some c) :
    (w.advance i).calls = w.calls.set i (w.index.advance w.files w.calls c).2 := by
  unfold advance
  rw [hi]
  rfl

/-- What an action asks of the store. -/
def operation? (w : World) : Action → Option Store.Operation
  | .advance i => (w.calls[i]?).bind CallStage.operation?
  | .follow m => m.operation?
  | .use o => if o.isPut then none else some o
  | _ => none

/-- The content that an analyzer is run on in an action. -/
def examines? (w : World) : Action → Option Source
  | .advance i => (w.calls[i]?).bind w.index.examined?
  | _ => none

/-- Only a call that has come to an analysis puts it in the store. -/
theorem operation?_put {act : Action} {p : Path} {a : Analysis} {f : Fingerprint}
    (h : w.operation? act = some (.put p a f)) :
    ∃ i s n, act = .advance i ∧ w.calls[i]? = some (.examined s n a) ∧ p = s.key ∧ f = s.fingerprint := by
  cases act with
  | advance i =>
    obtain ⟨c, hc, ho⟩ := Option.bind_eq_some_iff.1 h
    cases c with
    | examined s n a => cases ho; exact ⟨i, s, n, rfl, hc, rfl, rfl⟩
    | loaded key outcome =>
      cases outcome with
      | error e => simp only [CallStage.operation?] at ho; split at ho <;> cases ho
      | ok s => cases ho
    | _ => cases ho
  | follow m =>
    simp only [operation?, WatchMessage.operation?] at h
    split at h <;> cases h
  | use o =>
    simp only [operation?] at h
    split at h
    · cases h
    · cases h; exact absurd rfl ‹_›
  | _ => cases h

/-- A world that differs from another one in no call, but may have one more. -/
structure Around (w w' : World) : Prop where
  calls : w'.calls = w.calls ∨ ∃ p, w'.calls = w.calls ++ [.started p]
  registry : w'.index.registry = w.index.registry
  locks : w'.index.locks = w.index.locks
  nextLock : w'.index.nextLock = w.index.nextLock
  parses : w'.index.parses = w.index.parses
  source? : w'.source? = w.source?
  analyzed : w'.analyzed = w.analyzed

/-- What an action does to a world. -/
inductive Turn (w : World) : Action → World → Prop
  | around {act : Action} {w' : World} (h : Around w w') : Turn w act w'
  | advance (i : Nat) (c : CallStage) (x : Index) (c' : CallStage) (hc : w.calls[i]? = some c)
      (h : Index.Advance w.index w.files w.calls c x c') :
      Turn w (.advance i) { w with
        session := ⟨x, w.calls.set i c'⟩
        source? := fun j => if j = i then c'.read?.or (w.source? i) else w.source? j
        analyzed := w.analyzed ++ (w.index.examined? c).toList }

theorem Around.refl (w : World) : Around w w := ⟨.inl rfl, rfl, rfl, rfl, rfl, rfl, rfl⟩

theorem around_ask (w : World) (p : Path) : Around w (w.ask p) :=
  ⟨.inr ⟨p, rfl⟩, rfl, rfl, rfl, rfl, rfl, rfl⟩

theorem around_absorb (w : World) (m : WatchMessage) : Around w (w.withIndex (w.index.absorb m)) := by
  unfold Index.absorb
  split <;> exact ⟨.inl rfl, rfl, rfl, rfl, rfl, rfl, rfl⟩

theorem around_announceReindexed (w : World) (p : Path) (r : Answer) :
    Around w (w.withIndex (w.index.announceReindexed p r)) := by
  cases r <;> exact ⟨.inl rfl, rfl, rfl, rfl, rfl, rfl, rfl⟩

theorem around_react (w : World) (i : Nat) : Around w (w.react i) := by
  unfold react
  split
  · split
    · obtain ⟨hc, hr, hl, hn, hp, hs, ha⟩ := around_ask w ‹Path›
      exact ⟨hc, hr, hl, hn, hp, hs, ha⟩
    · exact ⟨.inl rfl, rfl, rfl, rfl, rfl, rfl, rfl⟩
  · split
    · obtain ⟨hc, hr, hl, hn, hp, hs, ha⟩ := around_announceReindexed w ‹Path› ‹Answer›
      exact ⟨hc, hr, hl, hn, hp, hs, ha⟩
    · exact .refl w
  · exact .refl w

/-- Every action is the step of a call or leaves the calls alone. -/
theorem turn (w : World) (act : Action) : Turn w act (w.step act) := by
  cases act with
  | ask p => exact .around (around_ask w p)
  | advance i =>
    show Turn w _ (w.advance i)
    unfold advance
    cases hc : w.calls[i]? with
    | none => exact .around (.refl w)
    | some c => exact .advance i c _ _ hc (Index.advance_cases ..)
  | edit files => exact .around ⟨.inl rfl, rfl, rfl, rfl, rfl, rfl, rfl⟩
  | follow m =>
    obtain ⟨hc, hr, hl, hn, hp, hs, ha⟩ := around_absorb w m
    exact .around ⟨hc, hr, hl, hn, hp, hs, ha⟩
  | react i => exact .around (around_react w i)
  | use o =>
    simp only [step]
    split
    · exact .around (.refl w)
    · exact .around ⟨.inl rfl, rfl, rfl, rfl, rfl, rfl, rfl⟩

theorem react_store (w : World) (i : Nat) : (w.react i).store = w.store := by
  unfold react
  split
  · split <;> rfl
  · split
    · cases ‹Answer› <;> rfl
    · rfl
  · rfl

theorem absorb_store (x : Index) (m : WatchMessage) :
    (x.absorb m).store = m.operation?.elim x.store x.store.after := by
  unfold Index.absorb
  split <;> rfl

/-- An action does at most one operation of the store. -/
theorem store_step (w : World) (act : Action) :
    (w.step act).store = (w.operation? act).elim w.store w.store.after := by
  cases act with
  | ask p => rfl
  | advance i =>
    show (w.advance i).store = _
    unfold advance
    cases hc : w.calls[i]? with
    | none => simp [operation?, hc]
    | some c =>
      simp only [operation?, hc, Option.bind_some]
      exact (Index.advance_cases w.index w.files w.calls c).store_eq
  | edit files => rfl
  | follow m => exact absorb_store w.index m
  | react i => exact react_store w i
  | use o =>
    simp only [step, operation?]
    split <;> rfl

theorem advance_of_examines? {act : Action} {s : Source} (h : w.examines? act = some s) :
    ∃ i n, act = .advance i ∧ w.calls[i]? = some (.entered s n) ∧
      w.store.peek? s.key s.fingerprint = none := by
  cases act with
  | advance i =>
    obtain ⟨c, hc, hx⟩ := Option.bind_eq_some_iff.1 h
    obtain ⟨n, rfl, hp⟩ := Index.entered_of_examined? hx
    exact ⟨i, n, rfl, hc, hp⟩
  | _ => cases h

theorem analyzed_step (w : World) (act : Action) :
    (w.step act).analyzed = w.analyzed ++ (w.examines? act).toList := by
  cases act with
  | advance i =>
    show (w.advance i).analyzed = _
    unfold advance examines?
    cases hc : w.calls[i]? <;> simp [hc]
  | react i => exact (around_react w i).analyzed.trans (List.append_nil _).symm
  | use o =>
    simp only [step, examines?]
    split <;> simp [withIndex]
  | _ => simp [step, examines?, ask, withIndex]

/-- The index counts the analyses of contents, however many there are for a path. -/
theorem Turn.parses_eq {act : Action} {w' : World} (h : Turn w act w')
    (hp : w.index.parses = w.analyzed.length) : w'.index.parses = w'.analyzed.length := by
  cases h with
  | around ha => rw [ha.parses, ha.analyzed, hp]
  | advance i c x c' hc hs =>
    show x.parses = _
    rw [hs.parses_eq, hp, List.length_append]

/-- The runs of analyzers that an index has counted are those that a world remembers. -/
theorem parses_run (x : Index) (files : FileSystem) (h : x.parses = 0) (acts : List Action) :
    ((start x files).run acts).index.parses = ((start x files).run acts).analyzed.length := by
  suffices ∀ w : World, w.index.parses = w.analyzed.length →
      (w.run acts).index.parses = (w.run acts).analyzed.length from this (start x files) h
  induction acts with
  | nil => exact fun w hw => hw
  | cons act acts ih => exact fun w hw => ih (w.step act) ((w.turn act).parses_eq hw)

theorem sound_step (h : w.store.Sound) (act : Action) : (w.step act).store.Sound := by
  rw [store_step]
  cases w.operation? act with
  | none => exact h
  | some o => exact h.after o

theorem run_sound (h : w.store.Sound) (acts : List Action) : (w.run acts).store.Sound := by
  induction acts generalizing w with
  | nil => exact h
  | cons act acts ih => exact ih (sound_step h act)

/-- Only its own steps bring a call on. -/
theorem Turn.calls_eq {act : Action} {w' : World} (h : Turn w act w') (hi : w.calls[i]? = some c)
    (hact : act ≠ .advance i) : w'.calls[i]? = some c := by
  cases h with
  | around ha =>
    rcases ha.calls with hc | ⟨p, hc⟩ <;> rw [hc]
    · exact hi
    · rw [List.getElem?_append_left (List.getElem?_eq_some_iff.1 hi).1, hi]
  | advance j d x d' _ _ =>
    have hji : j ≠ i := fun hji => hact (hji ▸ rfl)
    exact (List.getElem?_set_ne hji).trans hi

theorem Turn.registry_eq {act : Action} {w' : World} (h : Turn w act w') :
    w'.index.registry = w.index.registry := by
  cases h with
  | around h => exact h.registry
  | advance i c x c' hc h => exact h.registry_eq

end World
end SymbolIndex
