import SymbolIndex.Index.Change
import SymbolIndex.Proofs.Index.World
import SymbolIndex.Proofs.Path.Literal

/-!
# Calls without interruption

A call with no others never waits, and comes to an answer in ten steps (`alone_eq_analyze`): the error
of the read, what the store gives out, or the analysis of the content, which it stores
(`analyze_of_error`, `analyze_of_hit`, `analyze_of_miss`). What an index does in one go is a run of a
world: analysing some files (`answersFor_eq_run`), and following a message (`apply_eq_run`). The first two
calls for a file are followed from end to end (`run_askTwice`), and `Script` is a file to ask for.
-/
namespace SymbolIndex

/-- The steps that a call takes until it is finished, if it need not wait. -/
def CallStage.stepsLeft : CallStage → Nat
  | started _ => 10
  | located _ => 9
  | loaded _ (.ok _) => 8
  | loaded _ (.error _) => 1
  | missed _ => 7
  | waiting _ _ => 6
  | entered _ _ => 5
  | examined _ _ _ => 4
  | settled _ _ _ => 3
  | unlocked _ _ _ => 2
  | detached _ _ => 1
  | finished _ => 0

theorem CallStage.finished_of_stepsLeft {c : CallStage} (h : c.stepsLeft = 0) : ∃ r, c = .finished r := by
  cases c with
  | finished r => exact ⟨r, rfl⟩
  | loaded key outcome => cases outcome <;> cases h
  | _ => cases h

namespace Index

variable {x x' : Index} {fs : FileSystem} {p : Path} {s : Source} {a : Analysis} {e : IndexError}
  {c c' : CallStage} {r : Answer}

/-- A call that is the only one comes nearer to its end with each step. -/
theorem Advance.stepsLeft_le (h : Advance x fs [c] c x' c') : c'.stepsLeft ≤ c.stepsLeft - 1 := by
  cases h with
  | load key => cases Source.load fs x.config key <;> simp [CallStage.stepsLeft]
  | wait s n h => simp [CallStage.holdsLock] at h
  | _ => simp [CallStage.stepsLeft]

/-- An index and its only call after some steps. -/
def alone (fs : FileSystem) : Nat → Index × CallStage → Index × CallStage
  | 0, y => y
  | n + 1, y => alone fs n (y.1.advance fs [y.2] y.2)

theorem alone_finished (fs : FileSystem) (n : Nat) (y : Index × CallStage) (h : y.2.stepsLeft ≤ n) :
    ∃ r, (alone fs n y).2 = .finished r := by
  induction n generalizing y with
  | zero => exact CallStage.finished_of_stepsLeft (Nat.le_zero.1 h)
  | succ n ih =>
    have := (advance_cases y.1 fs [y.2] y.2).stepsLeft_le
    exact ih (y.1.advance fs [y.2] y.2) (by omega)

theorem run_alone (x : Index) (c : CallStage) (n : Nat) :
    Session.run fs ⟨x, [c]⟩ (List.replicate n 0) = ⟨(alone fs n (x, c)).1, [(alone fs n (x, c)).2]⟩ := by
  induction n generalizing x c with
  | zero => rfl
  | succ n ih => exact ih (x.advance fs [c] c).1 (x.advance fs [c] c).2

/-- Analysing a file is a call that takes all its steps. -/
theorem alone_eq_analyze (x : Index) (fs : FileSystem) (p : Path) :
    alone fs 10 (x, .started p) = ((x.analyze fs p).1, .finished (x.analyze fs p).2) := by
  have hrun : (Session.start x [p]).run fs (Session.inTurn 1 3 ++ Session.inTurn 1 7) =
      ⟨(alone fs 10 (x, .started p)).1, [(alone fs 10 (x, .started p)).2]⟩ := run_alone x (.started p) 10
  obtain ⟨r, hr⟩ := alone_finished fs 10 (x, .started p) (Nat.le_refl _)
  have hanalyze : x.analyze fs p = ((alone fs 10 (x, .started p)).1, r) := by
    simp only [analyze, answersFor, CallStage.lookUpSteps, CallStage.remainingSteps, List.length_singleton,
      hrun, hr, Session.answers, List.filterMap_cons, CallStage.answer?, List.headD_cons]
  rw [hanalyze, ← hr]

theorem analyze_eq_of_alone (h : alone fs 10 (x, .started p) = (x', .finished r)) :
    x.analyze fs p = (x', r) := by
  rw [alone_eq_analyze] at h
  obtain ⟨hx, hr⟩ := Prod.mk.inj h
  exact Prod.ext hx (CallStage.finished.inj hr)

/-- A file that cannot be read leaves the store, as far as the error tells something about it. -/
theorem analyze_of_error (h : Source.load fs x.config (fs.key p) = .error e) :
    x.analyze fs p = (x.dropUnreadable (fs.key p) e, .error e) :=
  analyze_eq_of_alone (by simp [alone, advance, h])

/-- What the store gives out is the answer. -/
theorem analyze_of_hit (h : Source.load fs x.config (fs.key p) = .ok s)
    (ha : (x.store.get s.key s.fingerprint).2 = some a) :
    x.analyze fs p = ({ x with store := (x.store.get s.key s.fingerprint).1 }, .ok a) :=
  analyze_eq_of_alone (by simp [alone, advance, h, ha])

section
variable (x : Index) (locks : List (Path × Nat)) (s : Source) (a : Analysis)

theorem examine_withLocks : { x with locks := locks }.examine s =
    ({ (x.examine s).1 with locks := locks }, (x.examine s).2) := by
  unfold examine
  dsimp only
  split <;> rfl

theorem keep_withLocks : { x with locks := locks }.keep s a =
    ({ (x.keep s a).1 with locks := locks }, (x.keep s a).2) := by
  unfold keep
  dsimp only
  cases x.store.put s.key a s.fingerprint <;> rfl

/-- A lock that was new, and that nobody refers to, is forgotten when it is released. -/
theorem releaseLock_new (key : Path) (n : Nat) (h : x.locks.find? (·.1.Same key) = none) :
    { x with locks := x.locks ++ [(key, n)] }.releaseLock key (fun _ => false) = x := by
  have hothers : x.locks.filter (¬ ·.1.Same key) = x.locks :=
    List.filter_eq_self.2 fun e he => by simpa using List.find?_eq_none.1 h e he
  cases x
  simp [releaseLock, h] at hothers ⊢
  exact hothers

end

/-- If the store has nothing to give out and no lock of the key is known, the content is analysed, and the
analysis is stored. -/
theorem analyze_of_miss (h : Source.load fs x.config (fs.key p) = .ok s) (hc : x.store.Counted)
    (hm : x.store.peek? s.key s.fingerprint = none) (hl : x.locks.find? (·.1.Same s.key) = none) :
    let y := { x with store := (x.store.get s.key s.fingerprint).1, nextLock := x.nextLock + 1 }
    x.analyze fs p =
      match x.registry.analyze s with
      | .ok a => (y.examine s).1.keep s a
      | .error e => ((y.examine s).1, .error e) := by
  intro y
  have hm' : y.store.peek? s.key s.fingerprint = none := (Store.peek?_get hc).trans hm
  have hg : (x.store.get s.key s.fingerprint).2 = none := (Store.get_snd hc).trans hm
  let z : Index := { y with locks := x.locks ++ [(s.key, x.nextLock)] }
  have hwait : alone fs 5 (x, .started p) = (z, .entered s x.nextLock) := by
    simp [alone, advance, h, hg, lockOf, hl, CallStage.holdsLock, z, y]
  have hz : z.examine s = ({ (y.examine s).1 with locks := z.locks }, x.registry.analyze s) :=
    examine_withLocks y z.locks s
  have hlocks : (y.examine s).1.locks = x.locks := (y.examine_frame s).2.2.1
  have hend : ∀ u r, alone fs 5 (z, .entered s x.nextLock) = (u, .finished r) →
      x.analyze fs p = (u, r) :=
    fun u r hu => analyze_eq_of_alone (by rw [← hu, ← hwait]; rfl)
  cases ha : x.registry.analyze s with
  | error e =>
    rw [ha] at hz
    refine hend _ _ ?_
    have hreleased := releaseLock_new (y.examine s).1 s.key x.nextLock (by rw [hlocks]; exact hl)
    rw [hlocks] at hreleased
    simp [alone, advance, hz, show z.store.peek? s.key s.fingerprint = none from hm', CallStage.refersTo,
      hreleased, z]
  | ok a =>
    rw [ha] at hz
    have hkept : ((y.examine s).1.keep s a).1.locks = x.locks :=
      ((y.examine s).1.keep_frame s a).2.2.1.trans hlocks
    have hreleased := releaseLock_new ((y.examine s).1.keep s a).1 s.key x.nextLock (by rw [hkept]; exact hl)
    rw [hkept] at hreleased
    refine hend ((y.examine s).1.keep s a).1 ((y.examine s).1.keep s a).2 ?_
    simp [alone, advance, hz, show z.store.peek? s.key s.fingerprint = none from hm', CallStage.refersTo,
      keep_withLocks, hreleased, z]

end Index

namespace World
variable {w : World}

/-- Calls that take steps do so as in a session. -/
theorem run_advance (w : World) (schedule : List Nat) :
    (w.run (schedule.map .advance)).session = w.session.run w.files schedule ∧
      (w.run (schedule.map .advance)).reactions = w.reactions := by
  induction schedule generalizing w with
  | nil => exact ⟨rfl, rfl⟩
  | cons i schedule ih =>
    obtain ⟨hfiles, hreactions⟩ : (w.advance i).files = w.files ∧ (w.advance i).reactions = w.reactions := by
      unfold advance
      cases w.calls[i]? <;> exact ⟨rfl, rfl⟩
    obtain ⟨hs, hr⟩ := ih (w.advance i)
    refine ⟨?_, hr.trans hreactions⟩
    calc (w.run ((i :: schedule).map .advance)).session
        = (w.advance i).session.run (w.advance i).files schedule := hs
      _ = w.session.run w.files (i :: schedule) := by rw [advance_session, hfiles]; rfl

theorem run_ask (w : World) (paths : List Path) :
    (w.run (paths.map .ask)).session = ⟨w.index, w.calls ++ paths.map .started⟩ ∧
      (w.run (paths.map .ask)).files = w.files := by
  induction paths generalizing w with
  | nil => simp [index, calls]
  | cons p paths ih =>
    obtain ⟨hs, hf⟩ := ih (w.ask p)
    exact ⟨hs.trans (by simp [ask, index, calls]), hf⟩

/-- Analysing some files is a run in which all are asked for, and the calls take their steps in turn. -/
theorem answersFor_eq_run (x : Index) (fs : FileSystem) (paths : List Path) :
    let schedule := Session.inTurn paths.length CallStage.lookUpSteps ++
      Session.inTurn paths.length CallStage.remainingSteps
    let w := (start x fs).run (paths.map .ask ++ schedule.map .advance)
    x.answersFor fs paths = (w.index, w.session.answers) := by
  intro schedule w
  obtain ⟨hs, hf⟩ := run_ask (start x fs) paths
  have hw : w.session = (Session.start x paths).run fs schedule := by
    simp only [w, run_append, (run_advance _ _).1, hs, hf]
    rfl
  simp only [Index.answersFor, index, hw]
  rfl

/-- Without a call, no step is taken. -/
theorem run_advance_idle (h : w.calls = []) (schedule : List Nat) : w.run (schedule.map .advance) = w := by
  induction schedule with
  | nil => rfl
  | cons i schedule ih =>
    have hstep : w.step (.advance i) = w := by simp [step, advance, h]
    rw [List.map_cons, run_cons, hstep, ih]

/-- A reaction that waits for the only call announces what it comes to. -/
theorem run_awaiting {x : Index} {fs : FileSystem} {p : Path} (hs : w.session = ⟨x, [.started p]⟩)
    (hf : w.files = fs) (hr : w.reactions = [.awaiting p 0]) :
    (w.run ((List.replicate 10 0).map .advance ++ [.react 0])).index = x.reindex fs p := by
  obtain ⟨hs', hr'⟩ := w.run_advance (List.replicate 10 0)
  rw [hs, hf, Index.run_alone, Index.alone_eq_analyze] at hs'
  rw [run_append]
  generalize w.run ((List.replicate 10 0).map .advance) = w' at hs' hr' ⊢
  simp only [run_cons, run_nil, step, react, hr', hr, List.getElem?_cons_zero, calls, hs', withIndex, index,
    Index.reindex]

/-- Following a message is a run in which the file is considered, analysed if need be, and the analysis
announced. -/
theorem apply_eq_run (x : Index) (fs : FileSystem) (m : WatchMessage) :
    x.apply fs m = ((start x fs).run (.follow m :: .react 0 ::
      ((List.replicate 10 0).map .advance ++ [.react 0]))).index := by
  rw [run_cons, run_cons]
  cases hm : m.changed? with
  | none =>
    have hw : ((start x fs).step (.follow m)).step (.react 0) = (start x fs).step (.follow m) := by
      simp [step, react, hm, start]
    rw [hw, run_append, run_advance_idle rfl]
    simp [step, react, hm, Index.apply, start, index, withIndex]
  | some c =>
    obtain ⟨p, f⟩ := c
    cases hw : (x.absorb m).wantsReindex p f with
    | false =>
      have hstep : ((start x fs).step (.follow m)).step (.react 0) =
          ⟨fs, ⟨x.absorb m, []⟩, [.settled], fun _ => none, []⟩ := by
        simp [step, react, hm, start, withIndex, index, hw, calls]
      rw [hstep, run_append, run_advance_idle rfl]
      simp [step, react, hm, hw, Index.apply, index]
    | true =>
      have hstep : ((start x fs).step (.follow m)).step (.react 0) =
          ⟨fs, ⟨x.absorb m, [.started p]⟩, [.awaiting p 0], fun _ => none, []⟩ := by
        simp [step, react, hm, start, withIndex, index, hw, ask, calls]
      rw [hstep, run_awaiting rfl rfl rfl]
      simp [Index.apply, hm, hw]

/-- What happens when a file is asked for, and again when the first call is finished. -/
def askTwice (p q : Path) : List Action :=
  .ask p :: List.replicate 10 (.advance 0) ++ .ask q :: List.replicate 3 (.advance 1)

/-- Of the first two calls for a file, one comes to the analysis of what it has read, and the other finds
it in the store, whatever the limits of the store are. -/
theorem run_askTwice {config : Config} {registry : Registry} {files : FileSystem} {p q : Path} {s : Source}
    {a : Analysis} (maxEntries maxBytes : Nat) (hp : Source.load files config (files.key p) = .ok s)
    (hq : Source.load files config (files.key q) = .ok s)
    (hs : (registry.analyzerFor? s).isSome = true) (ha : registry.analyze s = .ok a)
    (hf : a.fingerprint = s.fingerprint) :
    let w := (start (.over config registry (.new maxEntries maxBytes)) files).run (askTwice p q)
    w.calls = [.finished (.ok a), .finished (.ok a)] ∧ (∀ i, w.source? i = if i ≤ 1 then some s else none) ∧
      w.analyzed = [s] := by
  intro w
  have hcap : ¬ max 1 maxEntries ≤ 0 := by omega
  simp only [w, askTwice, List.replicate, List.cons_append, List.nil_append, run_cons, run_nil]
  simp [start, Index.over, Store.new, step, ask, advance, calls, index, Index.advance, hp, hq, Store.get,
    Store.find?, Index.lockOf, CallStage.holdsLock, Store.peek?, Index.examine, ha, hs, Index.keep,
    Store.put, hf, Store.push, hcap, Store.shrink, Index.announce, Index.releaseLock, CallStage.refersTo,
    Index.examined?, CallStage.read?, StoreEntry.isConsistent]
  intro i
  by_cases hi : i = 0
  · simp [hi]
  · by_cases hi' : i = 1
    · simp [hi']
    · simp [hi, hi', show ¬ i ≤ 1 by omega]

end World

/-! ### A script -/

namespace Script

/-- A file system with one file, a Python script with nothing in it. -/
def files : FileSystem := ⟨.directory [("a.py", .file ⟨#[]⟩)], []⟩

/-- What reading the script gives. -/
def source : Source := ⟨⟨"/a.py"⟩, ⟨#[]⟩, .ofBytes ⟨#[]⟩⟩

theorem key_eq : source.key = ⟨"/a.py"⟩ := rfl

theorem fingerprint_eq : source.fingerprint = .ofBytes source.content := rfl

/-- An analyzer that finds nothing in any text. -/
def analyzer : Analyzer :=
  ⟨.python, fun text => .ok (.ofErrors text .python (.documents []) []), fun _ => .ok []⟩

def registry : Registry := ⟨fun l => if l = .python then some analyzer else none⟩

/-- What the analyzer comes to. -/
def analysis : Analysis := .parsed source.key source.fingerprint ⟨.python, [], []⟩

theorem load : Source.load files .standard ⟨"/a.py"⟩ = .ok source :=
  Source.load_file (FileSystem.node_of_resolveIn 9 rfl) (Nat.zero_le _)

/-- The script goes by one key, however its path is spelled. -/
theorem load_key : Source.load files .standard (files.key ⟨"/a.py"⟩) = .ok source := by
  rw [show files.key ⟨"/a.py"⟩ = ⟨"/a.py"⟩ from FileSystem.key_of_resolveIn 9 rfl, load]

theorem load_key_dotted : Source.load files .standard (files.key ⟨"/./a.py"⟩) = .ok source := by
  rw [show files.key ⟨"/./a.py"⟩ = ⟨"/a.py"⟩ from FileSystem.key_of_resolveIn 9 rfl, load]

theorem analyzerFor? : registry.analyzerFor? source = some analyzer := by
  have hext : Path.extension? ⟨"/a.py"⟩ = some "py" := by decide +kernel
  have hlang : Language.ofPath ⟨"/a.py"⟩ = .python := by decide +kernel
  simp [Registry.analyzerFor?, source, Language.ofFile, hext, hlang, Registry.resolve?, registry]

theorem isSome_analyzerFor? : (registry.analyzerFor? source).isSome = true := by
  rw [analyzerFor?]
  rfl

theorem analyze : registry.analyze source = .ok analysis := by
  have hcontent : analyzer.analyzeContent ⟨#[]⟩ = .ok ⟨.python, [], []⟩ := by decide +kernel
  simp only [Registry.analyze, analyzerFor?, show source.content = ⟨#[]⟩ from rfl, hcontent, analysis]

end Script
end SymbolIndex
