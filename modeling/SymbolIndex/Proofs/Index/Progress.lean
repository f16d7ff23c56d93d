import SymbolIndex.Proofs.Index.Alone

/-!
# Calls come to an end

A step brings a call nearer to its end, unless the call is finished or waits for another one, and then it
changes nothing (`Session.step_cases`). Whoever holds a lock never waits, so as long as a call is not
finished some call can move on, and rounds in which every call has a turn finish all calls
(`Session.finished_of_rounds`). So does the order in which all calls first look up the store, one after
the other, and then take all that is left, since none of them ever meets a lock that is held
(`Session.finished_inTurn`).
-/
namespace SymbolIndex

/-- What a step leaves of a call is nearer to the end, unless the call is finished or has to wait. -/
theorem Index.Advance.stepsLeft_lt {x x' : Index} {fs : FileSystem} {calls : List CallStage}
    {c c' : CallStage} (h : Advance x fs calls c x' c') : c'.stepsLeft < c.stepsLeft ∨
      x' = x ∧ c' = c ∧ ((∃ r, c = .finished r) ∨
        ∃ s n, c = .waiting s n ∧ calls.any (·.holdsLock n) = true) := by
  cases h with
  | wait s n hn => exact .inr ⟨rfl, rfl, .inr ⟨s, n, rfl, hn⟩⟩
  | rest r => exact .inr ⟨rfl, rfl, .inl ⟨r, rfl⟩⟩
  | load key => cases Source.load fs x.config key <;> simp [CallStage.stepsLeft]
  | _ => exact .inl (by simp [CallStage.stepsLeft])

/-- The call holds no lock. -/
def CallStage.IsFree (c : CallStage) : Prop := ∀ n, c.holdsLock n = false

/-- The call has looked up the store and not gone on from there. -/
def CallStage.LookedUp (c : CallStage) : Prop := (∃ r, c = .finished r) ∨ ∃ t, c = .missed t

/-- A call looks up the store once it has read its file. -/
theorem Index.Advance.lookedUp {x x' : Index} {fs : FileSystem} {calls : List CallStage} {c' : CallStage}
    {key : Path} {outcome : Except IndexError Source} (h : Advance x fs calls (.loaded key outcome) x' c') :
    c'.LookedUp := by
  cases h with
  | fail key e => exact .inl ⟨_, rfl⟩
  | hit key t a h => exact .inl ⟨_, rfl⟩
  | miss key t h => exact .inr ⟨t, rfl⟩

namespace Session

variable {fs : FileSystem} {s : Session} {c : CallStage} {i : Nat}

/-- The steps that are left of all calls. -/
def stepsLeft (s : Session) : Nat := (s.calls.map CallStage.stepsLeft).sum

/-- All calls are finished. -/
def Finished (s : Session) : Prop := ∀ c ∈ s.calls, ∃ r, c = .finished r

theorem finished_iff : s.Finished ↔ s.stepsLeft = 0 := by
  rw [stepsLeft, List.sum_eq_zero_iff_forall_eq_nat, List.forall_mem_map]
  refine forall₂_congr fun c _ => ⟨?_, CallStage.finished_of_stepsLeft⟩
  rintro ⟨r, rfl⟩
  rfl

theorem sum_set_lt {calls : List CallStage} {c' : CallStage} (hc : calls[i]? = some c)
    (h : c'.stepsLeft < c.stepsLeft) :
    ((calls.set i c').map CallStage.stepsLeft).sum < (calls.map CallStage.stepsLeft).sum := by
  induction calls generalizing i with
  | nil => cases hc
  | cons d calls ih =>
    cases i with
    | zero => cases hc; simpa using h
    | succ i => simpa using ih hc

theorem step_eq (hc : s.calls[i]? = some c) : s.step fs i =
    ⟨(s.index.advance fs s.calls c).1, s.calls.set i (s.index.advance fs s.calls c).2⟩ := by
  unfold step
  rw [hc]

/-- A step brings the calls nearer to their end or changes nothing. -/
theorem step_cases (fs : FileSystem) (s : Session) (i : Nat) :
    (s.step fs i).stepsLeft < s.stepsLeft ∨ s.step fs i = s := by
  cases hc : s.calls[i]? with
  | none => exact .inr (by rw [step, hc])
  | some c =>
    rw [step_eq hc]
    rcases (s.index.advance_cases fs s.calls c).stepsLeft_lt with hlt | ⟨hx, hc', -⟩
    · exact .inl (sum_set_lt hc hlt)
    · obtain ⟨hi, hget⟩ := List.getElem?_eq_some_iff.1 hc
      refine .inr ?_
      rw [hx, hc', ← hget, List.set_getElem_self hi]

/-- If no call can move on, all are finished: one that waits, waits for one that does not. -/
theorem finished_of_stuck (h : ∀ i < s.calls.length, s.step fs i = s) : s.Finished := by
  have stuck : ∀ (i : Nat) (c : CallStage), s.calls[i]? = some c → (∃ r, c = .finished r) ∨
      ∃ t n, c = .waiting t n ∧ s.calls.any (·.holdsLock n) = true := by
    intro i c hc
    have hstep := h i (List.getElem?_eq_some_iff.1 hc).1
    rw [step_eq hc] at hstep
    rcases (s.index.advance_cases fs s.calls c).stepsLeft_lt with hlt | ⟨-, -, hstuck⟩
    · exact absurd (congrArg stepsLeft hstep) (Nat.ne_of_lt (sum_set_lt hc hlt))
    · exact hstuck
  intro c hc
  obtain ⟨i, hi⟩ := List.mem_iff_getElem?.1 hc
  refine (stuck i c hi).resolve_right ?_
  rintro ⟨t, n, -, hn⟩
  obtain ⟨d, hd, hdn⟩ := List.any_eq_true.1 hn
  obtain ⟨j, hj⟩ := List.mem_iff_getElem?.1 hd
  rcases stuck j d hj with ⟨r, rfl⟩ | ⟨t, m, rfl, -⟩ <;> cases hdn

theorem length_run (fs : FileSystem) (s : Session) (schedule : List Nat) :
    (s.run fs schedule).calls.length = s.calls.length := by
  induction schedule generalizing s with
  | nil => rfl
  | cons i schedule ih =>
    refine (ih (s.step fs i)).trans ?_
    cases hc : s.calls[i]? with
    | none => rw [step, hc]
    | some c => rw [step_eq hc, List.length_set]

/-- Calls that are finished stay as they are. -/
theorem Finished.run_eq (h : s.Finished) (schedule : List Nat) : s.run fs schedule = s := by
  induction schedule with
  | nil => rfl
  | cons i schedule ih =>
    have hstep : s.step fs i = s := by
      refine (step_cases fs s i).resolve_left fun hlt => ?_
      rw [finished_iff.1 h] at hlt
      cases hlt
    show (s.step fs i).run fs schedule = s
    rw [hstep, ih]

/-- Some steps bring the calls nearer to their end, or none of them changes anything. -/
theorem run_cases (fs : FileSystem) (s : Session) (schedule : List Nat) :
    (s.run fs schedule).stepsLeft < s.stepsLeft ∨ s.run fs schedule = s ∧
    ∀ i ∈ schedule, s.step fs i = s := by
  induction schedule generalizing s with
  | nil => exact .inr ⟨rfl, nofun⟩
  | cons i schedule ih =>
    have hrest := ih (s.step fs i)
    rcases step_cases fs s i with hlt | hstep
    · refine .inl ?_
      rcases hrest with hrest | ⟨hrest, -⟩
      · exact Nat.lt_trans hrest hlt
      · show ((s.step fs i).run fs schedule).stepsLeft < _
        rwa [hrest]
    · rw [hstep] at hrest
      rcases hrest with hrest | ⟨hrest, hall⟩
      · refine .inl ?_
        show ((s.step fs i).run fs schedule).stepsLeft < _
        rwa [hstep]
      · refine .inr ⟨?_, fun j hj => ?_⟩
        · show (s.step fs i).run fs schedule = s
          rw [hstep, hrest]
        · rcases List.mem_cons.1 hj with rfl | hj
          · exact hstep
          · exact hall j hj

/-- In rounds in which every call has a turn, all calls are finished after as many rounds as steps are
left of all of them. -/
theorem finished_of_rounds (rounds : List (List Nat))
    (hall : ∀ round ∈ rounds, ∀ i < s.calls.length, i ∈ round)
    (hn : s.stepsLeft ≤ rounds.length) : (s.run fs rounds.flatten).Finished := by
  induction rounds generalizing s with
  | nil => exact finished_iff.2 (Nat.le_zero.1 hn)
  | cons round rounds ih =>
    have hrun : s.run fs (round :: rounds).flatten = (s.run fs round).run fs rounds.flatten := by
      rw [List.flatten_cons]
      exact List.foldl_append
    rw [hrun]
    rcases run_cases fs s round with hlt | ⟨heq, hstuck⟩
    · refine ih (fun r hr i hi => hall r (by simp [hr]) i ?_) ?_
      · rwa [length_run] at hi
      · rw [List.length_cons] at hn
        omega
    · have hfin : s.Finished := finished_of_stuck fun i hi => hstuck i (hall round (by simp) i hi)
      rwa [heq, hfin.run_eq]

theorem stepsLeft_start (x : Index) (paths : List Path) : (start x paths).stepsLeft = 10 * paths.length := by
  unfold stepsLeft start
  induction paths with
  | nil => rfl
  | cons p paths ih =>
    rw [List.map_cons, List.map_cons, List.sum_cons, ih, List.length_cons, CallStage.stepsLeft]
    omega

/-! ### One call after the other -/

/-- A call that meets no lock that is held comes nearer to its end with its next step. -/
theorem stepsLeft_advance_le (fs : FileSystem) (hc : s.calls[i]? = some c)
    (hfree : ∀ j d, j ≠ i → s.calls[j]? = some d → d.IsFree) :
    (s.index.advance fs s.calls c).2.stepsLeft ≤ c.stepsLeft - 1 := by
  rcases (s.index.advance_cases fs s.calls c).stepsLeft_lt with hlt | ⟨-, hdc, ⟨r, rfl⟩ | ⟨t, n, rfl, hn⟩⟩
  · omega
  · rw [hdc]
    exact Nat.zero_le _
  · -- Nobody else holds the lock, and who waits for it does not.
    obtain ⟨e, he, hen⟩ := List.any_eq_true.1 hn
    obtain ⟨j, hj⟩ := List.mem_iff_getElem?.1 he
    by_cases hji : j = i
    · rw [hji, hc] at hj
      cases hj
      cases hen
    · rw [hfree j e hji hj n] at hen
      cases hen

/-- A call that meets no lock that is held comes nearer to its end with each of its steps. -/
theorem run_replicate (fs : FileSystem) (hc : s.calls[i]? = some c)
    (hfree : ∀ j d, j ≠ i → s.calls[j]? = some d → d.IsFree) (k : Nat) :
    ∃ c', (s.run fs (List.replicate k i)).calls = s.calls.set i c' ∧ c'.stepsLeft ≤ c.stepsLeft - k := by
  induction k generalizing s c with
  | zero =>
    obtain ⟨hi, rfl⟩ := List.getElem?_eq_some_iff.1 hc
    exact ⟨_, (List.set_getElem_self hi).symm, Nat.le_refl _⟩
  | succ k ih =>
    have hle := stepsLeft_advance_le fs hc hfree
    have hstep : (s.step fs i).calls = s.calls.set i _ := congrArg calls (step_eq hc)
    generalize (s.index.advance fs s.calls c).2 = d at hle hstep
    have hi := (List.getElem?_eq_some_iff.1 hc).1
    have hself : (s.step fs i).calls[i]? = some d := by rw [hstep, List.getElem?_set_self hi]
    have hothers : ∀ j e, j ≠ i → (s.step fs i).calls[j]? = some e → e.IsFree := fun j e hji he =>
      hfree j e hji (by rwa [hstep, List.getElem?_set_ne (Ne.symm hji)] at he)
    obtain ⟨c', hrun, hc'⟩ := ih hself hothers
    refine ⟨c', ?_, by omega⟩
    rw [hstep, List.set_set] at hrun
    exact hrun

/-- With its first steps, a call looks up the store. -/
theorem run_lookUp (fs : FileSystem) {p : Path} (hc : s.calls[i]? = some (.started p)) :
    ∃ c', (s.run fs (List.replicate CallStage.lookUpSteps i)).calls = s.calls.set i c' ∧ c'.LookedUp := by
  have hi := (List.getElem?_eq_some_iff.1 hc).1
  obtain ⟨outcome, houtcome⟩ : ∃ o, Source.load fs s.index.config (fs.key p) = o := ⟨_, rfl⟩
  have hlocated : s.step fs i = ⟨s.index, s.calls.set i (.located (fs.key p))⟩ := step_eq hc
  have hloaded : (s.step fs i).step fs i = ⟨s.index, s.calls.set i (.loaded (fs.key p) outcome)⟩ := by
    rw [hlocated, step_eq (List.getElem?_set_self hi), List.set_set]
    simp only [Index.advance, houtcome]
  obtain ⟨c', hc'⟩ : ∃ c', (s.index.advance fs (s.calls.set i (.loaded (fs.key p) outcome))
    (.loaded (fs.key p) outcome)).2 = c' := ⟨_, rfl⟩
  refine ⟨c', ?_, ?_⟩
  · show (((s.step fs i).step fs i).step fs i).calls = _
    rw [hloaded, step_eq (List.getElem?_set_self hi), List.set_set, hc']
  · rw [← hc']
    exact (Index.advance_cases ..).lookedUp

/-- With all the steps that are left, a call that has looked up the store is finished. -/
theorem run_remaining (fs : FileSystem) (hc : s.calls[i]? = some c) (hl : c.LookedUp)
    (hfree : ∀ j d, j ≠ i → s.calls[j]? = some d → d.IsFree) :
    ∃ c', (s.run fs (List.replicate CallStage.remainingSteps i)).calls = s.calls.set i c' ∧
      ∃ r, c' = .finished r := by
  obtain ⟨c', hrun, hle⟩ := run_replicate fs hc hfree CallStage.remainingSteps
  refine ⟨c', hrun, CallStage.finished_of_stepsLeft (Nat.le_zero.1 (Nat.le_trans hle ?_))⟩
  rcases hl with ⟨r, rfl⟩ | ⟨t, rfl⟩ <;> exact Nat.le_refl 0

/-- All calls take some steps, one call after the other, and none holds a lock before or after its own. -/
theorem run_inTurn (fs : FileSystem) {P Q : CallStage → Prop} {k : Nat} (hP : ∀ c, P c → c.IsFree)
    (hQ : ∀ c, Q c → c.IsFree)
    (hturn : ∀ (s : Session) (i : Nat) (c : CallStage), s.calls[i]? = some c → P c →
      (∀ j d, j ≠ i → s.calls[j]? = some d → d.IsFree) →
      ∃ c', (s.run fs (List.replicate k i)).calls = s.calls.set i c' ∧ Q c')
    (h : ∀ c ∈ s.calls, P c) : ∀ c ∈ (s.run fs (inTurn s.calls.length k)).calls, Q c := by
  -- After the turns of the first calls, these are done, and the others are as they were.
  have turns : ∀ n ≤ s.calls.length, ∀ j d, (s.run fs (inTurn n k)).calls[j]? = some d →
      (j < n → Q d) ∧ (n ≤ j → P d) := by
    intro n hn
    induction n with
    | zero => exact fun j d hd => ⟨nofun, fun _ => h d (List.mem_of_getElem? hd)⟩
    | succ n ih =>
      have hprev := ih (Nat.le_of_succ_le hn)
      have hlength := length_run fs s (inTurn n k)
      have hrun : s.run fs (inTurn (n + 1) k) = (s.run fs (inTurn n k)).run fs (List.replicate k n) := by
        rw [inTurn, List.range_succ, List.flatMap_append, List.flatMap_singleton]
        exact List.foldl_append
      generalize s.run fs (inTurn n k) = t at hprev hrun hlength
      have hc := List.getElem?_eq_getElem (show n < t.calls.length by omega)
      have hfree : ∀ j d, j ≠ n → t.calls[j]? = some d → d.IsFree := by
        intro j d _ hd
        rcases Nat.lt_or_ge j n with hjn | hjn
        · exact hQ d ((hprev j d hd).1 hjn)
        · exact hP d ((hprev j d hd).2 hjn)
      obtain ⟨c', hcalls, hc'⟩ := hturn t n _ hc ((hprev n _ hc).2 (Nat.le_refl n)) hfree
      intro j d hd
      rw [hrun, hcalls] at hd
      rcases CallStage.getElem?_set_cases hd with ⟨rfl, rfl⟩ | ⟨hjn, hd⟩
      · exact ⟨fun _ => hc', fun hle => absurd hle (Nat.not_succ_le_self j)⟩
      · exact ⟨fun hlt => (hprev j d hd).1 (by omega), fun hle => (hprev j d hd).2 (by omega)⟩
  intro c hc
  obtain ⟨j, hj⟩ := List.mem_iff_getElem?.1 hc
  have hlt := (List.getElem?_eq_some_iff.1 hj).1
  rw [length_run] at hlt
  exact (turns s.calls.length (Nat.le_refl _) j c hj).1 hlt

/-- The order in which an index takes the steps of its calls finishes them. -/
theorem finished_inTurn (x : Index) (fs : FileSystem) (paths : List Path) :
    ((start x paths).run fs (inTurn paths.length CallStage.lookUpSteps ++
      inTurn paths.length CallStage.remainingSteps)).Finished := by
  have hlength : (start x paths).calls.length = paths.length := List.length_map ..
  have free_of_started : ∀ c : CallStage, (∃ p, c = .started p) → c.IsFree := by
    rintro _ ⟨p, rfl⟩
    exact fun _ => rfl
  have free_of_lookedUp : ∀ c : CallStage, c.LookedUp → c.IsFree := by
    rintro _ (⟨r, rfl⟩ | ⟨t, rfl⟩) <;> exact fun _ => rfl
  have hlooked : ∀ c ∈ ((start x paths).run fs (inTurn paths.length CallStage.lookUpSteps)).calls,
      c.LookedUp := by
    rw [← hlength]
    refine run_inTurn fs free_of_started free_of_lookedUp ?_ (by simp [start])
    rintro s i _ hc ⟨p, rfl⟩ -
    exact run_lookUp fs hc
  have hfinished := run_inTurn fs free_of_lookedUp (fun c hc => free_of_lookedUp c (.inl hc))
    (fun s i c hc hl hfree => run_remaining fs hc hl hfree) hlooked
  rw [length_run, hlength] at hfinished
  rw [show (start x paths).run fs _ = _ from List.foldl_append]
  exact hfinished

end Session
end SymbolIndex
