import Mathlib.Data.List.Basic
import Mathlib.Data.List.Pairwise
import SymbolIndex.Proofs.Path.Order
import SymbolIndex.Watch.Debouncer

/-!
# What a debouncer lets go

The history of a debouncer is what was asked of it, call by call, with what it answered. Of one path, a
debouncer knows when its wait ends (`deadline?`): being recorded sets that time, being let go clears it, and
nothing else changes it (`deadline?_after`). So a path waits if it was recorded and has not been let go since
(`Distinct.deadline?_run`), and until it is recorded again, it is let go once or waits still
(`Distinct.releases_add_waits`), and never before its time (`Distinct.not_early`).
-/
namespace SymbolIndex
namespace Debouncer

/-- A call of a function of a debouncer. -/
inductive Operation
  | record (p : Path) (now : Nat)
  | takeDue (now : Nat)
  | drain

/-- What a call answers. -/
inductive Reply
  /-- Whether the path waited before. -/
  | recorded (superseded : Bool)
  | released (ps : List Path)

/-- Makes a call. -/
def perform (d : Debouncer) : Operation → Debouncer × Reply
  | .record p now => ((d.record p now).1, .recorded (d.record p now).2)
  | .takeDue now => ((d.takeDue now).1, .released (d.takeDue now).2)
  | .drain => (d.drain.1, .released d.drain.2)

/-- The debouncer after a call. -/
def after (d : Debouncer) (o : Operation) : Debouncer := (d.perform o).1

/-- The debouncer after some calls in order. -/
def run (d : Debouncer) (os : List Operation) : Debouncer := os.foldl after d

/-- Some calls in order, each with the answer that it gets. -/
def history (d : Debouncer) : List Operation → List (Operation × Reply)
  | [] => []
  | o :: os => (o, (d.perform o).2) :: (d.after o).history os

/-- When a path is recorded by a call, if it is. -/
def Operation.records? (p : Path) : Operation → Option Nat
  | record q now => if q.Same p then some now else none
  | _ => none

/-- Which waits are over for a call, by the times at which they end. -/
def Operation.due : Operation → Nat → Bool
  | record _ _ => fun _ => false
  | takeDue t => fun s => s ≤ t
  | drain => fun _ => true

/-- Whether an answer lets a path go. -/
def Reply.releases (p : Path) : Reply → Bool
  | released ps => ps.any (·.Same p)
  | recorded _ => false

/-- When the wait of a path ends, if it waits. -/
def deadline? (d : Debouncer) (p : Path) : Option Nat := (d.deadlines.find? (·.1.Same p)).map (·.2)

variable {d : Debouncer} {p q : Path} {s t now : Nat} {due : Nat → Bool} {o : Operation}

/-! ### One path at a time -/

/-- No path waits twice. -/
def Distinct (d : Debouncer) : Prop := d.deadlines.Pairwise fun e e' => ¬ e.1.Same e'.1

theorem isPending_eq (d : Debouncer) (p : Path) : d.isPending p = (d.deadline? p).isSome := by
  rw [isPending, deadline?, Option.isSome_map, Bool.eq_iff_iff, List.any_eq_true, List.find?_isSome]

theorem deadline?_eq_some (h : d.Distinct) :
    d.deadline? p = some t ↔ ∃ e ∈ d.deadlines, e.1.Same p ∧ e.2 = t := by
  constructor
  · intro hd
    obtain ⟨e, he, rfl⟩ := Option.map_eq_some_iff.1 hd
    exact ⟨e, List.mem_of_find?_eq_some he, by simpa using List.find?_some he, rfl⟩
  · rintro ⟨e, he, hp, rfl⟩
    obtain ⟨e', he'⟩ : ∃ e', d.deadlines.find? (·.1.Same p) = some e' :=
      Option.isSome_iff_exists.1 (List.find?_isSome.2 ⟨e, he, decide_eq_true hp⟩)
    have hp' : e'.1.Same p := by simpa using List.find?_some he'
    have : Std.Symm fun e e' : Path × Nat => ¬ e.1.Same e'.1 := ⟨fun _ _ hn hs => hn hs.symm⟩
    have heq : e' = e := by
      by_contra hne
      exact List.Pairwise.forall h (List.mem_of_find?_eq_some he') he hne (hp'.trans hp.symm)
    rw [deadline?, he', heq]
    rfl

/-! ### Recording -/

theorem record_snd (d : Debouncer) (p : Path) (now : Nat) : (d.record p now).2 = (d.deadline? p).isSome := by
  rw [← isPending_eq, record]
  split <;> simp [*]

/-- An entry when a path is recorded that waits already. -/
def postpone (p : Path) (t : Nat) (e : Path × Nat) : Path × Nat := if e.1.Same p then (e.1, t) else e

theorem postpone_fst (p : Path) (t : Nat) (e : Path × Nat) : (postpone p t e).1 = e.1 := by
  unfold postpone
  split <;> rfl

theorem record_of_isPending (h : d.isPending p = true) (now : Nat) :
    (d.record p now).1 = { d with deadlines := d.deadlines.map (postpone p (now + d.window)) } := by
  rw [record, if_pos h]
  rfl

theorem record_of_not_isPending (h : d.isPending p = false) (now : Nat) :
    (d.record p now).1 = { d with deadlines := d.deadlines ++ [(p, now + d.window)] } := by
  rw [record, if_neg (by simp [h])]

/-- Recording a path sets when its wait ends, and changes nothing for others. -/
theorem deadline?_record (d : Debouncer) (p : Path) (now : Nat) (q : Path) :
    (d.record p now).1.deadline? q = if p.Same q then some (now + d.window) else d.deadline? q := by
  cases hp : d.isPending p with
  | true =>
    -- The entry of the path stays where it is, with another time.
    have hkeys : (fun e : Path × Nat => decide (e.1.Same q)) ∘ postpone p (now + d.window) =
        fun e => decide (e.1.Same q) := by
      funext e
      rw [Function.comp_apply, postpone_fst]
    rw [record_of_isPending hp, deadline?, List.find?_map, hkeys, deadline?]
    cases hq : d.deadlines.find? (·.1.Same q) with
    | none =>
      have hn : ¬ p.Same q := fun hs => by
        obtain ⟨e, he, hep⟩ := List.any_eq_true.1 hp
        exact List.find?_eq_none.1 hq e he (decide_eq_true ((of_decide_eq_true hep).trans hs))
      rw [if_neg hn]
      rfl
    | some e =>
      have he : e.1.Same q := by simpa using List.find?_some hq
      by_cases hs : p.Same q
      · simp [postpone, hs, he.trans hs.symm]
      · have hep : ¬ e.1.Same p := fun h => hs (h.symm.trans he)
        simp [postpone, hs, hep]
  | false =>
    rw [record_of_not_isPending hp, deadline?, List.find?_append]
    by_cases hs : p.Same q
    · have hq : d.deadlines.find? (·.1.Same q) = none := List.find?_eq_none.2 fun e he heq => by
        exact List.any_eq_false.1 hp e he (decide_eq_true ((of_decide_eq_true heq).trans hs.symm))
      simp [hq, hs]
    · simp [deadline?, hs]

theorem Distinct.record (h : d.Distinct) (p : Path) (now : Nat) : (d.record p now).1.Distinct := by
  cases hp : d.isPending p with
  | true =>
    rw [record_of_isPending hp]
    refine List.pairwise_map.2 (h.imp fun {e e'} hn hs => hn ?_)
    rwa [postpone_fst, postpone_fst] at hs
  | false =>
    rw [record_of_not_isPending hp]
    refine List.pairwise_append.2 ⟨h, List.pairwise_singleton .., fun e he e' he' hs => ?_⟩
    rw [List.mem_singleton.1 he'] at hs
    exact List.any_eq_false.1 hp e he (decide_eq_true hs)

/-! ### Letting go -/

/-- Lets the paths go that are due. -/
def letGo (d : Debouncer) (due : Nat → Bool) : Debouncer × List Path :=
  ({ d with deadlines := d.deadlines.filter (!due ·.2) },
    Path.sorted ((d.deadlines.filter (due ·.2)).map (·.1)))

theorem takeDue_eq (d : Debouncer) (t : Nat) : d.takeDue t = d.letGo (· ≤ t) := by
  rw [takeDue, List.partition_eq_filter_filter]
  rfl

theorem drain_eq (d : Debouncer) : d.drain = d.letGo fun _ => true := by
  simp [drain, letGo]

theorem Distinct.letGo (h : d.Distinct) (due : Nat → Bool) : (d.letGo due).1.Distinct :=
  List.Pairwise.sublist List.filter_sublist h

theorem deadline?_letGo (h : d.Distinct) (due : Nat → Bool) (p : Path) :
    (d.letGo due).1.deadline? p = (d.deadline? p).filter (!due ·) := by
  refine Option.ext fun t => ?_
  rw [deadline?_eq_some (h.letGo due), Option.filter_eq_some_iff, deadline?_eq_some h]
  simp only [Debouncer.letGo, List.mem_filter]
  constructor
  · rintro ⟨e, ⟨he, hdue⟩, hp, rfl⟩
    exact ⟨⟨e, he, hp, rfl⟩, hdue⟩
  · rintro ⟨⟨e, he, hp, rfl⟩, hdue⟩
    exact ⟨e, ⟨he, hdue⟩, hp, rfl⟩

theorem releases_letGo (h : d.Distinct) (due : Nat → Bool) (p : Path) :
    (Reply.released (d.letGo due).2).releases p = (d.deadline? p).any due := by
  show (Path.sorted ((d.deadlines.filter (due ·.2)).map (·.1))).any (·.Same p) = _
  rw [(Path.sorted_perm _).any_eq, Bool.eq_iff_iff, List.any_map, List.any_filter, List.any_eq_true,
    Option.any_eq_true]
  simp only [deadline?_eq_some h, Bool.and_eq_true, Function.comp_apply, decide_eq_true_eq]
  constructor
  · rintro ⟨e, he, hdue, hp⟩
    exact ⟨e.2, ⟨e, he, hp, rfl⟩, hdue⟩
  · rintro ⟨t, ⟨e, he, hp, rfl⟩, hdue⟩
    exact ⟨e, he, hdue, hp⟩

theorem strict_letGo (h : d.Distinct) (due : Nat → Bool) :
    (d.letGo due).2.Pairwise fun p q => p.compare q = .lt := by
  refine Path.sorted_strict (List.pairwise_map.2 ?_)
  exact List.Pairwise.sublist List.filter_sublist h

/-! ### One call -/

theorem Distinct.after (h : d.Distinct) (o : Operation) : (d.after o).Distinct := by
  cases o with
  | record p now => exact h.record p now
  | takeDue t =>
    show (d.takeDue t).1.Distinct
    rw [takeDue_eq]
    exact h.letGo _
  | drain =>
    show d.drain.1.Distinct
    rw [drain_eq]
    exact h.letGo _

theorem window_after (d : Debouncer) (o : Operation) : (d.after o).window = d.window := by
  cases o with
  | record p now =>
    show (d.record p now).1.window = d.window
    unfold record
    split <;> rfl
  | _ => rfl

/-- A call lets a path go if its wait is over for the call. -/
theorem releases_perform (h : d.Distinct) (o : Operation) (p : Path) :
    (d.perform o).2.releases p = (d.deadline? p).any o.due := by
  cases o with
  | record q now => cases d.deadline? p <;> rfl
  | takeDue t => rw [perform, takeDue_eq, releases_letGo h]; rfl
  | drain => rw [perform, drain_eq, releases_letGo h]; rfl

/-- After a call, a path waits anew if it was recorded, and waits still if it was not let go. -/
theorem deadline?_after (h : d.Distinct) (o : Operation) (p : Path) : (d.after o).deadline? p =
    ((o.records? p).map (· + d.window)).or ((d.deadline? p).filter (!o.due ·)) := by
  cases o with
  | record q now =>
    show (d.record q now).1.deadline? p = _
    have hnone : (d.deadline? p).filter (!(Operation.record q now).due ·) = d.deadline? p := by
      cases d.deadline? p <;> rfl
    rw [deadline?_record, hnone, Operation.records?]
    split <;> rfl
  | takeDue t =>
    show (d.takeDue t).1.deadline? p = _
    rw [takeDue_eq, deadline?_letGo h]
    rfl
  | drain =>
    show d.drain.1.deadline? p = _
    rw [drain_eq, deadline?_letGo h]
    rfl

/-! ### Runs of calls -/

theorem Distinct.run (h : d.Distinct) (os : List Operation) : (d.run os).Distinct := by
  induction os generalizing d with
  | nil => exact h
  | cons o os ih => exact ih (h.after o)

theorem window_run (d : Debouncer) (os : List Operation) : (d.run os).window = d.window := by
  induction os generalizing d with
  | nil => rfl
  | cons o os ih => exact (ih (d.after o)).trans (d.window_after o)

theorem run_append (d : Debouncer) (os os' : List Operation) : d.run (os ++ os') = (d.run os).run os' :=
  List.foldl_append

/-- A path is neither recorded nor let go. -/
def Untouched (p : Path) (xs : List (Operation × Reply)) : Prop :=
  ∀ x ∈ xs, x.1.records? p = none ∧ x.2.releases p = false

/-- A path was recorded at a time, and was neither recorded again nor let go since. -/
inductive RecordedLast (p : Path) (now : Nat) : List (Operation × Reply) → Prop
  | here {x xs} (hx : x.1.records? p = some now) (hxs : Untouched p xs) : RecordedLast p now (x :: xs)
  | later {x xs} (h : RecordedLast p now xs) : RecordedLast p now (x :: xs)

theorem recordedLast_cons {x : Operation × Reply} {xs : List (Operation × Reply)} :
    RecordedLast p now (x :: xs) ↔ RecordedLast p now xs ∨ x.1.records? p = some now ∧ Untouched p xs := by
  constructor
  · rintro (⟨hx, hxs⟩ | h)
    · exact .inr ⟨hx, hxs⟩
    · exact .inl h
  · rintro (h | ⟨hx, hxs⟩)
    · exact .later h
    · exact .here hx hxs

/-- A path that waits after a call was recorded by it, or waited before and was not let go. -/
theorem deadline?_after_eq_some (h : d.Distinct) : (d.after o).deadline? p = some t ↔
    (∃ now, t = now + d.window ∧ o.records? p = some now) ∨
      d.deadline? p = some t ∧ o.records? p = none ∧ (d.perform o).2.releases p = false := by
  rw [deadline?_after h, releases_perform h]
  cases o.records? p with
  | some now =>
    constructor
    · intro hsome
      exact .inl ⟨now, (Option.some_inj.1 hsome).symm, rfl⟩
    · rintro (⟨now', rfl, hnow⟩ | ⟨-, hnone, -⟩)
      · rw [← Option.some_inj.1 hnow]
        rfl
      · cases hnone
  | none =>
    simp only [Option.map_none, Option.none_or, Option.filter_eq_some_iff, reduceCtorEq, and_false,
      exists_false, false_or, true_and]
    refine and_congr_right fun hd => ?_
    rw [hd, Option.any_some, Bool.not_eq_true']

/-- A path that waits was recorded last as long before its time as waits are, or has waited all along. -/
theorem Distinct.deadline?_run (h : d.Distinct) (os : List Operation) : (d.run os).deadline? p = some t ↔
    (∃ now, t = now + d.window ∧ RecordedLast p now (d.history os)) ∨
      d.deadline? p = some t ∧ Untouched p (d.history os) := by
  induction os generalizing d with
  | nil =>
    have hnil (now : Nat) : ¬ RecordedLast p now [] := nofun
    simp [show d.run [] = d from rfl, history, hnil, Untouched]
  | cons o os ih =>
    have hrun : d.run (o :: os) = (d.after o).run os := rfl
    have huntouched (x : Operation × Reply) (xs) : Untouched p (x :: xs) ↔
        (x.1.records? p = none ∧ x.2.releases p = false) ∧ Untouched p xs := List.forall_mem_cons
    rw [hrun, ih (h.after o), window_after, deadline?_after_eq_some h, history, huntouched]
    simp only [recordedLast_cons, and_or_left, exists_or, or_and_right, ← exists_and_right, and_assoc,
      or_assoc]

/-- While a path is not recorded again, it is let go once if it waits, or waits still. -/
theorem Distinct.releases_add_waits (h : d.Distinct) (os : List Operation)
    (hos : ∀ o ∈ os, o.records? p = none) :
    (d.history os).countP (·.2.releases p) + ((d.run os).deadline? p).isSome.toNat =
      (d.deadline? p).isSome.toNat := by
  induction os generalizing d with
  | nil => exact Nat.zero_add _
  | cons o os ih =>
    obtain ⟨ho, hos⟩ := List.forall_mem_cons.1 hos
    have hrest := ih (h.after o) hos
    have hstep : (if (d.perform o).2.releases p then 1 else 0) + ((d.after o).deadline? p).isSome.toNat =
        (d.deadline? p).isSome.toNat := by
      rw [releases_perform h, deadline?_after h, ho]
      cases d.deadline? p with
      | none => rfl
      | some s => cases hs : o.due s <;> simp [hs, Option.filter]
    rw [history, List.countP_cons, ← hstep, ← hrest, Nat.add_right_comm, Nat.add_comm]
    rfl

/-- While a path is not recorded again, it is not let go before its wait is over. -/
theorem Distinct.not_early (h : d.Distinct) (os : List Operation) (hos : ∀ o ∈ os, o.records? p = none)
    (ht : ∀ s, d.deadline? p = some s → s = t) :
    ∀ y ∈ d.history os, y.2.releases p = true → y.1.due t = true := by
  induction os generalizing d with
  | nil => exact nofun
  | cons o os ih =>
    obtain ⟨ho, hos⟩ := List.forall_mem_cons.1 hos
    refine List.forall_mem_cons.2 ⟨fun hrel => ?_, ih (h.after o) hos fun s hs => ?_⟩
    · rw [releases_perform h, Option.any_eq_true] at hrel
      obtain ⟨s, hs, hdue⟩ := hrel
      exact ht s hs ▸ hdue
    · rw [deadline?_after h, ho] at hs
      exact ht s (Option.filter_eq_some_iff.1 hs).1

/-! ### The first wait that ends -/

theorem nextDeadline?_eq_some (h : d.Distinct) : d.nextDeadline? = some t ↔
    (∃ p, d.deadline? p = some t) ∧ ∀ p s, d.deadline? p = some s → t ≤ s := by
  simp only [nextDeadline?, List.min?_eq_some_iff, List.mem_map, deadline?_eq_some h]
  constructor
  · rintro ⟨⟨e, he, rfl⟩, hleast⟩
    refine ⟨⟨e.1, e, he, Path.Same.refl _, rfl⟩, ?_⟩
    rintro p s ⟨e', he', -, rfl⟩
    exact hleast _ ⟨e', he', rfl⟩
  · rintro ⟨⟨p, e, he, -, rfl⟩, hleast⟩
    refine ⟨⟨e, he, rfl⟩, ?_⟩
    rintro _ ⟨e', he', rfl⟩
    exact hleast e'.1 _ ⟨e', he', Path.Same.refl _, rfl⟩

theorem nextDeadline?_eq_none : d.nextDeadline? = none ↔ ∀ p, d.deadline? p = none := by
  rw [nextDeadline?, List.min?_eq_none_iff, List.map_eq_nil_iff]
  constructor
  · intro hnil p
    rw [deadline?, hnil]
    rfl
  · refine fun hnone => List.eq_nil_iff_forall_not_mem.2 fun e he => ?_
    have := List.find?_eq_none.1 (Option.map_eq_none_iff.1 (hnone e.1)) e he
    simp at this

/-! ### What holds of every run -/

theorem Distinct.new (window : Nat) : (new window).Distinct := List.Pairwise.nil

theorem mem_letGo (h : d.Distinct) (due : Nat → Bool) (p : Path) :
    (∃ q ∈ (d.letGo due).2, q.Same p) ↔ ∃ s, due s = true ∧ d.deadline? p = some s := by
  have hrel := releases_letGo h due p
  rw [Reply.releases, Bool.eq_iff_iff, List.any_eq_true, Option.any_eq_true] at hrel
  simpa only [decide_eq_true_eq, and_comm] using hrel

theorem mem_takeDue (h : d.Distinct) (t : Nat) (p : Path) :
    (∃ q ∈ (d.takeDue t).2, q.Same p) ↔ ∃ s ≤ t, d.deadline? p = some s := by
  simpa only [takeDue_eq, decide_eq_true_eq] using mem_letGo h (· ≤ t) p

theorem mem_drain (h : d.Distinct) (p : Path) :
    (∃ q ∈ d.drain.2, q.Same p) ↔ ∃ s, d.deadline? p = some s := by
  simpa only [drain_eq, true_and] using mem_letGo h (fun _ => true) p

theorem takeDue_eq_nil (h : d.Distinct) : (d.takeDue t).2 = [] ↔ ∀ p s, d.deadline? p = some s → t < s := by
  constructor
  · intro hnil p s hs
    by_contra hle
    obtain ⟨q, hq, -⟩ := (mem_takeDue h t p).2 ⟨s, Nat.not_lt.1 hle, hs⟩
    exact List.not_mem_nil (hnil ▸ hq)
  · refine fun hlater => List.eq_nil_iff_forall_not_mem.2 fun q hq => ?_
    obtain ⟨s, hle, hs⟩ := (mem_takeDue h t q).1 ⟨q, hq, Path.Same.refl q⟩
    exact Nat.not_lt.2 hle (hlater q s hs)

/-- While a path that is recorded is not recorded again, it is let go once or waits still, and it is
not let go before its wait is over. -/
theorem Distinct.answered (h : d.Distinct) (p : Path) (now : Nat) {os : List Operation}
    (hos : ∀ o ∈ os, o.records? p = none) :
    ((d.after (.record p now)).history os).countP (·.2.releases p) +
        (((d.after (.record p now)).run os).deadline? p).isSome.toNat = 1 ∧
      ∀ y ∈ (d.after (.record p now)).history os, y.2.releases p = true →
        y.1.due (now + d.window) = true := by
  have hwaits : (d.after (.record p now)).deadline? p = some (now + d.window) :=
    (deadline?_record d p now p).trans (if_pos (Path.Same.refl p))
  constructor
  · rw [(h.after _).releases_add_waits os hos, hwaits]
    rfl
  · refine (h.after _).not_early os hos fun s hs => ?_
    exact Option.some_inj.1 (hs.symm.trans hwaits)

/-- A debouncer neither loses, repeats nor hurries a path. After every run of calls, the paths that
wait are those recorded since they were last let go, each until its last time of record plus the
window. Recording a path tells whether it waited; what is due is let go in strict order, once, and
nothing else; the next deadline is the least one. So of each time that a path is recorded, until it
is recorded again, the path is let go exactly once, never early, or it waits still. -/
theorem run_new_debounces (window : Nat) (os : List Operation) :
    let d := (new window).run os
    (∀ p t, d.deadline? p = some t ↔
      ∃ now, t = now + window ∧ RecordedLast p now ((new window).history os)) ∧
    (∀ p now, (d.record p now).2 = true ↔ ∃ t, d.deadline? p = some t) ∧
    (∀ t, (d.takeDue t).2.Pairwise (fun p q => p.compare q = .lt) ∧
      (∀ p, (∃ q ∈ (d.takeDue t).2, q.Same p) ↔ ∃ s ≤ t, d.deadline? p = some s) ∧
      ∀ p, (d.takeDue t).1.deadline? p = (d.deadline? p).filter (t < ·)) ∧
    (d.drain.2.Pairwise (fun p q => p.compare q = .lt) ∧
      (∀ p, (∃ q ∈ d.drain.2, q.Same p) ↔ ∃ s, d.deadline? p = some s) ∧
      ∀ p, d.drain.1.deadline? p = none) ∧
    (∀ t, d.nextDeadline? = some t ↔
      (∃ p, d.deadline? p = some t) ∧ ∀ p s, d.deadline? p = some s → t ≤ s) ∧
    (d.nextDeadline? = none ↔ ∀ p, d.deadline? p = none) ∧
    (∀ t, d.nextDeadline? = some t → (d.takeDue t).2 ≠ [] ∧ ∀ s < t, (d.takeDue s).2 = []) ∧
    ∀ before p now mid, os = before ++ .record p now :: mid → (∀ o ∈ mid, o.records? p = none) →
      let ys := ((new window).run (before ++ [.record p now])).history mid
      ys.countP (·.2.releases p) + (d.deadline? p).isSome.toNat = 1 ∧
        ∀ y ∈ ys, y.2.releases p = true → y.1.due (now + window) = true := by
  intro d
  have hnew : (new window).Distinct := .new window
  have h : d.Distinct := hnew.run os
  refine ⟨fun p t => ?waits, fun p now => ?record, fun t => ⟨?_, mem_takeDue h t, fun p => ?_⟩,
    ⟨?_, mem_drain h, fun p => ?_⟩, fun t => nextDeadline?_eq_some h, nextDeadline?_eq_none,
    fun t ht => ?next, fun before p now mid hos hmid => ?answered⟩
  case waits =>
    have hnone : (new window).deadline? p ≠ some t := nofun
    exact (hnew.deadline?_run os).trans (or_iff_left fun hp => hnone hp.1)
  case record => rw [record_snd, Option.isSome_iff_exists]
  case next =>
    obtain ⟨⟨p, hp⟩, hleast⟩ := (nextDeadline?_eq_some h).1 ht
    refine ⟨fun hnil => ?_, fun s hs => ?_⟩
    · exact Nat.lt_irrefl t ((takeDue_eq_nil h).1 hnil p t hp)
    · exact (takeDue_eq_nil h).2 fun q s' hq => Nat.lt_of_lt_of_le hs (hleast q s' hq)
  case answered =>
    have hrun : (new window).run (before ++ [.record p now]) =
        ((new window).run before).after (.record p now) := by
      rw [run_append]
      rfl
    have hd : d = (((new window).run before).after (.record p now)).run mid := by
      rw [show d = (new window).run os from rfl, hos, run_append]
      rfl
    have := (hnew.run before).answered p now hmid
    rwa [← hd, window_run, ← hrun] at this
  · rw [takeDue_eq]
    exact strict_letGo h _
  · have hlater : (fun s => !decide (s ≤ t)) = fun s => decide (t < s) :=
      funext fun s => by rw [← decide_not, decide_eq_decide, Nat.not_le]
    rw [takeDue_eq, deadline?_letGo h, hlater]
  · rw [drain_eq]
    exact strict_letGo h _
  · rw [drain_eq, deadline?_letGo h]
    cases d.deadline? p <;> rfl

/-- A burst on a path keeps it waiting until the burst is quiet, and then it is let go once. -/
theorem run_new_debounces_burst :
    let p : Path := ⟨"/repo/app.py"⟩
    let burst : List Operation := [.record p 0, .record p 50, .record p 100]
    let quiet : List Operation := [.takeDue 250, .takeDue 300]
    let d := (new 200).run burst
    (∀ o ∈ quiet, o.records? p = none) ∧ ((d.run quiet).deadline? p).isSome = false ∧
      (d.history quiet).countP (·.2.releases p) = 1 ∧
      (d.takeDue 250).2 = [] ∧ d.nextDeadline? = some 300 := by
  intro p burst quiet d
  have hquiet : ∀ o ∈ quiet, o.records? p = none := by simp [quiet, Operation.records?]
  have hwaits : ((d.run quiet).deadline? p).isSome = false := by decide +kernel
  have hnext : d.nextDeadline? = some 300 := by decide +kernel
  obtain ⟨-, -, -, -, -, -, hfirst, -⟩ := run_new_debounces 200 burst
  obtain ⟨-, -, -, -, -, -, -, hanswered⟩ := run_new_debounces 200 (burst ++ quiet)
  have honce : (d.history quiet).countP (·.2.releases p) + ((d.run quiet).deadline? p).isSome.toNat = 1 :=
    (hanswered [.record p 0, .record p 50] p 100 quiet rfl hquiet).1
  rw [hwaits] at honce
  exact ⟨hquiet, hwaits, honce, (hfirst 300 hnext).2 250 (by decide), hnext⟩

end Debouncer
end SymbolIndex
