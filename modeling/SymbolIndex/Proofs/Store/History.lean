import SymbolIndex.Proofs.Store.Invariant

/-!
# What a store gives out, by its history

The history of a store is what was asked of it, call by call, with what it answered. `Stored` and
`Dropped` say of a single entry of a history that an analysis was put under a path, and that the analysis
of a path for a content had to leave; whether a put makes other paths leave is read off its answer alone.
One call changes what is given out for a path in these two ways only (`Sound.follows`), so a
store gives out what was stored last and has not been dropped since, and nothing else
(`run_new_get_iff`).
-/
namespace SymbolIndex
namespace Store
open StoreEntry

/-- A call with its answer. -/
abbrev Exchange := Operation × Reply

/-- A call of a store with the answer that it gets. -/
def exchange (s : Store) (o : Operation) : Exchange := (o, (s.perform o).2)

/-- Some calls in order, each with the answer that it gets. -/
def history (s : Store) : List Operation → List Exchange
  | [] => []
  | o :: os => s.exchange o :: (s.after o).history os

/-- An analysis was put under a path for a content. -/
inductive Stored (p : Path) (a : Analysis) (f : Fingerprint) : Exchange → Prop
  | put (q : Path) (gone : List Path) (hq : q.Same p) : Stored p a f (.put q a f, .stored gone)

/-- What there was for a path and a content had to leave. -/
inductive Dropped (p : Path) (f : Fingerprint) : Exchange → Prop
  | invalidated (q : Path) (r : Reply) (hq : q.Same p) : Dropped p f (.invalidate q, r)
  | cleared (r : Reply) : Dropped p f (.invalidateAll, r)
  /-- The content was said to be another one. -/
  | changed (q : Path) (g : Fingerprint) (r : Reply) (hq : q.Same p) (hg : g ≠ f) :
      Dropped p f (.invalidateIfChanged q g, r)
  | removedTree (dir : Path) (r : Reply) (hp : dir.isUnder p = true) : Dropped p f (.invalidateUnder dir, r)
  /-- A put has answered that it gave way. -/
  | evicted (q : Path) (b : Analysis) (g : Fingerprint) (gone : List Path) (k : Path) (hk : k ∈ gone)
      (hs : k.Same p) : Dropped p f (.put q b g, .stored gone)

/-- What there was for a path and a content was neither replaced nor dropped. -/
structure Spared (p : Path) (f : Fingerprint) (x : Exchange) : Prop where
  not_dropped : ¬ Dropped p f x
  not_stored : ∀ b g, ¬ Stored p b g x

variable {s t : Store} {p q : Path} {a b : Analysis} {f g : Fingerprint} {r : Reply} {o : Operation}
  {x : Exchange}

/-! ### What one call does to a path -/

/-- What is given out for a path and a content depends on the entries for them only. -/
theorem peek?_congr (hs : s.Counted) (ht : t.Counted)
    (h : ∀ e : StoreEntry, e.key.Same p → e.fingerprint = f → (e ∈ t.entries ↔ e ∈ s.entries)) :
    t.peek? p f = s.peek? p f := by
  refine Option.ext fun a => ?_
  rw [peek?_eq_some ht, peek?_eq_some hs]
  constructor
  · rintro ⟨e, he, hk, hf, ha⟩
    exact ⟨e, (h e hk hf).1 he, hk, hf, ha⟩
  · rintro ⟨e, he, hk, hf, ha⟩
    exact ⟨e, (h e hk hf).2 he, hk, hf, ha⟩

theorem peek?_eq_none (ht : t.Counted) (h : ∀ e ∈ t.entries, e.key.Same p → e.fingerprint ≠ f) :
    t.peek? p f = none := by
  refine Option.eq_none_iff_forall_ne_some.2 fun a ha => ?_
  obtain ⟨e, he, hk, hf, -⟩ := (peek?_eq_some ht).1 ha
  exact h e he hk hf

/-- How what is given out for a path and a content comes about in an exchange. -/
def Follows (s t : Store) (p : Path) (f : Fingerprint) (x : Exchange) : Prop :=
  ∀ a, t.peek? p f = some a ↔ Stored p a f x ∨ s.peek? p f = some a ∧ Spared p f x

theorem Spared.follows (hx : Spared p f x) (ht : t.peek? p f = s.peek? p f) : Follows s t p f x := by
  intro a
  rw [ht]
  constructor
  · exact fun ha => .inr ⟨ha, hx⟩
  · rintro (hst | ⟨ha, -⟩)
    · exact absurd hst (hx.not_stored a f)
    · exact ha

theorem Dropped.follows (hx : Dropped p f x) (hn : x.1.isPut = false) (ht : t.peek? p f = none) :
    Follows s t p f x := by
  intro a
  rw [ht]
  constructor
  · exact fun ha => by cases ha
  · rintro (⟨q, gone, hq⟩ | ⟨-, hsp⟩)
    · cases hn
    · exact absurd hx hsp.not_dropped

theorem spared_of_not_dropped (hx : ¬ Dropped p f (o, r)) (hn : o.isPut = false) : Spared p f (o, r) where
  not_dropped := hx
  not_stored := by
    rintro b g ⟨q, gone, hq⟩
    cases hn

/-- A put under the path itself replaces what was there, whatever content that was for. -/
theorem Sound.follows_put_same (h : s.Sound) (ha : a.fingerprint = g) (hq : q.Same p) :
    Follows s (s.after (.put q a g)) p f (s.exchange (.put q a g)) := by
  obtain ⟨kept, dropped, -, -, -, heq⟩ := put_eq (p := q) h.toCounted a ha
  have hfind : (s.after (.put q a g)).find? p = some (s.front ⟨q, a, g, a.size⟩) := by
    refine find?_of_mem (h.after _).distinct ?_ ((front_same s _).trans hq)
    simp only [Store.after, perform, heq]
    exact List.mem_cons_self
  have hx : s.exchange (.put q a g) = (.put q a g, .stored (dropped.reverse.map (·.key))) := by
    simp only [exchange, perform, heq]
  intro b
  have hpeek : (s.after (.put q a g)).peek? p f = some b ↔ g = f ∧ a = b := by
    simp [peek?, hfind, front, Option.filter, StoreEntry.answers, StoreEntry.isConsistent, ha]
  rw [hpeek, hx]
  constructor
  · rintro ⟨rfl, rfl⟩
    exact .inl ⟨q, _, hq⟩
  · rintro (hst | ⟨-, hsp⟩)
    · cases hst
      exact ⟨rfl, rfl⟩
    · exact absurd (.put q _ hq) (hsp.not_stored a g)

/-- A put under another path answers whether the path gave way. -/
theorem Sound.follows_put_other (h : s.Sound) (ha : a.fingerprint = g) (hq : ¬ q.Same p) :
    Follows s (s.after (.put q a g)) p f (s.exchange (.put q a g)) := by
  obtain ⟨kept, dropped, hsplit, -, -, heq⟩ := put_eq (p := q) h.toCounted a ha
  have hx : s.exchange (.put q a g) = (.put q a g, .stored (dropped.reverse.map (·.key))) := by
    simp only [exchange, perform, heq]
  have hbefore : ∀ e : StoreEntry, e.key.Same p → (e ∈ s.entries ↔ e ∈ kept ∨ e ∈ dropped) := by
    intro e hk
    rw [← List.mem_append, ← hsplit, mem_others]
    exact ⟨fun he => ⟨he, fun hs => hq (hs.symm.trans hk)⟩, And.left⟩
  have hafter : ∀ e : StoreEntry, e.key.Same p → (e ∈ (s.after (.put q a g)).entries ↔ e ∈ kept) := by
    intro e hk
    simp only [Store.after, perform, heq, List.mem_cons]
    refine or_iff_right ?_
    rintro rfl
    exact hq ((front_same s _).symm.trans hk)
  have hdist : Distinct (kept ++ dropped) := hsplit ▸ h.distinct.sublist others_sublist
  have hst : ∀ b g', ¬ Stored p b g' (.put q a g, .stored (dropped.reverse.map (·.key))) := by
    rintro b g' ⟨⟩
    exact hq ‹_›
  intro b
  rw [hx, peek?_eq_some (h.after _).toCounted, peek?_eq_some h.toCounted]
  constructor
  · rintro ⟨e, he, hk, hf, hb⟩
    have he := (hafter e hk).1 he
    refine .inr ⟨⟨e, (hbefore e hk).2 (.inl he), hk, hf, hb⟩, ?_, hst⟩
    -- Two entries for one path: one that stayed and one that gave way.
    rintro (_ | _ | _ | _ | ⟨-, -, -, -, k, hgone, hs⟩)
    obtain ⟨d, hd, rfl⟩ := List.mem_map.1 hgone
    exact (List.pairwise_append.1 hdist).2.2 e he d (List.mem_reverse.1 hd) (hk.trans hs.symm)
  · rintro (hstored | ⟨⟨e, he, hk, hf, hb⟩, hsp⟩)
    · exact absurd hstored (hst b f)
    · rcases (hbefore e hk).1 he with he | he
      · exact ⟨e, (hafter e hk).2 he, hk, hf, hb⟩
      · refine absurd ?_ hsp.not_dropped
        exact .evicted q a g _ e.key (List.mem_map_of_mem (List.mem_reverse.2 he)) hk

theorem mem_after_invalidateIfChanged (h : s.Counted) {e : StoreEntry} :
    e ∈ (s.after (.invalidateIfChanged q g)).entries ↔ e ∈ s.entries ∧
    (e.key.Same q → e.fingerprint = g) := by
  simp only [Store.after, perform, invalidateIfChanged_eq h]
  cases hq : s.find? q with
  | none =>
    have hnone := find?_eq_none.1 hq
    simp only [Option.any_none]
    exact ⟨fun he => ⟨he, fun hs => absurd hs (hnone e he)⟩, And.left⟩
  | some d =>
    have hd : ∀ {e : StoreEntry}, e ∈ s.entries → e.key.Same q → e = d := fun he hs =>
      h.distinct.eq_of_same he (mem_of_find? hq) (hs.trans (same_of_find? hq).symm)
    by_cases hg : d.fingerprint = g
    · simp only [Option.any_some, hg, ne_eq, not_true_eq_false, decide_false]
      exact ⟨fun he => ⟨he, fun hs => hd he hs ▸ hg⟩, And.left⟩
    · simp only [Option.any_some, ne_eq, hg, not_false_eq_true, decide_true, if_true, remove_eq h, mem_others]
      exact and_congr_right fun he => ⟨fun hn hs => absurd hs hn, fun hs hq => hg (hd he hq ▸ hs hq)⟩

/-- A call that keeps some of the entries, and of those for a path and a content all unless it drops
them. -/
theorem Sound.follows_filter (h : s.Sound) (hn : o.isPut = false) (keeps : StoreEntry → Bool)
    (hmem : ∀ e, e ∈ (s.after o).entries ↔ e ∈ s.entries ∧ keeps e = true)
    (hkeeps : ∀ e : StoreEntry, e.key.Same p → e.fingerprint = f →
      (keeps e = false ↔ Dropped p f (s.exchange o))) :
    Follows s (s.after o) p f (s.exchange o) := by
  by_cases hx : Dropped p f (s.exchange o)
  · refine hx.follows hn (peek?_eq_none (h.after o).toCounted fun e he hk hf => ?_)
    have hkept := ((hmem e).1 he).2
    rw [(hkeeps e hk hf).2 hx] at hkept
    cases hkept
  · refine (spared_of_not_dropped hx hn).follows (peek?_congr h.toCounted (h.after o).toCounted ?_)
    intro e hk hf
    have hkept : keeps e = true := Bool.of_not_eq_false fun he => hx ((hkeeps e hk hf).1 he)
    rw [hmem, hkept]
    exact and_iff_left rfl

/-- What a store gives out for a path and a content after a call was stored by the call, or was given out
before and the call has spared it. -/
theorem Sound.follows (h : s.Sound) (o : Operation) : Follows s (s.after o) p f (s.exchange o) := by
  cases o with
  | put q a g =>
    by_cases ha : a.fingerprint = g
    · by_cases hq : q.Same p
      · exact h.follows_put_same ha hq
      · exact h.follows_put_other ha hq
    · have hx : s.exchange (.put q a g) = (.put q a g, .refused (.fingerprintMismatch q)) := by
        simp only [exchange, perform, put_of_ne ha]
      have ht : s.after (.put q a g) = s := by simp only [Store.after, perform, put_of_ne ha]
      rw [hx, ht]
      exact Spared.follows ⟨(by rintro ⟨⟩), (by rintro b g ⟨⟩)⟩ rfl
  | get q g => exact (spared_of_not_dropped (by rintro ⟨⟩) rfl).follows (peek?_get h.toCounted)
  | peek q g => exact (spared_of_not_dropped (by rintro ⟨⟩) rfl).follows rfl
  | holds q g => exact (spared_of_not_dropped (by rintro ⟨⟩) rfl).follows rfl
  | invalidate q =>
    refine h.follows_filter rfl (fun e => ¬ e.key.Same q) (fun e => ?_) fun e hk hf => ?_
    · simp [remove_eq h.toCounted, mem_others]
    · rw [decide_eq_false_iff_not, Decidable.not_not]
      constructor
      · exact fun hs => .invalidated q _ (hs.symm.trans hk)
      · rintro ⟨⟩
        exact hk.trans (Path.Same.symm ‹_›)
  | invalidateAll =>
    refine h.follows_filter rfl (fun _ => false) (fun e => ?_) fun e hk hf => ?_
    · simp [Store.after, perform, Store.invalidateAll]
    · exact iff_of_true rfl (.cleared _)
  | invalidateIfChanged q g =>
    refine h.follows_filter rfl (fun e => e.key.Same q → e.fingerprint = g) (fun e => ?_)
      fun e hk hf => ?_
    · rw [mem_after_invalidateIfChanged h.toCounted, decide_eq_true_iff]
    · rw [decide_eq_false_iff_not, Classical.not_imp]
      constructor
      · rintro ⟨hs, hg⟩
        exact .changed q g _ (hs.symm.trans hk) (hf ▸ Ne.symm hg)
      · rintro ⟨⟩
        exact ⟨hk.trans (Path.Same.symm ‹_›), hf ▸ Ne.symm ‹_›⟩
  | invalidateUnder dir =>
    refine h.follows_filter rfl (fun e => !dir.isUnder e.key) (fun e => ?_) fun e hk hf => ?_
    · simp only [Store.after, perform, invalidateUnder_eq h.toCounted, List.mem_filter]
    · rw [hk.isUnder dir, Bool.not_eq_false']
      constructor
      · exact fun hu => .removedTree dir _ hu
      · rintro ⟨⟩
        assumption

/-! ### What a run of calls does to a path -/

/-- An exchange after which a path and a content were spared by all that followed. -/
def LastStored (p : Path) (a : Analysis) (f : Fingerprint) (xs : List Exchange) : Prop :=
  ∃ before x after, xs = before ++ x :: after ∧ Stored p a f x ∧ ∀ y ∈ after, Spared p f y

theorem lastStored_cons {xs : List Exchange} :
    LastStored p a f (x :: xs) ↔ LastStored p a f xs ∨ Stored p a f x ∧ ∀ y ∈ xs, Spared p f y := by
  constructor
  · rintro ⟨before, y, after, heq, hst, hsp⟩
    cases before with
    | nil =>
      obtain ⟨rfl, rfl⟩ := List.cons.inj heq
      exact .inr ⟨hst, hsp⟩
    | cons z before =>
      obtain ⟨-, rfl⟩ := List.cons.inj heq
      exact .inl ⟨before, y, after, rfl, hst, hsp⟩
  · rintro (⟨before, y, after, rfl, hst, hsp⟩ | ⟨hst, hsp⟩)
    · exact ⟨x :: before, y, after, rfl, hst, hsp⟩
    · exact ⟨[], x, xs, rfl, hst, hsp⟩

/-- What a store gives out after some calls was stored last by one of them, or was given out before and
all of them have spared it. -/
theorem Sound.peek?_run_iff (h : s.Sound) (os : List Operation) :
    (s.run os).peek? p f = some a ↔
      LastStored p a f (s.history os) ∨ s.peek? p f = some a ∧ ∀ y ∈ s.history os, Spared p f y := by
  induction os generalizing s with
  | nil =>
    have hnil : ¬ LastStored p a f [] := by
      rintro ⟨before, y, after, heq, -⟩
      cases before <;> cases heq
    simp [Store.run, history, hnil]
  | cons o os ih =>
    rw [show s.run (o :: os) = (s.after o).run os from rfl, ih (h.after o), h.follows o a, history,
      lastStored_cons, List.forall_mem_cons]
    rw [or_and_right, and_assoc, or_assoc]

/-- After any run of calls from an empty store, looking up a path and a content finds an analysis if and
only if the last put under the path that was not refused was of this analysis for this content, and no
later call has dropped it: none has invalidated the path, or all, or a directory that the path is in, or
said that the content of the path is another one, and no put has answered that the path gave way. -/
theorem run_new_get_iff (maxEntries maxBytes : Nat) (os : List Operation) (p : Path) (f : Fingerprint)
    (a : Analysis) :
    let s := Store.new maxEntries maxBytes
    ((s.run os).get p f).2 = some a ↔
      ∃ before x after, s.history os = before ++ x :: after ∧ Stored p a f x ∧
        ∀ y ∈ after, (∀ b g, ¬ Stored p b g y) ∧ ¬ Dropped p f y := by
  intro s
  have hs : s.Sound := .new maxEntries maxBytes
  have hnone : s.peek? p f = none := rfl
  rw [get_snd (hs.run os).toCounted, hs.peek?_run_iff os, hnone]
  constructor
  · rintro (⟨before, x, after, heq, hst, hsp⟩ | ⟨⟨⟩, -⟩)
    exact ⟨before, x, after, heq, hst, fun y hy => ⟨(hsp y hy).not_stored, (hsp y hy).not_dropped⟩⟩
  · rintro ⟨before, x, after, heq, hst, hsp⟩
    exact .inl ⟨before, x, after, heq, hst, fun y hy => ⟨(hsp y hy).2, (hsp y hy).1⟩⟩

end Store
end SymbolIndex
