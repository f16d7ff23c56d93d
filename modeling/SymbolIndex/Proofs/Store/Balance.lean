import Mathlib.Data.List.Basic
import SymbolIndex.Proofs.Store.History

/-!
# What comes into a store and what leaves it

A put keeps as many entries as the limits of the store allow, counted from the one that was put, and tells
which gave way (`run_new_put`). An entry comes in when an analysis is put under a path that has none, and
leaves when it gives way or is dropped, which the store answers; so the books of a store balance: one call
changes both sides alike (`Counted.balance`), and after any run what has come in is what is there and what
was told to have left (`run_new_balance`).
-/
namespace SymbolIndex
namespace Store
open StoreEntry

/-! ### What a put keeps -/

/-- After any run of operations from an empty store, a put brings its analysis in front of the entries of
all other paths, under the spelling that its path has there. As many of these entries are kept, from the
front, as there is room for and are within the limit of bytes together, but one at least. The others give
way, the last one first, and none of them is for the path that was put. -/
theorem run_new_put (maxEntries maxBytes : Nat) (os : List Operation) (p : Path) (a : Analysis) :
    let s := (Store.new maxEntries maxBytes).run os
    let placed : StoreEntry := ⟨((s.find? p).map (·.key)).getD p, a, a.fingerprint, a.size⟩
    let all := placed :: s.entries.filter (¬ ·.key.Same p)
    placed.key.Same p ∧ (∀ e ∈ all, e.size = e.analysis.size) ∧
      ∃ k, IsGreatest {k | 1 ≤ k ∧ k ≤ min all.length (max 1 maxEntries) ∧
            (k = 1 ∨ ((all.take k).map (·.size)).sum ≤ maxBytes)} k ∧
        (∀ e ∈ all.drop k, ¬ e.key.Same p) ∧
        s.put p a a.fingerprint = .ok ({ s with
            entries := all.take k
            bytes := ((all.take k).map (·.size)).sum
            evictions := s.evictions + (all.drop k).length }, ((all.drop k).map (·.key)).reverse) := by
  intro s placed all
  have hnew := Sound.new maxEntries maxBytes
  have hs : s.Sound := hnew.run os
  obtain ⟨hcapacity, hmax⟩ : s.capacity = max 1 maxEntries ∧ s.maxBytes = maxBytes := hnew.limits_run os
  have hothers : ∀ e ∈ s.entries.filter (¬ ·.key.Same p), e ∈ s.entries ∧ ¬ e.key.Same p :=
    fun e he => mem_others.1 he
  refine ⟨front_same s ⟨p, a, a.fingerprint, a.size⟩, fun e he => ?_, ?_⟩
  · rcases List.mem_cons.1 he with rfl | he
    · rfl
    · exact (hs.genuine e (hothers e he).1).size_eq
  · obtain ⟨k, hfits, hput⟩ := put_eq_take (p := p) hs.toCounted a rfl
    refine ⟨k, by rwa [← hcapacity, ← hmax], fun e he => ?_, ?_⟩
    · obtain ⟨n, rfl⟩ := Nat.exists_eq_add_of_le' hfits.1.1
      exact (hothers e (List.mem_of_mem_drop he)).2
    · rw [← List.map_reverse]
      exact hput

/-! ### What comes in and what leaves -/

/-- Whether a call puts an analysis under a path that has none. -/
def brings (s : Store) : Operation → Bool
  | .put p a f => (s.put p a f).toBool && (s.find? p).isNone
  | _ => false

/-- How many of some calls, in order, put an analysis under a path that has none at that moment. -/
def arrivals (s : Store) : List Operation → Nat
  | [] => 0
  | o :: os => (s.brings o).toNat + (s.after o).arrivals os

/-- How many entries an exchange tells to have given way. -/
def evictedBy : Exchange → Nat
  | (_, .stored gone) => gone.length
  | _ => 0

/-- How many entries an exchange tells to have been dropped. -/
def droppedBy : Exchange → Nat
  | (.invalidate _, .truth dropped) => dropped.toNat
  | (.invalidateIfChanged _ _, .truth dropped) => dropped.toNat
  | (.invalidateAll, .dropped n) => n
  | (.invalidateUnder _, .paths ps) => ps.length
  | _ => 0

variable {s : Store} {p : Path} {a : Analysis} {f : Fingerprint}

/-- A path has one entry or none. -/
theorem length_others_add (h : s.Counted) (p : Path) :
    (s.others p).length + (s.find? p).isSome.toNat = s.len := by
  cases hf : s.find? p with
  | none => rw [others_of_find?_none hf]; rfl
  | some e => exact (perm_others h.distinct hf).length_eq.symm

theorem len_remove (h : s.Counted) (p : Path) : (s.remove p).len + (s.find? p).isSome.toNat = s.len := by
  rw [remove_eq h]
  exact length_others_add h p

namespace Counted

theorem balance_put (h : s.Counted) (ha : a.fingerprint = f) :
    s.len + (s.brings (.put p a f)).toNat =
        (s.after (.put p a f)).len + evictedBy (s.exchange (.put p a f)) ∧
      (s.after (.put p a f)).evictions = s.evictions + evictedBy (s.exchange (.put p a f)) := by
  obtain ⟨kept, dropped, hsplit, -, -, heq⟩ := put_eq (p := p) h a ha
  have hothers := length_others_add h p
  rw [hsplit, List.length_append] at hothers
  simp only [brings, Store.after, exchange, perform, heq, evictedBy, Except.toBool, Bool.true_and, len,
    List.length_cons, List.length_map, List.length_reverse, and_true] at hothers ⊢
  cases hf : s.find? p <;> simp [hf] at hothers ⊢ <;> omega

/-- What is there before a call, with what the call brings, is what is there after it, with what the call
tells to have left; and the store counts what gives way. -/
theorem balance (h : s.Counted) (o : Operation) :
    s.len + (s.brings o).toNat =
        (s.after o).len + evictedBy (s.exchange o) + droppedBy (s.exchange o) ∧
      (s.after o).evictions = s.evictions + evictedBy (s.exchange o) := by
  cases o with
  | put p a f =>
    by_cases ha : a.fingerprint = f
    · obtain ⟨hlen, hevicted⟩ := h.balance_put (p := p) ha
      have hnone : droppedBy (s.exchange (.put p a f)) = 0 := by
        simp only [exchange, perform]
        cases s.put p a f <;> rfl
      exact ⟨by omega, hevicted⟩
    · simp [brings, Store.after, exchange, perform, put_of_ne ha, evictedBy, droppedBy, Except.toBool]
  | get p f =>
    refine ⟨(get_perm h).length_eq, ?_⟩
    cases hp : s.find? p with
    | none => simp only [Store.after, perform, get_eq_of_none hp]; rfl
    | some e =>
      simp only [Store.after, perform, get_eq_of_some hp (h.genuine e (mem_of_find? hp))]
      split <;> rfl
  | peek p f => exact ⟨rfl, rfl⟩
  | holds p f => exact ⟨rfl, rfl⟩
  | invalidate p => exact ⟨(len_remove h p).symm, by rw [after_invalidate, remove_eq h]; rfl⟩
  | invalidateAll => exact ⟨(Nat.zero_add _).symm, rfl⟩
  | invalidateIfChanged p f =>
    have hremove := len_remove h p
    simp only [brings, Store.after, exchange, perform, invalidateIfChanged_eq h, invalidateIfChanged_snd h,
      evictedBy, droppedBy]
    cases hf : s.find? p with
    | none => simp
    | some e =>
      by_cases hef : e.fingerprint = f
      · simp [hef]
      · simpa [hef, hf, remove_eq h] using hremove.symm
  | invalidateUnder dir =>
    have hsplit := List.length_eq_length_filter_add (l := s.entries) (dir.isUnder ·.key)
    simp only [brings, Store.after, exchange, perform, invalidateUnder_eq h, evictedBy, droppedBy, len, keys,
      List.filter_map, List.length_map]
    exact ⟨by simpa [Function.comp_def, Nat.add_comm] using hsplit, rfl⟩

end Counted

/-- Over some calls, the balance is kept. -/
theorem Sound.balance_run (h : s.Sound) (os : List Operation) :
    s.len + s.arrivals os =
        (s.run os).len + ((s.history os).map evictedBy).sum + ((s.history os).map droppedBy).sum ∧
      (s.run os).evictions = s.evictions + ((s.history os).map evictedBy).sum := by
  induction os generalizing s with
  | nil => exact ⟨rfl, rfl⟩
  | cons o os ih =>
    obtain ⟨hlen, hevictions⟩ := h.toCounted.balance o
    obtain ⟨hlen', hevictions'⟩ := ih (h.after o)
    simp only [arrivals, history, List.map_cons, List.sum_cons,
      show s.run (o :: os) = (s.after o).run os from rfl]
    exact ⟨by omega, by omega⟩

/-- After any run of operations from an empty store: as many puts as were made under a path that had no
entry at that moment, that many entries are there, have given way, or were told to have been dropped; and
the store has counted as many that gave way as its puts have told. -/
theorem run_new_balance (maxEntries maxBytes : Nat) (os : List Operation) :
    let s := Store.new maxEntries maxBytes
    s.arrivals os = (s.run os).len + (s.run os).evictions + ((s.history os).map droppedBy).sum ∧
      (s.run os).evictions = ((s.history os).map evictedBy).sum := by
  intro s
  have hs : s.Sound := .new maxEntries maxBytes
  obtain ⟨hlen, hevictions⟩ := hs.balance_run os
  have hempty : s.len = 0 ∧ s.evictions = 0 := ⟨rfl, rfl⟩
  exact ⟨by omega, by omega⟩

end Store
end SymbolIndex
