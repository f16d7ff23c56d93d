import SymbolIndex.Proofs.Store.Operation

/-!
# What holds of every store

`Sound` is the representation invariant of a store: its entries are `Counted`, and they are within the
byte limit unless there is only one. Every operation keeps it (`Sound.after`), so it holds after every
run from an empty store. Sizes are taken off the byte count with subtraction that stops at zero;
`IsExact` says that an operation never comes to that, and in a sound store none does
(`Sound.isExact`).
-/
namespace SymbolIndex
namespace Store
open StoreEntry

/-- The representation invariant of a store. -/
structure Sound (s : Store) : Prop extends s.Counted where
  within : s.bytes ≤ s.maxBytes ∨ s.entries.length ≤ 1

variable {s t : Store} {p : Path} {a : Analysis} {e : StoreEntry} {f : Fingerprint}

namespace Sound

theorem new (maxEntries maxBytes : Nat) : (Store.new maxEntries maxBytes).Sound where
  distinct := List.Pairwise.nil
  capacity_pos := Nat.le_max_left ..
  length_le := Nat.zero_le _
  bytes_eq := rfl
  genuine := by simp [Store.new]
  within := .inl (Nat.zero_le _)

theorem sublist (h : s.Sound) (hs : t.entries.Sublist s.entries) (hc : t.capacity = s.capacity)
    (hm : t.maxBytes = s.maxBytes) (hb : t.bytes = weigh t.entries) : t.Sound where
  toCounted := h.toCounted.sublist hs hc hb
  within := by
    have hle : weigh t.entries ≤ weigh s.entries := weigh_le_of_sublist hs
    have := h.bytes_eq
    have := hs.length_le
    rcases h.within with hw | hw
    · exact .inl (by omega)
    · exact .inr (by omega)

theorem perm (h : s.Sound) (hp : s.entries.Perm t.entries) (hc : t.capacity = s.capacity)
    (hm : t.maxBytes = s.maxBytes) (hb : t.bytes = s.bytes) : t.Sound where
  toCounted := h.toCounted.perm hp hc hb
  within := by
    rw [hb, hm, ← hp.length_eq]
    exact h.within

theorem remove (h : s.Sound) (p : Path) : (s.remove p).Sound := by
  rw [remove_eq h.toCounted]
  exact h.sublist others_sublist rfl rfl rfl

theorem get (h : s.Sound) (p : Path) (f : Fingerprint) : (s.get p f).1.Sound :=
  have hf := get_frame h.toCounted
  h.perm (get_perm h.toCounted) hf.1 hf.2.1 hf.2.2

theorem put (h : s.Sound) {gone : List Path} (hput : s.put p a f = .ok (t, gone)) : t.Sound := by
  by_cases hf : a.fingerprint = f
  · obtain ⟨kept, dropped, hsplit, hlt, hfit, heq⟩ := put_eq (p := p) h.toCounted a hf
    rw [heq] at hput
    obtain ⟨rfl, -⟩ := Prod.mk.inj (Except.ok.inj hput)
    have hkept : ∀ e ∈ kept, e ∈ s.entries ∧ ¬ e.key.Same p := fun e he =>
      mem_others.1 (by rw [hsplit]; exact List.mem_append_left _ he)
    refine ⟨⟨?_, h.capacity_pos, hlt, rfl, ?_⟩, ?_⟩
    · refine (h.distinct_placed ⟨p, a, f, a.size⟩).sublist (List.Sublist.cons_cons _ ?_)
      show kept.Sublist (s.others p)
      rw [hsplit]
      exact List.sublist_append_left ..
    · intro e he
      rcases List.mem_cons.1 he with rfl | he
      · exact ⟨hf.symm, rfl⟩
      · exact h.genuine e (hkept e he).1
    · rcases hfit with hfit | rfl
      · exact .inl hfit
      · exact .inr (Nat.le_refl 1)
  · rw [put_of_ne hf] at hput
    cases hput

/-- One operation keeps the invariant. -/
theorem after (h : s.Sound) (o : Operation) : (s.after o).Sound := by
  cases o with
  | put p a f =>
    simp only [Store.after, perform]
    cases hput : s.put p a f with
    | ok r => exact h.put hput
    | error e => exact h
  | get p f => exact h.get p f
  | peek p f => exact h
  | holds p f => exact h
  | invalidate p => exact h.remove p
  | invalidateAll => exact h.sublist (List.nil_sublist _) rfl rfl rfl
  | invalidateIfChanged p f =>
    simp only [Store.after, perform, invalidateIfChanged_eq h.toCounted]
    split
    · exact h.remove p
    · exact h
  | invalidateUnder dir =>
    simp only [Store.after, perform, invalidateUnder_eq h.toCounted]
    exact h.sublist List.filter_sublist rfl rfl rfl

theorem run (h : s.Sound) (os : List Operation) : (s.run os).Sound := by
  induction os generalizing s with
  | nil => exact h
  | cons o os ih => exact ih (h.after o)

/-- The limits of a store are those it was made with. -/
theorem limits_run (h : s.Sound) (os : List Operation) :
    (s.run os).capacity = s.capacity ∧ (s.run os).maxBytes = s.maxBytes := by
  induction os generalizing s with
  | nil => exact ⟨rfl, rfl⟩
  | cons o os ih =>
    obtain ⟨hc, hm⟩ := ih (h.after o)
    obtain ⟨hc', hm'⟩ := limits_after h.toCounted o
    exact ⟨hc.trans hc', hm.trans hm'⟩

end Sound

/-! ### Sizes that are taken off -/

/-- Removing a path takes no more off the bytes than there is. -/
def RemovesExactly (s : Store) (p : Path) : Prop := ∀ e, s.find? p = some e → e.size ≤ s.bytes

/-- Pushing an entry takes no more off the bytes than there is, be it for the entry that had its path or
for the last one. -/
def PushesExactly (s : Store) (e : StoreEntry) : Prop :=
  match s.find? e.key with
  | some old => old.size ≤ s.bytes
  | none => s.capacity ≤ s.entries.length → ∀ last ∈ s.entries.getLast?, last.size ≤ s.bytes

/-- Nothing that gives way while a store shrinks takes more off the bytes than there is. -/
def ShrinksExactly (s : Store) : Prop :=
  if h : s.maxBytes < s.bytes ∧ 1 < s.entries.length then
    let last := s.entries.getLast (by intro e; simp [e] at h)
    last.size ≤ s.bytes ∧
      ShrinksExactly { s with entries := s.entries.dropLast, bytes := s.bytes - last.size }
  else True
  termination_by s.entries.length
  decreasing_by simp only [List.length_dropLast]; omega

/-- No subtraction that an operation makes stops at zero. -/
def IsExact (s : Store) : Operation → Prop
  | .put p a f => a.fingerprint = f →
      s.PushesExactly ⟨p, a, f, a.size⟩ ∧ (s.push ⟨p, a, f, a.size⟩).1.ShrinksExactly
  | .get p _ | .invalidate p | .invalidateIfChanged p _ => s.RemovesExactly p
  | .invalidateUnder dir => ∀ before p after, s.keys.filter dir.isUnder = before ++ p :: after →
      (before.foldl remove s).RemovesExactly p
  | .peek _ _ | .holds _ _ | .invalidateAll => True

theorem Counted.removesExactly (h : s.Counted) (p : Path) : s.RemovesExactly p :=
  fun _ he => h.size_le (mem_of_find? he)

theorem Counted.pushesExactly (h : s.Counted) (e : StoreEntry) : s.PushesExactly e := by
  unfold PushesExactly
  cases hf : s.find? e.key with
  | some old => exact h.size_le (mem_of_find? hf)
  | none => exact fun _ last hl => h.size_le (List.mem_of_getLast? hl)

theorem shrinksExactly (s : Store) (h : s.bytes = weigh s.entries) : s.ShrinksExactly := by
  induction s using ShrinksExactly.induct with
  | case1 s hover last ih =>
    have hne : s.entries ≠ [] := by intro h0; simp [h0] at hover
    have hw : weigh s.entries.dropLast + last.size = weigh s.entries := weigh_dropLast hne
    rw [ShrinksExactly, dif_pos hover]
    exact ⟨h ▸ size_le_weigh (List.getLast_mem hne), ih (by simp only; omega)⟩
  | case2 s hover =>
    rw [ShrinksExactly, dif_neg hover]
    trivial

theorem Sound.isExact (h : s.Sound) (o : Operation) : s.IsExact o := by
  cases o with
  | put p a f =>
    intro _
    exact ⟨h.toCounted.pushesExactly _, shrinksExactly _ (by rw [push_eq h.toCounted])⟩
  | get p f => exact h.toCounted.removesExactly p
  | invalidate p => exact h.toCounted.removesExactly p
  | invalidateIfChanged p f => exact h.toCounted.removesExactly p
  | invalidateUnder dir => exact fun before p _ _ => (h.toCounted.foldl_remove before).removesExactly p
  | peek p f => trivial
  | holds p f => trivial
  | invalidateAll => trivial

/-- What holds of a store after any run of operations from an empty one: its keys are different paths,
it has no more entries than its limit, its bytes are those of its analyses together, they are within
their limit unless there is one entry only, every entry is for the content of its analysis, and no
operation takes a size off that is not there. -/
theorem run_new_invariant (maxEntries maxBytes : Nat) (os : List Operation) :
    let s := (Store.new maxEntries maxBytes).run os
    s.keys.Pairwise (fun p q => ¬ p.Same q) ∧
      s.entries.length ≤ max 1 maxEntries ∧
      s.bytes = (s.entries.map (·.analysis.size)).sum ∧
      (s.bytes ≤ maxBytes ∨ s.entries.length ≤ 1) ∧
      (∀ e ∈ s.entries, e.fingerprint = e.analysis.fingerprint) ∧
      ∀ o, s.IsExact o := by
  intro s
  have hnew := Sound.new maxEntries maxBytes
  have hs : s.Sound := hnew.run os
  obtain ⟨hc, hm⟩ := hnew.limits_run os
  refine ⟨?_, ?_, ?_, ?_, fun e he => (hs.genuine e he).fingerprint_eq, hs.isExact⟩
  · exact List.pairwise_map.2 hs.distinct
  · calc s.entries.length ≤ s.capacity := hs.length_le
      _ = max 1 maxEntries := hc
  · rw [hs.bytes_eq]
    exact congrArg List.sum (List.map_congr_left fun e he => (hs.genuine e he).size_eq)
  · rw [show maxBytes = s.maxBytes from hm.symm]
    exact hs.within

end Store
end SymbolIndex
