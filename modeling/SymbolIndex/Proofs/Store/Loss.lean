import SymbolIndex.Proofs.Store.Invariant

/-!
# How a store loses an analysis

A store that holds the analysis of a path for a content holds it after every operation, unless the
operation takes it out in one of the ways of `Loses` (`Sound.holds_after`): it gives way to another path,
it is dropped, or the path gets an analysis for another content. What was put last is held, whatever it
weighs (`Sound.holds_put`).
-/
namespace SymbolIndex
namespace Store
open StoreEntry

/-- An operation takes the analysis of a path for a content out of the store. -/
inductive Takes (s : Store) (p : Path) (f : Fingerprint) : Operation → Prop
  | evicted (q : Path) (a : Analysis) (g : Fingerprint) (t : Store) (gone : List Path) (hq : ¬ q.Same p)
      (hput : s.put q a g = .ok (t, gone)) (hgone : ∃ k ∈ gone, k.Same p) : Takes s p f (.put q a g)
  | replaced (q : Path) (a : Analysis) (g : Fingerprint) (hq : q.Same p) (ha : a.fingerprint = g)
      (hg : g ≠ f) : Takes s p f (.put q a g)
  | invalidated (q : Path) (hq : q.Same p) : Takes s p f (.invalidate q)
  | cleared : Takes s p f .invalidateAll
  /-- The content was said to be another one. -/
  | changed (q : Path) (g : Fingerprint) (hq : q.Same p) (hg : g ≠ f) : Takes s p f (.invalidateIfChanged q g)
  | removedTree (dir : Path) (hp : dir.isUnder p = true) : Takes s p f (.invalidateUnder dir)

/-- A store holds the analysis of a path for a content, and an operation takes it out. -/
def Loses (s : Store) (p : Path) (f : Fingerprint) (o : Operation) : Prop :=
  s.holds p f = true ∧ s.Takes p f o

variable {s : Store} {p q : Path} {a : Analysis} {f : Fingerprint}

theorem holds_iff (h : s.Counted) :
    s.holds p f = true ↔ ∃ e ∈ s.entries, e.key.Same p ∧ e.fingerprint = f := by
  unfold holds
  rw [Option.isSome_iff_exists]
  simp only [peek?_eq_some h]
  constructor
  · rintro ⟨a, e, he, hk, hf, -⟩
    exact ⟨e, he, hk, hf⟩
  · rintro ⟨e, he, hk, hf⟩
    exact ⟨e.analysis, e, he, hk, hf, rfl⟩

theorem holds_congr (h : p.Same q) : s.holds p f = s.holds q f := by
  unfold holds peek?
  rw [find?_congr h]

namespace Sound

/-- What was put is held, even if it alone weighs more than the limit. -/
theorem holds_put (h : s.Sound) (hf : a.fingerprint = f) : (s.after (.put p a f)).holds p f = true := by
  rw [holds_iff (h.after _).toCounted]
  obtain ⟨kept, dropped, -, -, -, heq⟩ := put_eq (p := p) h.toCounted a hf
  simp only [Store.after, perform, heq]
  exact ⟨_, List.mem_cons_self, front_same s _, rfl⟩

/-- What is held stays, or is lost. -/
theorem holds_after (h : s.Sound) (hp : s.holds p f = true) (o : Operation) :
    (s.after o).holds p f = true ∨ s.Loses p f o := by
  obtain ⟨e, he, hk, hf⟩ := (holds_iff h.toCounted).1 hp
  -- It is enough that the entry is still there.
  have stays : ∀ {o : Operation}, e ∈ (s.after o).entries → (s.after o).holds p f = true := fun he =>
    (holds_iff (h.after _).toCounted).2 ⟨e, he, hk, hf⟩
  cases o with
  | put q a g =>
    by_cases ha : a.fingerprint = g
    · by_cases hq : q.Same p
      · by_cases hg : g = f
        · rw [← holds_congr hq, ← hg]
          exact .inl (h.holds_put ha)
        · exact .inr ⟨hp, .replaced q a g hq ha hg⟩
      · obtain ⟨kept, dropped, hsplit, -, -, heq⟩ := put_eq (p := q) h.toCounted a ha
        have hother : e ∈ kept ++ dropped :=
          hsplit ▸ mem_others.2 ⟨he, fun hs => hq (hs.symm.trans hk)⟩
        rcases List.mem_append.1 hother with hkept | hdropped
        · refine .inl (stays ?_)
          simp only [Store.after, perform, heq]
          exact List.mem_cons_of_mem _ hkept
        · refine .inr ⟨hp, .evicted q a g _ _ hq heq ⟨e.key, ?_, hk⟩⟩
          exact List.mem_map_of_mem (List.mem_reverse.2 hdropped)
    · refine .inl (stays ?_)
      simp only [Store.after, perform, put_of_ne ha]
      exact he
  | get q g => exact .inl (stays ((get_perm h.toCounted).mem_iff.1 he))
  | peek q g => exact .inl hp
  | holds q g => exact .inl hp
  | invalidate q =>
    by_cases hq : q.Same p
    · exact .inr ⟨hp, .invalidated q hq⟩
    · refine .inl (stays ?_)
      rw [after_invalidate, remove_eq h.toCounted]
      exact mem_others.2 ⟨he, fun hs => hq (hs.symm.trans hk)⟩
  | invalidateAll => exact .inr ⟨hp, .cleared⟩
  | invalidateIfChanged q g =>
    by_cases hq : q.Same p
    · by_cases hg : g = f
      · refine .inl (stays ?_)
        have hfind := find?_of_mem h.distinct he (hk.trans hq.symm)
        simp only [Store.after, perform, invalidateIfChanged_eq h.toCounted, hfind, Option.any_some, hf, hg]
        simpa using he
      · exact .inr ⟨hp, .changed q g hq hg⟩
    · refine .inl (stays ?_)
      simp only [Store.after, perform, invalidateIfChanged_eq h.toCounted, remove_eq h.toCounted]
      split
      · exact mem_others.2 ⟨he, fun hs => hq (hs.symm.trans hk)⟩
      · exact he
  | invalidateUnder dir =>
    cases hd : dir.isUnder p with
    | true => exact .inr ⟨hp, .removedTree dir hd⟩
    | false =>
      refine .inl (stays ?_)
      simp only [Store.after, perform, invalidateUnder_eq h.toCounted]
      exact List.mem_filter.2 ⟨he, by simp [hk.isUnder dir, hd]⟩

end Sound
end Store
end SymbolIndex
