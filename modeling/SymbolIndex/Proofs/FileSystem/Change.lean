import SymbolIndex.FileSystem.Change
import SymbolIndex.Proofs.FileSystem.Place

/-!
# What a change leaves as it is

Setting what is at a place of a tree changes what is there and below, and nothing else but that the
directories on the way have other entries (`isDirectory_at?_set`).
-/
namespace SymbolIndex
namespace FileNode

variable {n m : FileNode} {v : Option FileNode} {s name : String} {es : List (String × FileNode)}
  {place inner : Place}

theorem lookup_setEntry_ne (h : s ≠ name) : (setEntry name v es).lookup s = es.lookup s := by
  have hs : (s == name) = false := beq_eq_false_iff_ne.2 h
  cases v with
  | none =>
    show (es.filter (·.1 ≠ name)).lookup s = _
    induction es with
    | nil => rfl
    | cons e es ih =>
      obtain ⟨t, k⟩ := e
      by_cases ht : t = name
      · rw [List.filter_cons_of_neg (by simpa using ht), ih, List.lookup_cons, ht, hs]
      · rw [List.filter_cons_of_pos (by simpa using ht), List.lookup_cons, List.lookup_cons, ih]
  | some n =>
    have hmap : (es.map fun e => if e.1 = name then (name, n) else e).lookup s = es.lookup s := by
      induction es with
      | nil => rfl
      | cons e es ih =>
        obtain ⟨t, k⟩ := e
        by_cases ht : t = name <;> simp [List.lookup_cons, ht, hs, ih]
    unfold setEntry
    dsimp only
    split
    · exact hmap
    · simp [List.lookup_append, List.lookup_cons, hs]

theorem lookup_setEntry_self : (setEntry name (some n) es).lookup name = some n := by
  unfold setEntry
  dsimp only
  split
  · rename_i hany
    induction es with
    | nil => cases hany
    | cons e es ih =>
      obtain ⟨t, k⟩ := e
      by_cases ht : t = name
      · simp [ht]
      · simp only [List.any_cons, ht, decide_false, Bool.false_or] at hany
        have hne : (name == t) = false := beq_eq_false_iff_ne.2 (Ne.symm ht)
        simp [List.lookup_cons, ht, hne, ih hany]
  · rename_i hany
    have hnone : es.lookup name = none := by
      refine List.lookup_eq_none_iff.2 fun e he => ?_
      simp only [List.any_eq_true, decide_eq_true_eq, not_exists, not_and] at hany
      simpa using fun heq => hany e he heq.symm
    simp [List.lookup_append, hnone]

/-- What is not at a place or below it is a directory, or not, as it was before the place was set. -/
theorem isDirectory_at?_set (h : ¬ place <+: inner) :
    ((n.set v place).at? inner).map isDirectory = (n.at? inner).map isDirectory := by
  fun_induction set v n place generalizing inner with
  | case1 => exact absurd List.nil_prefix h
  | case2 es name =>
    cases inner with
    | nil => rfl
    | cons s rest =>
      have hs : s ≠ name := by
        rintro rfl
        exact h ⟨rest, rfl⟩
      rw [at?_cons, at?_cons, entry?, entry?, entries, entries, lookup_setEntry_ne hs]
  | case3 es name names hne m hm ih =>
    cases inner with
    | nil => rfl
    | cons s rest =>
      rw [at?_cons, at?_cons, entry?, entry?, entries, entries]
      by_cases hs : s = name
      · rw [hs, lookup_setEntry_self, hm]
        exact ih fun hp => h (hs ▸ List.cons_prefix_cons.2 ⟨rfl, hp⟩)
      · rw [lookup_setEntry_ne hs]
  | case4 => rfl
  | case5 => rfl

/-- What an entry of a directory is set to is there. -/
theorem at?_set_self (h : n.at? place = some (directory es)) :
    (n.set (some m) (place ++ [s])).at? (place ++ [s]) = some m := by
  induction place generalizing n with
  | nil =>
    cases at?_nil_eq_some_iff.1 h
    rw [List.nil_append, set, at?_cons, entry?, entries, lookup_setEntry_self]
    exact at?_nil m
  | cons name names ih =>
    obtain ⟨k, hk, hrest⟩ := at?_cons_eq_some_iff.1 h
    cases n with
    | directory ds =>
      have hlookup : ds.lookup name = some k := hk
      rw [List.cons_append, set, hlookup]
      · dsimp only
        rw [at?_cons, entry?, entries, lookup_setEntry_self]
        exact ih hrest
      · simp
    | _ => cases hk

end FileNode
end SymbolIndex
