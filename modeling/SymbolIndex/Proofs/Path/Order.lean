import Mathlib.Tactic.ByContra
import SymbolIndex.Proofs.Path.Same

/-!
# The order of paths

Paths are ordered by their components, and only paths with the same components come at the same point of
that order (`Path.compare_eq_iff`). So different paths that are put in order are in strict order
(`Path.sorted_strict`), and a directory comes before all that is below it (`Path.le_of_isUnder`).
-/
namespace SymbolIndex
open Std

namespace Component

/-- Components are ordered by their kind, and names among each other as texts. -/
theorem compare_eq_compareLex :
    Component.compare = compareLex (compareOn rank) (compareOn fun c => c.name?.getD "") := by
  funext a b
  cases a <;> cases b <;> rfl

instance : TransCmp Component.compare := by
  rw [compare_eq_compareLex]
  infer_instance

instance : LawfulEqCmp Component.compare where
  eq_of_compare {a b} h := by
    cases a <;> cases b <;> try first | rfl | cases h
    exact congrArg name (LawfulEqOrd.eq_of_compare (α := String) h)

end Component

namespace Path
variable {p q r root : Path} {ps qs : List Path}

instance : TransCmp Path.compare where
  eq_swap {p q} := @OrientedCmp.eq_swap _ (List.compareLex Component.compare) _ p.components q.components
  isLE_trans {p q r} :=
    @TransCmp.isLE_trans _ (List.compareLex Component.compare) _ p.components q.components r.components

/-- How paths are spelled does not matter for their order. -/
theorem compare_eq_iff : p.compare q = .eq ↔ p.Same q :=
  @LawfulEqCmp.compare_eq_iff_eq _ (List.compareLex Component.compare) _ p.components q.components

theorem compare_lt_iff : p.compare q = .lt ↔ p.le q = true ∧ ¬ p.Same q := by
  rw [le, ← compare_eq_iff]
  cases p.compare q <;> simp

theorem le_trans (h : p.le q = true) (h' : q.le r = true) : p.le r = true := TransCmp.isLE_trans h h'

theorem le_total (p q : Path) : (p.le q || q.le p) = true := by
  have hswap : p.compare q = (q.compare p).swap := OrientedCmp.eq_swap
  rw [le, le, hswap]
  cases q.compare p <;> rfl

theorem same_of_le (h : p.le q = true) (h' : q.le p = true) : p.Same q := by
  by_contra hs
  have hlt : p.compare q = .lt := compare_lt_iff.2 ⟨h, hs⟩
  have hswap : q.compare p = (p.compare q).swap := OrientedCmp.eq_swap
  rw [le, hswap, hlt] at h'
  cases h'

theorem sorted_perm (ps : List Path) : (sorted ps).Perm ps := List.mergeSort_perm ps le

theorem pairwise_sorted (ps : List Path) : (sorted ps).Pairwise fun p q => p.le q = true := by
  have htrans (p q r : Path) : p.le q = true → q.le r = true → p.le r = true := le_trans
  exact List.pairwise_mergeSort htrans le_total ps

/-- Different paths in order are in strict order. -/
theorem sorted_strict (h : ps.Pairwise fun p q => ¬ p.Same q) :
    (sorted ps).Pairwise fun p q => p.compare q = .lt := by
  have hdiff : (sorted ps).Pairwise fun p q => ¬ p.Same q :=
    h.perm (sorted_perm ps).symm fun hn hs => hn hs.symm
  exact ((pairwise_sorted ps).and hdiff).imp compare_lt_iff.2

/-- A directory comes before what is below it. -/
theorem le_of_isUnder (h : root.isUnder p = true) : root.le p = true := by
  obtain ⟨cs, hcs⟩ := isUnder_iff.1 h
  rw [le, Path.compare, ← hcs]
  induction root.components with
  | nil => cases cs <;> rfl
  | cons c ds ih =>
    rw [List.cons_append, List.compareLex_cons_cons,
      show Component.compare c c = .eq from ReflCmp.compare_self]
    exact ih

end Path
end SymbolIndex
