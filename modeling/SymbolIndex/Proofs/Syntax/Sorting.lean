import SymbolIndex.Proofs.Syntax.Nesting
import SymbolIndex.Syntax.Problem

/-!
# Errors in the order of their starts

Errors are brought into order by a stable sort (`ParseError.stablySorted`): none is lost, and those that start
together keep their order.
-/
namespace SymbolIndex

protected theorem Position.le_total (a b : Position) : a ≤ b ∨ b ≤ a := by
  simp only [le_iff]
  omega

namespace ParseError

/-- Errors that come in the order of their starts. -/
def Ordered (errors : List ParseError) : Prop := errors.Pairwise fun d e => d.start ≤ e.start

/-- Some errors brought into order. -/
structure StablySorted (errors result : List ParseError) : Prop where
  perm : result.Perm errors
  ordered : Ordered result
  /-- Errors that start together come as before. -/
  stable : ∀ p, result.filter (·.start = p) = errors.filter (·.start = p)

theorem stablySorted (errors : List ParseError) : StablySorted errors (sorted errors) := by
  have trans : ∀ a b c : ParseError, a.start.le b.start → b.start.le c.start → a.start.le c.start :=
    fun _ _ _ => Position.le_trans
  have total : ∀ a b : ParseError, a.start.le b.start || b.start.le a.start := fun a b =>
    Bool.or_eq_true_iff.2 (Position.le_total a.start b.start)
  refine ⟨List.mergeSort_perm errors _, List.pairwise_mergeSort trans total errors, fun p => ?_⟩
  -- Errors that start together are sorted already, so the sort keeps them as they are.
  have together : (errors.filter (·.start = p)).Pairwise fun a b => a.start.le b.start := by
    refine List.pairwise_of_forall_mem_list fun a ha b hb => ?_
    have hstart : a.start = b.start := by simp_all [List.mem_filter]
    rw [hstart]
    exact Position.le_refl _
  have hsub : (errors.filter (·.start = p)).Sublist (sorted errors) :=
    List.sublist_mergeSort trans total together List.filter_sublist
  have hsub : (errors.filter (·.start = p)).Sublist ((sorted errors).filter (·.start = p)) := by
    simpa using hsub.filter (·.start = p)
  exact (hsub.eq_of_length ((List.mergeSort_perm errors _).filter _).length_eq.symm).symm

theorem sorted_eq_nil_iff {errors : List ParseError} : sorted errors = [] ↔ errors = [] := by
  have := (stablySorted errors).perm.length_eq
  rw [← List.length_eq_zero_iff, this, List.length_eq_zero_iff]

end ParseError
end SymbolIndex
