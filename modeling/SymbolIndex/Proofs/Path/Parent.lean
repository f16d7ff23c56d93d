import SymbolIndex.Proofs.FileSystem.Canonical

/-!
# The path without its last component

The shortest spelling of the first components of a path has these components (`components_ofComponents`). So
the parent of a path is the path without its last component, and a directory that a path is strictly below
has the parent of the path in it too (`isUnder_parent?`).
-/
namespace SymbolIndex

namespace Path
variable {p dir parent : Path} {cs : List Component}

/-- The components that a relative path can have are spelled as pieces of a path. -/
theorem text_of_relative {c : Component} (ha : p.isAbsolute = false) (hc : c ∈ p.components) :
    c.text ≠ "" ∧ ∀ d ∈ c.text.toList, isSlash d = false := by
  have hstep (hc : c ∈ p.steps) : c.text ≠ "" ∧ ∀ d ∈ c.text.toList, isSlash d = false := by
    obtain ⟨hpiece, hslash⟩ := ofPiece?_of_mem_steps hc
    refine ⟨fun he => ?_, hslash⟩
    rw [he] at hpiece
    cases hpiece
  rcases p.components_cases with ⟨ha', -⟩ | ⟨-, h | h⟩
  · rw [ha] at ha'
    cases ha'
  · rw [h] at hc
    rcases List.mem_cons.1 hc with rfl | hc
    · exact ⟨by decide, List.forall_mem_singleton.2 rfl⟩
    · exact hstep hc
  · exact hstep (h ▸ hc)

/-- Components that are spelled with slashes between them are those of a relative path. -/
theorem components_intercalate {c : Component}
    (h : ∀ d ∈ c :: cs, d.text ≠ "" ∧ ∀ ch ∈ d.text.toList, isSlash ch = false) :
    components ⟨"/".intercalate ((c :: cs).map Component.text)⟩ =
      (if c.text = "." then [.here] else []) ++
        (c :: cs).filterMap (Component.ofPiece? ∘ Component.text) := by
  have hpieces : pieces ⟨"/".intercalate ((c :: cs).map Component.text)⟩ = (c :: cs).map Component.text :=
    FileSystem.splitWhere_intercalate (by simpa using fun d hd => (h d hd).2) (by simp)
  have hrel : isAbsolute ⟨"/".intercalate ((c :: cs).map Component.text)⟩ = false := by
    refine Bool.eq_false_iff.2 fun ha => ?_
    obtain ⟨t, ht⟩ := isAbsolute_iff.1 ha
    -- The first piece of an absolute path is empty.
    rw [pieces, ht, splitWhere_root] at hpieces
    exact (h c List.mem_cons_self).1 (List.cons.inj hpieces).1.symm
  rw [components, hrel, hpieces, List.filterMap_map]
  simp only [Bool.false_eq_true, if_false, List.map_cons, List.head?_cons, Option.some.injEq]
  split <;> rfl

theorem filterMap_ofPiece?_steps (h : cs <+: p.steps) :
    cs.filterMap (Component.ofPiece? ∘ Component.text) = cs :=
  (List.filterMap_congr fun _ hc => (ofPiece?_of_mem_steps (h.subset hc)).1).trans List.filterMap_some

theorem components_ofComponents_root (h : cs <+: p.steps) :
    (ofComponents (.root :: cs)).components = .root :: cs := by
  have habs : (ofComponents (.root :: cs)).isAbsolute = true :=
    isAbsolute_iff.2 ⟨_, congrArg Path.text (ofComponents_root cs)⟩
  rcases (ofComponents (.root :: cs)).components_cases with ⟨-, heq⟩ | ⟨hrel, -⟩
  · rw [heq, steps_ofComponents_root fun c hc => ofPiece?_of_mem_steps (h.subset hc)]
  · rw [habs] at hrel
    cases hrel

theorem components_ofComponents_relative {c : Component} (ha : p.isAbsolute = false)
    (h : c :: cs <+: p.components) : (ofComponents (c :: cs)).components = c :: cs := by
  have htext := fun d hd => text_of_relative (c := d) ha (h.subset hd)
  have hspelled : ofComponents (c :: cs) = ⟨"/".intercalate ((c :: cs).map Component.text)⟩ := by
    unfold ofComponents
    split
    · rename_i hroot
      cases hroot
      exact absurd rfl (htext .root List.mem_cons_self).1
    · rfl
  rw [hspelled, components_intercalate htext]
  rcases p.components_cases with ⟨ha', -⟩ | ⟨-, hc | hc⟩
  · rw [ha] at ha'
    cases ha'
  · obtain ⟨rfl, hcs⟩ := List.cons_prefix_cons.1 (hc ▸ h)
    rw [if_pos (show Component.here.text = "." from rfl), List.filterMap_cons_none rfl,
      filterMap_ofPiece?_steps hcs]
    rfl
  · rw [hc] at h
    have hdot : c.text ≠ "." := fun he => by
      have hpiece := (ofPiece?_of_mem_steps (h.subset List.mem_cons_self)).1
      rw [he] at hpiece
      cases hpiece
    rw [if_neg hdot, filterMap_ofPiece?_steps h, List.nil_append]

/-- The shortest spelling of the first components of a path has these components. -/
theorem components_ofComponents (h : cs <+: p.components) : (ofComponents cs).components = cs := by
  cases cs with
  | nil => rfl
  | cons c cs =>
    rcases p.components_cases with ⟨-, hc⟩ | ⟨ha, -⟩
    · obtain ⟨rfl, hcs⟩ := List.cons_prefix_cons.1 (hc ▸ h)
      exact components_ofComponents_root hcs
    · exact components_ofComponents_relative ha h

theorem components_parent? (h : p.parent? = some parent) : parent.components = p.components.dropLast := by
  unfold parent? at h
  split at h
  · cases h
  · cases h
  · cases h
    exact components_ofComponents (List.dropLast_prefix _)

/-- What is strictly below a directory has its parent there. -/
theorem isUnder_parent? (hu : dir.isUnder p = true) (hs : ¬ dir.Same p) (h : p.parent? = some parent) :
    dir.isUnder parent = true := by
  obtain ⟨cs, hcs⟩ := isUnder_iff.1 hu
  have hne : cs ≠ [] := by
    rintro rfl
    exact hs ((List.append_nil _).symm.trans hcs)
  rw [isUnder_iff, components_parent? h, ← hcs, List.dropLast_append_of_ne_nil hne]
  exact List.prefix_append ..

end Path
end SymbolIndex
