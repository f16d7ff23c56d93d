import SymbolIndex.Syntax.Tree

/-!
# Trees with nested spans

A parser puts every child within the span of its parent and the children one after the other, whatever
errors it had to get over. A node of a tree has an address: the places of its ancestors, from the root
downwards, each among the children of the one above it.
-/
namespace SymbolIndex
namespace Position

variable {a b c : Position}

theorem le_iff : a ≤ b ↔ a.line < b.line ∨ a.line = b.line ∧ a.column ≤ b.column := by
  show Position.le a b = true ↔ _
  simp [Position.le]

protected theorem le_refl (a : Position) : a ≤ a := le_iff.2 (.inr ⟨rfl, Nat.le_refl _⟩)

protected theorem le_trans (hab : a ≤ b) (hbc : b ≤ c) : a ≤ c := by
  rw [le_iff] at *
  omega

end Position

namespace SyntaxTree

/-- The children of every node lie within it, one after the other. -/
inductive Nested : SyntaxTree → Prop
  | node {t : SyntaxTree} (span : t.startPosition ≤ t.stopPosition)
      (within : ∀ c ∈ t.children, t.startPosition ≤ c.startPosition ∧ c.stopPosition ≤ t.stopPosition)
      (ordered : t.children.Pairwise fun c d => c.stopPosition ≤ d.startPosition)
      (nested : ∀ c ∈ t.children, Nested c) : Nested t

/-- The way from the root of a tree to one of its nodes. -/
abbrev Address := List Nat

/-- The node at an address. -/
def at? : SyntaxTree → Address → Option SyntaxTree
  | t, [] => some t
  | t, i :: rest =>
    match t.children[i]? with
    | some c => c.at? rest
    | none => none

/-- The node at one address is an ancestor of the node at the other. -/
def Address.Above (a b : Address) : Prop := a <+: b ∧ a ≠ b

/-- Neither of two nodes is at or below the other. -/
def Address.Apart (a b : Address) : Prop := ¬ a <+: b ∧ ¬ b <+: a

/-- The named children of the node `t` at an address, with theirs. -/
def namedAt (t : SyntaxTree) (a : Address) : List (SyntaxTree × Address) :=
  (t.children.zipIdx.filter (·.1.root.named)).map fun (c, i) => (c, a ++ [i])

variable {t u v : SyntaxTree} {a b c : Address} {i : Nat} {x : SyntaxTree × Address}

/-! ### Addresses -/

theorem at?_append (t : SyntaxTree) (a b : Address) : t.at? (a ++ b) = (t.at? a).bind (·.at? b) := by
  induction a generalizing t with
  | nil => rfl
  | cons i a ih =>
    simp only [List.cons_append, at?]
    cases t.children[i]? with
    | none => rfl
    | some c => exact ih c

theorem at?_child (ht : t.at? a = some u) (hu : u.children[i]? = some v) : t.at? (a ++ [i]) = some v := by
  simp [at?_append, ht, at?, hu]

theorem Address.above_concat : Address.Above a (b ++ [i]) ↔ a <+: b := by
  constructor
  · rintro ⟨hp, hne⟩
    exact (List.prefix_concat_iff.1 hp).resolve_left hne
  · intro h
    refine ⟨h.trans (List.prefix_append ..), fun he => ?_⟩
    have := h.length_le
    simp only [he, List.length_append, List.length_singleton] at this
    omega

theorem Address.Above.trans (hab : Address.Above a b) (hbc : Address.Above b c) : Address.Above a c :=
  ⟨hab.1.trans hbc.1, fun h => by
    subst h
    exact hab.2 (hab.1.eq_of_length_le hbc.1.length_le)⟩

/-- What is above a node below `a`, and neither at nor below `a`, is above `a`. -/
theorem Address.Above.of_not_below (hb : Address.Above b c) (ha : a <+: c) (hn : ¬ a <+: b) :
    Address.Above b a :=
  ⟨(List.prefix_or_prefix_of_prefix hb.1 ha).resolve_right hn, fun h => hn (h ▸ List.prefix_rfl)⟩

/-! ### Nesting -/

namespace Nested

theorem span (h : t.Nested) : t.startPosition ≤ t.stopPosition := by
  cases h; assumption

theorem within (h : t.Nested) :
    ∀ c ∈ t.children, t.startPosition ≤ c.startPosition ∧ c.stopPosition ≤ t.stopPosition := by
  cases h; assumption

theorem ordered (h : t.Nested) : t.children.Pairwise fun c d => c.stopPosition ≤ d.startPosition := by
  cases h; assumption

theorem nested (h : t.Nested) : ∀ c ∈ t.children, c.Nested := by
  cases h; assumption

end Nested

theorem nested_node_iff {r : SyntaxNode} {cs : List SyntaxTree} : (node r cs).Nested ↔
    (node r cs).startPosition ≤ (node r cs).stopPosition ∧
    (∀ c ∈ cs, (node r cs).startPosition ≤ c.startPosition ∧ c.stopPosition ≤ (node r cs).stopPosition) ∧
    (cs.Pairwise fun c d => c.stopPosition ≤ d.startPosition) ∧ ∀ c ∈ cs, c.Nested :=
  ⟨fun h => ⟨h.span, h.within, h.ordered, h.nested⟩, fun ⟨hs, hw, ho, hn⟩ => .node hs hw ho hn⟩

theorem map_namedAt (t : SyntaxTree) (a : Address) : (t.namedAt a).map (·.1) = t.namedChildren := by
  have h : t.children.zipIdx.map (·.1) = t.children := List.zipIdx_map_fst 0 t.children
  calc (t.namedAt a).map (·.1)
    _ = (t.children.zipIdx.filter (·.1.root.named)).map (·.1) := by simp [namedAt, Function.comp_def]
    _ = (t.children.zipIdx.map (·.1)).filter (·.root.named) := by rw [List.filter_map]; rfl
    _ = t.namedChildren := by rw [h]; rfl

theorem exists_of_mem_namedAt (h : x ∈ t.namedAt a) : ∃ i, t.children[i]? = some x.1 ∧ x.2 = a ++ [i] := by
  obtain ⟨⟨c, i⟩, hc, rfl⟩ := List.mem_map.1 h
  exact ⟨i, List.mem_zipIdx_iff_getElem?.1 (List.mem_filter.1 hc).1, rfl⟩

/-- The children of a node are apart and in order. -/
theorem Nested.pairwise_namedAt (h : t.Nested) (a : Address) :
    (t.namedAt a).Pairwise fun x y =>
      x.1.stopPosition ≤ y.1.startPosition ∧ Address.Apart x.2 y.2 := by
  have hzip : t.children.zipIdx.Pairwise fun x y =>
      x.1.stopPosition ≤ y.1.startPosition ∧ x.2 ≠ y.2 := by
    rw [List.pairwise_iff_getElem]
    intro i j hi hj hij
    rw [List.length_zipIdx] at hi hj
    simp only [List.getElem_zipIdx]
    exact ⟨List.pairwise_iff_getElem.1 h.ordered i j hi hj hij, by omega⟩
  refine List.pairwise_map.2 ((hzip.filter _).imp ?_)
  rintro ⟨c, i⟩ ⟨d, j⟩ ⟨hs, hij⟩
  have apart : ∀ {i j : Nat}, a ++ [i] <+: a ++ [j] → i = j := fun h => by simpa using h
  exact ⟨hs, fun h => hij (apart h), fun h => hij (apart h).symm⟩

end SyntaxTree
end SymbolIndex
