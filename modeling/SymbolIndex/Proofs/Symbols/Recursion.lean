import Mathlib.Logic.Function.Iterate
import SymbolIndex.Proofs.Symbols.Exactness

/-!
# A walk is the plain recursion

What is still to visit stands on a stack while a tree is walked. The plain recursion (`tour`) needs none: it
visits a node, then the named children of the container that the visit chose, each with all that is below
it, and then the next node. Both show the same nodes in the same scopes to a visitor, whatever it makes of
them, and both come to the same end (`walkFrom_noting`), after as many rounds of the walk as there are visits
(`iterate_round`). If the visitor goes only into nodes below the one visited, the nodes come in pre-order
(`tour_preorder`), so none of them is visited twice. `WalksAs` puts this together for whole trees. For the
visitors whose ways are told by the nodes alone, the nodes visited are the exposed ones
(`Visitor.Guided.exists_mem_tour_iff`).
-/
namespace SymbolIndex
open SyntaxTree

variable {σ : Type}

/-- Where the node that a visit goes into is, below the node visited. -/
abbrev Locator (σ : Type) := SyntaxTree → Scope → σ → Address

namespace Visitor

/-- The visitor goes only into nodes of the tree it is shown, which are where `inner` says. Since
they are smaller than the tree, they are proper descendants of its root. -/
def Inward (visit : Visitor σ) (inner : Locator σ) : Prop :=
  ∀ ⦃t v : SyntaxTree⦄ ⦃scope : Scope⦄ ⦃found : σ⦄ ⦃smaller scope'⦄,
    (visit t scope found).1 = .descendInto v smaller scope' → t.at? (inner t scope found) = some v

/-- The named children of the container that the visit to a node chose, in the scope that it chose. -/
def next (visit : Visitor σ) (inner : Locator σ) (x : Pending) (found : σ) : List Pending :=
  match (visit x.tree x.scope found).1 with
  | .descend scope => Pending.below x.tree x.place scope
  | .descendInto v _ scope => Pending.below v (x.place ++ inner x.tree x.scope found) scope
  | .skip => []

/-- A visitor that does as another one and notes all that it is shown. -/
def noting (visit : Visitor σ) : Visitor (σ × Array (SyntaxTree × Scope)) := fun t scope (found, calls) =>
  ((visit t scope found).1, (visit t scope found).2, calls.push (t, scope))

/-- One round of a walk: a visit to the node on top of the stack. -/
def round (visit : Visitor σ) : List (SyntaxTree × Scope) × σ → List (SyntaxTree × Scope) × σ
  | ([], found) => ([], found)
  | ((t, scope) :: rest, found) => ((visit t scope found).1.next ++ rest, (visit t scope found).2)

end Visitor

/-- What a visitor is shown of a node. -/
def Pending.shown (x : Pending) : SyntaxTree × Scope := (x.tree, x.scope)

theorem Visitor.map_shown_next (visit : Visitor σ) (inner : Locator σ) (x : Pending) (found : σ) :
    (visit.next inner x found).map (·.shown) = (visit x.tree x.scope found).1.next := by
  unfold Visitor.next
  cases (visit x.tree x.scope found).1 with
  | descend scope => exact Touring.map_below
  | descendInto v smaller scope => exact Touring.map_below
  | skip => rfl

theorem stackWeight_visited (visit : Visitor σ) (inner : Locator σ) (x : Pending) (rest : List Pending)
    (found : σ) : stackWeight ((visit.next inner x found ++ rest).map (·.shown)) <
      stackWeight ((x :: rest).map (·.shown)) := by
  rw [List.map_append, visit.map_shown_next]
  exact stackWeight_step _ _ _

/-- The plain recursion: visits each node of a list and then, by recursion, the named children of the
container that the visit chose. All visits in their order, and what was found in the end. -/
def tour (visit : Visitor σ) (inner : Locator σ) (nodes : List Pending) (found : σ) : List Pending × σ :=
  match nodes with
  | [] => ([], found)
  | x :: rest =>
    let inside := tour visit inner (visit.next inner x found) (visit x.tree x.scope found).2
    let after := tour visit inner rest inside.2
    (x :: (inside.1 ++ after.1), after.2)
  termination_by stackWeight (nodes.map (·.shown))
  decreasing_by
    all_goals
      have := stackWeight_visited visit inner x rest found
      have := weight_pos x.tree
      simp only [List.map_append, List.map_cons, stackWeight, weights_append, weight.weights,
        Pending.shown] at *
      omega

section Tour

variable {visit : Visitor σ} {inner : Locator σ} {t : SyntaxTree} {x y : Pending} {found : σ}

/-- A visit puts what it asks for before all else, so an induction along a walk has one step only. -/
theorem Pending.induction (visit : Visitor σ) (inner : Locator σ) {motive : List Pending → σ → Prop}
    (nil : ∀ found, motive [] found)
    (cons : ∀ x rest found, motive (visit.next inner x found ++ rest) (visit x.tree x.scope found).2 →
      motive (x :: rest) found) (stack : List Pending) (found : σ) : motive stack found := by
  -- On the weight of what is pending, which every visit lowers.
  induction hweight : stackWeight (stack.map (·.shown)) using Nat.strongRecOn generalizing stack found with
  | ind n ih =>
    cases stack with
    | nil => exact nil found
    | cons x rest => exact cons x rest found (ih _ (hweight ▸ stackWeight_visited ..) _ _ rfl)

@[simp] theorem tour_nil : tour visit inner [] found = ([], found) := by
  rw [tour]

theorem tour_append (xs ys : List Pending) (found : σ) :
    tour visit inner (xs ++ ys) found =
      ((tour visit inner xs found).1 ++ (tour visit inner ys (tour visit inner xs found).2).1,
        (tour visit inner ys (tour visit inner xs found).2).2) := by
  induction xs generalizing found with
  | nil => simp
  | cons x rest ih =>
    rw [List.cons_append, tour, tour, ih]
    simp

/-- A tour as a walk would make it: what a visit asks for is put before the other nodes. -/
theorem tour_cons (x : Pending) (rest : List Pending) (found : σ) :
    tour visit inner (x :: rest) found =
      let onward := tour visit inner (visit.next inner x found ++ rest) (visit x.tree x.scope found).2
      (x :: onward.1, onward.2) := by
  rw [tour, tour_append]

theorem walkFrom_visited (x : Pending) (rest : List Pending) (found : σ) :
    walkFrom visit ((x :: rest).map (·.shown)) found =
      walkFrom visit ((visit.next inner x found ++ rest).map (·.shown)) (visit x.tree x.scope found).2 := by
  rw [List.map_append, visit.map_shown_next, List.map_cons, Pending.shown, walkFrom]

/-- A walk ends as the plain recursion does. -/
theorem walkFrom_eq (visit : Visitor σ) (inner : Locator σ) (stack : List Pending) (found : σ) :
    walkFrom visit (stack.map (·.shown)) found = (tour visit inner stack found).2 := by
  induction stack, found using Pending.induction visit inner with
  | nil found => rw [tour_nil, List.map_nil, walkFrom]
  | cons x rest found ih => rw [walkFrom_visited, ih, tour_cons]

/-- A walk visits the nodes that the plain recursion visits, in the same scopes and in the same order. -/
theorem walkFrom_noting (visit : Visitor σ) (inner : Locator σ) (stack : List Pending) (found : σ)
    (calls : Array (SyntaxTree × Scope)) :
    walkFrom visit.noting (stack.map (·.shown)) (found, calls) =
      ((tour visit inner stack found).2,
        calls ++ ((tour visit inner stack found).1.map (·.shown)).toArray) := by
  induction stack, found using Pending.induction visit inner generalizing calls with
  | nil found => simp [walkFrom]
  | cons x rest found ih =>
    have hround : walkFrom visit.noting ((x :: rest).map (·.shown)) (found, calls) =
        walkFrom visit.noting ((visit.next inner x found ++ rest).map (·.shown))
          ((visit x.tree x.scope found).2, calls.push x.shown) := by
      rw [List.map_append, visit.map_shown_next, List.map_cons, Pending.shown, walkFrom]
      rfl
    rw [hround, ih, tour_cons]
    simp

/-- A walk is over when it has gone as many rounds as the plain recursion makes visits. -/
theorem iterate_round (visit : Visitor σ) (inner : Locator σ) (stack : List Pending) (found : σ) :
    visit.round^[(tour visit inner stack found).1.length] (stack.map (·.shown), found) =
      ([], walkFrom visit (stack.map (·.shown)) found) := by
  induction stack, found using Pending.induction visit inner with
  | nil found => simp [walkFrom]
  | cons x rest found ih =>
    have hround : visit.round ((x :: rest).map (·.shown), found) =
        ((visit.next inner x found ++ rest).map (·.shown), (visit x.tree x.scope found).2) := by
      rw [List.map_append, visit.map_shown_next]
      rfl
    rw [tour_cons, List.length_cons, Function.iterate_succ_apply, hround, ih, ← walkFrom_visited]

/-! ### Where a tour goes -/

/-- What a visit asks for is below the node visited. -/
theorem Visitor.Inward.exists_of_mem_next (h : visit.Inward inner) (hy : y ∈ visit.next inner x found) :
    ∃ b i, y.place = x.place ++ (b ++ [i]) ∧ x.tree.at? (b ++ [i]) = some y.tree := by
  unfold Visitor.next at hy
  split at hy
  · obtain ⟨i, c, hc, -, rfl⟩ := Touring.mem_below.1 hy
    exact ⟨[], i, rfl, at?_child rfl hc⟩
  · rename_i v smaller scope heq
    obtain ⟨i, c, hc, -, rfl⟩ := Touring.mem_below.1 hy
    exact ⟨inner x.tree x.scope found, i, List.append_assoc .., at?_child (h heq) hc⟩
  · cases hy

theorem Visitor.Inward.located_next (h : visit.Inward inner) (hx : t.at? x.place = some x.tree)
    (hy : y ∈ visit.next inner x found) : t.at? y.place = some y.tree := by
  obtain ⟨b, i, hplace, htree⟩ := h.exists_of_mem_next hy
  rw [hplace, at?_append, hx, Option.bind_some, htree]

theorem Visitor.Inward.above_next (h : visit.Inward inner) (hy : y ∈ visit.next inner x found) :
    Address.Above x.place y.place := by
  obtain ⟨b, i, hplace, -⟩ := h.exists_of_mem_next hy
  rw [hplace, ← List.append_assoc]
  exact Address.above_concat.2 (List.prefix_append ..)

/-- The nodes of a list come one after the other, with all that is below them. -/
def InOrder (nodes : List Pending) : Prop :=
  nodes.Pairwise fun x y => x.place < y.place ∧ ¬ x.place <+: y.place

theorem inOrder_next (visit : Visitor σ) (inner : Locator σ) (x : Pending) (found : σ) :
    InOrder (visit.next inner x found) := by
  unfold Visitor.next
  split
  · exact List.pairwise_map.2 (pairwise_namedAt ..)
  · exact List.pairwise_map.2 (pairwise_namedAt ..)
  · exact .nil

theorem Visitor.Inward.inOrder_visited {rest : List Pending} (h : visit.Inward inner)
    (hstack : InOrder (x :: rest)) : InOrder (visit.next inner x found ++ rest) := by
  obtain ⟨hx, hrest⟩ := List.pairwise_cons.1 hstack
  refine List.pairwise_append.2 ⟨inOrder_next .., hrest, fun y hy z hz => ?_⟩
  obtain ⟨hlt, hn⟩ := hx z hz
  have hxy := (h.above_next hy).1
  exact ⟨Address.lt_of_prefix hlt hn hxy, fun hp => hn (hxy.trans hp)⟩

/-- A tour visits nodes at or below those that it starts with, in pre-order. -/
theorem tour_preorder (h : visit.Inward inner) (stack : List Pending) (found : σ)
    (hloc : ∀ x ∈ stack, t.at? x.place = some x.tree) (hstack : InOrder stack) :
    (∀ y ∈ (tour visit inner stack found).1,
      t.at? y.place = some y.tree ∧ ∃ x ∈ stack, x.place <+: y.place) ∧
    (tour visit inner stack found).1.Pairwise fun y z => y.place < z.place := by
  induction stack, found using Pending.induction visit inner with
  | nil found => simp
  | cons x rest found ih =>
    have hx : t.at? x.place = some x.tree := hloc x (by simp)
    have hvisited : ∀ y ∈ visit.next inner x found ++ rest, t.at? y.place = some y.tree := fun y hy =>
      (List.mem_append.1 hy).elim (h.located_next hx) fun hy => hloc y (by simp [hy])
    obtain ⟨hplaced, hsorted⟩ := ih hvisited (h.inOrder_visited hstack)
    -- What comes after the node visited is below it or comes after it on the stack.
    have hafter : ∀ y ∈ visit.next inner x found ++ rest, x.place < y.place := fun y hy =>
      (List.mem_append.1 hy).elim (fun hy => (h.above_next hy).lt) fun hy =>
        ((List.pairwise_cons.1 hstack).1 y hy).1
    rw [tour_cons]
    refine ⟨fun y hy => ?_, List.pairwise_cons.2 ⟨fun y hy => ?_, hsorted⟩⟩
    · rcases List.mem_cons.1 hy with rfl | hy
      · exact ⟨hx, y, by simp, List.prefix_rfl⟩
      · obtain ⟨hy, z, hz, hzy⟩ := hplaced y hy
        refine ⟨hy, ?_⟩
        rcases List.mem_append.1 hz with hz | hz
        · exact ⟨x, by simp, (h.above_next hz).1.trans hzy⟩
        · exact ⟨z, by simp [hz], hzy⟩
    · obtain ⟨-, z, hz, hzy⟩ := hplaced y hy
      by_cases heq : z.place = y.place
      · exact heq ▸ hafter z hz
      · exact List.lt_trans (hafter z hz) (Address.Above.lt ⟨hzy, heq⟩)

end Tour

/-! ### Which nodes a tour visits -/

/-- Where the nodes are that a visitor goes into, if those are children of the nodes it is shown. -/
def Visitor.childLocator (place : SyntaxTree → Nat) : Locator (Array Symbol) := fun t _ _ => [place t]

section Guided
open Visitor

variable {visit : Visitor (Array Symbol)} {place : SyntaxTree → Nat} {onward : SyntaxTree → Onward}
  {t v : SyntaxTree} {x : Pending} {found : Array Symbol} {scope : Scope} {a b : Address}

theorem Visitor.Guided.inward (hg : visit.Guided place) : visit.Inward (childLocator place) := by
  intro t v scope found smaller scope' h
  obtain ⟨r, hr⟩ := hg.regular t
  rw [hr] at h
  cases r with
  | plain | declaration | imports => cases h
  | binding kind name own value mem smaller =>
    cases h
    have hplace := hg.placed (t := t) (v := v) (by rw [hr]; rfl)
    simp [childLocator, at?, hplace]

/-- The named children of a node are exposed if the walk goes on with them, and so is what is below
them only. -/
theorem Clear.exposed_below (h : Clear onward t b) (hv : t.at? b = some v) (hov : onward v = .below) :
    (∀ y ∈ Pending.below v b scope, Exposed onward t y.place) ∧
    ∀ a, (t.at? a).isSome → Exposed onward t a → Address.Above b a →
      ∃ y ∈ Pending.below v b scope, y.place <+: a := by
  refine ⟨fun y hy => ?_, fun a ha hexp hab => ?_⟩
  · obtain ⟨i, c, hc, hn, rfl⟩ := Touring.mem_below.1 hy
    exact h.child hv hc hn
  · obtain ⟨w, hw⟩ := Option.isSome_iff_exists.1 ha
    obtain ⟨i, c, hc, hn, hp⟩ := hexp.exists_child hw hv hov hab
    exact ⟨_, Touring.mem_below.2 ⟨i, c, hc, hn, rfl⟩, hp⟩

/-- What a visit to an exposed node asks for is exposed, and all that is exposed below the node is there. -/
theorem Visitor.Guided.exposed_next (hg : visit.Guided place) (hx : t.at? x.place = some x.tree)
    (hexp : Exposed (visit.onward place) t x.place) (found : Array Symbol) :
    (∀ y ∈ visit.next (childLocator place) x found, Exposed (visit.onward place) t y.place) ∧
    ∀ a, (t.at? a).isSome → Exposed (visit.onward place) t a → Address.Above x.place a →
      ∃ y ∈ visit.next (childLocator place) x found, y.place <+: a := by
  obtain ⟨r, hr⟩ := hg.regular x.tree
  have hfirst : (visit x.tree none #[]).1 = r.visit none 0 := by rw [hr]; rfl
  have honward : visit.onward place x.tree = (r.visit none 0).onward (place x.tree) := by
    rw [Visitor.onward, hfirst]
  unfold Visitor.next
  rw [hr]
  cases r with
  | plain | declaration => exact (hexp.clear_below hx honward).exposed_below hx honward
  | binding kind name own value mem smaller =>
    have hv := hg.placed hfirst
    have hov := hg.through hfirst
    obtain ⟨hnext, hall⟩ := (hexp.clear_into hx honward hv hov).exposed_below (at?_child hx hv) hov
    refine ⟨hnext, fun a ha hexpa hxa => hall a ha hexpa ?_⟩
    -- Below the node, only what is below the value is exposed.
    have := hexpa.leads x.place x.tree hxa hx
    rwa [honward] at this
  | imports modules =>
    refine ⟨by simp [Reading.visit], fun a _ hexpa hxa => ?_⟩
    have := hexpa.leads x.place x.tree hxa hx
    rw [honward] at this
    exact this.elim

/-- A tour visits the exposed nodes at or below those that it starts with, and no others. -/
theorem Visitor.Guided.exists_mem_tour_iff (hg : visit.Guided place) (stack : List Pending)
    (found : Array Symbol)
    (hstack : ∀ x ∈ stack, t.at? x.place = some x.tree ∧ Exposed (visit.onward place) t x.place) :
    (∃ y ∈ (tour visit (childLocator place) stack found).1, y.place = a) ↔
      (t.at? a).isSome ∧ Exposed (visit.onward place) t a ∧ ∃ x ∈ stack, x.place <+: a := by
  induction stack, found using Pending.induction visit (childLocator place) with
  | nil found => simp
  | cons x rest found ih =>
    obtain ⟨hx, hexp⟩ := hstack x (by simp)
    obtain ⟨hnext, hall⟩ := hg.exposed_next hx hexp found
    have hvisited : ∀ y ∈ visit.next (childLocator place) x found ++ rest,
        t.at? y.place = some y.tree ∧ Exposed (visit.onward place) t y.place := fun y hy =>
      (List.mem_append.1 hy).elim (fun hy => ⟨hg.inward.located_next hx hy, hnext y hy⟩) fun hy =>
        hstack y (by simp [hy])
    have htour : (∃ y ∈ (tour visit (childLocator place) (x :: rest) found).1, y.place = a) ↔
        x.place = a ∨ (t.at? a).isSome ∧ Exposed (visit.onward place) t a ∧
          ∃ y ∈ visit.next (childLocator place) x found ++ rest, y.place <+: a := by
      rw [tour_cons, ← ih hvisited]
      simp
    rw [htour]
    constructor
    · rintro (rfl | ⟨ha, hexpa, y, hy, hya⟩)
      · exact ⟨by simp [hx], hexp, x, by simp, List.prefix_rfl⟩
      · refine ⟨ha, hexpa, ?_⟩
        rcases List.mem_append.1 hy with hy | hy
        · exact ⟨x, by simp, (hg.inward.above_next hy).1.trans hya⟩
        · exact ⟨y, by simp [hy], hya⟩
    · rintro ⟨ha, hexpa, y, hy, hya⟩
      rcases List.mem_cons.1 hy with rfl | hy
      · by_cases heq : y.place = a
        · exact .inl heq
        · obtain ⟨z, hz, hza⟩ := hall a ha hexpa ⟨hya, heq⟩
          exact .inr ⟨ha, hexpa, z, List.mem_append_left _ hz, hza⟩
      · exact .inr ⟨ha, hexpa, y, List.mem_append_right _ hy, hya⟩

end Guided

/-- The root of a tree, which no symbol encloses. -/
def SyntaxTree.top (t : SyntaxTree) : Pending := ⟨t, [], none⟩

/-- A walk of a tree visits what the plain recursion visits and finds what it finds. -/
structure WalksAs (visit : Visitor σ) (inner : Locator σ) (t : SyntaxTree) (found : σ) : Prop where
  /-- The walk is over after as many rounds as there are visits. -/
  ends : visit.round^[(tour visit inner [t.top] found).1.length] ([(t, none)], found) =
      ([], t.walk visit found)
  result : t.walk visit found = (tour visit inner [t.top] found).2
  /-- The same nodes, in the same scopes and in the same order. -/
  calls : t.walk visit.noting (found, #[]) =
    (t.walk visit found, ((tour visit inner [t.top] found).1.map (·.shown)).toArray)
  located : ∀ x ∈ (tour visit inner [t.top] found).1, t.at? x.place = some x.tree
  /-- The nodes come in pre-order, so no node comes twice. -/
  preorder : (tour visit inner [t.top] found).1.Pairwise fun x y => x.place < y.place

/-- A walk is the plain recursion, for every visitor that goes into nodes further down only. -/
theorem WalksAs.of_inward {visit : Visitor σ} {inner : Locator σ} (h : visit.Inward inner) (t : SyntaxTree)
    (found : σ) : WalksAs visit inner t found := by
  have hroot : [t.top].map (·.shown) = [(t, none)] := rfl
  have hresult : t.walk visit found = (tour visit inner [t.top] found).2 := by
    rw [walk, ← hroot, walkFrom_eq visit inner]
  obtain ⟨hplaced, hsorted⟩ := tour_preorder (t := t) h [t.top] found (by simp [top, at?])
    (List.pairwise_singleton ..)
  refine ⟨?_, hresult, ?_, fun x hx => (hplaced x hx).1, hsorted⟩
  · rw [← hroot, iterate_round, hroot, walk]
  · rw [hresult, walk, ← hroot, walkFrom_noting visit inner]
    simp

end SymbolIndex
