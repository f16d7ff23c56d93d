import SymbolIndex.Proofs.Symbols.Reading
import SymbolIndex.Proofs.Syntax.Nesting

/-!
# The structure of symbol lists

In a tree with nested spans, a regular visitor lists symbols in the order of their starts, each after the
one it belongs to, which is that of the innermost node above its own at which a function, a class or a
bound callable was found, and which spans it. What is still to visit while a tree is walked lies ahead of
all that was found and apart from it (`Walking`); a visit leaves it so (`Walking.step`), and when nothing
is left to visit the list is as it should be (`symbols_structure`).
-/
namespace SymbolIndex
open SyntaxTree

/-- A symbol with the address of the node that it was found at. -/
structure Finding where
  place : Address
  symbol : Symbol

namespace Visitor

/-- What a visitor finds at a node. -/
def foundAt (visit : Visitor (Array Symbol)) (t : SyntaxTree) : List Symbol := (visit t none #[]).2.toList

/-- The node with whose named children a visitor goes on. -/
def container? (visit : Visitor (Array Symbol)) (t : SyntaxTree) : Option SyntaxTree :=
  match (visit t none #[]).1 with
  | .descend _ => some t
  | .descendInto inner _ _ => some inner
  | .skip => none

/-- A visitor that is shown the node `t` is shown the node `u`. -/
inductive Reaches (visit : Visitor (Array Symbol)) : SyntaxTree → SyntaxTree → Prop
  | refl (t : SyntaxTree) : Reaches visit t t
  | onward {t v c u : SyntaxTree} (hv : visit.container? t = some v) (hc : c ∈ v.namedChildren)
      (hu : Reaches visit c u) : Reaches visit t u

end Visitor

/-- The scope of a node with a span: the innermost of the findings above the node, which is a function
or a class and spans it, or none if there is none above it. -/
def IsScope (found : List Finding) (place : Address) (start stop : Position) : Scope → Prop
  | none => ∀ d ∈ found, ¬ Address.Above d.place place
  | some j => ∃ e, found[j]? = some e ∧ (e.symbol.kind = .function ∨ e.symbol.kind = .classType) ∧
      e.symbol.start ≤ start ∧ stop ≤ e.symbol.stop ∧ Address.Above e.place place ∧
      ∀ d ∈ found, Address.Above d.place place → d.place <+: e.place

/-- What a visitor finds at the node at an address is among the findings, unless the node is passed over
for being the value of one of them. -/
def Accounted (visit : Visitor (Array Symbol)) (t : SyntaxTree) (found : List Finding) (a : Address) : Prop :=
  ∀ u, t.at? a = some u → visit.foundAt u = [] ∨ (∃ d ∈ found, d.place = a) ∨
    ∃ d ∈ found, ∃ i p, a = d.place ++ [i] ∧ t.at? d.place = some p ∧ visit.container? p = some u

/-- All that a visitor finds at the node `u` is among the findings. -/
def Lists (visit : Visitor (Array Symbol)) (t : SyntaxTree) (found : List Finding) (u : SyntaxTree) : Prop :=
  ∀ s ∈ visit.foundAt u, ∃ e ∈ found, t.at? e.place = some u ∧ { e.symbol with parent := none } = s

/-- Findings in a tree that are in order and have the right parents. -/
structure Arranged (visit : Visitor (Array Symbol)) (t : SyntaxTree) (found : List Finding) : Prop where
  /-- Every symbol is what the visitor finds at its node. -/
  origin : ∀ e ∈ found, ∃ u, t.at? e.place = some u ∧ { e.symbol with parent := none } ∈ visit.foundAt u
  ordered : found.Pairwise fun d e => d.symbol.start ≤ e.symbol.start
  earlier : ∀ (i j : Nat) (e : Finding), found[i]? = some e → e.symbol.parent = some j → j < i
  inScope : ∀ e ∈ found, IsScope found e.place e.symbol.start e.symbol.stop e.symbol.parent
  /-- No finding above a listed one is missing. -/
  accounted : ∀ e ∈ found, ∀ a, Address.Above a e.place → Accounted visit t found a

/-- The findings in a tree as the readers of a symbol list expect them, and all of them. -/
structure WellListed (visit : Visitor (Array Symbol)) (t : SyntaxTree) (found : List Finding) : Prop
    extends Arranged visit t found where
  complete : ∀ u, visit.Reaches t u → Lists visit t found u

/-- A node that a walk has yet to visit, with its address and its scope. -/
structure Pending where
  tree : SyntaxTree
  place : Address
  scope : Scope

/-- What is pending lies ahead of the findings, in order and apart, and its scopes are right. -/
structure Walking (visit : Visitor (Array Symbol)) (t : SyntaxTree) (stack : List Pending)
    (found : List Finding) : Prop extends Arranged visit t found where
  located : ∀ x ∈ stack, t.at? x.place = some x.tree ∧ x.tree.Nested
  apart : stack.Pairwise fun x y =>
    x.tree.stopPosition ≤ y.tree.startPosition ∧ Address.Apart x.place y.place
  ahead : ∀ x ∈ stack, ∀ e ∈ found, e.symbol.start ≤ x.tree.startPosition ∧ ¬ x.place <+: e.place
  pendingInScope : ∀ x ∈ stack, IsScope found x.place x.tree.startPosition x.tree.stopPosition x.scope
  pendingAccounted : ∀ x ∈ stack, ∀ a, Address.Above a x.place → Accounted visit t found a

/-- What the visitor is to be shown and is not listed yet is at or below something pending. -/
def Remaining (visit : Visitor (Array Symbol)) (t : SyntaxTree) (stack : List Pending)
    (found : List Finding) : Prop :=
  ∀ u, visit.Reaches t u → Lists visit t found u ∨ ∃ x ∈ stack, visit.Reaches x.tree u

variable {visit : Visitor (Array Symbol)} {t : SyntaxTree} {found new : List Finding} {a b : Address}
  {start stop start' stop' : Position} {scope : Scope} {x : Pending} {rest : List Pending}

/-! ### Scopes -/

/-- A finding that is not above a node does not change its scope. -/
theorem IsScope.append (h : IsScope found a start stop scope)
    (hnew : ∀ e ∈ new, ¬ Address.Above e.place a) : IsScope (found ++ new) a start stop scope := by
  have old : ∀ d ∈ found ++ new, Address.Above d.place a → d ∈ found := fun d hd ha =>
    (List.mem_append.1 hd).resolve_right fun hd => hnew d hd ha
  cases scope with
  | none => exact fun d hd ha => h d (old d hd ha) ha
  | some j =>
    obtain ⟨e, he, hkind, hstart, hstop, hplace, hinner⟩ := h
    have hj : j < found.length := (List.getElem?_eq_some_iff.1 he).1
    refine ⟨e, ?_, hkind, hstart, hstop, hplace, fun d hd ha => hinner d (old d hd ha) ha⟩
    rw [List.getElem?_append_left hj, he]

/-- A node is in the scope of what is above it, if nothing between them was found. -/
theorem IsScope.descend (h : IsScope found a start stop scope) (hfound : ∀ e ∈ found, ¬ a <+: e.place)
    (hab : Address.Above a b) (hstart : start ≤ start') (hstop : stop' ≤ stop) :
    IsScope found b start' stop' scope := by
  cases scope with
  | none => exact fun d hd hdb => h d hd (hdb.of_not_below hab.1 (hfound d hd))
  | some j =>
    obtain ⟨e, he, hkind, hs, ht, hplace, hinner⟩ := h
    exact ⟨e, he, hkind, Position.le_trans hs hstart, Position.le_trans hstop ht, hplace.trans hab,
      fun d hd hdb => hinner d hd (hdb.of_not_below hab.1 (hfound d hd))⟩

/-- A node is in the scope of the last finding, if that is the lowest above it. -/
theorem IsScope.last {s : Symbol} (hfound : ∀ e ∈ found, ¬ a <+: e.place) (own : s.kind ≠ .moduleImport)
    (hab : Address.Above a b) (hstart : s.start ≤ start) (hstop : stop ≤ s.stop) :
    IsScope (found ++ [⟨a, s⟩]) b start stop (some found.length) := by
  refine ⟨⟨a, s⟩, by simp, ?_, hstart, hstop, hab, fun d hd hdb => ?_⟩
  · cases hk : s.kind with
    | function => exact .inl rfl
    | classType => exact .inr rfl
    | moduleImport => exact absurd hk own
  · rcases List.mem_append.1 hd with hd | hd
    · exact (hdb.of_not_below hab.1 (hfound d hd)).1
    · obtain rfl := List.mem_singleton.1 hd
      exact List.prefix_rfl

theorem Accounted.append (h : Accounted visit t found a) : Accounted visit t (found ++ new) a := by
  intro u hu
  rcases h u hu with h | ⟨d, hd, h⟩ | ⟨d, hd, h⟩
  · exact .inl h
  · exact .inr (.inl ⟨d, List.mem_append_left _ hd, h⟩)
  · exact .inr (.inr ⟨d, List.mem_append_left _ hd, h⟩)

/-! ### One visit -/

namespace Visitor

variable {u v : SyntaxTree}

theorem ReadsAs.foundAt_eq {r : Reading u} (h : ReadsAs r (visit u)) : visit.foundAt u = r.symbols none := by
  simp [foundAt, h none #[]]

theorem ReadsAs.container?_binding {kind : SymbolKind} {name : String} {own : kind ≠ .moduleImport}
    {mem : v ∈ u.children} {smaller : v.weight < u.weight}
    (h : ReadsAs (.binding kind name own v mem smaller) (visit u)) : visit.container? u = some v := by
  simp [container?, h none #[], Reading.visit]

/-- A visit goes on with the named children of its container. -/
theorem ReadsAs.next_eq {r : Reading u} (h : ReadsAs r (visit u)) (hv : visit.container? u = some v)
    (scope : Scope) (n : Nat) : (r.visit scope n).next.map (·.1) = v.namedChildren := by
  simp only [container?, h none #[]] at hv
  cases r <;> simp_all [Reading.visit, Visit.next, Function.comp_def]

end Visitor

/-- The findings of a visit to a pending node. -/
def Pending.findings (x : Pending) (r : Reading x.tree) : List Finding :=
  (r.symbols x.scope).map (⟨x.place, ·⟩)

/-- The named children of the node `u` at an address, to be visited in a scope. -/
def Pending.below (u : SyntaxTree) (b : Address) (scope : Scope) : List Pending :=
  (u.namedAt b).map fun y => ⟨y.1, y.2, scope⟩

theorem Pending.of_mem_below {u : SyntaxTree} {y : Pending} (h : y ∈ below u b scope) :
    ∃ c i, u.children[i]? = some c ∧ y = ⟨c, b ++ [i], scope⟩ := by
  obtain ⟨z, hz, rfl⟩ := List.mem_map.1 h
  obtain ⟨i, hi, hplace⟩ := exists_of_mem_namedAt hz
  exact ⟨z.1, i, hi, by rw [hplace]⟩

namespace Walking
open Visitor

variable {r : Reading x.tree} {u : SyntaxTree} {e : Finding}

theorem of_mem_findings (h : e ∈ x.findings r) : e.place = x.place ∧ e.symbol ∈ r.symbols x.scope := by
  obtain ⟨s, hs, rfl⟩ := List.mem_map.1 h
  exact ⟨rfl, hs⟩

theorem map_findings (x : Pending) (r : Reading x.tree) :
    (x.findings r).map (·.symbol) = r.symbols x.scope := by
  simp [Pending.findings, Function.comp_def]

theorem start_of_mem_findings (h : e ∈ x.findings r) : e.symbol.start = x.tree.startPosition :=
  (Reading.of_mem_symbols (of_mem_findings h).2).1

/-- All that the visitor finds at a pending node is among the findings of the visit. -/
theorem exists_mem_findings (hr : ReadsAs r (visit x.tree)) {s : Symbol} (hs : s ∈ visit.foundAt x.tree) :
    ∃ e ∈ x.findings r, e.place = x.place ∧ { e.symbol with parent := none } = s := by
  rw [hr.foundAt_eq] at hs
  have hmem : { s with parent := x.scope } ∈ r.symbols x.scope := by
    rw [Reading.symbols_eq_map]
    exact List.mem_map.2 ⟨s, hs, rfl⟩
  refine ⟨⟨x.place, _⟩, List.mem_map.2 ⟨_, hmem, rfl⟩, rfl, ?_⟩
  rw [← (Reading.of_mem_symbols hs).2.2]

/-- What is not below a node is in the same scope before and after the visit to the node. -/
theorem isScope_visit (h : IsScope found a start stop scope) (ha : ¬ Address.Above x.place a) :
    IsScope (found ++ x.findings r) a start stop scope :=
  h.append fun d hd hda => ha (by rwa [← (of_mem_findings hd).1])

/-- The findings of a visit go to the end of the list. -/
theorem arranged_visit (h : Walking visit t (x :: rest) found) (hr : ReadsAs r (visit x.tree)) :
    Arranged visit t (found ++ x.findings r) := by
  have hahead := h.ahead x (by simp)
  have hscope := h.pendingInScope x (by simp)
  refine ⟨fun e he => ?origin, ?ordered, fun i j e hi hj => ?earlier, fun e he => ?inScope,
    fun e he a ha => ?accounted⟩
  case origin =>
    rcases List.mem_append.1 he with he | he
    · exact h.origin e he
    · obtain ⟨hplace, hs⟩ := of_mem_findings he
      refine ⟨x.tree, ?_, ?_⟩
      · rw [hplace, (h.located x (by simp)).1]
      · rw [hr.foundAt_eq]
        exact Reading.withoutParent_mem hs
  case ordered =>
    refine List.pairwise_append.2 ⟨h.ordered, List.pairwise_of_forall_mem_list ?_, fun d hd e he => ?_⟩
    · intro d hd e he
      rw [start_of_mem_findings hd, start_of_mem_findings he]
      exact Position.le_refl _
    · rw [start_of_mem_findings he]
      exact (hahead d hd).1
  case earlier =>
    rcases Nat.lt_or_ge i found.length with hlt | hge
    · rw [List.getElem?_append_left hlt] at hi
      exact h.earlier i j e hi hj
    · rw [List.getElem?_append_right hge] at hi
      have hs := (of_mem_findings (List.mem_of_getElem? hi)).2
      rw [(Reading.of_mem_symbols hs).2.2] at hj
      rw [hj] at hscope
      obtain ⟨d, hd, -⟩ := hscope
      exact Nat.lt_of_lt_of_le (List.getElem?_eq_some_iff.1 hd).1 hge
  case inScope =>
    rcases List.mem_append.1 he with he | he
    · exact isScope_visit (h.inScope e he) fun ha => (hahead e he).2 ha.1
    · obtain ⟨hplace, hs⟩ := of_mem_findings he
      obtain ⟨hstart, hstop, hparent⟩ := Reading.of_mem_symbols hs
      rw [hplace, hstart, hstop, hparent]
      exact isScope_visit hscope fun ha => ha.2 rfl
  case accounted =>
    rcases List.mem_append.1 he with he | he
    · exact (h.accounted e he a ha).append
    · rw [(of_mem_findings he).1] at ha
      exact (h.pendingAccounted x (by simp) a ha).append

/-- What is pending besides the node visited is so after the visit. -/
theorem leave (h : Walking visit t (x :: rest) found) (hr : ReadsAs r (visit x.tree)) :
    Walking visit t rest (found ++ x.findings r) := by
  obtain ⟨happart, hrest⟩ := List.pairwise_cons.1 h.apart
  refine ⟨h.arranged_visit hr, fun y hy => h.located y (by simp [hy]), hrest, fun y hy e he => ?_,
    fun y hy => ?_, fun y hy a ha => (h.pendingAccounted y (by simp [hy]) a ha).append⟩
  · obtain ⟨hstop, hplace⟩ := happart y hy
    rcases List.mem_append.1 he with he | he
    · exact h.ahead y (by simp [hy]) e he
    · rw [start_of_mem_findings he, (of_mem_findings he).1]
      exact ⟨Position.le_trans (h.located x (by simp)).2.span hstop, hplace.2⟩
  · exact isScope_visit (h.pendingInScope y (by simp [hy])) fun ha => (happart y hy).2.1 ha.1

/-- A walk may go on with the children of a node `u` at or below the one visited, in a scope that is
right for all nodes between, if nothing above the children is missed. -/
theorem enter (h : Walking visit t (x :: rest) found) (hr : ReadsAs r (visit x.tree))
    (hu : t.at? b = some u) (hnested : u.Nested) (hplace : x.place <+: b)
    (hstart : x.tree.startPosition ≤ u.startPosition) (hstop : u.stopPosition ≤ x.tree.stopPosition)
    (hscope : ∀ {a start stop}, Address.Above x.place a → x.tree.startPosition ≤ start →
      stop ≤ x.tree.stopPosition → IsScope (found ++ x.findings r) a start stop scope)
    (hacc : ∀ a, a <+: b → Accounted visit t (found ++ x.findings r) a) :
    Walking visit t (Pending.below u b scope ++ rest) (found ++ x.findings r) := by
  have hleave := h.leave hr
  have happart := (List.pairwise_cons.1 h.apart).1
  have within : ∀ y ∈ Pending.below u b scope, Address.Above x.place y.place ∧
      x.tree.startPosition ≤ y.tree.startPosition ∧ y.tree.stopPosition ≤ x.tree.stopPosition := by
    intro y hy
    obtain ⟨c, i, hi, rfl⟩ := Pending.of_mem_below hy
    obtain ⟨hcs, hct⟩ := hnested.within c (List.mem_of_getElem? hi)
    exact ⟨Address.above_concat.2 hplace, Position.le_trans hstart hcs, Position.le_trans hct hstop⟩
  refine ⟨h.arranged_visit hr, fun y hy => ?located, ?apart, fun y hy e he => ?ahead, fun y hy => ?inScope,
    fun y hy a ha => ?accounted⟩
  case located =>
    rcases List.mem_append.1 hy with hy | hy
    · obtain ⟨c, i, hi, rfl⟩ := Pending.of_mem_below hy
      exact ⟨at?_child hu hi, hnested.nested c (List.mem_of_getElem? hi)⟩
    · exact hleave.located y hy
  case apart =>
    refine List.pairwise_append.2 ⟨?_, hleave.apart, fun y hy z hz => ?_⟩
    · exact List.pairwise_map.2 (hnested.pairwise_namedAt b)
    · obtain ⟨hxy, -, hys⟩ := within y hy
      obtain ⟨hxz, hxz₁, hxz₂⟩ := happart z hz
      refine ⟨Position.le_trans hys hxz, fun hp => hxz₁ (hxy.1.trans hp), fun hp => ?_⟩
      exact (List.prefix_or_prefix_of_prefix hxy.1 hp).elim hxz₁ hxz₂
  case ahead =>
    rcases List.mem_append.1 hy with hy | hy
    · obtain ⟨hxy, hys, -⟩ := within y hy
      rcases List.mem_append.1 he with he | he
      · obtain ⟨hes, hex⟩ := h.ahead x (by simp) e he
        exact ⟨Position.le_trans hes hys, fun hp => hex (hxy.1.trans hp)⟩
      · rw [start_of_mem_findings he, (of_mem_findings he).1]
        exact ⟨hys, fun hp => hxy.2 (hxy.1.eq_of_length_le hp.length_le)⟩
    · exact hleave.ahead y hy e he
  case inScope =>
    rcases List.mem_append.1 hy with hy | hy
    · obtain ⟨hxy, hys, hyt⟩ := within y hy
      obtain ⟨c, i, -, rfl⟩ := Pending.of_mem_below hy
      exact hscope hxy hys hyt
    · exact hleave.pendingInScope y hy
  case accounted =>
    rcases List.mem_append.1 hy with hy | hy
    · obtain ⟨c, i, -, rfl⟩ := Pending.of_mem_below hy
      exact hacc a (Address.above_concat.1 ha)
    · exact hleave.pendingAccounted y hy a ha

/-- The node visited is accounted for, and so is all above it. -/
theorem accounted_visit (h : Walking visit t (x :: rest) found) (hr : ReadsAs r (visit x.tree))
    (ha : a <+: x.place) : Accounted visit t (found ++ x.findings r) a := by
  by_cases hax : a = x.place
  · subst hax
    intro u hu
    obtain rfl : x.tree = u := Option.some.inj ((h.located x (by simp)).1.symm.trans hu)
    cases hs : visit.foundAt x.tree with
    | nil => exact .inl rfl
    | cons s _ =>
      obtain ⟨e, he, hplace, -⟩ := exists_mem_findings hr (hs ▸ List.mem_cons_self)
      exact .inr (.inl ⟨e, List.mem_append_right _ he, hplace⟩)
  · exact (h.pendingAccounted x (by simp) a ⟨ha, hax⟩).append

/-- One visit: what it finds is listed, and where it goes on is pending. -/
theorem step (h : Walking visit t (x :: rest) found) (hr : ReadsAs r (visit x.tree)) :
    ∃ items, items.map (fun y => (y.tree, y.scope)) = (r.visit x.scope found.length).next ∧
      Walking visit t (items ++ rest) (found ++ x.findings r) := by
  obtain ⟨hloc, hnested⟩ := h.located x (by simp)
  have hahead : ∀ e ∈ found, ¬ x.place <+: e.place := fun e he => (h.ahead x (by simp) e he).2
  have next : ∀ {u b scope}, (Pending.below u b scope).map (fun y => (y.tree, y.scope)) =
      u.namedChildren.map (·, scope) := by
    intro u b scope
    rw [← map_namedAt u b, Pending.below, List.map_map, List.map_map]
    rfl
  cases r with
  | plain =>
    refine ⟨Pending.below x.tree x.place x.scope, next, h.enter hr hloc hnested List.prefix_rfl
      (Position.le_refl _) (Position.le_refl _) (fun ha hs ht => ?_) fun a => h.accounted_visit hr⟩
    have := (h.pendingInScope x (by simp)).descend hahead ha hs ht
    simpa [Pending.findings, Reading.symbols] using this
  | declaration kind name own =>
    exact ⟨Pending.below x.tree x.place (some found.length), next, h.enter hr hloc hnested List.prefix_rfl
      (Position.le_refl _) (Position.le_refl _) (fun ha hs ht => .last hahead own ha hs ht)
      fun a => h.accounted_visit hr⟩
  | binding kind name own value mem smaller =>
    obtain ⟨k, hk⟩ := List.mem_iff_getElem?.1 mem
    obtain ⟨hvs, hvt⟩ := hnested.within value mem
    refine ⟨Pending.below value (x.place ++ [k]) (some found.length), next,
      h.enter hr (at?_child hloc hk) (hnested.nested value mem) (List.prefix_append ..) hvs hvt
      (fun ha hs ht => .last hahead own ha hs ht) fun a ha => ?_⟩
    -- Below the node there is the value before its children, and the visitor passes over it.
    rcases List.prefix_concat_iff.1 ha with rfl | ha
    · intro u hu
      obtain rfl : value = u := Option.some.inj ((at?_child hloc hk).symm.trans hu)
      have hmem : ⟨x.place, x.tree.symbol kind name x.scope⟩ ∈ found ++
          x.findings (.binding kind name own value mem smaller) := List.mem_concat_self
      exact .inr (.inr ⟨_, hmem, k, x.tree, rfl, hloc, hr.container?_binding⟩)
    · exact h.accounted_visit hr ha
  | imports modules => exact ⟨[], rfl, h.leave hr⟩

/-- A node that is visited is listed, and what is reached from it by way of where the visit goes on. -/
theorem remaining_visit {items : List Pending} (h : Walking visit t (x :: rest) found)
    (hr : ReadsAs r (visit x.tree))
    (hitems : items.map (fun y => (y.tree, y.scope)) = (r.visit x.scope found.length).next)
    (hrem : Remaining visit t (x :: rest) found) :
    Remaining visit t (items ++ rest) (found ++ x.findings r) := by
  intro u hu
  rcases hrem u hu with hlists | ⟨y, hy, hyu⟩
  · refine .inl fun s hs => ?_
    obtain ⟨e, he, heu⟩ := hlists s hs
    exact ⟨e, List.mem_append_left _ he, heu⟩
  rcases List.mem_cons.1 hy with rfl | hy
  · cases hyu with
    | refl =>
      refine .inl fun s hs => ?_
      obtain ⟨e, he, hplace, heq⟩ := exists_mem_findings hr hs
      exact ⟨e, List.mem_append_right _ he, by rw [hplace, (h.located y (by simp)).1], heq⟩
    | @onward _ v c _ hv hc hu =>
      rw [← hr.next_eq hv y.scope found.length, ← hitems, List.map_map] at hc
      obtain ⟨z, hz, rfl⟩ := List.mem_map.1 hc
      exact .inr ⟨z, List.mem_append_left _ hz, hu⟩
  · exact .inr ⟨y, List.mem_append_right _ hy, hyu⟩

/-- A walk with a regular visitor lists its findings well. -/
theorem run {stack : List Pending} {found : List Finding} (hv : visit.Regular)
    (h : Walking visit t stack found) (hrem : Remaining visit t stack found) :
    ∃ listed, listed.map (·.symbol) =
      (walkFrom visit (stack.map fun x => (x.tree, x.scope)) (found.map (·.symbol)).toArray).toList ∧
      WellListed visit t listed := by
  match stack with
  | [] =>
    have complete : ∀ u, visit.Reaches t u → Lists visit t found u := fun u hu =>
      (hrem u hu).resolve_right fun ⟨_, hx, _⟩ => absurd hx List.not_mem_nil
    exact ⟨found, by simp [walkFrom], h.toArranged, complete⟩
  | x :: rest =>
    obtain ⟨r, hr⟩ := hv x.tree
    obtain ⟨items, hnext, hw⟩ := h.step hr
    obtain ⟨listed, heq, hlisted⟩ := run hv hw (h.remaining_visit hr hnext hrem)
    refine ⟨listed, heq.trans ?_, hlisted⟩
    rw [List.map_cons, walkFrom, hr]
    simp [hnext, map_findings]
  termination_by stackWeight (stack.map fun x => (x.tree, x.scope))
  decreasing_by
    rw [List.map_append, hnext]
    exact stackWeight_step _ _ _

/-- A walk that is to start at the root has found nothing, and nothing is above the root. -/
theorem root (visit : Visitor (Array Symbol)) (h : t.Nested) : Walking visit t [⟨t, [], none⟩] [] := by
  have top : ∀ a, ¬ Address.Above a [] := fun a ha => ha.2 (List.prefix_nil.1 ha.1)
  refine ⟨⟨?_, .nil, ?_, ?_, ?_⟩, ?_, List.pairwise_singleton .., ?_, ?_, ?_⟩
  all_goals simp [at?, h, IsScope, top]

end Walking

/-- What a regular visitor finds in a tree with nested spans is well listed. -/
theorem WellListed.of_walk (hv : visit.Regular) (h : t.Nested) :
    ∃ listed, listed.map (·.symbol) = (t.walk visit #[]).toList ∧ WellListed visit t listed :=
  (Walking.root visit h).run hv fun _ hu => .inr ⟨_, List.mem_singleton_self _, hu⟩

/-- The symbols of a text in any of the languages are well listed, for every tree with nested spans. -/
theorem symbols_structure (source : String) (t : SyntaxTree) (h : t.Nested) :
    (∃ listed, listed.map (·.symbol) = Python.symbols source t ∧
      WellListed (Python.visit source) t listed) ∧
    ∃ listed, listed.map (·.symbol) = EcmaScript.symbols source t ∧
      WellListed (EcmaScript.visit source) t listed :=
  ⟨WellListed.of_walk (Python.regular_visit source) h, WellListed.of_walk (EcmaScript.regular_visit source) h⟩

namespace Unclosed

/-- A text that lacks its last brace. -/
def text : String := "f = x => \x7b class A \x7b\x7d"

/-- A named node on the first line of a text. -/
def node (kind : String) (role : Option String) (start stop : Nat) (children : List SyntaxTree) :
    SyntaxTree :=
  .node ⟨kind, true, role, kind == "ERROR", false, true, ⟨start, 0, start⟩, ⟨stop, 0, stop⟩⟩ children

def tree : SyntaxTree :=
  node "program" none 0 21 [node "variable_declarator" none 0 21 [
    node "identifier" (some "name") 0 1 [],
    node "arrow_function" (some "value") 4 21 [
      node "identifier" (some "parameter") 4 5 [],
      node "ERROR" none 9 21 [
        node "class_declaration" none 11 21 [node "identifier" (some "name") 17 18 []]]]]]

theorem nested_tree : tree.Nested := by
  simp [nested_node_iff, tree, node, startPosition, stopPosition, Position.le_iff]

end Unclosed

/-- A class under an error in a callable that is bound to a name belongs to the callable. -/
theorem symbols_structure_unclosed : Unclosed.tree.Nested ∧
    EcmaScript.symbols Unclosed.text Unclosed.tree =
      [⟨.function, "f", ⟨1, 0⟩, ⟨1, 21⟩, none⟩, ⟨.classType, "A", ⟨1, 11⟩, ⟨1, 21⟩, some 0⟩] ∧
    ∃ listed, listed.map (·.symbol) = EcmaScript.symbols Unclosed.text Unclosed.tree ∧
      WellListed (EcmaScript.visit Unclosed.text) Unclosed.tree listed :=
  ⟨Unclosed.nested_tree, by decide +kernel,
    (symbols_structure Unclosed.text Unclosed.tree Unclosed.nested_tree).2⟩

end SymbolIndex
