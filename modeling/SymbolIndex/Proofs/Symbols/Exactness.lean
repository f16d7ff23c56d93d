import SymbolIndex.Proofs.Symbols.Structure

/-!
# What a walk lists, node by node

A visitor goes on from a node as the node alone tells it: below the node, below one of its children, or
nowhere. So which nodes it is shown can be told from the tree (`Exposed`), and it lists what it finds at
just those, in pre-order. While a tree is walked, what is still to visit lies ahead of all that was found,
and every exposed node is listed or at or below something pending (`Touring`); a visit leaves it so
(`Touring.step`). When nothing is left to visit, all that is exposed is listed (`Toured.of_walk`).

For a language it remains to say what a node declares or imports by itself and which addresses are exposed:
then `ListedExactly.of_walk` tells its list.
-/
namespace SymbolIndex
open SyntaxTree

namespace SyntaxTree

variable {t u v c : SyntaxTree} {a b d : Address} {i j : Nat}

/-! ### Pre-order

Addresses are in pre-order when they are ordered as lists of numbers: a node comes before what is below it,
and its children come with all that is below them one after the other. -/

theorem Address.Above.lt (h : Address.Above a b) : a < b := by
  obtain ⟨⟨rest, rfl⟩, hne⟩ := h
  exact (List.le_iff_lt_or_eq.1 List.le_append_left).resolve_right hne

/-- What is at or below a node is before all that the node is before, unless that is below the node too. -/
theorem Address.lt_of_prefix (h : a < b) (hn : ¬ a <+: b) (had : a <+: d) : d < b := by
  obtain ⟨rest, rfl⟩ := had
  induction a generalizing b with
  | nil => exact absurd List.nil_prefix hn
  | cons i a ih =>
    cases b with
    | nil => exact absurd h (List.not_lt_nil _)
    | cons j b =>
      rw [List.cons_append, List.cons_lt_cons_iff]
      rcases List.cons_lt_cons_iff.1 h with hij | ⟨rfl, hab⟩
      · exact .inl hij
      · exact .inr ⟨rfl, ih hab fun hp => hn (List.cons_prefix_cons.2 ⟨rfl, hp⟩)⟩

theorem Address.concat_lt_concat (h : i < j) : a ++ [i] < a ++ [j] := by
  induction a with
  | nil => exact List.cons_lt_cons_iff.2 (.inl h)
  | cons k a ih => exact List.cons_lt_cons_iff.2 (.inr ⟨rfl, ih⟩)

theorem Address.not_prefix_of_lt (h : a < b) : ¬ b <+: a := by
  rintro ⟨rest, rfl⟩
  exact List.not_lt.2 List.le_append_left h

/-- Below a node there is the child that leads there. -/
theorem exists_child_of_above (hw : (t.at? a).isSome) (hu : t.at? b = some u) (hab : Address.Above b a) :
    ∃ i c, u.children[i]? = some c ∧ b ++ [i] <+: a := by
  obtain ⟨⟨rest, rfl⟩, hne⟩ := hab
  cases rest with
  | nil => simp at hne
  | cons i rest =>
    rw [at?_append, hu, Option.bind_some, at?] at hw
    cases hc : u.children[i]? with
    | none => simp [hc] at hw
    | some c => exact ⟨i, c, hc, by simp⟩

theorem mem_namedAt {x : SyntaxTree × Address} : x ∈ t.namedAt a ↔
    ∃ i c, t.children[i]? = some c ∧ c.root.named = true ∧ x = (c, a ++ [i]) := by
  simp only [namedAt, List.mem_map, List.mem_filter, List.mem_zipIdx_iff_getElem?]
  constructor
  · rintro ⟨⟨c, i⟩, ⟨hc, hn⟩, rfl⟩
    exact ⟨i, c, hc, hn, rfl⟩
  · rintro ⟨i, c, hc, hn, rfl⟩
    exact ⟨(c, i), ⟨hc, hn⟩, rfl⟩

/-- The children of a node come one after the other, with all that is below them. -/
theorem pairwise_namedAt (t : SyntaxTree) (a : Address) :
    (t.namedAt a).Pairwise fun x y => x.2 < y.2 ∧ ¬ x.2 <+: y.2 := by
  have hzip : t.children.zipIdx.Pairwise fun x y => x.2 < y.2 := by
    rw [List.pairwise_iff_getElem]
    intro i j hi hj hij
    simpa only [List.getElem_zipIdx, Nat.add_lt_add_iff_left] using hij
  refine List.pairwise_map.2 ((hzip.filter _).imp fun {x y} hxy => ?_)
  exact ⟨Address.concat_lt_concat hxy, fun hp => by simp at hp; omega⟩

end SyntaxTree

/-! ### Names -/

namespace SyntaxTree

/-- The child in a role gives a node its name: it is there, is not missing and is not blank. -/
def NamedBy (source role : String) (t : SyntaxTree) (name : String) : Prop :=
  ∃ c text, t.child? role = some c ∧ c.root.isMissing = false ∧ c.text? source = some text ∧
    Text.trim text = name ∧ name ≠ ""

theorem childText?_eq_some_iff {source role name : String} {t : SyntaxTree} :
    t.childText? source role = some name ↔ t.NamedBy source role name := by
  simp only [childText?, Option.bind_eq_some_iff, Option.filter_eq_some_iff, Option.map_eq_some_iff, NamedBy]
  constructor
  · rintro ⟨c, ⟨hc, hm⟩, ⟨text, ht, rfl⟩, hne⟩
    exact ⟨c, text, hc, by simpa using hm, ht, rfl, by simpa using hne⟩
  · rintro ⟨c, text, hc, hm, ht, rfl, hne⟩
    exact ⟨c, ⟨hc, by simpa using hm⟩, ⟨text, ht, rfl⟩, by simpa using hne⟩

end SyntaxTree

/-! ### Where a walk goes -/

/-- Where a walk goes on after a node. -/
inductive Onward
  | below
  /-- Below one of the children, which is not shown itself. -/
  | into (i : Nat)
  | nowhere
  deriving DecidableEq

/-- Whether a walk that goes on so from the node at `b` may get to the node at `a` below it. -/
def Onward.Leads (b a : Address) : Onward → Prop
  | below => True
  | into i => Address.Above (b ++ [i]) a
  | nowhere => False

/-- Where a walk goes on after a visit, if the node it may go into is the child at `i`. -/
def Visit.onward {t : SyntaxTree} (i : Nat) : Visit t → Onward
  | descend _ => .below
  | descendInto .. => .into i
  | skip => .nowhere

section Declare

variable {t : SyntaxTree} {kind : SymbolKind} {name : Option String} {scope : Scope} {found : Array Symbol}
  {s : Symbol} {i : Nat}

@[simp] theorem Visit.onward_declare :
    (Visit.declare (t := t) kind name scope found).1.onward i = .below := by
  cases name <;> rfl

theorem Visit.mem_declare : s ∈ (Visit.declare (t := t) kind name scope #[]).2.toList ↔
    ∃ n, name = some n ∧ s = t.symbol kind n scope := by
  cases name <;> simp [Visit.declare]

end Declare

namespace Visitor

/-- Where a visitor goes on after a node; the child it may go into is the one at `place`. -/
def onward (visit : Visitor (Array Symbol)) (place : SyntaxTree → Nat) (t : SyntaxTree) : Onward :=
  (visit t none #[]).1.onward (place t)

/-- A visitor whose ways are told by the nodes alone. -/
structure Guided (visit : Visitor (Array Symbol)) (place : SyntaxTree → Nat) : Prop where
  regular : visit.Regular
  placed : ∀ {t v : SyntaxTree} {smaller scope}, (visit t none #[]).1 = .descendInto v smaller scope →
    t.children[place t]? = some v
  /-- What the visitor goes into is nothing that would have kept it. -/
  through : ∀ {t v : SyntaxTree} {smaller scope}, (visit t none #[]).1 = .descendInto v smaller scope →
    visit.onward place v = .below

end Visitor

/-- A walk goes into the node at an address from the node above it. -/
def Entered (onward : SyntaxTree → Onward) (t : SyntaxTree) (a : Address) : Prop :=
  ∃ b i u, a = b ++ [i] ∧ t.at? b = some u ∧ onward u = .into i

/-- All nodes on the way to an address are named or gone into. A walk passes by keywords and punctuation. -/
def Passable (onward : SyntaxTree → Onward) (t : SyntaxTree) (a : Address) : Prop :=
  ∀ b c, b <+: a → b ≠ [] → t.at? b = some c → c.root.named = true ∨ Entered onward t b

/-- A walk of the tree `t` comes to the node at an address, if there is one. -/
structure Exposed (onward : SyntaxTree → Onward) (t : SyntaxTree) (a : Address) : Prop where
  named : Passable onward t a
  leads : ∀ b u, Address.Above b a → t.at? b = some u → (onward u).Leads b a

theorem Onward.Leads.mono {o : Onward} {b a d : Address} (h : o.Leads b a) (had : a <+: d) : o.Leads b d := by
  cases o with
  | below => trivial
  | into i => exact ⟨h.1.trans had, fun he => h.2 (h.1.eq_of_length_le (he ▸ had.length_le))⟩
  | nowhere => exact h

/-- A walk comes to all named children of the node at an address. -/
structure Clear (onward : SyntaxTree → Onward) (t : SyntaxTree) (a : Address) : Prop where
  named : Passable onward t a
  leads : ∀ b u, b <+: a → t.at? b = some u → ∀ i, (onward u).Leads b (a ++ [i])

section Exposed

variable {onward : SyntaxTree → Onward} {t u v c w : SyntaxTree} {a b : Address} {i k : Nat}

theorem exposed_root (onward : SyntaxTree → Onward) (t : SyntaxTree) : Exposed onward t [] :=
  ⟨fun _ _ hb hne => absurd (List.prefix_nil.1 hb) hne, fun _ _ h => absurd (List.prefix_nil.1 h.1) h.2⟩

theorem Exposed.clear_below (h : Exposed onward t a) (hu : t.at? a = some u) (ho : onward u = .below) :
    Clear onward t a := by
  refine ⟨h.named, fun b w hb hw i => ?_⟩
  by_cases hba : b = a
  · subst hba
    obtain rfl : u = w := Option.some.inj (hu.symm.trans hw)
    rw [ho]
    trivial
  · exact (h.leads b w ⟨hb, hba⟩ hw).mono (List.prefix_append ..)

theorem Exposed.clear_into (h : Exposed onward t a) (hu : t.at? a = some u) (ho : onward u = .into k)
    (hv : u.children[k]? = some v) (hov : onward v = .below) : Clear onward t (a ++ [k]) := by
  refine ⟨fun b c hb hne hc => ?_, fun b w hb hw i => ?_⟩
  · rcases List.prefix_concat_iff.1 hb with rfl | hb
    · exact .inr ⟨a, k, u, rfl, hu, ho⟩
    · exact h.named b c hb hne hc
  · rcases List.prefix_concat_iff.1 hb with rfl | hb
    · obtain rfl : v = w := Option.some.inj ((at?_child hu hv).symm.trans hw)
      rw [hov]
      trivial
    by_cases hba : b = a
    · subst hba
      obtain rfl : u = w := Option.some.inj (hu.symm.trans hw)
      rw [ho]
      exact Address.above_concat.2 List.prefix_rfl
    · exact (h.leads b w ⟨hb, hba⟩ hw).mono (by simp)

theorem Clear.child (h : Clear onward t a) (hu : t.at? a = some u) (hc : u.children[i]? = some c)
    (hn : c.root.named = true) : Exposed onward t (a ++ [i]) := by
  refine ⟨fun b w hb hne hw => ?_, fun b w hb hw => h.leads b w (Address.above_concat.1 hb) hw i⟩
  rcases List.prefix_concat_iff.1 hb with rfl | hb
  · obtain rfl : c = w := Option.some.inj ((at?_child hu hc).symm.trans hw)
    exact .inl hn
  · exact h.named b w hb hne hw

/-- The way to an exposed node leads on by a named child. -/
theorem Exposed.exists_child (h : Exposed onward t a) (hw : t.at? a = some w) (hu : t.at? b = some u)
    (ho : onward u = .below) (hab : Address.Above b a) :
    ∃ i c, u.children[i]? = some c ∧ c.root.named = true ∧ b ++ [i] <+: a := by
  obtain ⟨i, c, hc, hp⟩ := exists_child_of_above (by rw [hw]; rfl) hu hab
  refine ⟨i, c, hc, (h.named _ c hp (by simp) (at?_child hu hc)).resolve_right ?_, hp⟩
  rintro ⟨d, j, v, heq, hv, hov⟩
  obtain ⟨rfl, -⟩ := List.append_inj' heq rfl
  obtain rfl : u = v := Option.some.inj (hu.symm.trans hv)
  rw [ho] at hov
  cases hov

end Exposed

/-! ### What is found where -/

/-- The scope of a node, whatever it spans: the innermost function or class among the findings above it. -/
def Within (found : List Finding) (place : Address) (scope : Scope) : Prop :=
  ∃ start stop, IsScope found place start stop scope

/-- The symbols found at a node, without their parents. -/
def symbolsAt (found : List Finding) (a : Address) : List Symbol :=
  (found.filter (·.place = a)).map fun e => { e.symbol with parent := none }

/-- Findings in pre-order, at exposed nodes only, each in the scope of its node. -/
structure Charted (onward : SyntaxTree → Onward) (t : SyntaxTree) (found : List Finding) : Prop where
  ordered : found.Pairwise fun d e => ¬ e.place < d.place
  exposed : ∀ e ∈ found, Exposed onward t e.place ∧ (t.at? e.place).isSome
  inScope : ∀ e ∈ found, Within found e.place e.symbol.parent

/-- The findings of a walk that is over: at every exposed node there is what the visitor finds there. -/
structure Toured (visit : Visitor (Array Symbol)) (onward : SyntaxTree → Onward) (t : SyntaxTree)
    (found : List Finding) : Prop extends Charted onward t found where
  listed : ∀ a u, t.at? a = some u → Exposed onward t a → symbolsAt found a = visit.foundAt u

/-- What is pending lies ahead of all that was found, and all exposed nodes are listed or at or below
something pending. -/
structure Touring (visit : Visitor (Array Symbol)) (onward : SyntaxTree → Onward) (t : SyntaxTree)
    (stack : List Pending) (found : List Finding) : Prop extends Charted onward t found where
  located : ∀ x ∈ stack, t.at? x.place = some x.tree ∧ Exposed onward t x.place
  apart : stack.Pairwise fun x y => x.place < y.place ∧ ¬ x.place <+: y.place
  ahead : ∀ x ∈ stack, ∀ e ∈ found, e.place < x.place
  pendingInScope : ∀ x ∈ stack, Within found x.place x.scope
  listed : ∀ a u, t.at? a = some u → Exposed onward t a →
    (∃ x ∈ stack, x.place <+: a) ∨ symbolsAt found a = visit.foundAt u

section Within

variable {found new : List Finding} {a b : Address} {scope : Scope}

theorem Within.append (h : Within found a scope) (hnew : ∀ e ∈ new, ¬ Address.Above e.place a) :
    Within (found ++ new) a scope :=
  let ⟨start, stop, h⟩ := h
  ⟨start, stop, h.append hnew⟩

theorem Within.descend (h : Within found a scope) (hfound : ∀ e ∈ found, ¬ a <+: e.place)
    (hab : Address.Above a b) : Within found b scope :=
  let ⟨start, stop, h⟩ := h
  ⟨start, stop, h.descend hfound hab (Position.le_refl _) (Position.le_refl _)⟩

theorem Within.last {s : Symbol} (hfound : ∀ e ∈ found, ¬ a <+: e.place) (own : s.kind ≠ .moduleImport)
    (hab : Address.Above a b) : Within (found ++ [⟨a, s⟩]) b (some found.length) :=
  ⟨s.start, s.stop, .last hfound own hab (Position.le_refl _) (Position.le_refl _)⟩

@[simp] theorem symbolsAt_append : symbolsAt (found ++ new) a = symbolsAt found a ++ symbolsAt new a := by
  simp [symbolsAt]

theorem symbolsAt_eq_nil (h : ∀ e ∈ found, e.place ≠ a) : symbolsAt found a = [] := by
  simpa [symbolsAt] using h

end Within

namespace Touring
open Visitor Walking

variable {visit : Visitor (Array Symbol)} {onward : SyntaxTree → Onward} {t u v w : SyntaxTree}
  {a b : Address} {x : Pending} {rest items : List Pending} {found : List Finding} {r : Reading x.tree}
  {scope : Scope}

theorem symbolsAt_findings (hr : ReadsAs r (visit x.tree)) :
    symbolsAt (x.findings r) x.place = visit.foundAt x.tree := by
  have hall : (x.findings r).filter (·.place = x.place) = x.findings r :=
    List.filter_eq_self.2 fun e he => by simp [(of_mem_findings he).1]
  rw [symbolsAt, hall, hr.foundAt_eq, Reading.symbols_eq_map r none, Pending.findings,
    Reading.symbols_eq_map r x.scope]
  simp [Function.comp_def]

/-- A visit finds something at its node only, where nothing was found before. -/
theorem symbolsAt_visited (hr : ReadsAs r (visit x.tree)) (hahead : ∀ e ∈ found, e.place < x.place) :
    symbolsAt (found ++ x.findings r) a =
      if x.place = a then visit.foundAt x.tree else symbolsAt found a := by
  rw [symbolsAt_append]
  by_cases hxa : x.place = a
  · subst hxa
    have hold : symbolsAt found x.place = [] :=
      symbolsAt_eq_nil fun e he heq => List.lt_irrefl _ (heq ▸ hahead e he)
    rw [hold, symbolsAt_findings hr, List.nil_append, if_pos rfl]
  · have hnone : symbolsAt (x.findings r) a = [] :=
      symbolsAt_eq_nil fun e he heq => hxa ((of_mem_findings he).1.symm.trans heq)
    rw [hnone, List.append_nil, if_neg hxa]

/-- One visit, if what is to be visited below the node is all that is exposed there. -/
theorem visited (h : Touring visit onward t (x :: rest) found) (hr : ReadsAs r (visit x.tree))
    (hloc : ∀ y ∈ items, t.at? y.place = some y.tree ∧ Exposed onward t y.place)
    (happ : items.Pairwise fun y z => y.place < z.place ∧ ¬ y.place <+: z.place)
    (hbelow : ∀ y ∈ items, Address.Above x.place y.place)
    (hscope : ∀ y ∈ items, Within (found ++ x.findings r) y.place y.scope)
    (hall : ∀ a u, t.at? a = some u → Exposed onward t a → Address.Above x.place a →
      ∃ y ∈ items, y.place <+: a) :
    Touring visit onward t (items ++ rest) (found ++ x.findings r) := by
  obtain ⟨hxrest, hrest⟩ := List.pairwise_cons.1 h.apart
  have hahead : ∀ e ∈ found, e.place < x.place := h.ahead x (by simp)
  have hnew : ∀ e ∈ x.findings r, e.place = x.place := fun e he => (of_mem_findings he).1
  have before : ∀ y ∈ items ++ rest, x.place < y.place := fun y hy =>
    (List.mem_append.1 hy).elim (fun hy => (hbelow y hy).lt) fun hy => (hxrest y hy).1
  refine ⟨⟨?ordered, fun e he => ?exposed, fun e he => ?inScope⟩, fun y hy => ?located, ?apart,
    fun y hy e he => ?ahead, fun y hy => ?pendingInScope, fun a u ha hexp => ?listed⟩
  case ordered =>
    refine List.pairwise_append.2 ⟨h.ordered, List.pairwise_of_forall_mem_list ?_, fun d hd e he => ?_⟩
    · intro d hd e he
      rw [hnew d hd, hnew e he]
      exact List.lt_irrefl _
    · rw [hnew e he]
      exact List.lt_asymm (hahead d hd)
  case exposed =>
    rcases List.mem_append.1 he with he | he
    · exact h.exposed e he
    · rw [hnew e he, (h.located x (by simp)).1]
      exact ⟨(h.located x (by simp)).2, rfl⟩
  case inScope =>
    rcases List.mem_append.1 he with he | he
    · refine (h.inScope e he).append fun d hd hde => ?_
      rw [hnew d hd] at hde
      exact Address.not_prefix_of_lt (hahead e he) hde.1
    · obtain ⟨hplace, hs⟩ := of_mem_findings he
      rw [hplace, (Reading.of_mem_symbols hs).2.2]
      refine (h.pendingInScope x (by simp)).append fun d hd hdx => hdx.2 (hnew d hd)
  case located =>
    exact (List.mem_append.1 hy).elim (hloc y) fun hy => h.located y (by simp [hy])
  case apart =>
    -- What is below the node comes before all that comes after the node, which is not below it.
    refine List.pairwise_append.2 ⟨happ, hrest, fun y hy z hz => ?_⟩
    obtain ⟨hlt, hn⟩ := hxrest z hz
    exact ⟨Address.lt_of_prefix hlt hn (hbelow y hy).1, fun hp => hn ((hbelow y hy).1.trans hp)⟩
  case ahead =>
    rcases List.mem_append.1 he with he | he
    · exact List.lt_trans (hahead e he) (before y hy)
    · rw [hnew e he]
      exact before y hy
  case pendingInScope =>
    rcases List.mem_append.1 hy with hy | hy
    · exact hscope y hy
    · refine (h.pendingInScope y (by simp [hy])).append fun d hd hdy => ?_
      rw [hnew d hd] at hdy
      exact (hxrest y hy).2 hdy.1
  case listed =>
    rw [symbolsAt_visited hr hahead]
    by_cases heq : x.place = a
    · subst heq
      obtain rfl : x.tree = u := Option.some.inj ((h.located x (by simp)).1.symm.trans ha)
      exact .inr (if_pos rfl)
    rw [if_neg heq]
    by_cases hxa : x.place <+: a
    · obtain ⟨y, hy, hya⟩ := hall a u ha hexp ⟨hxa, heq⟩
      exact .inl ⟨y, List.mem_append_left _ hy, hya⟩
    · refine (h.listed a u ha hexp).imp_left ?_
      rintro ⟨y, hy, hya⟩
      have hy : y ∈ rest := (List.mem_cons.1 hy).resolve_left fun hyx => hxa (hyx ▸ hya)
      exact ⟨y, List.mem_append_right _ hy, hya⟩

theorem mem_below {y : Pending} : y ∈ Pending.below v b scope ↔
    ∃ i c, v.children[i]? = some c ∧ c.root.named = true ∧ y = ⟨c, b ++ [i], scope⟩ := by
  simp only [Pending.below, List.mem_map, mem_namedAt]
  constructor
  · rintro ⟨_, ⟨i, c, hc, hn, rfl⟩, rfl⟩
    exact ⟨i, c, hc, hn, rfl⟩
  · rintro ⟨i, c, hc, hn, rfl⟩
    exact ⟨_, ⟨i, c, hc, hn, rfl⟩, rfl⟩

/-- A visit after which the walk goes on with the children of the node `v` at or below the one visited. -/
theorem enter (h : Touring visit onward t (x :: rest) found) (hr : ReadsAs r (visit x.tree))
    (hv : t.at? b = some v) (hov : onward v = .below) (hclear : Clear onward t b) (hplace : x.place <+: b)
    (hscope : ∀ a, Address.Above x.place a → Within (found ++ x.findings r) a scope)
    (hway : ∀ a, Exposed onward t a → Address.Above x.place a → Address.Above b a) :
    Touring visit onward t (Pending.below v b scope ++ rest) (found ++ x.findings r) := by
  have hbelow : ∀ y ∈ Pending.below v b scope, Address.Above x.place y.place := by
    intro y hy
    obtain ⟨i, c, -, -, rfl⟩ := mem_below.1 hy
    exact Address.above_concat.2 hplace
  refine h.visited hr (fun y hy => ?_) (List.pairwise_map.2 (pairwise_namedAt v b)) hbelow
    (fun y hy => ?_) fun a u ha hexp hab => ?_
  · obtain ⟨i, c, hc, hn, rfl⟩ := mem_below.1 hy
    exact ⟨at?_child hv hc, hclear.child hv hc hn⟩
  · have hscope := hscope y.place (hbelow y hy)
    obtain ⟨i, c, -, -, rfl⟩ := mem_below.1 hy
    exact hscope
  · obtain ⟨i, c, hc, hn, hp⟩ := hexp.exists_child ha hv hov (hway a hexp hab)
    exact ⟨_, mem_below.2 ⟨i, c, hc, hn, rfl⟩, hp⟩

theorem map_below : (Pending.below u b scope).map (fun y => (y.tree, y.scope)) =
    u.namedChildren.map (·, scope) := by
  rw [← map_namedAt u b, Pending.below, List.map_map, List.map_map]
  rfl

/-- One visit: what it finds is listed, and where it goes on is pending. -/
theorem step {place : SyntaxTree → Nat} (hg : visit.Guided place)
    (h : Touring visit (visit.onward place) t (x :: rest) found) (hr : ReadsAs r (visit x.tree)) :
    ∃ items, items.map (fun y => (y.tree, y.scope)) = (r.visit x.scope found.length).next ∧
      Touring visit (visit.onward place) t (items ++ rest) (found ++ x.findings r) := by
  obtain ⟨hloc, hexp⟩ := h.located x (by simp)
  have hahead : ∀ e ∈ found, ¬ x.place <+: e.place := fun e he =>
    Address.not_prefix_of_lt (h.ahead x (by simp) e he)
  have hfirst : (visit x.tree none #[]).1 = r.visit none 0 := by rw [hr]; rfl
  have honward : visit.onward place x.tree = (r.visit none 0).onward (place x.tree) := by
    rw [onward, hfirst]
  cases r with
  | plain =>
    refine ⟨Pending.below x.tree x.place x.scope, map_below, h.enter hr hloc honward
      (hexp.clear_below hloc honward) List.prefix_rfl (fun a ha => ?_) fun a _ ha => ha⟩
    simpa [Pending.findings, Reading.symbols] using (h.pendingInScope x (by simp)).descend hahead ha
  | declaration kind name own =>
    exact ⟨Pending.below x.tree x.place (some found.length), map_below, h.enter hr hloc honward
      (hexp.clear_below hloc honward) List.prefix_rfl (fun a ha => .last hahead own ha) fun a _ ha => ha⟩
  | binding kind name own value mem smaller =>
    -- All that is exposed below the node is below the value, and that is visited next.
    have hv := hg.placed hfirst
    have hov := hg.through hfirst
    refine ⟨Pending.below value (x.place ++ [place x.tree]) (some found.length), map_below,
      h.enter hr (at?_child hloc hv) hov (hexp.clear_into hloc honward hv hov) (List.prefix_append ..)
        (fun a ha => .last hahead own ha) fun a hexpa ha => ?_⟩
    have := hexpa.leads x.place x.tree ha hloc
    rwa [honward] at this
  | imports modules =>
    refine ⟨[], rfl, h.visited hr (by simp) .nil (by simp) (by simp) fun a _ _ hexpa ha => ?_⟩
    have := hexpa.leads x.place x.tree ha hloc
    rw [honward] at this
    exact this.elim

/-- When nothing is pending any more, the tour is over. -/
theorem run {place : SyntaxTree → Nat} (hg : visit.Guided place) {stack : List Pending}
    {found : List Finding} (h : Touring visit (visit.onward place) t stack found) :
    ∃ listed, listed.map (·.symbol) =
      (walkFrom visit (stack.map fun x => (x.tree, x.scope)) (found.map (·.symbol)).toArray).toList ∧
      Toured visit (visit.onward place) t listed := by
  -- On the weight of what is pending, which every visit lowers.
  induction hweight : stackWeight (stack.map fun x => (x.tree, x.scope)) using Nat.strongRecOn
    generalizing stack found with
  | ind n ih =>
    cases stack with
    | nil =>
      refine ⟨found, by simp [walkFrom], h.toCharted, fun a u ha hexp => ?_⟩
      refine (h.listed a u ha hexp).resolve_left ?_
      rintro ⟨_, hx, -⟩
      exact List.not_mem_nil hx
    | cons x rest =>
      obtain ⟨r, hr⟩ := hg.regular x.tree
      obtain ⟨items, hnext, hstep⟩ := h.step hg hr
      have hless : stackWeight ((items ++ rest).map fun x => (x.tree, x.scope)) < n := by
        rw [← hweight, List.map_append, hnext]
        exact stackWeight_step _ _ _
      obtain ⟨listed, heq, hlisted⟩ := ih _ hless hstep rfl
      refine ⟨listed, heq.trans ?_, hlisted⟩
      rw [List.map_cons, walkFrom, hr]
      simp [hnext, map_findings]

theorem root (visit : Visitor (Array Symbol)) (onward : SyntaxTree → Onward) (t : SyntaxTree) :
    Touring visit onward t [⟨t, [], none⟩] [] := by
  refine ⟨⟨.nil, ?_, ?_⟩, ?_, List.pairwise_singleton .., ?_, ?_, ?_⟩
  all_goals simp [at?, Within, IsScope, exposed_root]

end Touring

section Toured

variable {visit : Visitor (Array Symbol)} {place : SyntaxTree → Nat} {onward : SyntaxTree → Onward}
  {t u : SyntaxTree} {a : Address} {found : List Finding} {s : Symbol} {of : SymbolKind → Bool}
  {exposed : Address → Prop} {tells : SyntaxTree → SymbolKind → String → Prop}

theorem Toured.of_walk (hg : visit.Guided place) (t : SyntaxTree) :
    ∃ found, found.map (·.symbol) = (t.walk visit #[]).toList ∧
      Toured visit (visit.onward place) t found :=
  (Touring.root visit _ t).run hg

theorem mem_symbolsAt :
    s ∈ symbolsAt found a ↔ ∃ e ∈ found, e.place = a ∧ { e.symbol with parent := none } = s := by
  simp [symbolsAt, and_assoc]

/-- What is found at an address is what the visitor finds at the node there, if that is exposed. -/
theorem Toured.mem_symbolsAt_iff (h : Toured visit onward t found) :
    s ∈ symbolsAt found a ↔ Exposed onward t a ∧ ∃ u, t.at? a = some u ∧ s ∈ visit.foundAt u := by
  constructor
  · intro hs
    obtain ⟨e, he, rfl, -⟩ := mem_symbolsAt.1 hs
    obtain ⟨hexp, hsome⟩ := h.exposed e he
    obtain ⟨u, hu⟩ := Option.isSome_iff_exists.1 hsome
    exact ⟨hexp, u, hu, h.listed _ u hu hexp ▸ hs⟩
  · rintro ⟨hexp, u, hu, hs⟩
    rwa [h.listed a u hu hexp]

/-- Where no node says two things, findings in pre-order come one to a node. -/
theorem Toured.pairwise_lt (h : Toured visit onward t found)
    (single : ∀ u, ((visit.foundAt u).filter (of ·.kind)).length ≤ 1) :
    (found.filter (of ·.symbol.kind)).Pairwise fun d e => d.place < e.place := by
  -- The places of the findings come in order, so it is enough that none comes twice.
  have hcount : ∀ a, ((found.filter (of ·.symbol.kind)).map (·.place)).count a ≤ 1 := by
    intro a
    have hat : ((found.filter (of ·.symbol.kind)).map (·.place)).count a =
        ((symbolsAt found a).filter (of ·.kind)).length := by
      simp only [symbolsAt, ← List.countP_eq_length_filter, List.count, List.countP_map, List.countP_filter]
      refine List.countP_congr fun e _ => ?_
      simp [and_comm]
    rw [hat]
    cases hs : symbolsAt found a with
    | nil => simp
    | cons s _ =>
      obtain ⟨hexp, u, hu, -⟩ := h.mem_symbolsAt_iff.1 (hs ▸ List.mem_cons_self : s ∈ symbolsAt found a)
      rw [← hs, h.listed a u hu hexp]
      exact single u
  have hne := List.pairwise_map.1 (List.nodup_iff_count.2 hcount)
  refine ((h.ordered.filter _).and hne).imp fun ⟨hnot, hne⟩ => ?_
  exact (List.le_iff_lt_or_eq.1 (List.not_lt.1 hnot)).resolve_right hne

/-- A regular visitor finds no two functions or classes at one node. -/
theorem Visitor.Regular.length_declared_le (h : visit.Regular) (u : SyntaxTree) :
    ((visit.foundAt u).filter (·.kind != .moduleImport)).length ≤ 1 := by
  obtain ⟨r, hr⟩ := h u
  rw [hr.foundAt_eq]
  cases r with
  | plain => simp [Reading.symbols]
  | declaration | binding => exact Nat.le_trans (List.length_filter_le ..) (by simp [Reading.symbols])
  | imports modules =>
    have hnone : ((Reading.imports modules : Reading u).symbols none).filter (·.kind != .moduleImport) = [] :=
      List.filter_eq_nil_iff.2 fun s hs => by
        obtain ⟨m, -, rfl⟩ := List.mem_map.1 hs
        simp [symbol]
    rw [hnone]
    exact Nat.zero_le _

/-- The symbols of some kinds among findings are exactly those that the exposed nodes of a tree declare: in
pre-order, each once and with the span of its node, and in the scope of its node. -/
structure ListedExactly (of : SymbolKind → Bool) (t : SyntaxTree) (exposed : Address → Prop)
    (tells : SyntaxTree → SymbolKind → String → Prop) (found : List Finding) : Prop where
  ordered : (found.filter (of ·.symbol.kind)).Pairwise fun d e => d.place < e.place
  exact : ∀ a s, of s.kind = true → ((∃ e ∈ found, e.place = a ∧ { e.symbol with parent := none } = s) ↔
    exposed a ∧ ∃ u kind name, t.at? a = some u ∧ tells u kind name ∧ s = u.symbol kind name none)
  inScope : ∀ e ∈ found, Within found e.place e.symbol.parent

/-- More addresses may be called exposed if and only if nothing is said at those besides. -/
theorem ListedExactly.congr_iff {exposed' : Address → Prop} (h : ListedExactly of t exposed tells found)
    (hof : ∀ u kind name, tells u kind name → of kind = true) (himp : ∀ a, exposed a → exposed' a) :
    ListedExactly of t exposed' tells found ↔
      ∀ a u kind name, exposed' a → t.at? a = some u → tells u kind name → exposed a := by
  constructor
  · intro h' a u kind name hexp hu htell
    have hlisted := (h'.exact a (u.symbol kind name none) (hof u kind name htell)).2
      ⟨hexp, u, kind, name, hu, htell, rfl⟩
    exact ((h.exact a _ (hof u kind name htell)).1 hlisted).1
  · refine fun hall => ⟨h.ordered, fun a s hs => (h.exact a s hs).trans ⟨?_, ?_⟩, h.inScope⟩
    · exact fun ⟨hexp, hu⟩ => ⟨himp a hexp, hu⟩
    · rintro ⟨hexp, u, kind, name, hu, htell, rfl⟩
      exact ⟨hall a u kind name hexp hu htell, u, kind, name, hu, htell, rfl⟩

/-- A walk lists exactly what is said at the exposed nodes, if that is what its visitor finds there. -/
theorem ListedExactly.of_walk (hg : visit.Guided place)
    (single : ∀ u, ((visit.foundAt u).filter (of ·.kind)).length ≤ 1)
    (htells : ∀ u s, of s.kind = true →
      (s ∈ visit.foundAt u ↔ ∃ kind name, tells u kind name ∧ s = u.symbol kind name none))
    (hexposed : ∀ a u, t.at? a = some u → (Exposed (visit.onward place) t a ↔ exposed a)) :
    ∃ found, found.map (·.symbol) = (t.walk visit #[]).toList ∧
      ListedExactly of t exposed tells found := by
  obtain ⟨found, heq, h⟩ := Toured.of_walk hg t
  refine ⟨found, heq, h.pairwise_lt single, fun a s hs => ?_, h.inScope⟩
  rw [← mem_symbolsAt, h.mem_symbolsAt_iff]
  constructor
  · rintro ⟨hexp, u, hu, hmem⟩
    obtain ⟨kind, name, htell, rfl⟩ := (htells u s hs).1 hmem
    exact ⟨(hexposed a u hu).1 hexp, u, kind, name, hu, htell, rfl⟩
  · rintro ⟨hexp, u, kind, name, hu, htell, rfl⟩
    exact ⟨(hexposed a u hu).2 hexp, u, hu, (htells u _ hs).2 ⟨kind, name, htell, rfl⟩⟩

end Toured

/-- A node on the first line of a text with nothing wrong about it. -/
def SyntaxTree.sound (kind : String) (named : Bool) (role : Option String) (start stop : Nat)
    (children : List SyntaxTree) : SyntaxTree :=
  .node ⟨kind, named, role, false, false, false, ⟨start, 0, start⟩, ⟨stop, 0, stop⟩⟩ children

/-- A keyword or a punctuation mark on the first line of a text. -/
def SyntaxTree.token (kind : String) (start stop : Nat) : SyntaxTree := sound kind false none start stop []

end SymbolIndex
