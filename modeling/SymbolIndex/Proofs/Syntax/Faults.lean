import Mathlib.Data.List.Forall2
import SymbolIndex.Analyzer.Basic
import SymbolIndex.Proofs.Symbols.Exactness
import SymbolIndex.Proofs.Syntax.Sorting

/-!
# The faults of a syntax tree

A tree is faulty at its error nodes and its missing nodes. `SyntaxTree.problems` looks for them on a
stack and passes by every subtree that is not flagged. In a tree whose flags miss no fault it finds
what a plain recursion over the whole tree finds (`problemsFrom_eq`): one error for each fault that
is under no other, in pre-order (`tellsFaults_faults`). Both together are `problems_exact`.

A flag without a fault does no harm. Trees that a parser gives do have such flags: the token that the
text lacks may be a hidden one, which no reader of the tree sees.
-/
namespace SymbolIndex
namespace SyntaxTree

/-- An error node or a missing node. -/
def IsFault (t : SyntaxTree) : Prop := t.root.isError = true ∨ t.root.isMissing = true

/-- There is a fault at or below the root. -/
def HoldsFault (t : SyntaxTree) : Prop := ∃ a u, t.at? a = some u ∧ u.IsFault

/-- Every node at or above a fault is flagged. -/
def Flagged (t : SyntaxTree) : Prop := ∀ a u, t.at? a = some u → u.HoldsFault → u.root.hasError = true

/-- The address of a fault that is under no other fault. -/
def Outermost (t : SyntaxTree) (a : Address) : Prop :=
  (∃ u, t.at? a = some u ∧ u.IsFault) ∧ ∀ b w, Address.Above b a → t.at? b = some w → ¬ w.IsFault

/-- The errors of a tree, by a recursion that passes no subtree by but those of faults. -/
def faults (source : String) : SyntaxTree → List ParseError
  | node r cs =>
    match (node r cs).problem? source with
    | some e => [e]
    | none => faultsOf cs
where
  faultsOf : List SyntaxTree → List ParseError
    | [] => []
    | t :: ts => faults source t ++ faultsOf ts

/-- An error that tells of the node at an address. -/
def Tells (source : String) (t : SyntaxTree) (a : Address) (e : ParseError) : Prop :=
  ∃ u, t.at? a = some u ∧ u.problem? source = some e ∧ e.start = u.startPosition ∧ e.stop = u.stopPosition

/-- Errors that tell of the outermost faults of a tree, one of each, in pre-order. -/
def TellsFaults (source : String) (t : SyntaxTree) (errors : List ParseError) : Prop :=
  ∃ places : List Address, places.Pairwise (· < ·) ∧ (∀ a, a ∈ places ↔ t.Outermost a) ∧
    List.Forall₂ (t.Tells source) places errors

variable {source : String} {t u : SyntaxTree} {e : ParseError} {a : Address}

theorem faultsOf_eq (ts : List SyntaxTree) : faults.faultsOf source ts = ts.flatMap (faults source) := by
  induction ts with
  | nil => rfl
  | cons t ts ih => rw [faults.faultsOf, ih, List.flatMap_cons]

theorem faults_of_problem (h : t.problem? source = some e) : t.faults source = [e] := by
  cases t
  rw [faults, h]

theorem faults_of_sound (h : t.problem? source = none) :
    t.faults source = t.children.flatMap (faults source) := by
  cases t
  rw [faults, h]
  exact faultsOf_eq _

theorem problem?_eq_some (h : t.problem? source = some e) :
    t.IsFault ∧ e.start = t.startPosition ∧ e.stop = t.stopPosition := by
  unfold problem? at h
  split at h
  · rename_i herr
    cases h
    exact ⟨.inl herr, rfl, rfl⟩
  split at h
  · rename_i hmiss
    cases h
    exact ⟨.inr hmiss, rfl, rfl⟩
  · cases h

theorem problem?_eq_none (h : t.problem? source = none) : ¬ t.IsFault := by
  unfold problem? at h
  split at h
  · cases h
  split at h
  · cases h
  · rename_i herr hmiss
    exact fun hf => hf.elim herr hmiss

/-! ### Flags -/

theorem holdsFault_iff : t.HoldsFault ↔ t.IsFault ∨ ∃ c ∈ t.children, c.HoldsFault := by
  constructor
  · rintro ⟨a, u, hu, hf⟩
    cases a with
    | nil => exact .inl (Option.some.inj hu ▸ hf)
    | cons i a =>
      rw [at?] at hu
      split at hu
      · rename_i c hc
        exact .inr ⟨c, List.mem_of_getElem? hc, a, u, hu, hf⟩
      · cases hu
  · rintro (hf | ⟨c, hc, a, u, hu, hf⟩)
    · exact ⟨[], t, rfl, hf⟩
    · obtain ⟨i, hi⟩ := List.getElem?_of_mem hc
      exact ⟨i :: a, u, by rw [at?, hi]; exact hu, hf⟩

theorem flagged_iff : t.Flagged ↔ (t.HoldsFault → t.root.hasError = true) ∧ ∀ c ∈ t.children, c.Flagged := by
  constructor
  · refine fun h => ⟨h [] t rfl, fun c hc a u hu => ?_⟩
    obtain ⟨i, hi⟩ := List.getElem?_of_mem hc
    exact h (i :: a) u (by rw [at?, hi]; exact hu)
  · rintro ⟨hroot, hcs⟩ a u hu
    cases a with
    | nil => exact Option.some.inj hu ▸ hroot
    | cons i a =>
      rw [at?] at hu
      split at hu
      · rename_i c hc
        exact hcs c (List.mem_of_getElem? hc) a u hu
      · cases hu

theorem faults_eq_nil_iff : t.faults source = [] ↔ ¬ t.HoldsFault := by
  -- On the weight of the tree, which is greater than that of any child.
  induction hweight : t.weight using Nat.strongRecOn generalizing t with
  | ind n ih =>
    rw [holdsFault_iff]
    cases hp : t.problem? source with
    | some e => simp [faults_of_problem hp, (problem?_eq_some hp).1]
    | none =>
      have hchild : ∀ c ∈ t.children, c.faults source = [] ↔ ¬ c.HoldsFault := fun c hc =>
        ih c.weight (hweight ▸ weight_lt_of_mem hc) rfl
      simp only [faults_of_sound hp, List.flatMap_eq_nil_iff, problem?_eq_none hp, false_or, not_exists,
        not_and]
      exact forall₂_congr hchild

/-- The search on a stack finds what the recursion finds in the trees there. -/
theorem problemsFrom_eq (stack : List SyntaxTree) (acc : Array ParseError) (h : ∀ t ∈ stack, t.Flagged) :
    (problemsFrom source stack acc).toList = acc.toList ++ stack.flatMap (faults source) := by
  fun_induction problemsFrom source stack acc with
  | case1 acc => simp
  | case2 acc t rest e hp ih =>
    rw [ih fun u hu => h u (List.mem_cons_of_mem _ hu)]
    simp [faults_of_problem hp]
  | case3 acc t rest hp hflag ih =>
    have hall : ∀ u ∈ t.children ++ rest, u.Flagged := fun u hu =>
      (List.mem_append.1 hu).elim (fun hu => (flagged_iff.1 (h t List.mem_cons_self)).2 u hu)
        fun hu => h u (List.mem_cons_of_mem _ hu)
    rw [ih hall]
    simp [faults_of_sound hp]
  | case4 acc t rest hp hflag ih =>
    -- What is passed by holds no fault, or it were flagged.
    have hnone : t.faults source = [] :=
      faults_eq_nil_iff.2 fun hf => hflag ((flagged_iff.1 (h t List.mem_cons_self)).1 hf)
    rw [ih fun u hu => h u (List.mem_cons_of_mem _ hu)]
    simp [hnone]

theorem problems_eq_faults (h : t.Flagged) : t.problems source = t.faults source := by
  unfold problems
  split
  · rw [problemsFrom_eq _ _ (by simpa using h)]
    simp
  · rename_i hflag
    exact (faults_eq_nil_iff.2 fun hf => hflag ((flagged_iff.1 h).1 hf)).symm

/-! ### Where the faults are -/

theorem Address.above_cons_iff {i j : Nat} {a b : Address} :
    Address.Above (i :: a) (j :: b) ↔ i = j ∧ Address.Above a b := by
  simp only [Address.Above, List.cons_prefix_cons, ne_eq, List.cons.injEq]
  constructor
  · rintro ⟨⟨rfl, hp⟩, hne⟩
    exact ⟨rfl, hp, fun h => hne ⟨rfl, h⟩⟩
  · rintro ⟨rfl, hp, hne⟩
    exact ⟨⟨rfl, hp⟩, fun h => hne h.2⟩

/-- No fault is looked for below a fault. -/
theorem outermost_of_isFault (h : t.IsFault) : t.Outermost a ↔ a = [] := by
  constructor
  · rintro ⟨-, habove⟩
    by_contra hne
    exact habove [] t ⟨List.nil_prefix, Ne.symm hne⟩ rfl h
  · rintro rfl
    exact ⟨⟨t, rfl, h⟩, fun b w hb => absurd (List.prefix_nil.1 hb.1) hb.2⟩

/-- The outermost faults of a tree without a fault at its root are those of the children. -/
theorem outermost_of_not_isFault (h : ¬ t.IsFault) :
    t.Outermost a ↔ ∃ i c b, t.children[i]? = some c ∧ c.Outermost b ∧ a = i :: b := by
  constructor
  · rintro ⟨⟨u, hu, hf⟩, habove⟩
    cases a with
    | nil => exact absurd (Option.some.inj hu ▸ hf) h
    | cons i a =>
      rw [at?] at hu
      split at hu
      · rename_i c hc
        refine ⟨i, c, a, hc, ⟨⟨u, hu, hf⟩, fun b w hb hw => ?_⟩, rfl⟩
        exact habove (i :: b) w (Address.above_cons_iff.2 ⟨rfl, hb⟩) (by rw [at?, hc]; exact hw)
      · cases hu
  · rintro ⟨i, c, a, hc, ⟨⟨u, hu, hf⟩, habove⟩, rfl⟩
    refine ⟨⟨u, by rw [at?, hc]; exact hu, hf⟩, fun b w hb hw => ?_⟩
    cases b with
    | nil => exact Option.some.inj hw ▸ h
    | cons j b =>
      obtain ⟨rfl, hab⟩ := Address.above_cons_iff.1 hb
      rw [at?, hc] at hw
      exact habove b w hab hw

/-- The faults of siblings, of which the first is the child at `i`, come sibling by sibling. -/
theorem exists_places (ts : List SyntaxTree) (i : Nat)
    (h : ∀ t ∈ ts, t.TellsFaults source (t.faults source)) : ∃ places : List Address,
    places.Pairwise (· < ·) ∧
    (∀ a, a ∈ places ↔ ∃ j c b, ts[j]? = some c ∧ c.Outermost b ∧ a = (i + j) :: b) ∧
    List.Forall₂ (fun a e => ∃ j c b, ts[j]? = some c ∧ c.Tells source b e ∧ a = (i + j) :: b) places
      (ts.flatMap (faults source)) := by
  induction ts generalizing i with
  | nil => exact ⟨[], .nil, by simp, .nil⟩
  | cons t ts ih =>
    obtain ⟨first, hfirst, hmem, htells⟩ := h t List.mem_cons_self
    obtain ⟨rest, hrest, hmemr, htellsr⟩ := ih (i + 1) fun u hu => h u (List.mem_cons_of_mem _ hu)
    refine ⟨first.map (i :: ·) ++ rest, ?ordered, fun a => ?mem, ?tells⟩
    case ordered =>
      refine List.pairwise_append.2 ⟨List.pairwise_map.2 (hfirst.imp ?_), hrest, fun a ha b hb => ?_⟩
      · exact fun hab => List.cons_lt_cons_iff.2 (.inr ⟨rfl, hab⟩)
      · obtain ⟨a, -, rfl⟩ := List.mem_map.1 ha
        obtain ⟨j, c, b, -, -, rfl⟩ := (hmemr b).1 hb
        exact List.cons_lt_cons_iff.2 (.inl (by omega))
    case mem =>
      simp only [List.mem_append, List.mem_map, hmem, hmemr]
      constructor
      · rintro (⟨b, hb, rfl⟩ | ⟨j, c, b, hc, hb, rfl⟩)
        · exact ⟨0, t, b, rfl, hb, rfl⟩
        · exact ⟨j + 1, c, b, hc, hb, by rw [Nat.add_right_comm, Nat.add_assoc]⟩
      · rintro ⟨j, c, b, hc, hb, rfl⟩
        cases j with
        | zero => exact .inl ⟨b, Option.some.inj hc ▸ hb, rfl⟩
        | succ j => exact .inr ⟨j, c, b, hc, hb, by rw [Nat.add_right_comm, Nat.add_assoc]⟩
    case tells =>
      rw [List.flatMap_cons]
      refine List.rel_append (List.forall₂_map_left_iff.2 (htells.imp ?_)) (htellsr.imp ?_)
      · exact fun b e hb => ⟨0, t, b, rfl, hb, rfl⟩
      · rintro a e ⟨j, c, b, hc, hb, rfl⟩
        exact ⟨j + 1, c, b, hc, hb, by rw [Nat.add_right_comm, Nat.add_assoc]⟩

theorem tellsFaults_faults (source : String) (t : SyntaxTree) : t.TellsFaults source (t.faults source) := by
  induction hweight : t.weight using Nat.strongRecOn generalizing t with
  | ind n ih =>
    cases hp : t.problem? source with
    | some e =>
      obtain ⟨hf, hstart, hstop⟩ := problem?_eq_some hp
      rw [faults_of_problem hp]
      refine ⟨[[]], List.pairwise_singleton .., fun a => ?_, .cons ⟨t, rfl, hp, hstart, hstop⟩ .nil⟩
      rw [List.mem_singleton, outermost_of_isFault hf]
    | none =>
      obtain ⟨places, hordered, hmem, htells⟩ := exists_places t.children 0 fun c hc =>
        ih c.weight (hweight ▸ weight_lt_of_mem hc) c rfl
      rw [faults_of_sound hp]
      refine ⟨places, hordered, fun a => ?_, htells.imp ?_⟩
      · rw [hmem, outermost_of_not_isFault (problem?_eq_none hp)]
        simp only [Nat.zero_add]
      · rintro a e ⟨i, c, b, hc, ⟨u, hu, htold⟩, rfl⟩
        exact ⟨u, by rw [Nat.zero_add, at?, hc]; exact hu, htold⟩

/-- In a tree whose flags miss no fault, the search finds what a recursion over the whole tree finds:
one error for each fault that is under no other, in pre-order and with the span of its node. The
errors of the parsed text are those by start, and it is clean if and only if there is no fault in the
tree. -/
theorem problems_exact (source : String) (l : Language) (h : t.Flagged) :
    t.problems source = t.faults source ∧ t.TellsFaults source (t.problems source) ∧
    ParseError.StablySorted (t.problems source) (ParsedText.ofTree source l t).errors ∧
    ((ParsedText.ofTree source l t).isClean = true ↔ ¬ t.HoldsFault) := by
  have heq : t.problems source = t.faults source := problems_eq_faults h
  refine ⟨heq, heq ▸ tellsFaults_faults source t, ParseError.stablySorted _, ?_⟩
  have hclean : (ParsedText.ofTree source l t).isClean = true ↔ ParseError.sorted (t.problems source) = [] :=
    List.isEmpty_iff
  rw [hclean, ParseError.sorted_eq_nil_iff, heq, faults_eq_nil_iff]

/-- A named node on the first line of a text, with something wrong at or below it. -/
def unsound (kind : String) (role : Option String) (start stop : Nat) (children : List SyntaxTree) :
    SyntaxTree :=
  node ⟨kind, true, role, kind == "ERROR", false, true, ⟨start, 0, start⟩, ⟨stop, 0, stop⟩⟩ children

/-- A token that the first line of a text lacks at an offset. -/
def lacking (kind : String) (named : Bool) (role : Option String) (offset : Nat) : SyntaxTree :=
  node ⟨kind, named, role, false, true, true, ⟨offset, 0, offset⟩, ⟨offset, 0, offset⟩⟩ []

end SyntaxTree

namespace Unfinished
open SyntaxTree

/-- An array with a brace in it that nothing opens, and without its last bracket. -/
def text : String := "[\x7d1"

def tree : SyntaxTree :=
  unsound "document" none 0 3 [unsound "array" none 0 3 [
    token "[" 0 1,
    unsound "ERROR" none 1 2 [token "\x7d" 1 2],
    sound "number" true none 2 3 [],
    lacking "]" false none 3]]

theorem flagged_tree : tree.Flagged := by
  simp [flagged_iff (t := node _ _), holdsFault_iff (t := node _ _), IsFault, tree, unsound, lacking,
    sound, token]

end Unfinished

/-- The brace and the missing bracket are told of; what is under the brace, and what is sound, is not. -/
theorem SyntaxTree.problems_exact_unfinished : Unfinished.tree.Flagged ∧
    Unfinished.tree.problems Unfinished.text =
      [⟨⟨1, 1⟩, ⟨1, 2⟩, "unexpected `\x7d`"⟩, ⟨⟨1, 3⟩, ⟨1, 3⟩, "missing `]`"⟩] ∧
    Unfinished.tree.problems Unfinished.text = Unfinished.tree.faults Unfinished.text ∧
    Unfinished.tree.TellsFaults Unfinished.text (Unfinished.tree.problems Unfinished.text) ∧
    ((ParsedText.ofTree Unfinished.text .json Unfinished.tree).isClean = true ↔
      ¬ Unfinished.tree.HoldsFault) := by
  obtain ⟨heq, htells, -, hclean⟩ := SyntaxTree.problems_exact Unfinished.text .json Unfinished.flagged_tree
  refine ⟨Unfinished.flagged_tree, ?_, heq, htells, hclean⟩
  rw [heq]
  decide +kernel

end SymbolIndex
