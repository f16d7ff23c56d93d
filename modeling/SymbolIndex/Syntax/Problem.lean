import SymbolIndex.Syntax.Tree
import SymbolIndex.Text.Basic

/-!
# Problems in a text

What a grammar could not make sense of, with its place. `SyntaxTree.problems` lists every error node
and every missing node of a tree that is under no other such node, in pre-order, and looks only at
subtrees that are known to hold one.
-/
namespace SymbolIndex

/-- A stretch of text that a grammar could not resolve. -/
structure ParseError where
  start : Position
  stop : Position
  message : String
  deriving DecidableEq, Repr, Inhabited

namespace ParseError

/-- The errors ordered by where they start; those that start together keep their order. -/
def sorted (errors : List ParseError) : List ParseError :=
  errors.mergeSort fun a b => a.start.le b.start

end ParseError

namespace SyntaxTree

/-- The text that a node covers. -/
def text? (source : String) (t : SyntaxTree) : Option String :=
  Text.slice? source t.root.start.bytes t.root.stop.bytes

/-- How many characters of a text are quoted in an error. -/
def quotedLength : Nat := 40

/-- The first line of a node's text that is not blank, shortened. -/
def snippet (source : String) (t : SyntaxTree) : String :=
  let lines := (Text.lines ((t.text? source).getD "")).map Text.trim
  Text.shorten quotedLength ((lines.find? (· ≠ "")).getD "")

/-- What is wrong with the node itself. -/
def problem? (source : String) (t : SyntaxTree) : Option ParseError :=
  if t.root.isError then
    some ⟨t.startPosition, t.stopPosition, s!"unexpected `{t.snippet source}`"⟩
  else if t.root.isMissing then
    some ⟨t.startPosition, t.stopPosition, s!"missing `{t.kind}`"⟩
  else none

/-- The number of nodes of a tree. -/
def weight : SyntaxTree → Nat
  | node _ cs => 1 + weights cs
where
  weights : List SyntaxTree → Nat
    | [] => 0
    | t :: ts => weight t + weights ts

theorem weight_eq (t : SyntaxTree) : t.weight = 1 + weight.weights t.children := by
  cases t; rfl

theorem weight_pos (t : SyntaxTree) : 0 < t.weight := by
  rw [weight_eq]; omega

theorem weights_append (ts us : List SyntaxTree) :
    weight.weights (ts ++ us) = weight.weights ts + weight.weights us := by
  induction ts with
  | nil => simp [weight.weights]
  | cons t ts ih => simp [weight.weights, ih]; omega

theorem weights_filter_le (p : SyntaxTree → Bool) (ts : List SyntaxTree) :
    weight.weights (ts.filter p) ≤ weight.weights ts := by
  induction ts with
  | nil => simp
  | cons t ts ih =>
    by_cases h : p t <;> simp [weight.weights, h] <;> omega

theorem weight_le_weights {t : SyntaxTree} {ts : List SyntaxTree} (h : t ∈ ts) :
    t.weight ≤ weight.weights ts := by
  induction ts with
  | nil => cases h
  | cons u us ih =>
    rcases List.mem_cons.1 h with rfl | h
    · simp [weight.weights]
    · have := ih h
      simp only [weight.weights]; omega

theorem weight_lt_of_mem {t u : SyntaxTree} (h : u ∈ t.children) : u.weight < t.weight := by
  have := weight_le_weights h
  rw [weight_eq t]; omega

theorem weight_child? {t u : SyntaxTree} {role : String} (h : t.child? role = some u) :
    u.weight < t.weight :=
  weight_lt_of_mem (List.mem_of_find?_eq_some h)

/-- The problems in the trees of a stack, before which those in `acc` were found. -/
def problemsFrom (source : String) (stack : List SyntaxTree) (acc : Array ParseError) :
    Array ParseError :=
  match stack with
  | [] => acc
  | t :: rest =>
    match t.problem? source with
    | some e => problemsFrom source rest (acc.push e)
    | none =>
      if t.root.hasError then problemsFrom source (t.children ++ rest) acc
      else problemsFrom source rest acc
  termination_by weight.weights stack
  decreasing_by
    · simp only [weight.weights]; have := weight_pos t; omega
    · simp only [weight.weights, weights_append]; rw [weight_eq t]; omega
    · simp only [weight.weights]; have := weight_pos t; omega

/-- The error and missing nodes of a tree that are under no other such node. -/
def problems (source : String) (t : SyntaxTree) : List ParseError :=
  if t.root.hasError then (problemsFrom source [t] #[]).toList else []

end SyntaxTree
end SymbolIndex
