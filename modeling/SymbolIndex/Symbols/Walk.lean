import SymbolIndex.Symbols.Basic
import SymbolIndex.Syntax.Problem

/-!
# Walking a syntax tree for symbols

A walk visits the named nodes of a tree in pre-order and keeps what is still to visit on a stack of
its own, so that no depth of nesting is too much for it. The visitor is told the enclosing symbol
of each node, and says where to go on: below the node, below another node further down, or nowhere.
-/
namespace SymbolIndex

/-- The symbol that encloses a node, by its place in the list of symbols found. -/
abbrev Scope := Option Nat

/-- Where a walk goes on after the node `t`. -/
inductive Visit (t : SyntaxTree)
  /-- With the named children of the node. -/
  | descend (scope : Scope)
  /-- With the named children of a node below it. -/
  | descendInto (inner : SyntaxTree) (smaller : inner.weight < t.weight) (scope : Scope)
  | skip

namespace Visit

variable {t : SyntaxTree}

/-- The nodes to visit next, with their scope. -/
def next : Visit t → List (SyntaxTree × Scope)
  | descend scope => t.namedChildren.map (·, scope)
  | descendInto inner _ scope => inner.namedChildren.map (·, scope)
  | skip => []

end Visit

/-- A visitor is shown a node and its scope, and may change what it has found so far. -/
abbrev Visitor (σ : Type) := (t : SyntaxTree) → Scope → σ → Visit t × σ

namespace SyntaxTree

/-- The number of nodes of the trees on a stack. -/
def stackWeight (stack : List (SyntaxTree × Scope)) : Nat := weight.weights (stack.map (·.1))

theorem stackWeight_map (ts : List SyntaxTree) (scope : Scope) :
    stackWeight (ts.map (·, scope)) = weight.weights ts := by
  simp [stackWeight, Function.comp_def]

theorem weights_namedChildren_lt (t : SyntaxTree) :
    weight.weights t.namedChildren < t.weight := by
  have := weights_filter_le (·.root.named) t.children
  rw [weight_eq t]; simp only [namedChildren]; omega

theorem stackWeight_next_lt {t : SyntaxTree} (v : Visit t) : stackWeight v.next < t.weight := by
  cases v with
  | descend scope =>
    simpa [Visit.next, stackWeight_map] using weights_namedChildren_lt t
  | descendInto inner smaller scope =>
    have := weights_namedChildren_lt inner
    simp only [Visit.next, stackWeight_map]; omega
  | skip => exact weight_pos t

theorem stackWeight_step {t : SyntaxTree} (v : Visit t) (scope : Scope)
    (rest : List (SyntaxTree × Scope)) :
    stackWeight (v.next ++ rest) < stackWeight ((t, scope) :: rest) := by
  have := stackWeight_next_lt v
  simp only [stackWeight, List.map_append, weights_append, List.map_cons, weight.weights] at *
  omega

/-- Visits the trees on a stack and all that their visits ask for. -/
def walkFrom {σ : Type} (visit : Visitor σ) (stack : List (SyntaxTree × Scope)) (found : σ) : σ :=
  match stack with
  | [] => found
  | (t, scope) :: rest =>
    let (v, found) := visit t scope found
    walkFrom visit (v.next ++ rest) found
  termination_by stackWeight stack
  decreasing_by exact stackWeight_step v scope rest

/-- Visits a tree from its root, which no symbol encloses. -/
def walk {σ : Type} (visit : Visitor σ) (t : SyntaxTree) (found : σ) : σ :=
  walkFrom visit [(t, none)] found

/-- The trimmed text of the child in a role, unless the child is missing or blank. -/
def childText? (source : String) (role : String) (t : SyntaxTree) : Option String :=
  ((t.child? role).filter (!·.root.isMissing)).bind fun c =>
    ((c.text? source).map Text.trim).filter (· ≠ "")

/-- The symbol that a node declares. -/
def symbol (t : SyntaxTree) (kind : SymbolKind) (name : String) (scope : Scope) : Symbol :=
  ⟨kind, name, t.startPosition, t.stopPosition, scope⟩

end SyntaxTree

/-- Descends below a declaration; what it encloses belongs to it if it has a name. -/
def Visit.declare {t : SyntaxTree} (kind : SymbolKind) (name : Option String) (scope : Scope)
    (found : Array Symbol) : Visit t × Array Symbol :=
  match name with
  | some name => (.descend (some found.size), found.push (t.symbol kind name scope))
  | none => (.descend scope, found)

end SymbolIndex
