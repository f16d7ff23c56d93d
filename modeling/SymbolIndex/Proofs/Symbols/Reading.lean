import SymbolIndex.Symbols.EcmaScript
import SymbolIndex.Symbols.Python

/-!
# What visitors make of nodes

The visitors of both language families do one of four things at a node, whatever they have found so far
and whatever encloses the node: they pass it by, declare it, declare it for a value it binds and go on
below the value, or list what it imports and go no further (`Python.regular_visit`,
`EcmaScript.regular_visit`). What is said of regular visitors holds of all of them.
-/
namespace SymbolIndex

/-- What a visitor may make of the node `t`. -/
inductive Reading (t : SyntaxTree)
  /-- Nothing: what is below the node belongs to what encloses it. -/
  | plain
  /-- The declaration of something that what is below the node belongs to. -/
  | declaration (kind : SymbolKind) (name : String) (own : kind ≠ .moduleImport)
  /-- The declaration of something whose value is a child of the node. -/
  | binding (kind : SymbolKind) (name : String) (own : kind ≠ .moduleImport) (value : SyntaxTree)
      (mem : value ∈ t.children) (smaller : value.weight < t.weight)
  /-- Imports, if any; nothing below the node matters. -/
  | imports (modules : List String)

namespace Reading

variable {t : SyntaxTree}

/-- The symbols of a node in a scope. -/
def symbols (scope : Scope) : Reading t → List Symbol
  | plain => []
  | declaration kind name _ => [t.symbol kind name scope]
  | binding kind name _ _ _ _ => [t.symbol kind name scope]
  | imports modules => modules.map (t.symbol .moduleImport · scope)

/-- Where a walk that has found `n` symbols goes on. -/
def visit (scope : Scope) (n : Nat) : Reading t → Visit t
  | plain => .descend scope
  | declaration .. => .descend (some n)
  | binding _ _ _ value _ smaller => .descendInto value smaller (some n)
  | imports _ => .skip

variable {s : Symbol} {scope : Scope} {r : Reading t}

/-- The scope of a node shows in the parents of its symbols only. -/
theorem symbols_eq_map (r : Reading t) (scope : Scope) :
    r.symbols scope = (r.symbols none).map ({ · with parent := scope }) := by
  cases r <;> simp [symbols, SyntaxTree.symbol]

/-- The symbols of a node span it. -/
theorem of_mem_symbols (h : s ∈ r.symbols scope) :
    s.start = t.startPosition ∧ s.stop = t.stopPosition ∧ s.parent = scope := by
  cases r with
  | plain => cases h
  | declaration | binding => rw [List.mem_singleton.1 h]; exact ⟨rfl, rfl, rfl⟩
  | imports modules =>
    obtain ⟨m, -, rfl⟩ := List.mem_map.1 h
    exact ⟨rfl, rfl, rfl⟩

theorem withoutParent_mem (h : s ∈ r.symbols scope) : { s with parent := none } ∈ r.symbols none := by
  rw [symbols_eq_map] at h
  obtain ⟨s₀, hs₀, rfl⟩ := List.mem_map.1 h
  rwa [show { s₀ with parent := none } = s₀ by rw [← (of_mem_symbols hs₀).2.2]]

end Reading

namespace Visitor

/-- A way to treat the node `t` that comes down to a reading of it, whatever encloses the node and
whatever has been found. -/
def ReadsAs {t : SyntaxTree} (r : Reading t) (act : Scope → Array Symbol → Visit t × Array Symbol) : Prop :=
  ∀ scope found, act scope found = (r.visit scope found.size, found ++ (r.symbols scope).toArray)

/-- What the visitor makes of a node depends on nothing but the node. -/
def Regular (visit : Visitor (Array Symbol)) : Prop := ∀ t, ∃ r : Reading t, ReadsAs r (visit t)

end Visitor

namespace Reading
open Visitor

variable {t : SyntaxTree} {kind : SymbolKind}

theorem exists_plain (t : SyntaxTree) :
    ∃ r : Reading t, ReadsAs r fun scope found => (.descend scope, found) :=
  ⟨.plain, fun _ _ => by simp [visit, symbols]⟩

theorem exists_declaration (t : SyntaxTree) (own : kind ≠ .moduleImport) (name : Option String) :
    ∃ r : Reading t, ReadsAs r (Visit.declare kind name) := by
  cases name with
  | none => exact exists_plain t
  | some name => exact ⟨.declaration kind name own, fun _ _ => by simp [Visit.declare, visit, symbols]⟩

theorem exists_binding {role : String} {value : SyntaxTree} (hv : t.child? role = some value)
    (own : kind ≠ .moduleImport) (name : String) :
    ∃ r : Reading t, ReadsAs r fun scope found =>
      (.descendInto value (SyntaxTree.weight_child? hv) (some found.size),
        found.push (t.symbol kind name scope)) :=
  ⟨.binding kind name own value (List.mem_of_find?_eq_some hv) (SyntaxTree.weight_child? hv),
    fun _ _ => by simp [visit, symbols]⟩

theorem exists_imports (t : SyntaxTree) (modules : List String) :
    ∃ r : Reading t, ReadsAs r fun scope found =>
      (.skip, modules.foldl (fun found m => found.push (t.symbol .moduleImport m scope)) found) :=
  ⟨.imports modules, fun _ _ => by simp [visit, symbols]⟩

end Reading

open Reading

theorem Python.regular_visit (source : String) : (Python.visit source).Regular := by
  intro t
  unfold Python.visit
  split
  · exact exists_declaration t (by decide) _
  · exact exists_declaration t (by decide) _
  · exact exists_imports t _
  · cases t.childText? source "module_name" with
    | none => exact exists_imports t []
    | some m => exact exists_imports t [m]
  · exact exists_declaration t (by decide) _
  · exact exists_plain t

namespace EcmaScript

theorem regular_bind (source nameRole valueRole : String) :
    Visitor.Regular (bind source nameRole valueRole) := by
  intro t
  unfold bind
  split
  · exact exists_plain t
  · rename_i value hv
    cases boundName? source nameRole t with
    | none => exact exists_plain t
    | some name =>
      dsimp only
      split
      · exact exists_binding hv (by decide) name
      split
      · exact exists_binding hv (by decide) name
      cases requiredModule? source value with
      | none => exact exists_plain t
      | some m => exact exists_imports t [m]

theorem regular_visit (source : String) : (EcmaScript.visit source).Regular := by
  intro t
  unfold EcmaScript.visit
  split
  case h_1 | h_2 | h_3 | h_4 | h_5 => exact exists_declaration t (by decide) _
  case h_6 | h_7 | h_8 => exact exists_declaration t (by decide) _
  case h_9 | h_10 | h_11 => exact regular_bind source _ _ t
  case h_12 =>
    cases (t.child? "source").bind (module? source) with
    | none => exact exists_imports t []
    | some m => exact exists_imports t [m]
  case h_13 | h_14 | h_15 => exact exists_imports t []
  case h_16 => exact exists_plain t

end EcmaScript
end SymbolIndex
