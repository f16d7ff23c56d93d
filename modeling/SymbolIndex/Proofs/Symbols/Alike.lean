import Mathlib.Data.List.Forall2
import SymbolIndex.Proofs.Symbols.EcmaScript
import SymbolIndex.Proofs.Symbols.Python

/-!
# Alike trees

What a tree declares and imports is told by the kinds, the roles and the texts of its nodes. Two trees of two
texts that have these in common (`Alike`) have the same symbols, wherever they stand in their texts and
whatever else is there: only the positions of the symbols differ (`walkFrom_alike`). For this the visitors of
a language need only treat alike nodes alike (`Python.visit_alike`, `EcmaScript.visit_alike`).
-/
namespace SymbolIndex
open SyntaxTree

/-- A symbol of a text that stands elsewhere in another text. -/
def Symbol.move (moved : Position → Position) (s : Symbol) : Symbol :=
  { s with start := moved s.start, stop := moved s.stop }

/-- Two nodes of two texts that differ in positions only: they have the same kind, role and text, and `moved`
takes the positions of the one to those of the other. -/
structure SameNode (source source' : String) (moved : Position → Position) (t u : SyntaxTree) : Prop where
  kind : t.kind = u.kind
  named : t.root.named = u.root.named
  role : t.root.role = u.root.role
  missing : t.root.isMissing = u.root.isMissing
  text : t.text? source = u.text? source'
  start : u.startPosition = moved t.startPosition
  stop : u.stopPosition = moved t.stopPosition

/-- Two trees of two texts that differ in positions only, node for node. -/
inductive Alike (source source' : String) (moved : Position → Position) : SyntaxTree → SyntaxTree → Prop
  | node {t u : SyntaxTree} (root : SameNode source source' moved t u)
      (children : List.Forall₂ (Alike source source' moved) t.children u.children) :
      Alike source source' moved t u

/-- Two visits that find the same and go on with the same nodes, in two texts. -/
structure SameVisit (source source' : String) (moved : Position → Position) {t u : SyntaxTree}
    (p : Visit t × Array Symbol) (q : Visit u × Array Symbol) : Prop where
  next : List.Forall₂ (fun x y => Alike source source' moved x.1 y.1 ∧ x.2 = y.2) p.1.next q.1.next
  found : q.2 = p.2.map (·.move moved)

section Alike

variable {source source' : String} {moved : Position → Position} {t u c d : SyntaxTree}
  {ts us : List SyntaxTree}

namespace Alike

theorem root (h : Alike source source' moved t u) : SameNode source source' moved t u := by
  cases h; assumption

theorem children (h : Alike source source' moved t u) :
    List.Forall₂ (Alike source source' moved) t.children u.children := by
  cases h; assumption

theorem namedChildren (h : Alike source source' moved t u) :
    List.Forall₂ (Alike source source' moved) t.namedChildren u.namedChildren :=
  List.rel_filter (fun _ _ hcd => by simp [hcd.root.named]) h.children

theorem childrenIn (h : Alike source source' moved t u) (role : String) :
    List.Forall₂ (Alike source source' moved) (t.childrenIn role) (u.childrenIn role) :=
  List.rel_filter (fun _ _ hcd => by simp [hcd.root.role]) h.children

theorem head?_cases (h : List.Forall₂ (Alike source source' moved) ts us) :
    ts.head? = none ∧ us.head? = none ∨
      ∃ c d, ts.head? = some c ∧ us.head? = some d ∧ Alike source source' moved c d := by
  cases h with
  | nil => exact .inl ⟨rfl, rfl⟩
  | cons h _ => exact .inr ⟨_, _, rfl, rfl, h⟩

theorem child?_cases (h : Alike source source' moved t u) (role : String) :
    t.child? role = none ∧ u.child? role = none ∨
      ∃ c d, t.child? role = some c ∧ u.child? role = some d ∧ Alike source source' moved c d := by
  have := head?_cases (h.childrenIn role)
  rwa [SyntaxTree.childrenIn, SyntaxTree.childrenIn, List.head?_filter, List.head?_filter] at this

theorem childText?_eq (h : Alike source source' moved t u) (role : String) :
    t.childText? source role = u.childText? source' role := by
  unfold childText?
  rcases h.child?_cases role with ⟨ht, hu⟩ | ⟨c, d, ht, hu, hcd⟩
  · rw [ht, hu]
    rfl
  · rw [ht, hu]
    simp only [Option.filter_some, hcd.root.missing]
    split <;> simp [hcd.root.text]

theorem symbol_eq (h : Alike source source' moved t u) (kind : SymbolKind) (name : String) (scope : Scope) :
    u.symbol kind name scope = (t.symbol kind name scope).move moved := by
  simp [symbol, Symbol.move, h.root.start, h.root.stop]

/-! ### Alike visits -/

theorem descend (h : Alike source source' moved t u) (scope : Scope) (found : Array Symbol) :
    SameVisit (t := t) (u := u) source source' moved (.descend scope, found)
      (.descend scope, found.map (·.move moved)) :=
  ⟨by simpa [Visit.next] using h.namedChildren, rfl⟩

theorem declare (h : Alike source source' moved t u) (kind : SymbolKind) (name : Option String)
    (scope : Scope) (found : Array Symbol) :
    SameVisit (t := t) (u := u) source source' moved (Visit.declare kind name scope found)
      (Visit.declare kind name scope (found.map (·.move moved))) := by
  cases name with
  | none => exact h.descend scope found
  | some name =>
    refine ⟨?_, by simp [Visit.declare, h.symbol_eq]⟩
    simpa [Visit.declare, Visit.next] using h.namedChildren

theorem enter (h : Alike source source' moved t u) (hcd : Alike source source' moved c d)
    (smaller : c.weight < t.weight) (smaller' : d.weight < u.weight) (kind : SymbolKind) (name : String)
    (scope : Scope) (found : Array Symbol) :
    SameVisit (t := t) (u := u) source source' moved
      (.descendInto c smaller (some found.size), found.push (t.symbol kind name scope))
      (.descendInto d smaller' (some (found.map (·.move moved)).size),
        (found.map (·.move moved)).push (u.symbol kind name scope)) := by
  refine ⟨?_, by simp [h.symbol_eq]⟩
  simpa [Visit.next] using hcd.namedChildren

theorem imports (h : Alike source source' moved t u) (modules : List String) (scope : Scope)
    (found : Array Symbol) :
    SameVisit (t := t) (u := u) source source' moved
      (.skip, modules.foldl (fun found m => found.push (t.symbol .moduleImport m scope)) found)
      (.skip, modules.foldl (fun found m => found.push (u.symbol .moduleImport m scope))
        (found.map (·.move moved))) := by
  refine ⟨.nil, ?_⟩
  induction modules generalizing found with
  | nil => rfl
  | cons m ms ih => simpa [h.symbol_eq] using ih (found.push (t.symbol .moduleImport m scope))

end Alike

/-- Visitors that treat alike nodes alike list the same for alike trees, and only the positions differ. -/
theorem walkFrom_alike {visit visit' : Visitor (Array Symbol)}
    (hvisit : ∀ t u, Alike source source' moved t u → ∀ scope found,
      SameVisit source source' moved (visit t scope found) (visit' u scope (found.map (·.move moved))))
    (stack stack' : List (SyntaxTree × Scope)) (found : Array Symbol)
    (h : List.Forall₂ (fun x y => Alike source source' moved x.1 y.1 ∧ x.2 = y.2) stack stack') :
    walkFrom visit' stack' (found.map (·.move moved)) = (walkFrom visit stack found).map (·.move moved) := by
  induction stack, found using walkFrom.induct visit generalizing stack' with
  | case1 found =>
    cases h
    simp [walkFrom]
  | case2 found t scope rest v found' heq ih =>
    -- On top of the stacks are alike nodes in one scope, whose visits ask for alike nodes again.
    cases h with
    | @cons _ y _ rest' hxy hrest =>
    obtain ⟨u, scope'⟩ := y
    obtain ⟨htu, rfl⟩ : Alike source source' moved t u ∧ scope = scope' := hxy
    obtain ⟨hnext, hfound⟩ := hvisit t u htu scope found
    rw [heq] at hnext hfound
    rw [walkFrom, walkFrom, heq]
    simp only [hfound]
    exact ih _ (List.rel_append hnext hrest)

end Alike

namespace Python

variable {source source' : String} {moved : Position → Position} {t u : SyntaxTree}

theorem importedModule?_alike (h : Alike source source' moved t u) :
    importedModule? source t = importedModule? source' u := by
  unfold importedModule?
  rw [← h.root.kind]
  split
  · rcases h.child?_cases "name" with ⟨ht, hu⟩ | ⟨c, d, ht, hu, hcd⟩
    · simp [ht, hu]
    · simp [ht, hu, hcd.root.text]
  · simp [h.root.text]

theorem lambdaName?_alike (h : Alike source source' moved t u) :
    lambdaName? source t = lambdaName? source' u := by
  unfold lambdaName?
  rcases h.child?_cases "left" with ⟨hl, hl'⟩ | ⟨left, left', hl, hl', hleft⟩
  · simp [hl, hl']
  rcases h.child?_cases "right" with ⟨hr, hr'⟩ | ⟨right, right', hr, hr', hright⟩
  · simp [hl, hl', hr, hr']
  · simp [hl, hl', hr, hr', hleft.root.kind, hright.root.kind, hleft.root.text]

/-- The modules of alike entries are the same. -/
theorem filterMap_importedModule?_alike {es es' : List SyntaxTree}
    (h : List.Forall₂ (Alike source source' moved) es es') :
    es.filterMap (importedModule? source) = es'.filterMap (importedModule? source') := by
  induction h with
  | nil => rfl
  | cons h _ ih => simp [List.filterMap_cons, importedModule?_alike h, ih]

theorem visit_alike (h : Alike source source' moved t u) (scope : Scope) (found : Array Symbol) :
    SameVisit source source' moved (visit source t scope found)
      (visit source' u scope (found.map (·.move moved))) := by
  unfold visit
  rw [← h.root.kind, ← h.childText?_eq, ← h.childText?_eq, ← lambdaName?_alike h,
    ← filterMap_importedModule?_alike (h.childrenIn "name")]
  split
  · exact h.declare ..
  · exact h.declare ..
  · exact h.imports ..
  · cases t.childText? source "module_name" with
    | none => exact h.imports [] scope found
    | some m => exact h.imports [m] scope found
  · exact h.declare ..
  · exact h.descend ..

end Python

namespace EcmaScript

variable {source source' : String} {moved : Position → Position} {t u : SyntaxTree} {scope : Scope}
  {found : Array Symbol}

theorem module?_alike (h : Alike source source' moved t u) : module? source t = module? source' u := by
  simp [module?, h.root.text]

theorem requiredModule?_alike (h : Alike source source' moved t u) :
    requiredModule? source t = requiredModule? source' u := by
  unfold requiredModule?
  rw [← h.root.kind]
  rcases h.child?_cases "function" with ⟨hf, hf'⟩ | ⟨callee, callee', hf, hf', hcallee⟩
  · simp [hf, hf']
  rcases h.child?_cases "arguments" with ⟨ha, ha'⟩ | ⟨arguments, arguments', ha, ha', harguments⟩
  · simp [hf, hf', ha, ha']
  rcases Alike.head?_cases harguments.namedChildren with ⟨hc, hc'⟩ | ⟨c, d, hc, hc', hcd⟩
  · simp [hf, hf', ha, ha', hc, hc']
  · simp only [hf, hf', ha, ha', hc, hc', hcallee.root.text]
    split
    · split
      · rename_i first hr hfirst
        cases hfirst
        simp [hr, hcd.root.kind, module?_alike hcd]
      · split <;> simp_all
    · rfl

theorem boundName?_alike (h : Alike source source' moved t u) (role : String) :
    boundName? source role t = boundName? source' role u := by
  unfold boundName?
  rcases h.child?_cases role with ⟨ht, hu⟩ | ⟨c, d, ht, hu, hcd⟩
  · simp [ht, hu]
  · simp only [ht, hu, Option.filter_some, hcd.root.kind]
    split <;> simp [hcd.root.text]

/-- What is made of a node that has a value. -/
theorem bind_of_value {value : SyntaxTree} {valueRole : String} (hv : t.child? valueRole = some value)
    (source nameRole : String) (scope : Scope) (found : Array Symbol) :
    ∃ smaller, bind source nameRole valueRole t scope found =
      match boundName? source nameRole t with
      | none => (.descend scope, found)
      | some name =>
        if callableKinds.contains value.kind then
          (.descendInto value smaller (some found.size), found.push (t.symbol .function name scope))
        else if value.kind = "class" then
          (.descendInto value smaller (some found.size), found.push (t.symbol .classType name scope))
        else
          match requiredModule? source value with
          | some m => (.skip, found.push (t.symbol .moduleImport m scope))
          | none => (.descend scope, found) := by
  refine ⟨weight_child? hv, ?_⟩
  unfold bind
  split
  · rename_i hv'
    rw [hv] at hv'
    cases hv'
  · rename_i v hv'
    obtain rfl : value = v := Option.some.inj (hv.symm.trans hv')
    rfl

theorem bind_of_no_value {nameRole valueRole : String} (hv : t.child? valueRole = none) :
    bind source nameRole valueRole t scope found = (.descend scope, found) := by
  unfold bind
  split
  · rfl
  · rename_i hv'
    rw [hv] at hv'
    cases hv'

theorem bind_alike (h : Alike source source' moved t u) (nameRole valueRole : String) (scope : Scope)
    (found : Array Symbol) :
    SameVisit source source' moved (bind source nameRole valueRole t scope found)
      (bind source' nameRole valueRole u scope (found.map (·.move moved))) := by
  rcases h.child?_cases valueRole with ⟨ht, hu⟩ | ⟨value, value', ht, hu, hvalue⟩
  · rw [bind_of_no_value ht, bind_of_no_value hu]
    exact h.descend ..
  obtain ⟨smaller, heq⟩ := bind_of_value ht source nameRole scope found
  obtain ⟨smaller', heq'⟩ := bind_of_value hu source' nameRole scope (found.map (·.move moved))
  rw [heq, heq', ← boundName?_alike h nameRole]
  cases boundName? source nameRole t with
  | none => exact h.descend ..
  | some name =>
    simp only [hvalue.root.kind, requiredModule?_alike hvalue]
    split
    · exact h.enter hvalue ..
    split
    · exact h.enter hvalue ..
    cases requiredModule? source' value' with
    | none => exact h.descend ..
    | some m => exact h.imports [m] scope found

theorem visit_alike (h : Alike source source' moved t u) (scope : Scope) (found : Array Symbol) :
    SameVisit source source' moved (visit source t scope found)
      (visit source' u scope (found.map (·.move moved))) := by
  rw [visit_eq, visit_eq, ← h.root.kind, ← h.childText?_eq]
  cases form t.kind with
  | callable | classLike => exact h.declare ..
  | binding role => exact bind_alike h ..
  | moduleImport =>
    have hsource : (t.child? "source").bind (module? source) =
        (u.child? "source").bind (module? source') := by
      rcases h.child?_cases "source" with ⟨ht, hu⟩ | ⟨c, d, ht, hu, hcd⟩
      · simp [ht, hu]
      · simp [ht, hu, module?_alike hcd]
    simp only [hsource]
    cases (u.child? "source").bind (module? source') with
    | none => exact h.imports [] scope found
    | some m => exact h.imports [m] scope found
  | typeOnly => exact h.imports [] scope found
  | other => exact h.descend ..

end EcmaScript
end SymbolIndex
