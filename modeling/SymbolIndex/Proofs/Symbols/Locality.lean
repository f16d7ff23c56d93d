import SymbolIndex.Proofs.Symbols.Alike
import SymbolIndex.Proofs.Symbols.Recursion
import SymbolIndex.Proofs.Syntax.Faults

/-!
# What a subtree contributes

The symbols that a subtree adds to the list of a tree are those that it has by itself: the places of their
parents are counted from where they come in the list, and those without a parent belong to the symbol that
encloses the subtree (`Contributes`). So siblings add their lists one after the other
(`Visitor.Regular.walkFrom_siblings`), every node that is visited contributes the list that it has by itself
(`Visitor.Regular.contributes_tour`), and what is wrong elsewhere in a text has no say in it.
`walk_compositional` says so of both language families, and before that of all visitors what a walk of a tree
is: the plain recursion.
-/
namespace SymbolIndex
open SyntaxTree

/-- A scope in a list that comes behind `n` symbols and below the scope `outer`. -/
def rebased (outer : Scope) (n : Nat) (scope : Scope) : Scope := (scope.map (n + ·)).or outer

/-- A symbol of a list that comes behind `n` symbols and below the scope `outer`. -/
def Symbol.rebase (outer : Scope) (n : Nat) (s : Symbol) : Symbol :=
  { s with parent := rebased outer n s.parent }

/-- A list holds the symbols of a subtree in one piece, behind what encloses the subtree. -/
def Contributes (own : List Symbol) (scope : Scope) (listed : List Symbol) : Prop :=
  ∃ before after, listed = before ++ own.map (·.rebase scope before.length) ++ after ∧
    ∀ j, scope = some j → j < before.length

section Rebase

variable {visit : Visitor (Array Symbol)} {inner : Locator (Array Symbol)} {t : SyntaxTree}
  {scope outer : Scope} {n k : Nat} {x y : Pending} {rest : List Pending} {found : Array Symbol}

theorem Reading.symbols_rebased (r : Reading t) :
    r.symbols (rebased outer n scope) = (r.symbols scope).map (·.rebase outer n) := by
  cases r <;> simp [symbols, Symbol.rebase, SyntaxTree.symbol]

theorem Reading.next_rebased (r : Reading t) : (r.visit (rebased outer n scope) (n + k)).next =
    (r.visit scope k).next.map fun x => (x.1, rebased outer n x.2) := by
  cases r <;> simp [visit, Visit.next, rebased]

theorem Reading.scope_of_mem_next {r : Reading t} {x : SyntaxTree × Scope} (h : x ∈ (r.visit scope n).next) :
    x.2 = scope ∨ x.2 = some n ∧ r.symbols scope ≠ [] := by
  cases r with
  | plain => obtain ⟨c, -, rfl⟩ := List.mem_map.1 h; exact .inl rfl
  | declaration | binding => obtain ⟨c, -, rfl⟩ := List.mem_map.1 h; exact .inr ⟨rfl, by simp [symbols]⟩
  | imports modules => cases h

/-- A stack lists the same, up to the places of parents, whatever was found before and is below it.
What is found before is behind nothing else, so its size is what the places are moved by. -/
theorem Visitor.Regular.walkFrom_rebased (hv : visit.Regular) (outer : Scope) (base : Array Symbol)
    (below stack : List (SyntaxTree × Scope)) (found : Array Symbol) :
    walkFrom visit (stack.map (fun x => (x.1, rebased outer base.size x.2)) ++ below)
        (base ++ found.map (·.rebase outer base.size)) =
      walkFrom visit below (base ++ (walkFrom visit stack found).map (·.rebase outer base.size)) := by
  induction stack, found using walkFrom.induct visit with
  | case1 found => simp [walkFrom]
  | case2 found t scope rest v found' heq ih =>
    obtain ⟨r, hr⟩ := hv t
    obtain ⟨rfl, rfl⟩ := Prod.mk.inj (heq.symm.trans (hr scope found))
    rw [List.map_cons, List.cons_append, walkFrom, hr, walkFrom, heq, ← ih]
    simp only [Array.size_append, Array.size_map, r.next_rebased, r.symbols_rebased]
    simp

/-- A node on a stack adds the symbols that it has by itself. -/
theorem Visitor.Regular.walkFrom_cons (hv : visit.Regular) (t : SyntaxTree) (scope : Scope)
    (rest : List (SyntaxTree × Scope)) (found : Array Symbol) :
    walkFrom visit ((t, scope) :: rest) found =
      walkFrom visit rest (found ++ (t.walk visit #[]).map (·.rebase scope found.size)) := by
  have := hv.walkFrom_rebased scope found rest [(t, none)] #[]
  simpa [rebased, walk] using this

/-- Siblings add the symbols that each of them has by itself, one after the other. -/
theorem Visitor.Regular.walkFrom_siblings (hv : visit.Regular) (ts : List SyntaxTree) (scope : Scope)
    (found : Array Symbol) : (walkFrom visit (ts.map (·, scope)) found).toList =
      ts.foldl (fun listed t => listed ++ (t.walk visit #[]).toList.map (·.rebase scope listed.length))
        found.toList := by
  induction ts generalizing found with
  | nil => simp [walkFrom]
  | cons t ts ih => simp [hv.walkFrom_cons, ih]

/-- What was found stays at the beginning of the list. -/
theorem Visitor.Regular.exists_walkFrom_eq (hv : visit.Regular) (stack : List (SyntaxTree × Scope))
    (found : Array Symbol) : ∃ after, walkFrom visit stack found = found ++ after := by
  induction stack, found using walkFrom.induct visit with
  | case1 found => exact ⟨#[], by simp [walkFrom]⟩
  | case2 found t scope rest v found' heq ih =>
    obtain ⟨r, hr⟩ := hv t
    obtain ⟨rfl, rfl⟩ := Prod.mk.inj (heq.symm.trans (hr scope found))
    obtain ⟨after, h⟩ := ih
    refine ⟨(r.symbols scope).toArray ++ after, ?_⟩
    rw [walkFrom, heq]
    exact h.trans (Array.append_assoc ..)

/-- The scopes of all that is pending are places in the list so far. -/
def ScopesIn (stack : List Pending) (found : Array Symbol) : Prop :=
  ∀ x ∈ stack, ∀ j, x.scope = some j → j < found.size

theorem Visitor.Regular.scopesIn_visited (hv : visit.Regular) (h : ScopesIn (x :: rest) found) :
    ScopesIn (visit.next inner x found ++ rest) (visit x.tree x.scope found).2 := by
  obtain ⟨r, hr⟩ := hv x.tree
  have hsize : (visit x.tree x.scope found).2.size = found.size + (r.symbols x.scope).length := by
    rw [hr]; simp
  intro y hy j hj
  rw [hsize]
  rcases List.mem_append.1 hy with hy | hy
  · have hnext := List.mem_map_of_mem (f := Pending.shown) hy
    rw [visit.map_shown_next, hr] at hnext
    rcases Reading.scope_of_mem_next hnext with hs | ⟨hs, hne⟩
    · exact Nat.lt_add_right _ (h x (by simp) j (hs.symm.trans hj))
    · obtain rfl : found.size = j := Option.some.inj (hs.symm.trans hj)
      exact Nat.lt_add_of_pos_right (List.length_pos_iff.2 hne)
  · exact Nat.lt_add_right _ (h y (by simp [hy]) j hj)

/-- Every node that a tour visits contributes the symbols that it has by itself. -/
theorem Visitor.Regular.contributes_tour (hv : visit.Regular) (stack : List Pending) (found : Array Symbol)
    (hscopes : ScopesIn stack found) (hy : y ∈ (tour visit inner stack found).1) :
    Contributes (y.tree.walk visit #[]).toList y.scope
      (walkFrom visit (stack.map (·.shown)) found).toList := by
  induction stack, found using Pending.induction visit inner with
  | nil found => simp at hy
  | cons x rest found ih =>
    rw [tour_cons] at hy
    rcases List.mem_cons.1 hy with rfl | hy
    · obtain ⟨after, hafter⟩ := hv.exists_walkFrom_eq (rest.map (·.shown))
        (found ++ (y.tree.walk visit #[]).map (·.rebase y.scope found.size))
      refine ⟨found.toList, after.toList, ?_, hscopes y (by simp)⟩
      rw [List.map_cons, Pending.shown, hv.walkFrom_cons, hafter]
      simp
    · rw [walkFrom_visited]
      exact ih (hv.scopesIn_visited hscopes) hy

end Rebase

/-- What the visitors of a language, one for each text, list for a subtree is told by the subtree and by the
symbol that encloses it. -/
structure ListsLocally (visit : String → Visitor (Array Symbol)) (inner : Locator (Array Symbol))
    (exposed : String → SyntaxTree → Address → Prop) (symbols : String → SyntaxTree → List Symbol) :
    Prop where
  inward : ∀ source, (visit source).Inward inner
  /-- The exposed nodes of a tree are those that are visited. -/
  visited : ∀ source (t : SyntaxTree) a, (∃ x ∈ (tour (visit source) inner [t.top] #[]).1, x.place = a) ↔
    (t.at? a).isSome ∧ exposed source t a
  /-- Siblings add the symbols that each of them has by itself, one after the other. -/
  siblings : ∀ source (ts : List SyntaxTree) scope found,
    (walkFrom (visit source) (ts.map (·, scope)) found).toList =
      ts.foldl (fun listed t => listed ++ (symbols source t).map (·.rebase scope listed.length)) found.toList
  /-- Every node that is visited contributes the symbols that it has by itself. -/
  inPlace : ∀ source (t : SyntaxTree), ∀ x ∈ (tour (visit source) inner [t.top] #[]).1,
    Contributes (symbols source x.tree) x.scope (symbols source t)
  /-- It contributes the same to every other text, whatever is wrong there elsewhere. -/
  elsewhere : ∀ source source' moved u (t : SyntaxTree), ∀ x ∈ (tour (visit source') inner [t.top] #[]).1,
    Alike source source' moved u x.tree →
      Contributes ((symbols source u).map (·.move moved)) x.scope (symbols source' t)

theorem ListsLocally.of_guided {visit : String → Visitor (Array Symbol)} {place : SyntaxTree → Nat}
    {exposed : String → SyntaxTree → Address → Prop} (hg : ∀ source, (visit source).Guided place)
    (hexposed : ∀ source t a, Exposed ((visit source).onward place) t a ↔ exposed source t a)
    (halike : ∀ source source' moved t u, Alike source source' moved t u → ∀ scope found,
      SameVisit source source' moved (visit source t scope found)
        (visit source' u scope (found.map (·.move moved)))) :
    ListsLocally visit (Visitor.childLocator place) exposed
      fun source t => (t.walk (visit source) #[]).toList := by
  have inPlace : ∀ source (t : SyntaxTree),
      ∀ x ∈ (tour (visit source) (Visitor.childLocator place) [t.top] #[]).1,
      Contributes (x.tree.walk (visit source) #[]).toList x.scope (t.walk (visit source) #[]).toList :=
    fun source t x hx => (hg source).regular.contributes_tour [t.top] #[] (by simp [ScopesIn, top]) hx
  refine ⟨fun source => (hg source).inward, fun source t a => ?visited,
    fun source => (hg source).regular.walkFrom_siblings, inPlace,
      fun source source' moved u t x hx h => ?elsewhere⟩
  case visited =>
    have htop : ∀ x ∈ [t.top], t.at? x.place = some x.tree ∧
        Exposed ((visit source).onward place) t x.place := by
      simp [top, at?, exposed_root]
    rw [(hg source).exists_mem_tour_iff [t.top] #[] htop, hexposed]
    simp [top]
  case elsewhere =>
    have hsame : x.tree.walk (visit source') #[] = (u.walk (visit source) #[]).map (·.move moved) := by
      have := walkFrom_alike (halike source source' moved) [(u, none)] [(x.tree, none)] #[]
        (.cons ⟨h, rfl⟩ .nil)
      simpa [walk] using this
    have := inPlace source' t x hx
    rwa [hsame, Array.toList_map] at this

/-- A walk is the plain recursion, whatever the visitor: it comes to an end, visits the same nodes in the same
scopes and in the same order, and no node twice. What it lists for a subtree of a text in any of the languages
is therefore told by the subtree and by the symbol that encloses it. -/
theorem walk_compositional :
    (∀ (σ : Type) (visit : Visitor σ) (inner : Locator σ), visit.Inward inner →
      ∀ (t : SyntaxTree) (found : σ), WalksAs visit inner t found) ∧
    ListsLocally Python.visit (Visitor.childLocator fun _ => 0) (fun _ => Python.Open) Python.symbols ∧
    ListsLocally EcmaScript.visit (Visitor.childLocator EcmaScript.valuePlace) EcmaScript.Shown
      EcmaScript.symbols := by
  refine ⟨fun σ visit inner h t found => .of_inward h t found, ?_, ?_⟩
  · exact .of_guided (fun source => Python.guided source _) (fun _ _ _ => Python.exposed_iff)
      fun _ _ _ _ _ h => Python.visit_alike h
  · exact .of_guided EcmaScript.guided (fun _ _ _ => EcmaScript.exposed_iff)
      fun _ _ _ _ _ h => EcmaScript.visit_alike h

namespace Recovered

/-- A function and a class. -/
def whole : String := "var f = x => 1; class A \x7b m() \x7b \x7d \x7d"

/-- The class behind what is left of the function. -/
def broken : String := "var = 1; class A \x7b m() \x7b \x7d \x7d"

/-- The class at an offset of a text. -/
def classAt (n : Nat) : SyntaxTree :=
  sound "class_declaration" true none n (n + 19) [
    token "class" n (n + 5),
    sound "identifier" true (some "name") (n + 6) (n + 7) [],
    sound "class_body" true (some "body") (n + 8) (n + 19) [
      token "\x7b" (n + 8) (n + 9),
      sound "method_definition" true (some "member") (n + 10) (n + 17) [
        sound "property_identifier" true (some "name") (n + 10) (n + 11) [],
        sound "formal_parameters" true (some "parameters") (n + 11) (n + 13) [
          token "(" (n + 11) (n + 12), token ")" (n + 12) (n + 13)],
        sound "statement_block" true (some "body") (n + 14) (n + 17) [
          token "\x7b" (n + 14) (n + 15), token "\x7d" (n + 16) (n + 17)]],
      token "\x7d" (n + 18) (n + 19)]]

def wholeTree : SyntaxTree :=
  sound "program" true none 0 35 [
    sound "variable_declaration" true none 0 15 [
      token "var" 0 3,
      sound "variable_declarator" true none 4 14 [
        sound "identifier" true (some "name") 4 5 [],
        token "=" 6 7,
        sound "arrow_function" true (some "value") 8 14 [
          sound "identifier" true (some "parameter") 8 9 [],
          token "=>" 10 12,
          sound "number" true (some "body") 13 14 []]],
      token ";" 14 15],
    classAt 16]

def brokenTree : SyntaxTree :=
  unsound "program" none 0 28 [
    unsound "ERROR" none 0 5 [token "var" 0 3, token "=" 4 5],
    sound "expression_statement" true none 6 8 [sound "number" true none 6 7 [], token ";" 7 8],
    classAt 9]

/-- The class stands seven columns further to the left in the broken text. -/
def moved (p : Position) : Position := ⟨p.line, p.column - 7⟩

theorem alike_classAt : Alike whole broken moved (classAt 16) (classAt 9) := by
  repeat' first
    | exact .nil
    | refine .node ⟨rfl, rfl, rfl, rfl, by decide +kernel, rfl, rfl⟩ ?_
    | refine .cons ?_ ?_

/-- The class is visited in the broken text, and nothing encloses it. -/
theorem visited_classAt : ∃ x ∈ (tour (EcmaScript.visit broken)
    (Visitor.childLocator EcmaScript.valuePlace) [brokenTree.top] #[]).1,
    x.tree = classAt 9 ∧ x.scope = none := by
  obtain ⟨x, hx, heq⟩ : ∃ x ∈ (tour (EcmaScript.visit broken) (Visitor.childLocator EcmaScript.valuePlace)
      [brokenTree.top] #[]).1, (x.place, x.scope) = ([2], none) :=
    List.mem_map.1 (List.mem_of_getElem? (i := 4) (by decide +kernel))
  obtain ⟨hplace, hscope⟩ := Prod.mk.inj heq
  have hlocated := (WalksAs.of_inward (EcmaScript.guided broken).inward brokenTree #[]).located x hx
  rw [hplace] at hlocated
  exact ⟨x, hx, (Option.some.inj hlocated).symm, hscope⟩

/-- The class behind an error is listed as it is without the error: it stands elsewhere, and its
method belongs to the first symbol of the text and not to the second. -/
theorem walk_compositional_recovered :
    (EcmaScript.visit whole).Inward (Visitor.childLocator EcmaScript.valuePlace) ∧
    WalksAs (EcmaScript.visit whole) (Visitor.childLocator EcmaScript.valuePlace) wholeTree #[] ∧
    EcmaScript.symbols whole wholeTree = [⟨.function, "f", ⟨1, 4⟩, ⟨1, 14⟩, none⟩,
      ⟨.classType, "A", ⟨1, 16⟩, ⟨1, 35⟩, none⟩, ⟨.function, "m", ⟨1, 26⟩, ⟨1, 33⟩, some 1⟩] ∧
    Alike whole broken moved (classAt 16) (classAt 9) ∧
    EcmaScript.symbols broken brokenTree = [⟨.classType, "A", ⟨1, 9⟩, ⟨1, 28⟩, none⟩,
      ⟨.function, "m", ⟨1, 19⟩, ⟨1, 26⟩, some 0⟩] ∧
    Contributes ((EcmaScript.symbols whole (classAt 16)).map (·.move moved)) none
      (EcmaScript.symbols broken brokenTree) := by
  obtain ⟨hwalks, -, hlists⟩ := walk_compositional
  have hinward : (EcmaScript.visit whole).Inward (Visitor.childLocator EcmaScript.valuePlace) :=
    (EcmaScript.guided whole).inward
  obtain ⟨x, hx, htree, hscope⟩ := visited_classAt
  refine ⟨hinward, hwalks _ _ _ hinward wholeTree #[], ?_, alike_classAt, ?_, ?_⟩
  · decide +kernel
  · decide +kernel
  · have := hlists.elsewhere whole broken moved (classAt 16) brokenTree x hx (htree ▸ alike_classAt)
    rwa [hscope] at this

end Recovered
end SymbolIndex
