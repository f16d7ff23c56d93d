import SymbolIndex.Proofs.Symbols.EcmaScript
import SymbolIndex.Proofs.Symbols.Python
import SymbolIndex.Proofs.Syntax.Faults

/-!
# Symbols without a name

A definition whose name is missing or blank is passed by. The names of lambdas, of what import
statements list and of values that are bound to a name are taken as they are, though, so a parser that
puts in the name which a text lacks makes a symbol without a name of it (`Unnamed.symbols_unnamed`).
Those are the only ones: `symbols_nameless` tells, for both language families, where the nameless
symbols of a tree come from.
-/
namespace SymbolIndex
open SyntaxTree

theorem SyntaxTree.NamedBy.ne_empty {source role name : String} {t : SyntaxTree}
    (h : t.NamedBy source role name) : name ≠ "" := by
  obtain ⟨c, text, -, -, -, -, hne⟩ := h
  exact hne

/-- What a walk lists, parents aside, is what its visitor finds at the exposed nodes. -/
theorem Visitor.Guided.exists_mem_walk_iff {visit : Visitor (Array Symbol)} {place : SyntaxTree → Nat}
    (hg : visit.Guided place) (t : SyntaxTree) (s : Symbol) :
    (∃ e ∈ (t.walk visit #[]).toList, { e with parent := none } = s) ↔
      ∃ a u, t.at? a = some u ∧ Exposed (visit.onward place) t a ∧ s ∈ visit.foundAt u := by
  obtain ⟨found, heq, h⟩ := Toured.of_walk hg t
  rw [← heq]
  constructor
  · rintro ⟨_, he, rfl⟩
    obtain ⟨d, hd, rfl⟩ := List.mem_map.1 he
    obtain ⟨hexp, u, hu, hs⟩ := h.mem_symbolsAt_iff.1 (mem_symbolsAt.2 ⟨d, hd, rfl, rfl⟩)
    exact ⟨d.place, u, hu, hexp, hs⟩
  · rintro ⟨a, u, hu, hexp, hs⟩
    obtain ⟨d, hd, -, rfl⟩ := mem_symbolsAt.1 (h.mem_symbolsAt_iff.2 ⟨hexp, u, hu, hs⟩)
    exact ⟨d.symbol, List.mem_map_of_mem hd, rfl⟩

namespace Python

/-- A node that something without a name is listed at. -/
inductive Nameless (source : String) (t : SyntaxTree) : SymbolKind → Prop
  /-- An entry of an import statement is blank. -/
  | entry {e : SyntaxTree} (kind : t.kind = "import_statement") (mem : e ∈ t.childrenIn "name")
      (blank : Entry source e "") : Nameless source t .moduleImport
  /-- A lambda is assigned to an identifier without text. -/
  | lambda {left right : SyntaxTree} (kind : t.kind = "assignment") (left_eq : t.child? "left" = some left)
      (identifier : left.kind = "identifier") (right_eq : t.child? "right" = some right)
      (lambda : right.kind = "lambda") (empty : left.text? source = some "") : Nameless source t .function

variable {source m : String} {t : SyntaxTree} {kind : SymbolKind}

theorem Entries.mem_iff {es : List SyntaxTree} {ms : List String} (h : Entries source es ms) :
    m ∈ ms ↔ ∃ e ∈ es, Entry source e m := by
  rw [← h.filterMap_eq, List.mem_filterMap]
  exact exists_congr fun e => and_congr_right fun _ => importedModule?_eq_some_iff

/-- What is found at a node without a name is just that. -/
theorem mem_foundAt_iff_nameless {s : Symbol} (hs : s.name = "") :
    s ∈ (visit source).foundAt t ↔ ∃ kind, Nameless source t kind ∧ s = t.symbol kind "" none := by
  constructor
  · intro h
    rcases exists_of_mem_foundAt h with ⟨kind, name, hdec, rfl⟩ | ⟨ms, himp, m, hm, rfl⟩
    · obtain rfl : name = "" := hs
      cases hdec with
      | function _ named => exact absurd rfl named.ne_empty
      | classType _ named => exact absurd rfl named.ne_empty
      | lambda hk hl hi hr hlam ht => exact ⟨.function, .lambda hk hl hi hr hlam ht, rfl⟩
    · obtain rfl : m = "" := hs
      cases himp with
      | entries hk modules =>
        obtain ⟨e, he, hblank⟩ := modules.mem_iff.1 hm
        exact ⟨.moduleImport, .entry hk he hblank, rfl⟩
      | origin _ named =>
        obtain rfl := List.mem_singleton.1 hm
        exact absurd rfl named.ne_empty
  · rintro ⟨_, hn, rfl⟩
    cases hn with
    | entry hk he hblank =>
      have modules : Entries source (t.childrenIn "name") _ := entries_filterMap _
      rw [(Imports.entries hk modules).foundAt_eq]
      exact List.mem_map_of_mem (modules.mem_iff.2 ⟨_, he, hblank⟩)
    | lambda hk hl hi hr hlam ht => exact (Declares.lambda hk hl hi hr hlam ht).mem_foundAt

end Python

namespace EcmaScript

/-- A node that something without a name is listed at: it binds a value to a plain name without text. -/
def Nameless (source : String) (t : SyntaxTree) (kind : SymbolKind) : Prop :=
  ∃ value, Binds source t "" value ∧ TakesName value kind

variable {source : String} {t : SyntaxTree}

/-- What is found at a node without a name is just that. -/
theorem mem_foundAt_iff_nameless {s : Symbol} (hs : s.name = "") :
    s ∈ (visit source).foundAt t ↔ ∃ kind, Nameless source t kind ∧ s = t.symbol kind "" none := by
  constructor
  · intro h
    obtain ⟨kind, name, hsaid, rfl⟩ := exists_of_mem_foundAt h
    obtain rfl : name = "" := hs
    rcases hsaid with hdec | himp
    · cases hdec with
      | function _ named => exact absurd rfl named.ne_empty
      | classType _ named => exact absurd rfl named.ne_empty
      | bound binds takes => exact ⟨kind, ⟨_, binds, takes⟩, rfl⟩
    · -- A module that is imported has a name, whatever is between the quotes of the literal.
      cases himp with
      | statement _ _ specifies =>
        obtain ⟨_, -, -, hne⟩ := specifies
        exact absurd rfl hne
      | required _ requires =>
        obtain ⟨_, _, -, -, -, _, -, -, hne⟩ := requires.argument
        exact absurd rfl hne
  · rintro ⟨kind, ⟨value, binds, takes⟩, rfl⟩
    rw [(Declares.bound binds takes).foundAt_eq]
    exact List.mem_singleton_self _

end EcmaScript

/-- Symbols of a kind and a span that have no name. -/
def HasNameless (symbols : List Symbol) (kind : SymbolKind) (start stop : Position) : Prop :=
  ∃ s ∈ symbols, s.name = "" ∧ s.kind = kind ∧ s.start = start ∧ s.stop = stop

/-- A walk lists a nameless symbol exactly where a node that is exposed to it is nameless. -/
theorem Visitor.Guided.hasNameless_iff {visit : Visitor (Array Symbol)} {place : SyntaxTree → Nat}
    {exposed : Address → Prop} {nameless : SyntaxTree → SymbolKind → Prop} {t : SyntaxTree}
    (hg : visit.Guided place)
    (hexposed : ∀ a, Exposed (visit.onward place) t a ↔ exposed a)
    (hfound : ∀ u s, s.name = "" →
      (s ∈ visit.foundAt u ↔ ∃ kind, nameless u kind ∧ s = u.symbol kind "" none))
    (kind : SymbolKind) (start stop : Position) :
    HasNameless (t.walk visit #[]).toList kind start stop ↔
      ∃ a u, t.at? a = some u ∧ exposed a ∧ nameless u kind ∧ u.startPosition = start ∧
        u.stopPosition = stop := by
  have hlisted : HasNameless (t.walk visit #[]).toList kind start stop ↔
      ∃ e ∈ (t.walk visit #[]).toList, { e with parent := none } =
          (⟨kind, "", start, stop, none⟩ : Symbol) := by
    refine exists_congr fun e => and_congr_right fun _ => ?_
    simp only [Symbol.mk.injEq, and_true]
    tauto
  rw [hlisted, hg.exists_mem_walk_iff]
  refine exists_congr fun a => exists_congr fun u => and_congr_right fun _ => and_congr (hexposed a) ?_
  rw [hfound u _ rfl]
  constructor
  · rintro ⟨_, hn, heq⟩
    simp only [symbol, Symbol.mk.injEq] at heq
    obtain ⟨rfl, -, hstart, hstop, -⟩ := heq
    exact ⟨hn, hstart.symm, hstop.symm⟩
  · rintro ⟨hn, rfl, rfl⟩
    exact ⟨kind, hn, rfl⟩

/-- A Python text lists a nameless symbol exactly where, outside import statements, a blank entry is
imported or a lambda is assigned to an identifier without text; a JavaScript or TypeScript text
exactly where, at a shown address, a function or a class is bound to a plain name without text. All
other symbols have a name. -/
theorem symbols_nameless (source : String) (t : SyntaxTree) (kind : SymbolKind) (start stop : Position) :
    (HasNameless (Python.symbols source t) kind start stop ↔
      ∃ a u, t.at? a = some u ∧ Python.Open t a ∧ Python.Nameless source u kind ∧
        u.startPosition = start ∧ u.stopPosition = stop) ∧
    (HasNameless (EcmaScript.symbols source t) kind start stop ↔
      ∃ a u, t.at? a = some u ∧ EcmaScript.Shown source t a ∧ EcmaScript.Nameless source u kind ∧
        u.startPosition = start ∧ u.stopPosition = stop) :=
  ⟨(Python.guided source fun _ => 0).hasNameless_iff (fun _ => Python.exposed_iff)
      (fun _ _ => Python.mem_foundAt_iff_nameless) kind start stop,
    (EcmaScript.guided source).hasNameless_iff (fun _ => EcmaScript.exposed_iff)
      (fun _ _ => EcmaScript.mem_foundAt_iff_nameless) kind start stop⟩

namespace Unnamed

/-- An import statement without a module. -/
def statement : String := "import;"

def statementTree : SyntaxTree :=
  unsound "module" none 0 7 [
    unsound "import_statement" none 0 6 [
      token "import" 0 6,
      unsound "dotted_name" (some "name") 6 6 [lacking "identifier" true none 6]],
    token ";" 6 7]

/-- A class with a field that has a value but no name. -/
def field : String := "class A \x7b = () => \x7b\x7d; \x7d"

def fieldTree : SyntaxTree :=
  unsound "program" none 0 23 [unsound "class_declaration" none 0 23 [
    token "class" 0 5,
    sound "identifier" true (some "name") 6 7 [],
    unsound "class_body" (some "body") 8 23 [
      token "\x7b" 8 9,
      unsound "field_definition" (some "member") 9 20 [
        lacking "property_identifier" true (some "property") 9,
        token "=" 10 11,
        sound "arrow_function" true (some "value") 12 20 [
          sound "formal_parameters" true (some "parameters") 12 14 [token "(" 12 13, token ")" 13 14],
          token "=>" 15 17,
          sound "statement_block" true (some "body") 18 20 [token "\x7b" 18 19, token "\x7d" 19 20]]],
      token ";" 20 21,
      token "\x7d" 22 23]]]

/-- The module that an import statement lacks and the name that a field lacks make symbols without a name. -/
theorem symbols_unnamed :
    Python.symbols statement statementTree = [⟨.moduleImport, "", ⟨1, 0⟩, ⟨1, 6⟩, none⟩] ∧
    EcmaScript.symbols field fieldTree =
      [⟨.classType, "A", ⟨1, 0⟩, ⟨1, 23⟩, none⟩, ⟨.function, "", ⟨1, 9⟩, ⟨1, 20⟩, some 0⟩] := by
  constructor
  · decide +kernel
  · decide +kernel

end Unnamed
end SymbolIndex
