import SymbolIndex.Proofs.Symbols.Exactness

/-!
# The symbols of Python, exactly

What a node declares (`Declares`) and imports (`Imports`) by itself, and that this is listed wherever
no import statement is above: `declarations_exact` for functions and classes, `imports_exact` for the
modules.

The Python visitor goes on below every node but an import statement, so nothing hides a declaration: a
definition without a name, an error region or a decorator is passed by as any other node is. A statement that
imports from `__future__` is of a kind that the visitor does not ask for (`Future.symbols_future`).
-/
namespace SymbolIndex
open SyntaxTree

namespace Python

/-- The statements that import modules. -/
def importKinds : List String := ["import_statement", "import_from_statement"]

/-- What a node declares by itself. -/
inductive Declares (source : String) (t : SyntaxTree) : SymbolKind → String → Prop
  | function {name : String} (kind : t.kind = "function_definition")
      (named : t.NamedBy source "name" name) : Declares source t .function name
  | classType {name : String} (kind : t.kind = "class_definition")
      (named : t.NamedBy source "name" name) : Declares source t .classType name
  | lambda {name : String} {left right : SyntaxTree} (kind : t.kind = "assignment")
      (left_eq : t.child? "left" = some left) (identifier : left.kind = "identifier")
      (right_eq : t.child? "right" = some right) (lambda : right.kind = "lambda")
      (text : left.text? source = some name) : Declares source t .function name

/-- The module that an entry of an `import` statement names, whatever alias it gives it. -/
inductive Entry (source : String) (e : SyntaxTree) : String → Prop
  | plain {text : String} (kind : e.kind ≠ "aliased_import") (text_eq : e.text? source = some text) :
      Entry source e (Text.trim text)
  | aliased {c : SyntaxTree} {text : String} (kind : e.kind = "aliased_import")
      (name : e.child? "name" = some c) (text_eq : c.text? source = some text) :
      Entry source e (Text.trim text)

/-- The modules that the entries of an `import` statement name: one for each that names any. -/
inductive Entries (source : String) : List SyntaxTree → List String → Prop
  | nil : Entries source [] []
  | named {e : SyntaxTree} {es : List SyntaxTree} {m : String} {ms : List String} (entry : Entry source e m)
      (rest : Entries source es ms) : Entries source (e :: es) (m :: ms)
  | nameless {e : SyntaxTree} {es : List SyntaxTree} {ms : List String} (entry : ∀ m, ¬ Entry source e m)
      (rest : Entries source es ms) : Entries source (e :: es) ms

/-- The modules that a node imports by itself: those of an `import` statement, or the one that a `from`
statement imports from. -/
inductive Imports (source : String) (t : SyntaxTree) : List String → Prop
  | entries {ms : List String} (kind : t.kind = "import_statement")
      (modules : Entries source (t.childrenIn "name") ms) : Imports source t ms
  | origin {m : String} (kind : t.kind = "import_from_statement")
      (named : t.NamedBy source "module_name" m) : Imports source t [m]

/-- An address that is not below an import statement, with named nodes all the way to it. What is not named is
a keyword or a punctuation mark. -/
structure Open (t : SyntaxTree) (a : Address) : Prop where
  named : ∀ b c, b <+: a → b ≠ [] → t.at? b = some c → c.root.named = true
  outside : ∀ b u, Address.Above b a → t.at? b = some u → u.kind ∉ importKinds

variable {source name : String} {t : SyntaxTree} {s : Symbol} {a : Address}

theorem lambdaName?_eq_some_iff : lambdaName? source t = some name ↔ ∃ left right,
    t.child? "left" = some left ∧ left.kind = "identifier" ∧ t.child? "right" = some right ∧
    right.kind = "lambda" ∧ left.text? source = some name := by
  unfold lambdaName?
  split
  · rename_i left right hl hr
    simp [hl, hr, and_assoc]
  · rename_i hno
    simp only [reduceCtorEq, false_iff]
    rintro ⟨left, right, hl, -, hr, -⟩
    exact hno left right hl hr

theorem onward_eq (source : String) (place : SyntaxTree → Nat) (t : SyntaxTree) :
    (visit source).onward place t = if t.kind ∈ importKinds then .nowhere else .below := by
  unfold Visitor.onward visit
  split
  · simp_all [importKinds]
  · simp_all [importKinds]
  · simp_all [importKinds, Visit.onward]
  · rename_i hk
    cases t.childText? source "module_name" <;> simp [importKinds, hk, Visit.onward]
  · simp_all [importKinds]
  · simp_all [importKinds, Visit.onward]

theorem onward_ne_into (source : String) (place : SyntaxTree → Nat) (t : SyntaxTree) (i : Nat) :
    (visit source).onward place t ≠ .into i := by
  rw [onward_eq]
  split <;> simp

theorem guided (source : String) (place : SyntaxTree → Nat) : (visit source).Guided place := by
  have never : ∀ {t v : SyntaxTree} {smaller scope},
      (visit source t none #[]).1 ≠ .descendInto v smaller scope := fun {t} _ _ _ h =>
    onward_ne_into source place t _ (by rw [Visitor.onward, h, Visit.onward])
  exact ⟨regular_visit source, fun h => (never h).elim, fun h => (never h).elim⟩

theorem exposed_iff {place : SyntaxTree → Nat} : Exposed ((visit source).onward place) t a ↔ Open t a := by
  constructor
  · intro h
    refine ⟨fun b c hb hne hc => (h.named b c hb hne hc).resolve_right ?_, fun b u hb hu hk => ?_⟩
    · rintro ⟨_, i, u, -, -, hi⟩
      exact onward_ne_into source place u i hi
    · have := h.leads b u hb hu
      rw [onward_eq, if_pos hk] at this
      exact this
  · intro h
    refine ⟨fun b c hb hne hc => .inl (h.named b c hb hne hc), fun b u hb hu => ?_⟩
    rw [onward_eq, if_neg (h.outside b u hb hu)]
    trivial

theorem importedModule?_eq_some_iff {e : SyntaxTree} {m : String} :
    importedModule? source e = some m ↔ Entry source e m := by
  unfold importedModule?
  constructor
  · intro h
    split at h
    · rename_i hk
      obtain ⟨c, hc, h⟩ := Option.bind_eq_some_iff.1 h
      obtain ⟨text, ht, rfl⟩ := Option.map_eq_some_iff.1 h
      exact .aliased hk hc ht
    · rename_i hk
      obtain ⟨text, ht, rfl⟩ := Option.map_eq_some_iff.1 h
      exact .plain hk ht
  · rintro (⟨hk, ht⟩ | ⟨hk, hc, ht⟩)
    · simp [hk, ht]
    · simp [hk, hc, ht]

theorem Entries.filterMap_eq {es : List SyntaxTree} {ms : List String} (h : Entries source es ms) :
    es.filterMap (importedModule? source) = ms := by
  induction h with
  | nil => rfl
  | named entry rest ih => rw [List.filterMap_cons_some (importedModule?_eq_some_iff.2 entry), ih]
  | nameless entry rest ih =>
    have hnone : importedModule? source _ = none :=
      Option.eq_none_iff_forall_ne_some.2 fun m hm => entry m (importedModule?_eq_some_iff.1 hm)
    rw [List.filterMap_cons_none hnone, ih]

theorem entries_filterMap (es : List SyntaxTree) :
    Entries source es (es.filterMap (importedModule? source)) := by
  induction es with
  | nil => exact .nil
  | cons e es ih =>
    cases he : importedModule? source e with
    | none =>
      rw [List.filterMap_cons_none he]
      exact .nameless (fun m hm => by rw [importedModule?_eq_some_iff.2 hm] at he; cases he) ih
    | some m =>
      rw [List.filterMap_cons_some he]
      exact .named (importedModule?_eq_some_iff.1 he) ih

theorem Imports.foundAt_eq {ms : List String} (h : Imports source t ms) :
    (visit source).foundAt t = ms.map (t.symbol .moduleImport · none) := by
  cases h with
  | entries hk modules => simp [Visitor.foundAt, visit, hk, modules.filterMap_eq]
  | origin hk named => simp [Visitor.foundAt, visit, hk, childText?_eq_some_iff.2 named]

/-- All that is found at a node is what it declares or what it imports. -/
theorem exists_of_mem_foundAt (h : s ∈ (visit source).foundAt t) :
    (∃ kind name, Declares source t kind name ∧ s = t.symbol kind name none) ∨
    ∃ ms, Imports source t ms ∧ ∃ m ∈ ms, s = t.symbol .moduleImport m none := by
  unfold Visitor.foundAt visit at h
  split at h
  · rename_i hk
    obtain ⟨name, hn, rfl⟩ := Visit.mem_declare.1 h
    exact .inl ⟨_, name, .function hk (childText?_eq_some_iff.1 hn), rfl⟩
  · rename_i hk
    obtain ⟨name, hn, rfl⟩ := Visit.mem_declare.1 h
    exact .inl ⟨_, name, .classType hk (childText?_eq_some_iff.1 hn), rfl⟩
  · rename_i hk
    obtain ⟨m, hm, rfl⟩ : ∃ m ∈ (t.childrenIn "name").filterMap (importedModule? source),
        t.symbol .moduleImport m none = s := by simpa using h
    exact .inr ⟨_, .entries hk (entries_filterMap _), m, hm, rfl⟩
  · rename_i hk
    cases hm : t.childText? source "module_name" with
    | none => simp [hm] at h
    | some m =>
      obtain rfl : s = t.symbol .moduleImport m none := by simpa [hm] using h
      exact .inr ⟨_, .origin hk (childText?_eq_some_iff.1 hm), m, List.mem_singleton_self m, rfl⟩
  · rename_i hk
    obtain ⟨name, hn, rfl⟩ := Visit.mem_declare.1 h
    obtain ⟨left, right, hl, hi, hr, hlam, ht⟩ := lambdaName?_eq_some_iff.1 hn
    exact .inl ⟨_, name, .lambda hk hl hi hr hlam ht, rfl⟩
  · simp at h

theorem Declares.mem_foundAt {kind : SymbolKind} (h : Declares source t kind name) :
    t.symbol kind name none ∈ (visit source).foundAt t := by
  cases h with
  | function hk hn => simp [Visitor.foundAt, visit, hk, childText?_eq_some_iff.2 hn, Visit.declare]
  | classType hk hn => simp [Visitor.foundAt, visit, hk, childText?_eq_some_iff.2 hn, Visit.declare]
  | lambda hk hl hi hr hlam ht =>
    simp [Visitor.foundAt, visit, hk, lambdaName?_eq_some_iff.2 ⟨_, _, hl, hi, hr, hlam, ht⟩, Visit.declare]

theorem declares_of_mem_foundAt (h : s ∈ (visit source).foundAt t) (hs : s.kind ≠ .moduleImport) :
    ∃ kind name, Declares source t kind name ∧ s = t.symbol kind name none := by
  rcases exists_of_mem_foundAt h with h | ⟨_, _, m, _, rfl⟩
  · exact h
  · exact absurd rfl hs

theorem imports_of_mem_foundAt (h : s ∈ (visit source).foundAt t) (hs : s.kind = .moduleImport) :
    ∃ ms, Imports source t ms ∧ s.name ∈ ms := by
  rcases exists_of_mem_foundAt h with ⟨kind, name, hd, rfl⟩ | ⟨ms, hms, m, hm, rfl⟩
  · cases hd <;> cases hs
  · exact ⟨ms, hms, hm⟩

/-- The functions and classes of a Python text are exactly those that the nodes outside import statements
declare, in pre-order, each once and with the span of its node, and each belongs to the innermost of them
above it. -/
theorem declarations_exact (source : String) (t : SyntaxTree) :
    ∃ found, found.map (·.symbol) = symbols source t ∧
      ListedExactly (· != .moduleImport) t (Open t) (Declares source) found := by
  refine ListedExactly.of_walk (guided source fun _ => 0) (regular_visit source).length_declared_le
    (fun u s hs => ⟨fun h => declares_of_mem_foundAt h (by simpa using hs), ?_⟩) fun a u _ => exposed_iff
  rintro ⟨kind, name, h, rfl⟩
  exact h.mem_foundAt

/-- Findings in pre-order that list at every open address the modules imported there, one after the other and
with the span of their statement, and list no other imports. -/
structure ListsImports (source : String) (t : SyntaxTree) (found : List Finding) : Prop where
  ordered : found.Pairwise fun d e => ¬ e.place < d.place
  exact : ∀ a u ms, t.at? a = some u → Open t a → Imports source u ms →
    symbolsAt found a = ms.map (u.symbol .moduleImport · none)
  only : ∀ e ∈ found, e.symbol.kind = .moduleImport → Open t e.place ∧
    ∃ u ms, t.at? e.place = some u ∧ Imports source u ms ∧ e.symbol.name ∈ ms

/-- The imports of a Python text are exactly the modules of its open `import` statements, one for each entry
that names any, and of its open `from` statements, one for each; they come as their statements do. -/
theorem imports_exact (source : String) (t : SyntaxTree) :
    ∃ found, found.map (·.symbol) = symbols source t ∧ ListsImports source t found := by
  obtain ⟨found, heq, h⟩ := Toured.of_walk (guided source fun _ => 0) t
  refine ⟨found, heq, h.ordered, fun a u ms ha hopen himp => ?_, fun e he hs => ?_⟩
  · rw [h.listed a u ha (exposed_iff.2 hopen), himp.foundAt_eq]
  · obtain ⟨hexp, u, hu, hmem⟩ := h.mem_symbolsAt_iff.1 (mem_symbolsAt.2 ⟨e, he, rfl, rfl⟩)
    obtain ⟨ms, himp, hm⟩ := imports_of_mem_foundAt hmem hs
    exact ⟨exposed_iff.1 hexp, u, ms, hu, himp, hm⟩

end Python

namespace Future

/-- A module that asks for a feature of a later version. -/
def text : String := "from __future__ import a"

def statement : SyntaxTree :=
  sound "future_import_statement" true none 0 24 [
    token "from" 0 4,
    token "__future__" 5 15,
    token "import" 16 22,
    sound "dotted_name" true (some "name") 23 24 [sound "identifier" true none 23 24 []]]

def tree : SyntaxTree := sound "module" true none 0 24 [statement]

/-- A statement that imports from `__future__` is of a kind of its own, and is not listed. -/
theorem symbols_future : tree.at? [0] = some statement ∧ statement.kind = "future_import_statement" ∧
    Python.symbols text tree = [] := by
  refine ⟨rfl, rfl, ?_⟩
  decide +kernel

end Future
end SymbolIndex
