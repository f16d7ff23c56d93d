import SymbolIndex.Proofs.Symbols.Exactness

/-!
# The symbols of JavaScript and TypeScript, exactly

What a node declares (`Declares`) and imports (`Imports`) by itself, and where that is listed
(`declares_exactly`, `imports_exactly`). All that the visitor makes of a node is said once, in `outcome`: it
passes the node by, lists what it declares, goes into the value that takes its name, or closes it.

When it goes into a value, what stands beside the value is lost. So the addresses that a walk comes to
(`Shown`) are fewer than those with nothing closed above them (`Open`): a class in the decorator of a field
that is bound to a function is not listed (`Decorated.symbols_decorated`), while one in the decorator of a
method is. A module required for a pattern is not imported either, since the pattern is no plain name
(`Destructured.symbols_destructured`).
-/
namespace SymbolIndex
open SyntaxTree

namespace EcmaScript

/-- What the kind of a node says of it. -/
inductive Form
  /-- A function, a generator or a method, or the signature of one. -/
  | callable
  | classLike
  /-- It gives a value to what is in a role of it. -/
  | binding (role : String)
  | moduleImport
  /-- It is about types, and nothing below it is looked at. -/
  | typeOnly
  | other

def form (kind : String) : Form :=
  match kind with
  | "function_declaration" | "generator_function_declaration" | "function_signature"
  | "method_definition" | "abstract_method_signature" => .callable
  | "class_declaration" | "abstract_class_declaration" | "class" => .classLike
  | "variable_declarator" | "public_field_definition" => .binding "name"
  | "field_definition" => .binding "property"
  | "import_statement" => .moduleImport
  | "interface_declaration" | "type_alias_declaration" | "enum_declaration" => .typeOnly
  | _ => .other

/-- A string literal names a module by what is between its quotes. -/
def Specifies (source : String) (literal : SyntaxTree) (m : String) : Prop :=
  ∃ text, literal.text? source = some text ∧ unquote text = m ∧ m ≠ ""

/-- A call `require("m")`. -/
structure Requires (source : String) (call : SyntaxTree) (m : String) : Prop where
  kind : call.kind = "call_expression"
  callee : ∃ c, call.child? "function" = some c ∧ c.text? source = some "require"
  argument : ∃ arguments first, call.child? "arguments" = some arguments ∧
    arguments.namedChildren.head? = some first ∧ first.kind = "string" ∧ Specifies source first m

/-- A declarator or a class field gives a value to one plain name. -/
structure Binds (source : String) (t : SyntaxTree) (name : String) (value : SyntaxTree) : Prop where
  target : ∃ role c, form t.kind = .binding role ∧ t.child? role = some c ∧ c.kind ∈ plainNameKinds ∧
    c.text? source = some name
  value : t.child? "value" = some value

/-- A value that takes the name it is bound to. -/
inductive TakesName (value : SyntaxTree) : SymbolKind → Prop
  | function (kind : value.kind ∈ callableKinds) : TakesName value .function
  | classType (kind : value.kind = "class") : TakesName value .classType

/-- What a node declares by itself. -/
inductive Declares (source : String) (t : SyntaxTree) : SymbolKind → String → Prop
  | function {name : String} (form_eq : form t.kind = .callable) (named : t.NamedBy source "name" name) :
      Declares source t .function name
  | classType {name : String} (form_eq : form t.kind = .classLike) (named : t.NamedBy source "name" name) :
      Declares source t .classType name
  | bound {kind : SymbolKind} {name : String} {value : SyntaxTree} (binds : Binds source t name value)
      (takes : TakesName value kind) : Declares source t kind name

/-- What a node imports by itself. -/
inductive Imports (source : String) (t : SyntaxTree) : SymbolKind → String → Prop
  | statement {literal : SyntaxTree} {m : String} (form_eq : form t.kind = .moduleImport)
      (source_eq : t.child? "source" = some literal) (specifies : Specifies source literal m) :
      Imports source t .moduleImport m
  | required {name m : String} {value : SyntaxTree} (binds : Binds source t name value)
      (requires : Requires source value m) : Imports source t .moduleImport m

/-- A node below which nothing is looked at. -/
inductive Closes (source : String) (t : SyntaxTree) : Prop
  | statement (form_eq : form t.kind = .moduleImport)
  | typeOnly (form_eq : form t.kind = .typeOnly)
  | required {name m : String} {value : SyntaxTree} (binds : Binds source t name value)
      (requires : Requires source value m)

/-- The place of the value of a node among its children. -/
def valuePlace (t : SyntaxTree) : Nat := t.children.findIdx (·.root.role == some "value")

/-- The child at `i` of a node takes the name that the node binds it to. -/
structure BindsAt (source : String) (t : SyntaxTree) (i : Nat) : Prop where
  place : valuePlace t = i
  takes : ∃ name value kind, Binds source t name value ∧ TakesName value kind

variable {source name role m : String} {t value : SyntaxTree} {kind : SymbolKind} {s : Symbol} {a : Address}
  {scope : Scope} {found : Array Symbol}

theorem visit_eq (source : String) (t : SyntaxTree) (scope : Scope) (found : Array Symbol) :
    visit source t scope found = match form t.kind with
      | .callable => Visit.declare .function (t.childText? source "name") scope found
      | .classLike => Visit.declare .classType (t.childText? source "name") scope found
      | .binding role => bind source role "value" t scope found
      | .moduleImport => (.skip, ((t.child? "source").bind (module? source)).elim found fun m =>
          found.push (t.symbol .moduleImport m scope))
      | .typeOnly => (.skip, found)
      | .other => (.descend scope, found) := by
  unfold visit form
  split
  case h_12 => cases (t.child? "source").bind (module? source) <;> simp_all
  all_goals simp_all

theorem module?_eq_some_iff {literal : SyntaxTree} :
    module? source literal = some m ↔ Specifies source literal m := by
  simp only [module?, Option.filter_eq_some_iff, Option.map_eq_some_iff, Specifies]
  constructor
  · rintro ⟨⟨text, ht, rfl⟩, hne⟩
    exact ⟨text, ht, rfl, by simpa using hne⟩
  · rintro ⟨text, ht, rfl, hne⟩
    exact ⟨⟨text, ht, rfl⟩, by simpa using hne⟩

theorem requiredModule?_eq_some_iff : requiredModule? source value = some m ↔ Requires source value m := by
  constructor
  · intro h
    unfold requiredModule? at h
    split at h
    · rename_i hk
      split at h
      · rename_i callee arguments hc ha
        split at h
        · rename_i first ht hf
          split at h
          · rename_i hs
            exact ⟨hk, ⟨callee, hc, ht⟩, arguments, first, ha, hf, hs, module?_eq_some_iff.1 h⟩
          · cases h
        · cases h
      · cases h
    · cases h
  · rintro ⟨hk, ⟨callee, hc, ht⟩, arguments, first, ha, hf, hs, hm⟩
    simp [requiredModule?, hk, hc, ha, ht, hf, hs, module?_eq_some_iff.2 hm]

theorem boundName?_eq_some_iff : boundName? source role t = some name ↔
    ∃ c, t.child? role = some c ∧ c.kind ∈ plainNameKinds ∧ c.text? source = some name := by
  simp only [boundName?, Option.bind_eq_some_iff, Option.filter_eq_some_iff, List.contains_iff_mem, and_assoc]

/-- A node that binds no value to a plain name is passed by. -/
theorem bind_of_not_binds (hform : form t.kind = .binding role)
    (h : ∀ name value, ¬ Binds source t name value) :
    bind source role "value" t scope found = (.descend scope, found) := by
  unfold bind
  split
  · rfl
  · rename_i value hv
    have hn : boundName? source role t = none := Option.eq_none_iff_forall_ne_some.2 fun name hn =>
      have ⟨c, hc⟩ := boundName?_eq_some_iff.1 hn
      h name value ⟨⟨role, c, hform, hc⟩, hv⟩
    simp [hn]

/-- What is made of a node that binds a value to a plain name. -/
theorem Binds.visit_eq (h : Binds source t name value) : ∃ smaller,
    visit source t none #[] =
      if callableKinds.contains value.kind then
        (.descendInto value smaller (some 0), #[t.symbol .function name none])
      else if value.kind = "class" then
        (.descendInto value smaller (some 0), #[t.symbol .classType name none])
      else (requiredModule? source value).elim (.descend none, #[]) fun m =>
        (.skip, #[t.symbol .moduleImport m none]) := by
  obtain ⟨⟨role, c, hform, hname⟩, hv⟩ := h
  have hn := boundName?_eq_some_iff.2 ⟨c, hname⟩
  refine ⟨weight_child? hv, ?_⟩
  rw [EcmaScript.visit_eq, hform]
  show bind source role "value" t none #[] = _
  unfold bind
  split
  · rename_i hv'
    rw [hv] at hv'
    cases hv'
  · rename_i v hv'
    obtain rfl : value = v := Option.some.inj (hv.symm.trans hv')
    cases requiredModule? source value <;> simp [hn]

/-- What the visitor may make of a node, and when. -/
inductive Outcome (source : String) (t : SyntaxTree) : Visit t × Array Symbol → Prop
  | passed : Outcome source t (.descend none, #[])
  | declared {kind : SymbolKind} {name : String} (declares : Declares source t kind name) :
      Outcome source t (.descend (some 0), #[t.symbol kind name none])
  | bound {kind : SymbolKind} {name : String} {value : SyntaxTree} {smaller : value.weight < t.weight}
      (binds : Binds source t name value) (takes : TakesName value kind) :
      Outcome source t (.descendInto value smaller (some 0), #[t.symbol kind name none])
  | imported {m : String} (imports : Imports source t .moduleImport m) (closes : Closes source t) :
      Outcome source t (.skip, #[t.symbol .moduleImport m none])
  | closed (closes : Closes source t) : Outcome source t (.skip, #[])

theorem Outcome.declare {kind : SymbolKind} {name : Option String}
    (h : ∀ n, name = some n → Declares source t kind n) :
    Outcome source t (Visit.declare kind name none #[]) := by
  cases name with
  | none => exact .passed
  | some n => exact .declared (h n rfl)

theorem Binds.outcome (h : Binds source t name value) : Outcome source t (visit source t none #[]) := by
  obtain ⟨smaller, heq⟩ := h.visit_eq
  rw [heq]
  split
  · rename_i hk
    exact .bound h (.function (List.contains_iff_mem.1 hk))
  split
  · rename_i hk
    exact .bound h (.classType hk)
  cases hm : requiredModule? source value with
  | none => exact .passed
  | some m =>
    have hm := requiredModule?_eq_some_iff.1 hm
    exact .imported (.required h hm) (.required h hm)

theorem outcome (source : String) (t : SyntaxTree) : Outcome source t (visit source t none #[]) := by
  cases hform : form t.kind with
  | callable =>
    rw [visit_eq, hform]
    exact .declare fun n hn => .function hform (childText?_eq_some_iff.1 hn)
  | classLike =>
    rw [visit_eq, hform]
    exact .declare fun n hn => .classType hform (childText?_eq_some_iff.1 hn)
  | binding role =>
    by_cases h : ∃ name value, Binds source t name value
    · obtain ⟨name, value, h⟩ := h
      exact h.outcome
    · rw [visit_eq, hform]
      show Outcome source t (bind source role "value" t none #[])
      rw [bind_of_not_binds hform fun name value hb => h ⟨name, value, hb⟩]
      exact .passed
  | moduleImport =>
    rw [visit_eq, hform]
    cases hm : (t.child? "source").bind (module? source) with
    | none => exact .closed (.statement hform)
    | some m =>
      obtain ⟨literal, hl, hm⟩ := Option.bind_eq_some_iff.1 hm
      exact .imported (.statement hform hl (module?_eq_some_iff.1 hm)) (.statement hform)
  | typeOnly =>
    rw [visit_eq, hform]
    exact .closed (.typeOnly hform)
  | other =>
    rw [visit_eq, hform]
    exact .passed

/-! ### What is found at a node -/

theorem length_foundAt_le (source : String) (t : SyntaxTree) : ((visit source).foundAt t).length ≤ 1 := by
  have h := outcome source t
  unfold Visitor.foundAt
  cases h' : visit source t none #[] with
  | mk v found => rw [h'] at h; cases h <;> simp

theorem exists_of_mem_foundAt (h : s ∈ (visit source).foundAt t) :
    ∃ kind name, (Declares source t kind name ∨ Imports source t kind name) ∧
      s = t.symbol kind name none := by
  have ho := outcome source t
  unfold Visitor.foundAt at h
  cases h' : visit source t none #[] with
  | mk v found =>
    rw [h'] at h ho
    cases ho with
    | passed | closed => cases h
    | declared declares => exact ⟨_, _, .inl declares, List.mem_singleton.1 h⟩
    | bound binds takes => exact ⟨_, _, .inl (.bound binds takes), List.mem_singleton.1 h⟩
    | imported imports closes => exact ⟨_, _, .inr imports, List.mem_singleton.1 h⟩

theorem Binds.visit_of_takesName (h : Binds source t name value) (ht : TakesName value kind) :
    ∃ smaller, visit source t none #[] =
      (.descendInto value smaller (some 0), #[t.symbol kind name none]) := by
  obtain ⟨smaller, heq⟩ := h.visit_eq
  refine ⟨smaller, heq.trans ?_⟩
  cases ht with
  | function hk => simp [hk]
  | classType hk => simp [hk, callableKinds]

theorem Binds.visit_of_requires (h : Binds source t name value) (hm : Requires source value m) :
    visit source t none #[] = (.skip, #[t.symbol .moduleImport m none]) := by
  obtain ⟨smaller, heq⟩ := h.visit_eq
  simpa [hm.kind, callableKinds, requiredModule?_eq_some_iff.2 hm] using heq

theorem Declares.foundAt_eq (h : Declares source t kind name) :
    (visit source).foundAt t = [t.symbol kind name none] := by
  unfold Visitor.foundAt
  cases h with
  | function hform named => simp [visit_eq, hform, childText?_eq_some_iff.2 named, Visit.declare]
  | classType hform named => simp [visit_eq, hform, childText?_eq_some_iff.2 named, Visit.declare]
  | bound binds takes =>
    obtain ⟨smaller, heq⟩ := binds.visit_of_takesName takes
    rw [heq]

theorem Imports.foundAt_eq (h : Imports source t kind name) :
    (visit source).foundAt t = [t.symbol kind name none] := by
  unfold Visitor.foundAt
  cases h with
  | statement hform hl hm => simp [visit_eq, hform, hl, module?_eq_some_iff.2 hm]
  | required binds hm => rw [binds.visit_of_requires hm]

/-! ### Where the walk goes on -/

theorem Closes.onward_eq (h : Closes source t) : (visit source).onward valuePlace t = .nowhere := by
  unfold Visitor.onward
  cases h with
  | statement hform => simp [visit_eq, hform, Visit.onward]
  | typeOnly hform => simp [visit_eq, hform, Visit.onward]
  | required binds hm => rw [binds.visit_of_requires hm, Visit.onward]

theorem BindsAt.onward_eq {i : Nat} (h : BindsAt source t i) :
    (visit source).onward valuePlace t = .into i := by
  obtain ⟨hplace, name, value, kind, binds, takes⟩ := h
  obtain ⟨smaller, heq⟩ := binds.visit_of_takesName takes
  rw [Visitor.onward, heq, Visit.onward, hplace]

theorem onward_eq_nowhere_iff :
    (visit source).onward valuePlace t = .nowhere ↔ Closes source t := by
  refine ⟨fun h => ?_, Closes.onward_eq⟩
  have ho := outcome source t
  unfold Visitor.onward at h
  cases h' : visit source t none #[] with
  | mk v found =>
    rw [h'] at h ho
    cases ho with
    | passed | declared | bound => cases h
    | imported _ closes | closed closes => exact closes

theorem onward_eq_into_iff {i : Nat} :
    (visit source).onward valuePlace t = .into i ↔ BindsAt source t i := by
  refine ⟨fun h => ?_, BindsAt.onward_eq⟩
  have ho := outcome source t
  unfold Visitor.onward at h
  cases h' : visit source t none #[] with
  | mk v found =>
    rw [h'] at h ho
    cases ho with
    | passed | declared | imported | closed => cases h
    | bound binds takes =>
      obtain rfl : valuePlace t = i := by simpa [Visit.onward] using h
      exact ⟨rfl, _, _, _, binds, takes⟩

theorem getElem?_valuePlace (t : SyntaxTree) : t.children[valuePlace t]? = t.child? "value" :=
  List.find?_eq_getElem?_findIdx.symm

/-- A value that takes the name it is bound to is nothing that the walk would keep away from. -/
theorem TakesName.onward_eq (h : TakesName value kind) : (visit source).onward valuePlace value = .below := by
  unfold Visitor.onward
  cases h with
  | function hk =>
    have hform : form value.kind = .other := by
      simp only [callableKinds, List.mem_cons, List.not_mem_nil, or_false] at hk
      rcases hk with h | h | h | h <;> rw [h] <;> rfl
    simp [visit_eq, hform, Visit.onward]
  | classType hk =>
    have hform : form value.kind = .classLike := by rw [hk]; rfl
    simp [visit_eq, hform]

theorem guided (source : String) : (visit source).Guided valuePlace := by
  have into : ∀ {t v : SyntaxTree} {smaller scope},
      (visit source t none #[]).1 = .descendInto v smaller scope →
      t.child? "value" = some v ∧ ∃ kind, TakesName v kind := by
    intro t v smaller scope h
    have ho := outcome source t
    cases h' : visit source t none #[] with
    | mk w found =>
      rw [h'] at h ho
      cases ho with
      | passed | declared | imported | closed => cases h
      | bound binds takes => cases h; exact ⟨binds.value, _, takes⟩
  refine ⟨regular_visit source, fun h => ?_, fun h => ?_⟩
  · rw [getElem?_valuePlace, (into h).1]
  · obtain ⟨-, kind, takes⟩ := into h
    exact takes.onward_eq

/-- The node at an address takes the name that the node above it binds it to. -/
def Taken (source : String) (t : SyntaxTree) (a : Address) : Prop :=
  ∃ b i u, a = b ++ [i] ∧ t.at? b = some u ∧ BindsAt source u i

/-- An address that is not below anything that closes, with named nodes or bound values all the way to it,
and that is not of a value which takes the name it is bound to. -/
structure Open (source : String) (t : SyntaxTree) (a : Address) : Prop where
  named : ∀ b c, b <+: a → b ≠ [] → t.at? b = some c → c.root.named = true ∨ Taken source t b
  outside : ∀ b u, Address.Above b a → t.at? b = some u → ¬ Closes source u
  untaken : ¬ Taken source t a

/-- An open address that is not beside a value which takes the name it is bound to. -/
structure Shown (source : String) (t : SyntaxTree) (a : Address) : Prop extends Open source t a where
  inValue : ∀ b u i, Address.Above b a → t.at? b = some u → BindsAt source u i → b ++ [i] <+: a

theorem entered_iff : Entered ((visit source).onward valuePlace) t a ↔ Taken source t a := by
  simp only [Entered, Taken, onward_eq_into_iff]

theorem exposed_iff : Exposed ((visit source).onward valuePlace) t a ↔ Shown source t a := by
  constructor
  · intro h
    have within : ∀ b u i, Address.Above b a → t.at? b = some u → BindsAt source u i →
        Address.Above (b ++ [i]) a := by
      intro b u i hb hu hbind
      have := h.leads b u hb hu
      rwa [hbind.onward_eq] at this
    refine ⟨⟨fun b c hb hne hc => (h.named b c hb hne hc).imp id entered_iff.1, fun b u hb hu hcl => ?_, ?_⟩,
      fun b u i hb hu hbind => (within b u i hb hu hbind).1⟩
    · have := h.leads b u hb hu
      rw [hcl.onward_eq] at this
      exact this
    · rintro ⟨b, i, u, rfl, hu, hbind⟩
      exact (within b u i (Address.above_concat.2 List.prefix_rfl) hu hbind).2 rfl
  · intro h
    refine ⟨fun b c hb hne hc => (h.named b c hb hne hc).imp id entered_iff.2, fun b u hb hu => ?_⟩
    cases ho : (visit source).onward valuePlace u with
    | below => trivial
    | into i =>
      have hbind := onward_eq_into_iff.1 ho
      exact ⟨h.inValue b u i hb hu hbind, fun heq => h.untaken ⟨b, i, u, heq.symm, hu, hbind⟩⟩
    | nowhere => exact h.outside b u hb hu (onward_eq_nowhere_iff.1 ho)

/-! ### What a literal names -/

/-- A string literal with quotes around text that neither begins nor ends with a quote. -/
structure Quotes (source : String) (literal : SyntaxTree) (m : String) : Prop where
  text : ∃ q, isQuote q = true ∧ literal.text? source = some (String.ofList (q :: (m.toList ++ [q])))
  first : ∃ c cs, m.toList = c :: cs ∧ isQuote c = false
  last : ∃ c cs, m.toList = cs ++ [c] ∧ isQuote c = false

theorem unquote_quoted {q : Char} (hq : isQuote q = true)
    (first : ∃ c cs, m.toList = c :: cs ∧ isQuote c = false)
    (last : ∃ c cs, m.toList = cs ++ [c] ∧ isQuote c = false) :
    unquote (String.ofList (q :: (m.toList ++ [q]))) = m := by
  have hhead : (q :: (m.toList ++ [q])).dropWhile isQuote = m.toList ++ [q] := by
    obtain ⟨c, cs, hm, hc⟩ := first
    simp [hm, hq, hc]
  have htail : Text.dropTail isQuote (m.toList ++ [q]) = m.toList := by
    obtain ⟨c, cs, hm, hc⟩ := last
    simp [Text.dropTail, hm, hq, hc]
  rw [unquote, Text.strip, String.toList_ofList, hhead, htail, String.ofList_toList]

theorem Quotes.specifies_iff {literal : SyntaxTree} {m' : String} (h : Quotes source literal m) :
    Specifies source literal m' ↔ m' = m := by
  obtain ⟨⟨q, hq, ht⟩, first, last⟩ := h
  have hm := unquote_quoted hq first last
  constructor
  · rintro ⟨text, ht', rfl, -⟩
    rw [← hm, Option.some.inj (ht.symm.trans ht')]
  · rintro rfl
    refine ⟨_, ht, hm, ?_⟩
    rintro rfl
    obtain ⟨c, cs, h, -⟩ := first
    cases h

/-! ### The lists -/

theorem Declares.kind_ne (h : Declares source t kind name) : kind ≠ .moduleImport := by
  cases h with
  | function | classType => decide
  | bound _ takes => cases takes <;> decide

theorem Imports.kind_eq (h : Imports source t kind name) : kind = .moduleImport := by
  cases h <;> rfl

/-- A walk lists exactly what is said at the shown addresses, if that is what is found at the nodes. -/
theorem exists_listedExactly (of : SymbolKind → Bool) (tells : SyntaxTree → SymbolKind → String → Prop)
    (t : SyntaxTree) (hfound : ∀ u kind name, of kind = true →
      Declares source u kind name ∨ Imports source u kind name → tells u kind name)
    (htells : ∀ u kind name, tells u kind name → (visit source).foundAt u = [u.symbol kind name none]) :
    ∃ found, found.map (·.symbol) = symbols source t ∧ ListedExactly of t (Shown source t) tells found := by
  refine ListedExactly.of_walk (guided source) (fun u => ?_) (fun u s hs => ⟨fun hmem => ?_, ?_⟩)
    fun a u _ => exposed_iff
  · exact Nat.le_trans (List.length_filter_le ..) (length_foundAt_le source u)
  · obtain ⟨kind, name, h, rfl⟩ := exists_of_mem_foundAt hmem
    exact ⟨kind, name, hfound u kind name hs h, rfl⟩
  · rintro ⟨kind, name, h, rfl⟩
    rw [htells u kind name h]
    exact List.mem_singleton_self _

/-- The functions and classes of a JavaScript or TypeScript text are exactly those that the nodes at shown
addresses declare, in pre-order, each once and with the span of its node, and each belongs to the innermost of
them above it. They are those of all open addresses if and only if nothing is declared beside a value that
takes the name it is bound to. -/
theorem declares_exactly (source : String) (t : SyntaxTree) :
    ∃ found, found.map (·.symbol) = symbols source t ∧
      ListedExactly (· != .moduleImport) t (Shown source t) (Declares source) found ∧
      (ListedExactly (· != .moduleImport) t (Open source t) (Declares source) found ↔
        ∀ a u kind name, Open source t a → t.at? a = some u → Declares source u kind name →
          Shown source t a) := by
  have hfound : ∀ u kind name, (kind != .moduleImport) = true →
      Declares source u kind name ∨ Imports source u kind name → Declares source u kind name :=
    fun u kind name hk h => h.resolve_right fun himp => by simp [himp.kind_eq] at hk
  obtain ⟨found, heq, h⟩ := exists_listedExactly _ _ t hfound fun _ _ _ h => h.foundAt_eq
  exact ⟨found, heq, h, h.congr_iff (fun _ _ _ h => by simpa using h.kind_ne) fun _ ha => ha.toOpen⟩

/-- The imports of a JavaScript or TypeScript text are exactly those of the nodes at shown addresses, in
pre-order, each once and with the span of its node; they are named by what is between the quotes. -/
theorem imports_exactly (source : String) (t : SyntaxTree) :
    (∃ found, found.map (·.symbol) = symbols source t ∧
      ListedExactly (· == .moduleImport) t (Shown source t) (Imports source) found) ∧
    ∀ literal m, Quotes source literal m → ∀ m', Specifies source literal m' ↔ m' = m := by
  have hfound : ∀ u kind name, (kind == .moduleImport) = true →
      Declares source u kind name ∨ Imports source u kind name → Imports source u kind name :=
    fun u kind name hk h => h.resolve_left fun hdec => hdec.kind_ne (by simpa using hk)
  exact ⟨exists_listedExactly _ _ t hfound fun _ _ _ h => h.foundAt_eq, fun _ _ h _ => h.specifies_iff⟩

end EcmaScript

namespace Decorated

/-- A class with a field that is bound to a function and has a class in its decorator. -/
def text : String := "class A \x7b @dec(class B \x7b\x7d) f = () => \x7b\x7d; \x7d"

def tree : SyntaxTree :=
  sound "program" true none 0 42 [sound "class_declaration" true none 0 42 [
    token "class" 0 5,
    sound "identifier" true (some "name") 6 7 [],
    sound "class_body" true (some "body") 8 42 [
      token "\x7b" 8 9,
      sound "field_definition" true (some "member") 10 39 [
        sound "decorator" true (some "decorator") 10 26 [
          token "@" 10 11,
          sound "call_expression" true none 11 26 [
            sound "identifier" true (some "function") 11 14 [],
            sound "arguments" true (some "arguments") 14 26 [
              token "(" 14 15,
              sound "class" true none 15 25 [
                token "class" 15 20,
                sound "identifier" true (some "name") 21 22 [],
                sound "class_body" true (some "body") 23 25 [token "\x7b" 23 24, token "\x7d" 24 25]],
              token ")" 25 26]]],
        sound "property_identifier" true (some "property") 27 28 [],
        token "=" 29 30,
        sound "arrow_function" true (some "value") 31 39 [
          sound "formal_parameters" true (some "parameters") 31 33 [token "(" 31 32, token ")" 32 33],
          token "=>" 34 36,
          sound "statement_block" true (some "body") 37 39 [token "\x7b" 37 38, token "\x7d" 38 39]]],
      token ";" 39 40,
      token "\x7d" 41 42]]]

/-- The address of the class in the decorator. -/
def place : Address := [0, 2, 1, 0, 1, 1, 1]

theorem open_place : EcmaScript.Open text tree place := by
  have take_of_prefix : ∀ {b}, b <+: place → b = place.take b.length ∧ b.length < 8 := fun h =>
    ⟨List.prefix_iff_eq_take.1 h, Nat.lt_succ_of_le h.length_le⟩
  have named : ∀ n < 8, (tree.at? (place.take n)).all (·.root.named) := by decide
  -- The walk would go on below every node on the way but the field, the third: there it goes into the value.
  have onward : ∀ n < 8,
      (tree.at? (place.take n)).map ((EcmaScript.visit text).onward EcmaScript.valuePlace) =
      some (if n = 3 then .into 3 else .below) := by decide +kernel
  refine ⟨fun b c hb _ hc => .inl ?_, fun b u hb hu hcl => ?_, ?_⟩
  · obtain ⟨heq, hlt⟩ := take_of_prefix hb
    have := named _ hlt
    rwa [← heq, hc] at this
  · obtain ⟨heq, hlt⟩ := take_of_prefix hb.1
    have := onward _ hlt
    rw [← heq, hu, Option.map_some, hcl.onward_eq] at this
    split at this <;> cases this
  · rintro ⟨b, i, u, heq, hu, hbind⟩
    obtain ⟨rfl, -⟩ : [0, 2, 1, 0, 1, 1] = b ∧ [1] = [i] := List.append_inj' heq rfl
    have := onward 6 (by decide)
    rw [show place.take 6 = [0, 2, 1, 0, 1, 1] from rfl, hu, Option.map_some, hbind.onward_eq] at this
    cases this

/-- A class in the decorator of a field that is bound to a function is declared at an open address and is
not listed. -/
theorem symbols_decorated : EcmaScript.Open text tree place ∧
    (∃ u, tree.at? place = some u ∧ EcmaScript.Declares text u .classType "B") ∧
    EcmaScript.symbols text tree =
      [⟨.classType, "A", ⟨1, 0⟩, ⟨1, 42⟩, none⟩, ⟨.function, "f", ⟨1, 10⟩, ⟨1, 39⟩, some 0⟩] := by
  refine ⟨open_place, ⟨_, rfl, .classType rfl (childText?_eq_some_iff.1 ?_)⟩, ?_⟩
  · decide +kernel
  · decide +kernel

end Decorated

namespace Destructured

/-- A module that is taken apart as it is required. -/
def text : String := "const \x7b a \x7d = require(\"m\");"

def call : SyntaxTree :=
  sound "call_expression" true (some "value") 14 26 [
    sound "identifier" true (some "function") 14 21 [],
    sound "arguments" true (some "arguments") 21 26 [
      token "(" 21 22,
      sound "string" true none 22 25 [
        token "\"" 22 23, sound "string_fragment" true none 23 24 [], token "\"" 24 25],
      token ")" 25 26]]

def declarator : SyntaxTree :=
  sound "variable_declarator" true none 6 26 [
    sound "object_pattern" true (some "name") 6 11 [
      token "\x7b" 6 7,
      sound "shorthand_property_identifier_pattern" true none 8 9 [],
      token "\x7d" 10 11],
    token "=" 12 13,
    call]

def tree : SyntaxTree :=
  sound "program" true none 0 27 [sound "lexical_declaration" true none 0 27 [
    sound "const" false (some "kind") 0 5 [], declarator, token ";" 26 27]]

/-- A declarator that takes apart the module that it requires imports nothing. -/
theorem symbols_destructured : tree.at? [0, 1] = some declarator ∧
    declarator.kind = "variable_declarator" ∧ declarator.child? "value" = some call ∧
    EcmaScript.Requires text call "m" ∧ EcmaScript.symbols text tree = [] := by
  refine ⟨rfl, rfl, rfl, EcmaScript.requiredModule?_eq_some_iff.1 ?_, ?_⟩
  · decide +kernel
  · decide +kernel

end Destructured
end SymbolIndex
