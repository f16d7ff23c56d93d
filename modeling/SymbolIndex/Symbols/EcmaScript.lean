import SymbolIndex.Symbols.Walk

/-!
# Symbols of JavaScript and TypeScript

Functions, classes and imports of a JavaScript or TypeScript syntax tree. The two languages share
the kinds of nodes that matter here. A callable or a class that a declarator or a class field binds
to a name takes that name, and a module that one gets by calling `require` is an import.
-/
namespace SymbolIndex
namespace EcmaScript

/-- The kinds of nameless callables that become functions when bound to a name. -/
def callableKinds : List String :=
  ["arrow_function", "function_expression", "function", "generator_function"]

/-- The kinds of nodes that bind a value to one plain name. -/
def plainNameKinds : List String :=
  ["identifier", "property_identifier", "private_property_identifier"]

def isQuote (c : Char) : Bool := c == '"' || c == '\'' || c == '`'

/-- A string literal without its quotes. -/
def unquote (s : String) : String := Text.strip isQuote s

/-- The module that a string literal names. -/
def module? (source : String) (literal : SyntaxTree) : Option String :=
  ((literal.text? source).map unquote).filter (· ≠ "")

/-- The module `m` of a call `require("m")`. -/
def requiredModule? (source : String) (call : SyntaxTree) : Option String :=
  if call.kind = "call_expression" then
    match call.child? "function", call.child? "arguments" with
    | some callee, some arguments =>
      match callee.text? source, arguments.namedChildren.head? with
      | some "require", some first => if first.kind = "string" then module? source first else none
      | _, _ => none
    | _, _ => none
  else none

/-- The plain name in a role of a node. -/
def boundName? (source : String) (role : String) (t : SyntaxTree) : Option String :=
  ((t.child? role).filter (plainNameKinds.contains ·.kind)).bind (·.text? source)

/-- Visits a node that binds a value to a name. -/
def bind (source : String) (nameRole valueRole : String) : Visitor (Array Symbol) :=
  fun t scope found =>
    match h : t.child? valueRole with
    | none => (.descend scope, found)
    | some value =>
      match boundName? source nameRole t with
      | none => (.descend scope, found)
      | some name =>
        if callableKinds.contains value.kind then
          (.descendInto value (SyntaxTree.weight_child? h) (some found.size),
            found.push (t.symbol .function name scope))
        else if value.kind = "class" then
          (.descendInto value (SyntaxTree.weight_child? h) (some found.size),
            found.push (t.symbol .classType name scope))
        else
          match requiredModule? source value with
          | some m => (.skip, found.push (t.symbol .moduleImport m scope))
          | none => (.descend scope, found)

def visit (source : String) : Visitor (Array Symbol) := fun t scope found =>
  match t.kind with
  | "function_declaration" | "generator_function_declaration" | "function_signature"
  | "method_definition" | "abstract_method_signature" =>
    Visit.declare .function (t.childText? source "name") scope found
  | "class_declaration" | "abstract_class_declaration" | "class" =>
    Visit.declare .classType (t.childText? source "name") scope found
  | "variable_declarator" | "public_field_definition" => bind source "name" "value" t scope found
  | "field_definition" => bind source "property" "value" t scope found
  | "import_statement" =>
    match (t.child? "source").bind (module? source) with
    | some m => (.skip, found.push (t.symbol .moduleImport m scope))
    | none => (.skip, found)
  | "interface_declaration" | "type_alias_declaration" | "enum_declaration" => (.skip, found)
  | _ => (.descend scope, found)

/-- The symbols of a JavaScript or TypeScript text with the syntax tree `t`, in source order. -/
def symbols (source : String) (t : SyntaxTree) : List Symbol :=
  (t.walk (visit source) #[]).toList

end EcmaScript
end SymbolIndex
