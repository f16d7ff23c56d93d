import SymbolIndex.Symbols.Walk

/-!
# Symbols of Python

Functions, classes and imports of a Python syntax tree. A lambda that an assignment binds to a name
counts as a function of that name.
-/
namespace SymbolIndex
namespace Python

/-- The module that an entry of an import statement names; its alias does not matter. -/
def importedModule? (source : String) (entry : SyntaxTree) : Option String :=
  let dotted := if entry.kind = "aliased_import" then entry.child? "name" else some entry
  dotted.bind fun t => (t.text? source).map Text.trim

/-- The name that an assignment gives to a lambda. -/
def lambdaName? (source : String) (t : SyntaxTree) : Option String :=
  match t.child? "left", t.child? "right" with
  | some left, some right =>
    if left.kind = "identifier" ∧ right.kind = "lambda" then left.text? source else none
  | _, _ => none

def visit (source : String) : Visitor (Array Symbol) := fun t scope found =>
  match t.kind with
  | "function_definition" => Visit.declare .function (t.childText? source "name") scope found
  | "class_definition" => Visit.declare .classType (t.childText? source "name") scope found
  | "import_statement" =>
    let modules := (t.childrenIn "name").filterMap (importedModule? source)
    (.skip, modules.foldl (fun found m => found.push (t.symbol .moduleImport m scope)) found)
  | "import_from_statement" =>
    match t.childText? source "module_name" with
    | some m => (.skip, found.push (t.symbol .moduleImport m scope))
    | none => (.skip, found)
  | "assignment" => Visit.declare .function (lambdaName? source t) scope found
  | _ => (.descend scope, found)

/-- The symbols of a Python text with the syntax tree `t`, in source order. -/
def symbols (source : String) (t : SyntaxTree) : List Symbol :=
  (t.walk (visit source) #[]).toList

end Python
end SymbolIndex
