import SymbolIndex.Path.Basic

/-!
# Languages

The languages that a file can be in, and how the extension of its name tells.
-/
namespace SymbolIndex

/-- The language of a file. -/
inductive Language
  | python
  | javaScript
  | typeScript
  | json
  | yaml
  | unknown
  deriving DecidableEq, Repr, Inhabited

namespace Language

/-- All languages, in order. -/
def all : List Language := [.python, .javaScript, .typeScript, .json, .yaml, .unknown]

def name : Language → String
  | python => "python"
  | javaScript => "javascript"
  | typeScript => "typescript"
  | json => "json"
  | yaml => "yaml"
  | unknown => "unknown"

def ofName? (s : String) : Option Language := all.find? (·.name = s)

/-- The name in descriptions of values. -/
def title : Language → String
  | python => "Python"
  | javaScript => "JavaScript"
  | typeScript => "TypeScript"
  | json => "Json"
  | yaml => "Yaml"
  | unknown => "Unknown"

/-- Whether texts of the language declare functions and classes. -/
def hasDeclarations : Language → Bool
  | python | javaScript | typeScript => true
  | _ => false

/-- The extensions of each language, in lower case. -/
def extensions : Language → List String
  | python => ["py", "pyw", "pyi"]
  | javaScript => ["js", "jsx", "mjs", "cjs"]
  | typeScript => ["ts", "tsx", "mts", "cts"]
  | json => ["json"]
  | yaml => ["yml", "yaml"]
  | unknown => []

/-- The language of an extension; case does not matter. -/
def ofExtension (ext : String) : Language :=
  (all.find? (·.extensions.contains ext.toLower)).getD unknown

/-- The language that the extension of a path tells. -/
def ofPath (p : Path) : Language := (p.extension?.map ofExtension).getD unknown

end Language
end SymbolIndex
