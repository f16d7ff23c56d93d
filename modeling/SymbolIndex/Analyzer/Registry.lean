import SymbolIndex.Analyzer.Builtin

/-!
# Registries

A registry says which analyzer is in charge of a language. A language has at most one, and the unknown
language none.
-/
namespace SymbolIndex

/-- The analyzers in charge of languages. -/
structure Registry where
  analyzer? : Language → Option Analyzer

namespace Registry

def empty : Registry := ⟨fun _ => none⟩

/-- The analyzer in charge of a language. -/
def resolve? (r : Registry) (l : Language) : Option Analyzer :=
  if l = .unknown then none else r.analyzer? l

/-- Puts an analyzer in charge of a language. The result holds the one that was before. -/
def register (r : Registry) (l : Language) (a : Analyzer) : Registry × Option Analyzer :=
  if l = .unknown then (r, none)
  else (⟨fun m => if m = l then some a else r.analyzer? m⟩, r.resolve? l)

/-- The registry of the known languages among some. -/
def ofLanguages (ls : List Language) : Registry :=
  ⟨fun l => if ls.contains l then Analyzer.builtin? l else none⟩

/-- The registry of all known languages. -/
def builtins : Registry := ofLanguages Language.all

def supports (r : Registry) (l : Language) : Bool := (r.resolve? l).isSome

/-- The languages with an analyzer, in order. -/
def languages (r : Registry) : List Language := Language.all.filter r.supports

/-- The languages in a description. -/
def languagesText (r : Registry) : String :=
  "[" ++ ", ".intercalate (r.languages.map Language.title) ++ "]"

/-- A description of a registry. -/
def description (r : Registry) : String :=
  "GrammarRegistry \x7b languages: " ++ r.languagesText ++ " \x7d"

end Registry
end SymbolIndex
