import SymbolIndex.Language.Basic
import SymbolIndex.Symbols.Basic
import SymbolIndex.Syntax.Problem

/-!
# Extractions

What was found in one text: its symbols and the places that could not be made sense of.
-/
namespace SymbolIndex

/-- The symbols and errors of one text. -/
structure Extraction where
  language : Language
  symbols : List Symbol
  errors : List ParseError
  deriving DecidableEq, Repr, Inhabited

namespace Extraction

/-- Nothing was found. -/
def empty (language : Language) : Extraction := ⟨language, [], []⟩

end Extraction
end SymbolIndex
