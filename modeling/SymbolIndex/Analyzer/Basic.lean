import SymbolIndex.Extraction
import SymbolIndex.Yaml.Document

/-!
# Analyzers

An analyzer knows one language: it parses texts, and collects the symbols of what it has parsed. A text
that is not well formed is parsed all the same, and its errors tell what is wrong with it; an analyzer
fails only if it can give no tree at all, or is shown a tree of another analyzer.
-/
namespace SymbolIndex

/-- Why an analyzer gives no answer. -/
inductive AnalyzerError
  | unsupportedLanguage (name : String)
  | unusableGrammar (reason : String)
  | parseAborted (language : String)
  | foreignTree (expected found : String)
  deriving DecidableEq, Repr, Inhabited

namespace AnalyzerError

def message : AnalyzerError → String
  | unsupportedLanguage name => s!"Unsupported language: {name}"
  | unusableGrammar reason => s!"Tree-sitter error: {reason}"
  | parseAborted language => s!"Parse aborted for {language}"
  | foreignTree expected found => s!"Tree mismatch: expected {expected} tree, got {found}"

end AnalyzerError

/-- What a text was parsed to. -/
inductive ParsedBody
  | tree (t : SyntaxTree)
  /-- The documents before the first that could not be read. -/
  | documents (values : List Yaml.Value)

/-- A text with what it was parsed to. -/
structure ParsedText where
  source : String
  language : Language
  body : ParsedBody
  errors : List ParseError

namespace ParsedText

/-- A parsed text with its errors brought into order. -/
def ofErrors (source : String) (language : Language) (body : ParsedBody)
    (errors : List ParseError) : ParsedText :=
  ⟨source, language, body, ParseError.sorted errors⟩

/-- A text parsed to a syntax tree. -/
def ofTree (source : String) (language : Language) (t : SyntaxTree) : ParsedText :=
  ofErrors source language (.tree t) (t.problems source)

/-- Whether nothing is wrong with a text. -/
def isClean (p : ParsedText) : Bool := p.errors.isEmpty

end ParsedText

/-- Parses the texts of one language and finds their symbols. -/
structure Analyzer where
  language : Language
  parse : String → Except AnalyzerError ParsedText
  symbols : ParsedText → Except AnalyzerError (List Symbol)

namespace Analyzer

/-- The symbols and errors of a text. -/
def analyze (a : Analyzer) (source : String) : Except AnalyzerError Extraction := do
  let parsed ← a.parse source
  return ⟨a.language, ← a.symbols parsed, parsed.errors⟩

end Analyzer
end SymbolIndex
