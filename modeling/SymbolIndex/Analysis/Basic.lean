import SymbolIndex.Extraction
import SymbolIndex.Fingerprint

/-!
# Analyses

The analysis of one file with one content, and its summary, in which the symbols are sorted by kind and
name the symbols they are declared in.
-/
namespace SymbolIndex

/-- Whether there was an analyzer for a file. -/
inductive AnalysisStatus
  | parsed
  | unsupported
  deriving DecidableEq, Repr, Inhabited

namespace AnalysisStatus

def name : AnalysisStatus → String
  | parsed => "parsed"
  | unsupported => "unsupported"

end AnalysisStatus

/-- What is known of one file with one content. -/
structure Analysis where
  path : Path
  language : Language
  status : AnalysisStatus
  symbols : List Symbol
  errors : List ParseError
  fingerprint : Fingerprint
  deriving DecidableEq, Repr, Inhabited

/-- A symbol in a summary. -/
structure SymbolEntry where
  name : String
  start : Position
  stop : Position
  /-- The name of the symbol it is declared in. -/
  parent : Option String
  deriving DecidableEq, Repr, Inhabited

/-- An analysis with its symbols sorted by kind. -/
structure Summary where
  path : Path
  language : Language
  status : AnalysisStatus
  /-- The digest of the content. -/
  digest : String
  functions : List SymbolEntry
  classes : List SymbolEntry
  imports : List SymbolEntry
  errors : List ParseError
  deriving DecidableEq, Repr, Inhabited

namespace Analysis

/-- The analysis of a file that an analyzer has parsed. -/
def parsed (path : Path) (fingerprint : Fingerprint) (e : Extraction) : Analysis :=
  ⟨path, e.language, .parsed, e.symbols, e.errors, fingerprint⟩

/-- The analysis of a file that no analyzer knows. -/
def unsupported (path : Path) (fingerprint : Fingerprint) : Analysis :=
  ⟨path, .unknown, .unsupported, [], [], fingerprint⟩

def isUnsupported (a : Analysis) : Bool := a.status = .unsupported

def ofKind (a : Analysis) (kind : SymbolKind) : List Symbol := a.symbols.filter (·.kind = kind)

/-- The symbol in which `s` is declared. -/
def parent? (a : Analysis) (s : Symbol) : Option Symbol := s.parentIn? a.symbols

/-- Bytes that an analysis, a symbol and an error are counted with besides their texts. -/
def baseSize : Nat := 112
def symbolSize : Nat := 80
def errorSize : Nat := 56

/-- The sizes of some parts together. -/
def total {α : Type} (size : α → Nat) (parts : List α) : Nat :=
  parts.foldr (fun part n => size part + n) 0

/-- The approximate number of bytes that an analysis takes. -/
def size (a : Analysis) : Nat :=
  baseSize + a.path.text.utf8ByteSize + a.fingerprint.sha256.utf8ByteSize +
    total (fun s => symbolSize + s.name.utf8ByteSize) a.symbols +
    total (fun e => errorSize + e.message.utf8ByteSize) a.errors

def entry (a : Analysis) (s : Symbol) : SymbolEntry :=
  ⟨s.name, s.start, s.stop, (a.parent? s).map (·.name)⟩

def summary (a : Analysis) : Summary where
  path := a.path
  language := a.language
  status := a.status
  digest := a.fingerprint.sha256
  functions := (a.ofKind .function).map a.entry
  classes := (a.ofKind .classType).map a.entry
  imports := (a.ofKind .moduleImport).map a.entry
  errors := a.errors

end Analysis
end SymbolIndex
