import SymbolIndex.Analyzer.Basic
import SymbolIndex.FileSystem.Fault
import SymbolIndex.Path.Basic

/-!
# Errors of the index

Why a file has no analysis, a configuration is refused, or a directory is not watched.
-/
namespace SymbolIndex

inductive IndexError
  | notFound (path : Path)
  | unreadable (path : Path) (cause : IoFault)
  | readTimeout (path : Path) (milliseconds : Nat)
  /-- The file has more bytes than are read. -/
  | tooLarge (path : Path) (size limit : Nat)
  | fingerprintMismatch (path : Path)
  | watchDegraded (path : Path) (reason : String)
  | analyzer (cause : AnalyzerError)
  | invalidConfig (reason : String)
  | io (cause : IoFault)
  | other (text : String)
  deriving DecidableEq, Repr, Inhabited

namespace IndexError

def message : IndexError → String
  | notFound p => s!"File not found: {p.text}"
  | unreadable p cause => s!"Cannot read {p.text}: {cause.text}"
  | readTimeout p ms => s!"Timed out after {ms}ms reading {p.text}"
  | tooLarge p size limit => s!"{p.text} is {size} bytes, above the {limit} byte parse ceiling"
  | fingerprintMismatch p =>
    s!"Fingerprint mismatch for {p.text}: result was computed from other content"
  | watchDegraded p reason => s!"Stopped watching {p.text}: {reason}"
  | analyzer cause => s!"Syntax error: {cause.message}"
  | invalidConfig reason => s!"Invalid configuration: {reason}"
  | io cause => s!"IO error: {cause.text}"
  | other text => text

/-- The kind of an error in reports. -/
def kind : IndexError → String
  | notFound _ => "not_found"
  | unreadable _ _ => "unreadable"
  | readTimeout _ _ => "read_timeout"
  | tooLarge _ _ _ => "too_large"
  | fingerprintMismatch _ => "fingerprint_mismatch"
  | watchDegraded _ _ => "watch_degraded"
  | analyzer _ => "syntax"
  | invalidConfig _ => "invalid_config"
  | io _ | other _ => "internal"

/-- Whether the file itself is missing or cannot be read. -/
def isFileAccess : IndexError → Bool
  | notFound _ | unreadable _ _ | readTimeout _ _ | tooLarge _ _ _ => true
  | _ => false

/-- The error of a read that fails. -/
def ofRead (p : Path) (cause : IoFault) : IndexError :=
  if cause = .notFound then notFound p else unreadable p cause

end IndexError
end SymbolIndex
