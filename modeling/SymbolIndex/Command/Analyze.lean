import SymbolIndex.Command.Failure
import SymbolIndex.Command.Log
import SymbolIndex.Config.Load
import SymbolIndex.Index.Analyze
import SymbolIndex.Json.Text

/-!
# The command that analyses files

It writes a report with one entry for each path, and fails if no path could be analysed.
-/
namespace SymbolIndex.Command

/-- The configuration in a file, or the standard one if no file is named. -/
def loadConfig (fs : FileSystem) : Option Path → Except Failure Config
  | none => .ok .standard
  | some p =>
    (Config.load fs p).mapError (Failure.ofError s!"Failed to load config {p.text}")

/-- An empty index for all known languages. -/
def openIndex (config : Config) : Except Failure Index :=
  (Index.new config .builtins).mapError (Failure.ofError "Failed to initialise analysis service")

/-- The text of an entry of a report. -/
def entryText (pretty : Bool) (r : ReportEntry) : String :=
  if pretty then r.toJson.pretty else r.toJson.compact

/-- The lines of a report. -/
def reportLines (pretty : Bool) (report : List ReportEntry) : List String :=
  report.flatMap fun r => Text.lines (entryText pretty r)

/-- Why a report counts as a failure, if it does. -/
def reportFailure? (report : List ReportEntry) : Option Failure :=
  if report.all (!·.isOk) then some ⟨s!"All {report.length} paths failed to analyze", []⟩ else none

/-- What a command comes to: its exit code, the lines that it writes, those that tell its failure, and
its log. -/
structure Outcome where
  code : Nat
  output : List String
  complaints : List String
  log : List LogLine
  deriving DecidableEq, Repr, Inhabited

namespace Outcome

/-- A command that writes some lines and does not fail. -/
def ofOutput (output : List String) : Outcome := ⟨0, output, [], []⟩

/-- A command that writes some lines and does not fail unless for a reason. -/
def ofFailure? (output : List String) (log : List LogLine) : Option Failure → Outcome
  | none => ⟨0, output, [], log⟩
  | some f => ⟨1, output, f.lines, log⟩

end Outcome

/-- What is logged about the entries of a report: why paths could not be analysed. -/
def reportLog (report : List ReportEntry) : List LogLine :=
  report.filterMap fun r =>
    match r.outcome with
    | .ok _ => none
    | .error e => some ⟨.debug, s!"{r.path.text}: {e.message}"⟩

/-- Analyses files. -/
def analyze (fs : FileSystem) (v : Verbosity) (a : AnalyzeArguments) : Outcome :=
  let index := do openIndex (← loadConfig fs a.config)
  match index with
  | .error f => .ofFailure? [] [] (some f)
  | .ok x =>
    let (x, report) := x.analyzeMany fs a.paths
    .ofFailure? (reportLines a.pretty report)
      (v.select (reportLog report ++ [⟨.debug, x.statsText⟩])) (reportFailure? report)

/-- What is written when the version is asked for. -/
def versionLine : String := "context-analyze 0.1.1"

/-- What is written when help is asked for. -/
def helpLines : List String := [
  "Symbol extraction and change-aware caching for Python, JavaScript, TypeScript, JSON and YAML",
  "",
  "Usage: context-analyze [OPTIONS] <COMMAND>",
  "",
  "Commands:",
  "  analyze  Analyze files and print one JSON object per path",
  "  watch    Warm the index for a tree and log index events until Ctrl-C",
  "  help     Print this message or the help of the given subcommand(s)",
  "",
  "Options:",
  "  -v, --verbose  Enable verbose logging",
  "      --quiet    Only log warnings and errors",
  "  -h, --help     Print help",
  "  -V, --version  Print version"]

/-- What is complained about arguments that do not fit. -/
def misuse : Outcome := ⟨2, [], ["error: the arguments do not fit; see --help"], []⟩

end SymbolIndex.Command
