import SymbolIndex.Analysis.Tally
import SymbolIndex.Index.Call
import SymbolIndex.Report
import SymbolIndex.Scan

/-!
# Analysing files

An index analyses a single file, or many at once. Of many, all are looked up in the store before any is
analysed.
-/
namespace SymbolIndex

namespace Index

/-- The answers of the calls for some files, in order. -/
def answersFor (x : Index) (fs : FileSystem) (paths : List Path) : Index × List Answer :=
  let n := paths.length
  let schedule := Session.inTurn n CallStage.lookUpSteps ++ Session.inTurn n CallStage.remainingSteps
  let s := (Session.start x paths).run fs schedule
  (s.index, s.answers)

/-- The analysis of a file. -/
def analyze (x : Index) (fs : FileSystem) (p : Path) : Index × Answer :=
  let (x, answers) := x.answersFor fs [p]
  (x, answers.headD (.error (.other "the analysis did not finish")))

/-- How the analyses of some files come out, in order. -/
def analyzeMany (x : Index) (fs : FileSystem) (paths : List Path) : Index × List ReportEntry :=
  let (x, answers) := x.answersFor fs paths
  (x, paths.zipWith ReportEntry.mk answers)

/-- The error of a file in a tally. -/
def tallyError (p : Path) (e : IndexError) : String := s!"{p.text}: {e.message}"

/-- Counts how the analysis of a file came out. -/
def count (t : Tally) (r : ReportEntry) : Tally :=
  match r.outcome with
  | .ok a =>
    if a.isUnsupported then t.addUnsupported
    else t.addFile a.language.name a.symbols.length a.errors.length
  | .error e => t.addError (tallyError r.path e)

/-- Analyses the files below some roots. -/
def warm (x : Index) (fs : FileSystem) (roots : List Path) : Index × Tally :=
  let (x, report) := x.analyzeMany fs (roots.flatMap (fs.sourcesBelow x.config.maxSourceBytes))
  (x, report.foldl count .zero)

end Index
end SymbolIndex
