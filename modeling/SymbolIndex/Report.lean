import SymbolIndex.Encoding.Analysis
import SymbolIndex.IndexError

/-!
# Reports

One entry of a report tells how the analysis of one path came out.
-/
namespace SymbolIndex

/-- How the analysis of a path came out. -/
structure ReportEntry where
  path : Path
  outcome : Except IndexError Analysis

namespace IndexError

/-- An error in a report. -/
def toJson (e : IndexError) : Json := .object [("kind", e.kind), ("message", e.message)]

end IndexError

namespace ReportEntry

def isOk (r : ReportEntry) : Bool :=
  match r.outcome with
  | .ok _ => true
  | .error _ => false

def toJson (r : ReportEntry) : Json :=
  let answer : String × Json := match r.outcome with
    | .ok a => ("result", a.summary.toJson)
    | .error e => ("error", e.toJson)
  .object [("path", r.path.toJson), ("ok", r.isOk), answer]

end ReportEntry
end SymbolIndex
