import SymbolIndex.Command.Arguments

/-!
# The log of a command

What a command tells about its work besides its output. Each line matters to some degree, and how much
is logged is asked for on the command line; asking for little goes before asking for much.
-/
namespace SymbolIndex.Command

/-- How much a line of the log matters. -/
inductive LogLevel
  | debug
  | info
  | warn
  deriving DecidableEq, Repr, Inhabited

namespace LogLevel

def name : LogLevel → String
  | debug => "DEBUG"
  | info => "INFO"
  | warn => "WARN"

end LogLevel

/-- A line of the log. -/
structure LogLine where
  level : LogLevel
  text : String
  deriving DecidableEq, Repr, Inhabited

namespace LogLine

/-- A line with its level before it. -/
def render (l : LogLine) : String := s!"[{l.level.name}] {l.text}"

end LogLine

namespace Verbosity

/-- Whether lines of a level are logged. -/
def logs (v : Verbosity) : LogLevel → Bool
  | .debug => v.verbose && !v.quiet
  | .info => !v.quiet
  | .warn => true

/-- The lines that are logged. -/
def select (v : Verbosity) (lines : List LogLine) : List LogLine := lines.filter (v.logs ·.level)

end Verbosity
end SymbolIndex.Command
