import SymbolIndex.Syntax.Position

/-!
# Symbols

What a source text declares: functions, classes and imports, each with its span and with the symbol
it is declared in.
-/
namespace SymbolIndex

inductive SymbolKind
  /-- A function, a method, or a callable bound to a name. -/
  | function
  | classType
  /-- An import, named after the module. -/
  | moduleImport
  deriving DecidableEq, Repr, Inhabited

namespace SymbolKind

def all : List SymbolKind := [.function, .classType, .moduleImport]

def text : SymbolKind → String
  | .function => "function"
  | .classType => "class"
  | .moduleImport => "import"

end SymbolKind

/-- A declaration; `parent` is the place of the enclosing one in the list the symbol is in. -/
structure Symbol where
  kind : SymbolKind
  name : String
  start : Position
  stop : Position
  parent : Option Nat
  deriving DecidableEq, Repr, Inhabited

namespace Symbol

/-- Whether the symbol's span touches a line. -/
def containsLine (s : Symbol) (line : Nat) : Bool :=
  s.start.line ≤ line && line ≤ s.stop.line

/-- The symbol that `s` is declared in. -/
def parentIn? (symbols : List Symbol) (s : Symbol) : Option Symbol :=
  s.parent.bind (symbols[·]?)

end Symbol
end SymbolIndex
