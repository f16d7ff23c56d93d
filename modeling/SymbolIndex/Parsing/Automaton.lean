import SymbolIndex.Grammar.Basic
import SymbolIndex.Parsing.Cursor

/-!
# Running a token automaton

The automaton follows the text as far as it has moves; the last accepting state on the way decides
the token and its end.
-/
namespace SymbolIndex

namespace Cursor

/-- Runs `automaton` from a state; the symbol is the one accepted last. -/
def run (automaton : Array LexState) : Nat → Nat → Option SymbolId → Cursor → Option SymbolId × Cursor
  | 0, _, found, c => (found, c)
  | fuel + 1, state, found, c =>
    match automaton[state]? with
    | none => (found, c)
    | some s =>
      let (found, c) := match s.accept with
        | some symbol => (some symbol, c.markEnd)
        | none => (found, c)
      if c.atEnd then
        match s.atEnd with
        | some target => run automaton fuel target found c
        | none => (found, c)
      else
        match s.move? c.char with
        | some m => run automaton fuel m.target found (if m.skip then c.skip else c.advance)
        | none => (found, c)

/-- The token that the automaton reads from here. -/
def token (automaton : Array LexState) (state : Nat) (c : Cursor) : Option SymbolId × Cursor :=
  run automaton c.fuel state none c

end Cursor
end SymbolIndex
