import SymbolIndex.Parsing.Scanner.Blocks
import SymbolIndex.Parsing.Scanner.Semicolons

/-!
# Scanners

A grammar leaves the tokens that no finite automaton can find to a scanner. What a scanner has to
remember between tokens is a value, so that several readings of one text can be followed at once.
-/
namespace SymbolIndex

/-- The scanner of a grammar. -/
inductive Scanner
  | none
  | blocks
  | semicolons (typed : Bool)
  deriving DecidableEq, Repr, Inhabited

/-- What a scanner remembers; nothing before its first token. -/
abbrev ScannerState := Option BlockState

namespace Scanner

/-- Looks for one of the `valid` tokens at the cursor: the token's number, the state after it, and
the cursor. -/
def scan (s : Scanner) (state : ScannerState) (valid : Array Bool) (c : Cursor) :
    Option (Nat × ScannerState) × Cursor :=
  match s with
  | .none => (Option.none, c)
  | .blocks =>
    let (found, c) := (state.getD .initial).scan (fun t => valid.getD t.index false) c
    (found.map fun (t, s) => (t.index, some s.saved), c)
  | .semicolons typed =>
    let (found, c) := SemicolonScanner.scan typed (fun t => valid.getD t.index false) c
    (found.map fun t => (t.index, Option.none), c)

end Scanner
end SymbolIndex
