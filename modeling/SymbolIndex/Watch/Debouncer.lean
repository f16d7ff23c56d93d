import SymbolIndex.Path.Basic

/-!
# Waiting for paths to be quiet

A changed path is held back until it has been quiet for some time. A path that changes again while it
is held back waits anew.
-/
namespace SymbolIndex

/-- Paths that wait, with the times at which their waits end. -/
structure Debouncer where
  window : Nat
  deadlines : List (Path × Nat)
  deriving DecidableEq, Repr, Inhabited

namespace Debouncer

def new (window : Nat) : Debouncer := ⟨window, []⟩

/-- Whether a path waits. -/
def isPending (d : Debouncer) (p : Path) : Bool := d.deadlines.any (·.1.Same p)

/-- Lets a path wait from now on, and tells whether it did so before. -/
def record (d : Debouncer) (p : Path) (now : Nat) : Debouncer × Bool :=
  let deadline := now + d.window
  if d.isPending p then
    ({ d with deadlines := d.deadlines.map fun e =>
        if e.1.Same p then (e.1, deadline) else e }, true)
  else ({ d with deadlines := d.deadlines ++ [(p, deadline)] }, false)

/-- When the first wait ends. -/
def nextDeadline? (d : Debouncer) : Option Nat := (d.deadlines.map (·.2)).min?

/-- Lets the paths go whose waits are over. -/
def takeDue (d : Debouncer) (now : Nat) : Debouncer × List Path :=
  let (due, rest) := d.deadlines.partition (·.2 ≤ now)
  ({ d with deadlines := rest }, Path.sorted (due.map (·.1)))

/-- Lets all paths go. -/
def drain (d : Debouncer) : Debouncer × List Path :=
  ({ d with deadlines := [] }, Path.sorted (d.deadlines.map (·.1)))

def pending (d : Debouncer) : Nat := d.deadlines.length

end Debouncer
end SymbolIndex
