import SymbolIndex.Text.Varint

/-!
# Sets of characters

A set of characters as ranges in order, packed into text: for each range, how many characters lie
between the range before and it, and how many it has besides its first.
-/
namespace SymbolIndex

/-- A set of characters by the first and the last characters of its ranges, in turn. -/
structure CharSet where
  bounds : Array Nat

namespace CharSet

/-- Reads a packed set. -/
def ofPacked (packed : String) : CharSet :=
  let step (acc : Array Nat × Nat) (i : Nat) : Array Nat × Nat :=
    let lo := acc.2 + acc.1.getD (2 * i) 0
    let hi := lo + acc.1.getD (2 * i + 1) 0
    ((acc.1.setIfInBounds (2 * i) lo).setIfInBounds (2 * i + 1) hi, hi + 1)
  let numbers := Varint.readAll packed
  ⟨((List.range (numbers.size / 2)).foldl step (numbers, 0)).1⟩

/-- Whether `n` is in one of the ranges number `lo` to `hi - 1`. -/
def within (s : CharSet) (n : Nat) : Nat → Nat → Nat → Bool
  | 0, _, _ => false
  | fuel + 1, lo, hi =>
    if lo < hi then
      let mid := (lo + hi) / 2
      if n < s.bounds.getD (2 * mid) 0 then s.within n fuel lo mid
      else if s.bounds.getD (2 * mid + 1) 0 < n then s.within n fuel (mid + 1) hi
      else true
    else false

def contains (s : CharSet) (c : Char) : Bool := s.within c.toNat 32 0 (s.bounds.size / 2)

end CharSet
end SymbolIndex
