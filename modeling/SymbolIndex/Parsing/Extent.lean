/-!
# Extents

An `Extent` measures a stretch of text: its bytes, its line breaks, and the bytes after the last
line break. Extents are added end to start, so the position of a piece of text is the extent of
everything before it.
-/
namespace SymbolIndex

structure Extent where
  bytes : Nat
  rows : Nat
  column : Nat
  deriving DecidableEq, Repr, Inhabited

namespace Extent

def zero : Extent := ⟨0, 0, 0⟩

/-- The extent of one stretch followed by another. -/
def append (a b : Extent) : Extent :=
  ⟨a.bytes + b.bytes, a.rows + b.rows, if b.rows = 0 then a.column + b.column else b.column⟩

/-- The extent from position `b` to the later position `a`. -/
def since (a b : Extent) : Extent :=
  ⟨a.bytes - b.bytes, a.rows - b.rows, if a.rows > b.rows then a.column else a.column - b.column⟩

instance : Append Extent := ⟨append⟩

/-- The position after a character of `width` bytes at position `e`. -/
def step (e : Extent) (newline : Bool) (width : Nat) : Extent :=
  if newline then ⟨e.bytes + width, e.rows + 1, 0⟩ else ⟨e.bytes + width, e.rows, e.column + width⟩

end Extent
end SymbolIndex
