/-!
# Positions

A place in a text as it is reported: the line from 1, and the bytes before it on that line.
-/
namespace SymbolIndex

/-- A place in a text: `line` counts from 1, `column` is a byte offset in the line. -/
structure Position where
  line : Nat
  column : Nat
  deriving DecidableEq, Repr, Inhabited

namespace Position

/-- Places are ordered by line, then by column. -/
protected def le (a b : Position) : Bool :=
  a.line < b.line || (a.line == b.line && a.column ≤ b.column)

instance : LE Position := ⟨fun a b => Position.le a b = true⟩

instance (a b : Position) : Decidable (a ≤ b) := inferInstanceAs (Decidable (_ = true))

end Position
end SymbolIndex
