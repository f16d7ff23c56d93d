/-!
# Nearest floats

The bits of the float of 64 bits that is nearest to a decimal, and of the floats that are not finite.
-/
namespace SymbolIndex.Decimal

def infinityBits : UInt64 := 0x7FF0000000000000
def nanBits : UInt64 := 0x7FF8000000000000
def signBit : UInt64 := 0x8000000000000000

def isFiniteBits (bits : UInt64) : Bool := bits &&& infinityBits != infinityBits

/-- The bits of a float that is `m * 10 ^ e` as near as can be. -/
def nearestBits (m : Nat) (e : Int) : UInt64 :=
  let digits := (Nat.toDigits 10 m).length
  if m = 0 || e + digits < -400 then 0
  else if e + digits > 400 then infinityBits
  else
    (if e < 0 then Float.ofScientific m true e.natAbs else Float.ofScientific m false e.natAbs).toBits

end SymbolIndex.Decimal
