/-!
# Numbers packed into text

Large tables are kept as text: a sequence of natural numbers in base 32, least digit first, with 64
characters so that one of two ranges says whether more digits follow. Blanks and line ends between the
characters mean nothing.
-/
namespace SymbolIndex.Varint

/-- The value of a character of the packed alphabet; from 32 on, more digits follow. -/
def digit (b : UInt8) : Nat :=
  let n := b.toNat
  if 48 ≤ n ∧ n ≤ 57 then n - 48
  else if 65 ≤ n ∧ n ≤ 90 then n - 55
  else if 97 ≤ n ∧ n ≤ 122 then n - 61
  else if n = 46 then 62
  else 63

def readLoop (bytes : ByteArray) : Nat → Nat → Nat → Nat → Nat × Nat
  | 0, pos, _, acc => (acc, pos)
  | fuel + 1, pos, scale, acc =>
    if pos < bytes.size then
      let d := digit (bytes.get! pos)
      if d < 32 then (acc + d * scale, pos + 1)
      else readLoop bytes fuel (pos + 1) (scale * 32) (acc + (d - 32) * scale)
    else (acc, pos)

/-- The number at a place, and the place after it. -/
def read (bytes : ByteArray) (pos : Nat) : Nat × Nat := readLoop bytes 8 pos 1 0

def readAllLoop (bytes : ByteArray) : Nat → Nat → Array Nat → Array Nat
  | 0, _, acc => acc
  | fuel + 1, pos, acc =>
    if pos < bytes.size then
      let (n, next) := read bytes pos
      readAllLoop bytes fuel next (acc.push n)
    else acc

/-- The characters of a packed text. -/
def bytesOf (s : String) : ByteArray :=
  s.toUTF8.foldl (fun acc b => if b ≤ 32 then acc else acc.push b) .empty

/-- All numbers of a text. -/
def readAll (s : String) : Array Nat :=
  let bytes := bytesOf s
  readAllLoop bytes bytes.size 0 #[]

end SymbolIndex.Varint
