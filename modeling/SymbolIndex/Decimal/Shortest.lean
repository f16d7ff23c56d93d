/-!
# Shortest decimals

The decimal with the fewest digits that reads back as a given float of 64 bits, and of those with as
few digits the nearest. A float is `m * 2 ^ q`; the numbers that round to it lie between the points
halfway to its neighbours, ends included if `m` is even.
-/
namespace SymbolIndex.Decimal

/-- A positive float as `m * 2 ^ q`, with whether the neighbour below is nearer than the one above. -/
structure Binary where
  m : Nat
  q : Int
  narrowBelow : Bool
  deriving DecidableEq, Repr

def Binary.ofBits (bits : UInt64) : Binary :=
  let exponent := ((bits >>> 52) &&& 0x7FF).toNat
  let fraction := (bits &&& 0xFFFFFFFFFFFFF).toNat
  if exponent = 0 then ⟨fraction, -1074, false⟩
  else ⟨0x10000000000000 + fraction, exponent - 1075, fraction == 0 && exponent > 1⟩

/-- A decimal `digits * 10 ^ exponent`. -/
structure Scientific where
  digits : Nat
  exponent : Int
  deriving DecidableEq, Repr

/-- `n * 2 ^ a * 10 ^ b` as a fraction. -/
def fraction (n : Nat) (a b : Int) : Nat × Nat :=
  let num := n * Nat.pow 2 a.toNat * Nat.pow 10 b.toNat
  let den := Nat.pow 2 (-a).toNat * Nat.pow 10 (-b).toNat
  (num, den)

/-- The point of the grid of step `10 ^ e` that reads back as `x`, the nearer one of two. -/
def onGrid? (x : Binary) (e : Int) : Option Nat :=
  -- in units of a quarter of the last binary place, scaled to the grid
  let (num, den) := fraction (4 * x.m) (x.q - 2) (-e)
  let (unit, _) := fraction 1 (x.q - 2) (-e)
  let below := num - (if x.narrowBelow then unit else 2 * unit)
  let above := num + 2 * unit
  let inside (p : Nat) : Bool :=
    let v := p * den
    if x.m % 2 = 0 then below ≤ v && v ≤ above else below < v && v < above
  let lo := num / den
  let hi := lo + 1
  match inside lo && lo > 0, inside hi with
  | true, true => some (if num - lo * den ≤ hi * den - num then lo else hi)
  | true, false => some lo
  | false, true => some hi
  | false, false => none

/-- The exponent of the leading decimal digit of a positive float. -/
def leading (x : Binary) : Int :=
  let (num, den) := fraction x.m x.q 0
  if den ≤ num then ((Nat.toDigits 10 (num / den)).length : Int) - 1
  else
    let zeros := (Nat.toDigits 10 (den / num)).length
    -- `num / den` is between `10 ^ -zeros` and `10 ^ (1 - zeros)`
    if den ≤ num * Nat.pow 10 (zeros - 1) then 1 - (zeros : Int) else -(zeros : Int)

def shortestFrom (x : Binary) (top : Int) : Nat → Nat → Scientific
  | 0, _ => ⟨0, 0⟩
  | fuel + 1, n =>
    let e := top - n
    match onGrid? x e with
    | some d => ⟨d, e⟩
    | none => shortestFrom x top fuel (n + 1)

/-- The shortest decimal of a positive finite float. -/
def shortest (bits : UInt64) : Scientific :=
  let x := Binary.ofBits bits
  shortestFrom x (leading x) 18 0

/-- A decimal without zeros at its end. -/
def Scientific.stripped (s : Scientific) : Scientific :=
  go 20 s
where
  go : Nat → Scientific → Scientific
    | 0, s => s
    | fuel + 1, s =>
      if s.digits ≠ 0 ∧ s.digits % 10 = 0 then go fuel ⟨s.digits / 10, s.exponent + 1⟩ else s

def digitText (n : Nat) : String := String.ofList (Nat.toDigits 10 n)

def zeros (n : Nat) : String := String.ofList (List.replicate n '0')

/-- A decimal in positional notation; `point` asks for a fraction even of a whole number. -/
def Scientific.positional (s : Scientific) (point : Bool) : String :=
  let s := s.stripped
  let d := digitText s.digits
  if 0 ≤ s.exponent then d ++ zeros s.exponent.toNat ++ (if point then ".0" else "")
  else
    let places := (-s.exponent).toNat
    if places < d.length then
      (d.take (d.length - places)).toString ++ "." ++ (d.drop (d.length - places)).toString
    else "0." ++ zeros (places - d.length) ++ d

/-- A decimal with one digit in front of the point and an exponent. -/
def Scientific.withExponent (s : Scientific) : String :=
  let s := s.stripped
  let d := digitText s.digits
  let e := s.exponent + d.length - 1
  (d.take 1).toString ++ (if d.length > 1 then "." ++ (d.drop 1).toString else "") ++ s!"e{e}"

/-- Where positional notation gives way to an exponent: digits `d` with `d * 10 ^ -5 ≤ x < 10 ^ 16`. -/
def Scientific.compact (s : Scientific) : String :=
  let t := s.stripped
  let lead := t.exponent + (digitText t.digits).length
  if -5 < lead && lead ≤ 16 then t.positional true else t.withExponent

/-- The sign of a float, and its text otherwise; `finite` writes a positive finite one. -/
def render (nan infinity zero : String) (finite : Scientific → String) (bits : UInt64) : String :=
  let magnitude := bits &&& 0x7FFFFFFFFFFFFFFF
  let sign := if bits = magnitude then "" else "-"
  if magnitude > 0x7FF0000000000000 then nan
  else if magnitude = 0x7FF0000000000000 then sign ++ infinity
  else if magnitude = 0 then sign ++ zero
  else sign ++ finite (shortest magnitude)

end SymbolIndex.Decimal
