import SymbolIndex.Decimal.Nearest

/-!
# Numbers in YAML texts

What a plain scalar means as a number. Digits after a leading zero are a text, and so is what has two
signs. Numbers in base 16, 8 and 2 have a mark in front.
-/
namespace SymbolIndex.Yaml

/-- The value of a digit in a base up to 16. -/
def digitIn? (base : Nat) (c : Char) : Option Nat :=
  let n := c.toNat
  let d := if c.isDigit then n - 48 else if 'a' ≤ c ∧ c ≤ 'f' then n - 87
    else if 'A' ≤ c ∧ c ≤ 'F' then n - 55 else base
  if d < base then some d else none

/-- A natural number in a base, with at least one digit. -/
def naturalIn? (base : Nat) (cs : List Char) : Option Nat :=
  if cs.isEmpty then none
  else cs.foldlM (fun n c => (digitIn? base c).map (n * base + ·)) 0

/-- A number in a base with an optional sign. -/
def integerIn? (base : Nat) : List Char → Option Int
  | '-' :: cs => (naturalIn? base cs).map fun n => -(n : Int)
  | '+' :: cs => (naturalIn? base cs).map (↑·)
  | cs => (naturalIn? base cs).map (↑·)

def isSign (c : Char) : Bool := c == '+' || c == '-'

def startsWithSign (cs : List Char) : Bool := cs.head?.any isSign

def dropPlus : List Char → List Char
  | '+' :: cs => cs
  | cs => cs

/-- Whether a scalar has only digits and a leading zero, which makes it a text. -/
def isPaddedDigits (cs : List Char) : Bool :=
  let cs := if startsWithSign cs then cs.tail else cs
  cs.length > 1 && cs.head? == some '0' && cs.all Char.isDigit

/-- The bases that have a mark. -/
def markedBases : List (Char × Nat) := [('x', 16), ('o', 8), ('b', 2)]

/-- The digits after a zero and the mark of a base. -/
def marked? : List Char → Option (Nat × List Char)
  | '0' :: m :: cs => (markedBases.lookup m).map (·, cs)
  | _ => none

/-- A number that may only have a plus sign, below a bound. -/
def unsigned? (bound : Nat) (cs : List Char) : Option Nat :=
  let fits (n : Option Nat) : Option Nat := n.filter (· < bound)
  let digits := dropPlus cs
  let inMarkedBase := (marked? digits).map fun (base, rest) =>
    if startsWithSign rest then none else some (fits (naturalIn? base rest))
  match inMarkedBase with
  | some none => none
  | some (some (some n)) => some n
  | _ => if startsWithSign digits || isPaddedDigits cs then none else fits (naturalIn? 10 digits)

/-- A number with a minus sign, not below `-bound`. A plus sign in its place is as good. -/
def negative? (bound : Nat) (cs : List Char) : Option Int :=
  let fits (n : Option Int) : Option Int := n.filter fun n => -(bound : Int) ≤ n && n < bound
  let inMarkedBase := match cs with
    | '-' :: rest => (marked? rest).bind fun (base, rest) => fits (integerIn? base ('-' :: rest))
    | _ => none
  match inMarkedBase with
  | some n => some n
  | none => if isPaddedDigits cs then none else fits (integerIn? 10 cs)

/-- A number with an optional sign, point and exponent, and at least one digit before the exponent. -/
def decimalBits? (cs : List Char) : Option UInt64 :=
  let (negative, cs) := match cs with
    | '-' :: cs => (true, cs)
    | '+' :: cs => (false, cs)
    | cs => (false, cs)
  let whole := cs.takeWhile Char.isDigit
  let cs := cs.dropWhile Char.isDigit
  let (fraction, cs) := match cs with
    | '.' :: cs => (cs.takeWhile Char.isDigit, cs.dropWhile Char.isDigit)
    | cs => ([], cs)
  let exponent : Option Int := match cs with
    | [] => some 0
    | e :: cs => if e == 'e' || e == 'E' then integerIn? 10 cs else none
  match naturalIn? 10 (whole ++ fraction), exponent with
  | some m, some e =>
    let bits := Decimal.nearestBits m (e - fraction.length)
    some (if negative then bits ||| Decimal.signBit else bits)
  | _, _ => none

/-- The bits of a scalar that is a float. -/
def float? (s : String) : Option UInt64 :=
  let cs := s.toList
  let plain := dropPlus cs
  if startsWithSign plain && plain.length < cs.length then none
  else
    let text := String.ofList plain
    if [".inf", ".Inf", ".INF"].contains text then some Decimal.infinityBits
    else if ["-.inf", "-.Inf", "-.INF"].contains s then some (Decimal.infinityBits ||| Decimal.signBit)
    else if [".nan", ".NaN", ".NAN"].contains s then some Decimal.nanBits
    else (decimalBits? plain).filter Decimal.isFiniteBits

/-- What a scalar means as an integer. -/
inductive IntegerReading
  | natural (n : Nat)
  | integer (n : Int)
  /-- A number that takes more than 64 bits, and no more than 128. -/
  | wide (n : Int)
  deriving DecidableEq, Repr

def integer? (s : String) : Option IntegerReading :=
  let cs := s.toList
  match unsigned? (Nat.pow 2 64) cs with
  | some n => some (.natural n)
  | none =>
    match negative? (Nat.pow 2 63) cs with
    | some n => some (.integer n)
    | none =>
      match unsigned? (Nat.pow 2 128) cs with
      | some n => some (.wide n)
      | none => (negative? (Nat.pow 2 127) cs).map .wide

def boolean? (s : String) : Option Bool :=
  if ["true", "True", "TRUE"].contains s then some true
  else if ["false", "False", "FALSE"].contains s then some false
  else none

def isNull (s : String) : Bool := ["null", "Null", "NULL", "~"].contains s

end SymbolIndex.Yaml
