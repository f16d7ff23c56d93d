import SymbolIndex.Toml.Value

/-!
# Numbers, dates and times in TOML

Digits may have underscores between them. Integers must fit in 64 bits with a sign; a float that is too
large for any finite one is refused, and so is a part of a date or time out of its range.
-/
namespace SymbolIndex.Toml

open Reader

def isDigit (c : Char) : Bool := c.isDigit
def isOctal (c : Char) : Bool := '0' ≤ c && c ≤ '7'
def isBinary (c : Char) : Bool := c == '0' || c == '1'
def isHex (c : Char) : Bool := c.isDigit || ('a' ≤ c && c ≤ 'f') || ('A' ≤ c && c ≤ 'F')
def isSign (c : Char) : Bool := c == '+' || c == '-'

/-- A digit that must follow an underscore. -/
def digitAfterUnderscore (p : Char → Bool) : Reader Unit := do
  let _ ← one (· == '_')
  let _ ← ((one p).committed).orExpected ["digit"]

/-- More digits, each perhaps after an underscore. -/
def moreDigits (p : Char → Bool) : Reader Unit := do
  let _ ← many (orElse (do let _ ← one p) (digitAfterUnderscore p))

/-- Digits of which the first may be zero. -/
def digits (p : Char → Bool) : Reader Unit := do
  let _ ← one p
  moreDigits p

/-- The shape of an integer in base ten. -/
def decimalShape : Reader Unit :=
  reading "integer" do
    let _ ← optional (one isSign)
    orElse (do let _ ← one (fun c => '1' ≤ c && c ≤ '9'); moreDigits isDigit)
      (do let _ ← one isDigit)

def digitValue (c : Char) : Nat :=
  if c.isDigit then c.toNat - 48
  else if 'a' ≤ c && c ≤ 'f' then c.toNat - 87
  else c.toNat - 55

/-- The number that some digits stand for; other characters do not matter. -/
def numberIn (base : Nat) (cs : List Char) : Nat :=
  (cs.filter isHex).foldl (fun n c => n * base + digitValue c) 0

/-- A number that must fit in 64 bits with a sign. -/
def fitted (n : Int) : Except Fault Int :=
  if n > Int64.maxValue.toInt then .error (.because "number too large to fit in target type")
  else if n < Int64.minValue.toInt then .error (.because "number too small to fit in target type")
  else .ok n

/-- The number that a text of a decimal integer stands for. -/
def decimalValue (cs : List Char) : Int :=
  let n : Int := numberIn 10 cs
  if cs.head? = some '-' then -n else n

/-- An integer in a base with a mark. -/
def markedInteger (mark what : String) (base : Nat) (p : Char → Bool) : Reader Int :=
  committed (check (withText (reading what (do text mark; committed (digits p))))
    fun (_, cs) => fitted (numberIn base (cs.drop 2)))

def decimalInteger : Reader Int := fun i =>
  match withText decimalShape i with
  | .ok (_, cs) left =>
    match fitted (decimalValue cs) with
    | .ok n => .ok n left
    | .error e => .fail e i
  | .miss e left => .miss e left
  | .fail e left => .fail e left

def integer : Reader Int := do
  if ← looksLike "0x" then markedInteger "0x" "hexadecimal integer" 16 isHex
  else if ← looksLike "0o" then markedInteger "0o" "octal integer" 8 isOctal
  else if ← looksLike "0b" then markedInteger "0b" "binary integer" 2 isBinary
  else decimalInteger

/-- The exponent of a float. -/
def exponentShape : Reader Unit := do
  let _ ← one fun c => c == 'e' || c == 'E'
  let _ ← optional (one isSign)
  committed (digits isDigit)

/-- The fraction of a float. -/
def fractionShape : Reader Unit := do
  char '.'
  orExpected ["digit"] (committed (digits isDigit))

def floatShape : Reader Unit := do
  decimalShape
  orElse exponentShape (do fractionShape; let _ ← optional exponentShape)

/-- The bits of the float that a text stands for. -/
def floatValue (cs : List Char) : UInt64 :=
  let cs := cs.filter (· ≠ '_')
  let negative := cs.head? = some '-'
  let cs := if cs.head?.any isSign then cs.tail else cs
  let isExponentMark (c : Char) : Bool := c == 'e' || c == 'E'
  let mantissa := cs.takeWhile (!isExponentMark ·)
  let exponent := (cs.dropWhile (!isExponentMark ·)).tail
  let fraction := (mantissa.dropWhile (· ≠ '.')).tail
  let bits := Decimal.nearestBits (numberIn 10 mantissa) (decimalValue exponent - fraction.length)
  if negative then bits ||| Decimal.signBit else bits

def finiteFloat : Reader UInt64 := fun i =>
  match withText floatShape i with
  | .ok (_, cs) left =>
    let bits := floatValue cs
    if bits = Decimal.infinityBits then .fail .plain i else .ok bits left
  | .miss e left => .miss e left
  | .fail e left => .fail e left

/-- A float that is not finite. -/
def specialFloat : Reader UInt64 := do
  let sign ← optional (one isSign)
  let bits ← orElse (do text "inf"; pure Decimal.infinityBits) (do text "nan"; pure Decimal.nanBits)
  return if sign = some '-' then bits ||| Decimal.signBit else bits

def float : Reader UInt64 := reading "floating-point number" (orElse finiteFloat specialFloat)

/-- A number of `width` digits from `least` to `most`. -/
def field (width least most : Nat) : Reader Nat :=
  check (between width width isDigit) fun cs =>
    let n := numberIn 10 cs
    if least ≤ n && n ≤ most then .ok n else .error (.because "value is out of range")

def isLeapYear (year : Nat) : Bool := year % 4 == 0 && (year % 100 != 0 || year % 400 == 0)

def daysIn (year month : Nat) : Nat :=
  if month == 2 then (if isLeapYear year then 29 else 28)
  else if [4, 6, 9, 11].contains month then 30
  else 31

def date : Reader Unit := do
  let year ← field 4 0 9999
  char '-'
  let month ← committed (field 2 1 12)
  committed (char '-')
  committed do
    let _ ← check (field 2 1 31) fun day =>
      if day ≤ daysIn year month then .ok day else .error (.because "value is out of range")

def time : Reader Unit := do
  let _ ← field 2 0 23
  char ':'
  committed do
    let _ ← field 2 0 59
    char ':'
    let _ ← field 2 0 60
    let _ ← optional (do char '.'; some_ isDigit)

def timeOffset : Reader Unit :=
  reading "time offset" <| orElse (do let _ ← one fun c => c == 'Z' || c == 'z') do
    let _ ← one isSign
    committed do
      let _ ← field 2 0 23
      char ':'
      let _ ← field 2 0 59

def dateTime : Reader Unit :=
  orElse
    (reading "date-time" do
      date
      let _ ← optional do
        let _ ← one fun c => c == 'T' || c == 't' || c == ' '
        time
        optional timeOffset)
    (reading "time" time)

end SymbolIndex.Toml
