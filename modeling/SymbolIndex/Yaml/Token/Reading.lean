import SymbolIndex.Yaml.Token

/-!
# Reading characters of a YAML text

The state of reading tokens off a text, and the moves over single characters. A text is made
readable in portions; a control character makes the portion it is in unreadable, and shows as soon
as a character of that portion is looked for.
-/
namespace SymbolIndex.Yaml

/-- A place where a mapping key may have begun. -/
structure SimpleKey where
  /-- Whether the text is wrong unless this is a key. -/
  required : Bool
  /-- The number of the token that the key would start with. -/
  token : Nat
  mark : Mark
  deriving DecidableEq, Inhabited

/-- The state of reading tokens. -/
structure Reading where
  text : Array Char
  /-- How many characters can be looked at, and the fault beyond them. -/
  barrier : Option (Nat × Fault)
  mark : Mark
  /-- All tokens found so far. -/
  tokens : Array Token
  /-- How many of them have been handed out. -/
  taken : Nat
  started : Bool
  /-- The column of the current block, or -1. -/
  indent : Int
  /-- The columns of the blocks around it. -/
  indents : List Int
  flowLevel : Nat
  keyAllowed : Bool
  /-- The possible keys of the flow levels, innermost first. -/
  keys : List (Option SimpleKey)

abbrev Scan := EStateM Fault Reading

namespace Scan

/-- How many turns a loop over the rest of the text can take. -/
def turns : Scan Nat := return (← get).text.size + 2 - (← get).mark.index

/-- The character `k` places on; the end of the text reads as 0. -/
def charAt (k : Nat) : Scan Char := return (← get).text.getD ((← get).mark.index + k) '\x00'

def char : Scan Char := charAt 0

def mark : Scan Mark := return (← get).mark

def inFlow : Scan Bool := return (← get).flowLevel > 0

/-- Makes the next `n` characters readable. -/
def need (n : Nat) : Scan Unit := do
  match (← get).barrier with
  | some (limit, fault) => if (← get).mark.index + n > limit then throw fault
  | none => pure ()

/-- Ends the scan with a complaint about the current place. -/
def complain {α : Type} (c : Complaint) (context : Option (Activity × Mark)) : Scan α := do
  throw ⟨c, ← mark, context⟩

end Scan

def isEnd (c : Char) : Bool := c == '\x00'

def isGap (c : Char) : Bool := c == ' ' || c == '\t'

/-- Whether a character ends a line. -/
def isBreak (c : Char) : Bool :=
  c == '\n' || c == '\r' || c == '\u0085' || c == '\u2028' || c == '\u2029'

def isBreakOrEnd (c : Char) : Bool := isBreak c || isEnd c

def isGapOrEnd (c : Char) : Bool := isGap c || isBreakOrEnd c

/-- Whether a character may be in the name of an anchor or a tag handle. -/
def isWord (c : Char) : Bool := c.isAlphanum || c == '_' || c == '-'

/-- The value of a hexadecimal digit. -/
def hexDigit? (c : Char) : Option Nat :=
  if c.isDigit then some (c.toNat - 48)
  else if 'a' ≤ c && c ≤ 'f' then some (c.toNat - 87)
  else if 'A' ≤ c && c ≤ 'F' then some (c.toNat - 55)
  else none

namespace Scan

/-- Passes one character. -/
def skip : Scan Unit :=
  modify fun r => { r with mark := { r.mark with index := r.mark.index + 1, column := r.mark.column + 1 } }

/-- Passes some characters. -/
def skips : Nat → Scan Unit
  | 0 => pure ()
  | n + 1 => do
    skip
    skips n

/-- Passes one character and gives it. -/
def take : Scan Char := do
  let c ← char
  skip
  return c

/-- Passes a line break, which reads as a line feed unless it is a separator of its own. -/
def takeBreak : Scan String := do
  let c ← char
  let pass (n : Nat) : Scan Unit := modify fun r =>
    { r with mark := ⟨r.mark.index + n, r.mark.line + 1, 0⟩ }
  if c == '\r' && (← charAt 1) == '\n' then
    pass 2
    return "\n"
  else if c == '\u2028' || c == '\u2029' then
    pass 1
    return c.toString
  else if isBreak c then
    pass 1
    return "\n"
  else return ""

def skipBreak : Scan Unit := do
  let _ ← takeBreak

def takeWhileLoop (p : Char → Bool) : Nat → String → Scan String
  | 0, acc => return acc
  | fuel + 1, acc => do
    if p (← char) then
      let acc := acc.push (← take)
      need 1
      takeWhileLoop p fuel acc
    else return acc

/-- Passes the characters that satisfy `p` and gives them. -/
def takeWhile (p : Char → Bool) : Scan String := do takeWhileLoop p (← turns) ""

def skipWhile (p : Char → Bool) : Scan Unit := do
  let _ ← takeWhile p

/-- Passes a comment, if there is one, up to the end of the line. -/
def skipComment : Scan Unit := do
  if (← char) == '#' then skipWhile fun c => !isBreakOrEnd c

/-- Whether the line starts with a mark between documents. -/
def atDocumentMark (dash dot : Bool) : Scan Bool := do
  let r ← get
  let at' (k : Nat) : Char := r.text.getD (r.mark.index + k) '\x00'
  let thrice (c : Char) : Bool := at' 0 == c && at' 1 == c && at' 2 == c
  return r.mark.column == 0 && ((dash && thrice '-') || (dot && thrice '.')) && isGapOrEnd (at' 3)

/-- Adds a token to those found. -/
def emit (lexeme : Lexeme) (start stop : Mark) : Scan Unit :=
  modify fun r => { r with tokens := r.tokens.push ⟨lexeme, start, stop⟩ }

/-- Adds a token in front of the token with a given number. -/
def emitBefore (number : Nat) (lexeme : Lexeme) (m : Mark) : Scan Unit :=
  modify fun r => { r with tokens := r.tokens.insertIdxIfInBounds number ⟨lexeme, m, m⟩ }

end Scan

namespace Reading

/-- The number of bytes that are made readable at a time. -/
def portion : Nat := 16384

/-- Whether a text may hold a character. -/
def isAllowed (c : Char) : Bool :=
  let n := c.toNat
  n == 9 || n == 10 || n == 13 || (32 ≤ n && n ≤ 126) || n == 0x85 || (0xA0 ≤ n && n ≤ 0xD7FF) ||
    (0xE000 ≤ n && n ≤ 0xFFFD) || 0x10000 ≤ n

/-- The first character that may not be there: the number of characters that can be read before its
portion, and the fault. `offset` bytes and `count` characters were read before; a portion ends with
the last character that ends before `limit`, and `readable` characters are in those before it. -/
def barrierFrom (offset count limit readable : Nat) : List Char → Option (Nat × Fault)
  | [] => none
  | c :: cs =>
    let stop := offset + c.utf8Size
    let (limit, readable) := if stop > limit then (offset + portion, count) else (limit, readable)
    if isAllowed c then barrierFrom stop (count + 1) limit readable cs
    else some (readable, ⟨.controlCharacter offset, .zero, none⟩)

/-- The state before a text. A byte order mark in front of it is a character of the text. -/
def ofText (s : String) : Reading :=
  { text := s.toList.toArray, barrier := barrierFrom 0 0 portion 0 s.toList, mark := .zero,
    tokens := #[], taken := 0, started := false, indent := -1, indents := [], flowLevel := 0,
    keyAllowed := true, keys := [none] }

end Reading
end SymbolIndex.Yaml
