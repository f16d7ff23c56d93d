import SymbolIndex.Parsing.Extent

/-!
# Cursors

A `Cursor` walks over UTF-8 text one character at a time while a token is being read. It knows where
the token starts, which moves along with every skipped character, and where it was last marked to
end, which may lie before the characters that were looked at to find it.
-/
namespace SymbolIndex

structure Cursor where
  text : ByteArray
  pos : Extent
  /-- The code point at `pos`, or 0 at the end of the text. -/
  char : UInt32
  /-- The bytes of the code point at `pos`; 0 at the end of the text. -/
  width : Nat
  tokenStart : Extent
  tokenEnd : Option Extent

namespace Cursor

/-- The code point at byte `i` and its width in bytes. -/
def decode (text : ByteArray) (i : Nat) : UInt32 × Nat :=
  if i < text.size then
    let b := (text.get! i).toUInt32
    let tail (k : Nat) : UInt32 := if i + k < text.size then (text.get! (i + k)).toUInt32 &&& 0x3F else 0
    if b < 0x80 then (b, 1)
    else if b < 0xE0 then ((b &&& 0x1F) <<< 6 ||| tail 1, 2)
    else if b < 0xF0 then ((b &&& 0x0F) <<< 12 ||| tail 1 <<< 6 ||| tail 2, 3)
    else ((b &&& 0x07) <<< 18 ||| tail 1 <<< 12 ||| tail 2 <<< 6 ||| tail 3, 4)
  else (0, 0)

/-- A cursor at a position of the text. -/
def ofPos (text : ByteArray) (pos : Extent) : Cursor :=
  let (char, width) := decode text pos.bytes
  { text, pos, char, width, tokenStart := pos, tokenEnd := none }

def atEnd (c : Cursor) : Bool := c.width == 0

/-- Moves to a position without touching the token's bounds. -/
def moveTo (c : Cursor) (pos : Extent) : Cursor :=
  let (char, width) := decode c.text pos.bytes
  { c with pos, char, width }

/-- Takes the character into the token. At the end of the text nothing moves. -/
def advance (c : Cursor) : Cursor :=
  if c.atEnd then c else c.moveTo (c.pos.step (c.char == 10) c.width)

/-- Leaves the character out: the token starts after it. -/
def skip (c : Cursor) : Cursor :=
  if c.atEnd then c else
    let c := c.advance
    { c with tokenStart := c.pos }

/-- Lets the token end here. -/
def markEnd (c : Cursor) : Cursor := { c with tokenEnd := some c.pos }

/-- Starts a token here; a byte order mark at the start of the text is no part of any token. -/
def start (c : Cursor) : Cursor :=
  let c := { c with tokenStart := c.pos, tokenEnd := none }
  if c.pos.bytes = 0 ∧ c.char = 0xFEFF then c.skip else c

/-- The end of the token: where it was marked, else where the cursor stands. -/
def finish (c : Cursor) : Cursor :=
  let stop := c.tokenEnd.getD c.pos
  { c with
    tokenEnd := some stop
    tokenStart := if stop.bytes < c.tokenStart.bytes then stop else c.tokenStart }

/-- The end of a finished token. -/
def stop (c : Cursor) : Extent := c.tokenEnd.getD c.pos

/-- More than the characters left, as a bound for loops that take one at each turn. -/
def fuel (c : Cursor) : Nat := c.text.size - c.pos.bytes + 2

/-- Whether the character is ASCII white space. -/
def isSpace (c : Cursor) : Bool := c.char == 32 || (9 ≤ c.char && c.char ≤ 13)

/-- Whether the character is an ASCII letter. -/
def isLetter (c : Cursor) : Bool :=
  (65 ≤ c.char && c.char ≤ 90) || (97 ≤ c.char && c.char ≤ 122)

/-- Whether the character is an ASCII digit. -/
def isDigit (c : Cursor) : Bool := 48 ≤ c.char && c.char ≤ 57

/-- Whether the character at the cursor is `x`. -/
def sees (c : Cursor) (x : Char) : Bool := c.char == x.val

/-- Skips characters while they satisfy `p`. -/
def skipWhile (p : Cursor → Bool) (c : Cursor) : Cursor := go c.fuel c
where
  go : Nat → Cursor → Cursor
    | 0, c => c
    | n + 1, c => if !c.atEnd && p c then go n c.skip else c

/-- Takes characters while they satisfy `p`. -/
def takeWhile (p : Cursor → Bool) (c : Cursor) : Cursor := go c.fuel c
where
  go : Nat → Cursor → Cursor
    | 0, c => c
    | n + 1, c => if !c.atEnd && p c then go n c.advance else c

end Cursor
end SymbolIndex
