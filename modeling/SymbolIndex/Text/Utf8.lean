/-!
# Reading bytes as UTF-8

`Utf8.next?` reads one character off the front of some bytes, or finds that they do not go on with
one. Read leniently, each longest beginning of a character that does not go on as it should, and each
byte that begins no character, stands for one replacement character.
-/
namespace SymbolIndex.Utf8

/-- What bytes begin with: a character, or bytes that are none. -/
inductive Piece
  | char (c : Char)
  | bad
  deriving DecidableEq, Repr

/-- What must follow a leading byte: the bounds of the byte after it, and how many more follow. -/
def tail? (b : UInt8) : Option (UInt8 × UInt8 × Nat) :=
  if 0xC2 ≤ b && b ≤ 0xDF then some (0x80, 0xBF, 0)
  else if b == 0xE0 then some (0xA0, 0xBF, 1)
  else if b == 0xED then some (0x80, 0x9F, 1)
  else if 0xE1 ≤ b && b ≤ 0xEF then some (0x80, 0xBF, 1)
  else if b == 0xF0 then some (0x90, 0xBF, 2)
  else if b == 0xF4 then some (0x80, 0x8F, 2)
  else if 0xF1 ≤ b && b ≤ 0xF3 then some (0x80, 0xBF, 2)
  else none

/-- The bits of a leading byte that belong to the character, when `more + 1` bytes follow. -/
def leadingBits (b : UInt8) (more : Nat) : Nat := b.toNat % Nat.pow 2 (5 - more)

/-- Appends the six bits of a byte that follows. -/
def extend (code : Nat) (b : UInt8) : Nat := code * 64 + b.toNat % 64

/-- Reads the `more` last bytes of a character. -/
def finish (code : Nat) : Nat → List UInt8 → Piece × List UInt8
  | 0, bs => (.char (Char.ofNat code), bs)
  | _ + 1, [] => (.bad, [])
  | more + 1, b :: bs =>
    if 0x80 ≤ b && b ≤ 0xBF then finish (extend code b) more bs else (.bad, b :: bs)

/-- What starts with the byte `b`, and the bytes after it. -/
def next (b : UInt8) (bs : List UInt8) : Piece × List UInt8 :=
  if b < 0x80 then (.char (Char.ofNat b.toNat), bs)
  else
    match tail? b, bs with
    | some (lo, hi, more), c :: cs =>
      if lo ≤ c && c ≤ hi then finish (extend (leadingBits b more) c) more cs else (.bad, bs)
    | _, _ => (.bad, bs)

theorem finish_length_le (code more : Nat) (bs : List UInt8) :
    (finish code more bs).2.length ≤ bs.length := by
  induction more generalizing code bs with
  | zero => simp [finish]
  | succ more ih =>
    cases bs with
    | nil => simp [finish]
    | cons b bs =>
      simp only [finish]
      split
      · exact Nat.le_succ_of_le (ih _ _)
      · simp

theorem next_length_le (b : UInt8) (bs : List UInt8) : (next b bs).2.length ≤ bs.length := by
  unfold next
  split
  · simp
  · split
    · split
      · exact Nat.le_succ_of_le (finish_length_le ..)
      · simp
    · simp

/-- The characters of some bytes, with a replacement character in place of bytes that are none. -/
def decode (bs : List UInt8) (acc : Array Char) : Array Char :=
  match bs with
  | [] => acc
  | b :: bs =>
    let c := match (next b bs).1 with
      | .char c => c
      | .bad => '\uFFFD'
    decode (next b bs).2 (acc.push c)
  termination_by bs.length
  decreasing_by have := next_length_le b bs; simp only [List.length_cons]; omega

/-- The text of some bytes, read leniently. -/
def decodeLossy (bytes : ByteArray) : String := String.ofList (decode bytes.toList #[]).toList

/-- How many bytes come before the first that are not part of a character. -/
def invalidFrom? (bs : List UInt8) (read : Nat) : Option Nat :=
  match bs with
  | [] => none
  | b :: bs =>
    match (next b bs).1 with
    | .char c => invalidFrom? (next b bs).2 (read + c.utf8Size)
    | .bad => some read
  termination_by bs.length
  decreasing_by have := next_length_le b bs; simp only [List.length_cons]; omega

/-- The offset of the first bytes that are not part of a character. -/
def firstInvalid? (bytes : ByteArray) : Option Nat := invalidFrom? bytes.toList 0

end SymbolIndex.Utf8
