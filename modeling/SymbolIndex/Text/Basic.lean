/-!
# Pieces of text

Blank characters, trimming, and pieces of a text between two byte offsets. A piece exists only if
both offsets lie between characters.
-/
namespace SymbolIndex

/-- The characters that Unicode calls white space. -/
def isBlank (c : Char) : Bool :=
  let n := c.toNat
  (9 ≤ n && n ≤ 13) || n == 32 || n == 0x85 || n == 0xA0 || n == 0x1680 ||
    (0x2000 ≤ n && n ≤ 0x200A) || n == 0x2028 || n == 0x2029 || n == 0x202F || n == 0x205F ||
    n == 0x3000

namespace Text

/-- The characters without those at the end that satisfy `p`. -/
def dropTail (p : Char → Bool) (cs : List Char) : List Char :=
  (cs.reverse.dropWhile p).reverse

/-- A text without the characters at both ends that satisfy `p`. -/
def strip (p : Char → Bool) (s : String) : String :=
  String.ofList (dropTail p (s.toList.dropWhile p))

/-- A text without blanks at its ends. -/
def trim (s : String) : String := strip isBlank s

/-- A text without blanks at its end. -/
def trimEnd (s : String) : String := String.ofList (dropTail isBlank s.toList)

/-- How many bytes the encodings of some characters have. -/
def byteSize (cs : List Char) : Nat := cs.foldr (fun c n => c.utf8Size + n) 0

/-- The text between two byte offsets. -/
def slice? (s : String) (start stop : Nat) : Option String :=
  if start ≤ stop && String.Pos.Raw.isValid s ⟨start⟩ && String.Pos.Raw.isValid s ⟨stop⟩ then
    some (String.Pos.Raw.extract s ⟨start⟩ ⟨stop⟩)
  else none

/-- The pieces of a text between the characters that satisfy `p`, empty ones included. -/
def splitWhere (p : Char → Bool) (s : String) : List String :=
  let pieces := s.toList.foldr (fun c (acc : List Char × List String) =>
    if p c then ([], String.ofList acc.1 :: acc.2) else (c :: acc.1, acc.2)) ([], [])
  String.ofList pieces.1 :: pieces.2

/-- The lines of a text. -/
def lines (s : String) : List String := splitWhere (· == '\n') s

/-- The first `n` characters of a text, with an ellipsis in place of any that follow. -/
def shorten (n : Nat) (s : String) : String :=
  let cs := s.toList
  if n < cs.length then String.ofList (cs.take n) ++ "…" else s

end Text
end SymbolIndex
