import SymbolIndex.Text.Utf8
import SymbolIndex.Toml.Document

/-!
# Complaints about TOML texts

What is wrong with a TOML text, with the line it is in and a mark under the stretch that it is about.
-/
namespace SymbolIndex.Toml

/-- What is wrong with a stretch of a text. -/
structure Complaint where
  span : Span
  message : String
  deriving DecidableEq, Repr, Inhabited

/-- A place in a text: lines before it, and columns before it on its line. -/
structure Place where
  line : Nat
  column : Nat
  deriving DecidableEq, Repr

/-- The place of an offset. Columns are counted in characters, but in bytes if the offset is at a
character that takes several; the end of the text is one column after its last byte. -/
def placeOf (source : String) (offset : Nat) : Place :=
  let bytes := source.toUTF8
  if bytes.size = 0 then ⟨0, offset⟩
  else
    let index := min offset (bytes.size - 1)
    let before := bytes.toList.take index
    let onLine := (before.reverse.takeWhile (· != 10)).length
    let next := (bytes.toList.drop index).head?.getD 0
    let isFirst (b : UInt8) : Bool := b &&& 0xC0 != 0x80
    -- the byte at the offset ends a character, or else the column is counted in bytes
    let lineBytes := before.drop (before.length - onLine) ++ [next]
    let column :=
      if (Utf8.invalidFrom? lineBytes 0).isNone then (lineBytes.filter isFirst).length - 1
      else onLine
    ⟨before.count 10, column + (offset - index)⟩

namespace Complaint

/-- A complaint about the one character at an offset. -/
def atOffset (source : String) (offset : Nat) (message : String) : Complaint :=
  let c := String.Pos.Raw.get? source ⟨offset⟩
  ⟨⟨offset, offset + (c.map Char.utf8Size).getD 0⟩, message⟩

def blanks (n : Nat) : String := String.ofList (List.replicate n ' ')

/-- A complaint with the line it is about and a mark under the stretch. -/
def text (source : String) (c : Complaint) : String :=
  let place := placeOf source c.span.start
  let content := (Text.lines source).getD place.line ""
  let number := toString (place.line + 1)
  let gutter := blanks (number.length + 1)
  let length := max 1 (min (c.span.stop - c.span.start) (content.utf8ByteSize - place.column))
  let marks := String.ofList (List.replicate length '^')
  s!"TOML parse error at line {number}, column {place.column + 1}\n" ++
    s!"{gutter}|\n" ++
    s!"{number} | {content}\n" ++
    s!"{gutter}| {blanks place.column}{marks}\n" ++
    s!"{c.message}\n"

end Complaint

/-- The document of a text, or what is wrong with the text. -/
def parse (source : String) : Except Complaint Item :=
  match document ⟨source.toList, 0⟩ with
  | .ok root _ => .ok root
  | .miss f left | .fail f left => .error (.atOffset source left.offset f.message)

end SymbolIndex.Toml
