import SymbolIndex.Text.Printable

/-!
# Quoted text

A text between double quotes in which quotes and backslashes are escaped, and characters that are not
printable are written by number.
-/
namespace SymbolIndex.Text

/-- How a character is written between double quotes. -/
def quotedChar (c : Char) : String :=
  if c == '\x00' then "\\0"
  else if c == '\t' then "\\t"
  else if c == '\r' then "\\r"
  else if c == '\n' then "\\n"
  else if c == '"' then "\\\""
  else if c == '\\' then "\\\\"
  else if isPrintable c then c.toString
  else "\\u\x7b" ++ String.ofList (Nat.toDigits 16 c.toNat) ++ "\x7d"

/-- A text between double quotes. -/
def quoted (s : String) : String :=
  s.foldl (fun acc c => acc ++ quotedChar c) "\"" ++ "\""

end SymbolIndex.Text
