import SymbolIndex.Decimal.Shortest
import SymbolIndex.Json.Basic

/-!
# JSON texts

A JSON value as text, either without any blanks or with one entry a line, indented by two spaces for
each value around it. An empty array or object is on one line in both.
-/
namespace SymbolIndex.Json

/-- How a character is written between quotes. -/
def escapedChar (c : Char) : String :=
  if c == '"' then "\\\""
  else if c == '\\' then "\\\\"
  else if c == '\n' then "\\n"
  else if c == '\r' then "\\r"
  else if c == '\t' then "\\t"
  else if c == '\x08' then "\\b"
  else if c == '\x0c' then "\\f"
  else if c.toNat < 32 then
    "\\u00" ++ String.ofList [Nat.digitChar (c.toNat / 16), Nat.digitChar (c.toNat % 16)]
  else c.toString

def quote (s : String) : String := s.foldl (fun acc c => acc ++ escapedChar c) "\"" ++ "\""

def floatText (bits : UInt64) : String :=
  Decimal.render "null" "null" "0.0" Decimal.Scientific.compact bits

/-- The text of a value that holds no others. -/
def scalar : Json → String
  | null => "null"
  | bool b => if b then "true" else "false"
  | natural n => toString n
  | negative n => toString n
  | float bits => floatText bits
  | string s => quote s
  | array _ => "[]"
  | object _ => "\x7b\x7d"

mutual

/-- Appends the text of a value without blanks. -/
def writeCompact (acc : String) : Json → String
  | array (v :: vs) => writeItems (writeCompact (acc ++ "[") v) vs ++ "]"
  | object ((name, v) :: es) =>
    writeEntries (writeCompact (acc ++ "\x7b" ++ quote name ++ ":") v) es ++ "\x7d"
  | v => acc ++ scalar v

def writeItems (acc : String) : List Json → String
  | [] => acc
  | v :: vs => writeItems (writeCompact (acc ++ ",") v) vs

def writeEntries (acc : String) : List (String × Json) → String
  | [] => acc
  | (name, v) :: es => writeEntries (writeCompact (acc ++ "," ++ quote name ++ ":") v) es

end

/-- The text of a value without blanks. -/
def compact (v : Json) : String := writeCompact "" v

/-- The start of a line inside `depth` values. -/
def lineStart (depth : Nat) : String := "\n" ++ String.ofList (List.replicate (2 * depth) ' ')

mutual

/-- Appends the text of a value with one entry a line. -/
def writePretty (depth : Nat) (acc : String) : Json → String
  | array (v :: vs) =>
    let first := writePretty (depth + 1) (acc ++ "[" ++ lineStart (depth + 1)) v
    writePrettyItems depth first vs ++ lineStart depth ++ "]"
  | object ((name, v) :: es) =>
    let start := acc ++ "\x7b" ++ lineStart (depth + 1) ++ quote name ++ ": "
    let first := writePretty (depth + 1) start v
    writePrettyEntries depth first es ++ lineStart depth ++ "\x7d"
  | v => acc ++ scalar v

def writePrettyItems (depth : Nat) (acc : String) : List Json → String
  | [] => acc
  | v :: vs =>
    writePrettyItems depth (writePretty (depth + 1) (acc ++ "," ++ lineStart (depth + 1)) v) vs

def writePrettyEntries (depth : Nat) (acc : String) : List (String × Json) → String
  | [] => acc
  | (name, v) :: es =>
    let start := acc ++ "," ++ lineStart (depth + 1) ++ quote name ++ ": "
    writePrettyEntries depth (writePretty (depth + 1) start v) es

end

/-- The text of a value with one entry a line. -/
def pretty (v : Json) : String := writePretty 0 "" v

end SymbolIndex.Json
