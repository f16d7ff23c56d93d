import SymbolIndex.Decimal.Nearest
import SymbolIndex.Decimal.Shortest
import SymbolIndex.Json.Basic
import SymbolIndex.Toml.Reader

/-!
# TOML values

The values of a TOML document, with the stretches of the text they were read from. A table is either
written out, or only implied by the keys of others; keys with dots imply tables of their own kind.
-/
namespace SymbolIndex.Toml

/-- A key with the text it was written as. -/
structure Key where
  name : String
  raw : String
  span : Span
  deriving Inhabited, Repr

/-- A value on the right of an equals sign. -/
inductive Value
  | string (s : String)
  | integer (n : Int)
  /-- A float by its bits. -/
  | float (bits : UInt64)
  | boolean (b : Bool)
  | dateTime (s : String)
  | array (items : List (Value × Span))
  /-- A table between braces, or one that a key with dots implies there. -/
  | inlineTable (dotted : Bool) (entries : List (Key × Value))
  deriving Inhabited

namespace Value

def typeName : Value → String
  | string _ => "string"
  | integer _ => "integer"
  | float _ => "float"
  | boolean _ => "boolean"
  | dateTime _ => "datetime"
  | array _ => "array"
  | inlineTable _ _ => "inline table"

mutual

/-- A value as data. A date is an object. -/
def toJson : Value → Json
  | string s => .string s
  | integer n => if n < 0 then .negative n else .natural n.toNat
  | float bits => .float bits
  | boolean b => .bool b
  | dateTime s => .object [("$__toml_private_datetime", .string s)]
  | array items => .array (itemsToJson items)
  | inlineTable _ entries => .object (entriesToJson entries)

def itemsToJson : List (Value × Span) → List Json
  | [] => []
  | (v, _) :: rest => toJson v :: itemsToJson rest

def entriesToJson : List (Key × Value) → List (String × Json)
  | [] => []
  | (k, v) :: rest => (k.name, toJson v) :: entriesToJson rest

end

end Value

/-- What a key of a table stands for. -/
inductive Item
  | value (v : Value) (span : Span)
  /-- A table; only one that has a header of its own has a stretch of text. -/
  | table (implicit dotted : Bool) (span : Option Span) (entries : List (Key × Item))
  /-- The tables of an array, of which each has a header. -/
  | tables (items : List Item)
  deriving Inhabited

namespace Item

def entries : Item → List (Key × Item)
  | table _ _ _ es => es
  | _ => []

def isDotted : Item → Bool
  | table _ dotted _ _ => dotted
  | _ => false

def span? : Item → Option Span
  | value _ span => some span
  | table _ _ span _ => span
  | tables items =>
    match items.head?, items.getLast? with
    | some (.table _ _ (some a) _), some (.table _ _ (some b) _) => some ⟨a.start, b.stop⟩
    | _, _ => none

mutual

/-- An item as data. -/
def toJson : Item → Json
  | value v _ => v.toJson
  | table _ _ _ es => .object (entriesToJson es)
  | tables items => .array (itemsToJson items)

def itemsToJson : List Item → List Json
  | [] => []
  | i :: rest => toJson i :: itemsToJson rest

def entriesToJson : List (Key × Item) → List (String × Json)
  | [] => []
  | (k, i) :: rest => (k.name, toJson i) :: entriesToJson rest

end

/-- The stretch of text of an item in an array. -/
def itemSpan? (i : Item) (index : Nat) : Option Span :=
  match i with
  | value (.array items) _ => items[index]?.map (·.2)
  | tables items => items[index]?.bind span?
  | _ => none

end Item
end SymbolIndex.Toml
