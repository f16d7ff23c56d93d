import SymbolIndex.Decimal.Shortest
import SymbolIndex.Yaml.Number

/-!
# YAML values

What a YAML document means. A mapping keeps its entries in order. Two mappings are the same key if they
have the same entries in any order, and two floats if they are equal as numbers, or both not numbers.
-/
namespace SymbolIndex.Yaml

inductive Value
  | null
  | bool (b : Bool)
  | natural (n : Nat)
  | negative (n : Int)
  /-- A float by its bits. -/
  | float (bits : UInt64)
  | string (s : String)
  | sequence (items : List Value)
  | mapping (entries : List (Value × Value))
  | tagged (tag : String) (value : Value)
  deriving Inhabited, Repr

namespace Value

/-- Whether two floats count as the same key. -/
def sameFloat (a b : UInt64) : Bool :=
  let isNan (x : UInt64) : Bool := x &&& 0x7FFFFFFFFFFFFFFF > Decimal.infinityBits
  let isZero (x : UInt64) : Bool := x &&& 0x7FFFFFFFFFFFFFFF == 0
  a == b || (isNan a && isNan b) || (isZero a && isZero b)

mutual

/-- Whether two values count as the same key. -/
def same : Value → Value → Bool
  | null, null => true
  | bool a, bool b => a == b
  | natural a, natural b => a == b
  | negative a, negative b => a == b
  | float a, float b => sameFloat a b
  | string a, string b => a == b
  | sequence as, sequence bs => sameItems as bs
  | mapping as, mapping bs => as.length == bs.length && subMapping as bs
  | tagged s a, tagged t b => s == t && same a b
  | _, _ => false

def sameItems : List Value → List Value → Bool
  | [], [] => true
  | a :: as, b :: bs => same a b && sameItems as bs
  | _, _ => false

/-- Whether every entry of the first mapping is in the second. -/
def subMapping : List (Value × Value) → List (Value × Value) → Bool
  | [], _ => true
  | (k, v) :: as, bs => bs.any (fun b => same k b.1 && same v b.2) && subMapping as bs

end

/-- The text of a float in a message. -/
def floatText (bits : UInt64) : String :=
  Decimal.render ".nan" ".inf" "0.0" Decimal.Scientific.compact bits

end Value
end SymbolIndex.Yaml
