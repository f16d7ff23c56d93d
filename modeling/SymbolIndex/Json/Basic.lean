/-!
# JSON values

A value of JSON. An object keeps its entries in the order they were given; one that is read from a text
has them in the order of their names, each name once.
-/
namespace SymbolIndex

inductive Json
  | null
  | bool (b : Bool)
  | natural (n : Nat)
  /-- A number below zero. -/
  | negative (n : Int)
  /-- A number with a point or an exponent, by the bits of the nearest float. -/
  | float (bits : UInt64)
  | string (s : String)
  | array (items : List Json)
  | object (entries : List (String × Json))
  deriving Inhabited, Repr

namespace Json

/-- Puts an entry in its place; an entry of the same name gives way. -/
def insertEntry (name : String) (v : Json) : List (String × Json) → List (String × Json)
  | [] => [(name, v)]
  | e :: es =>
    if name < e.1 then (name, v) :: e :: es
    else if name = e.1 then (name, v) :: es
    else e :: insertEntry name v es

/-- The object of some entries, of which the last one of each name counts. -/
def ofEntries (entries : List (String × Json)) : Json :=
  .object (entries.foldl (fun es e => insertEntry e.1 e.2 es) [])

/-- The value of an entry. -/
def get? (name : String) : Json → Option Json
  | object es => es.lookup name
  | _ => none

/-- An object with one more entry, if it has a value. -/
def objectWith (entries : List (String × Json)) (name : String) (v : Option Json) : Json :=
  .object (entries ++ (v.map (name, ·)).toList)

instance : Coe String Json := ⟨string⟩
instance : Coe Nat Json := ⟨natural⟩
instance : Coe Bool Json := ⟨bool⟩

end Json
end SymbolIndex
