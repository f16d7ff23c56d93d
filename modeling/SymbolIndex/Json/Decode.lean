import SymbolIndex.Json.Text
import SymbolIndex.Text.Quoted

/-!
# Reading data out of values

A decoder reads some type of data out of a value, or tells what does not fit. A record is read from an
object, whose entries are read in their order, or from an array with one item for each field. Of several
things that do not fit the first in this order counts, and a missing field counts last.
-/
namespace SymbolIndex

/-- What does not fit in a value. -/
inductive Mismatch
  /-- A value of another type. -/
  | type (found : Json) (expected : String)
  /-- A value of the right type that will not do. -/
  | value (found : Json) (expected : String)
  | length (found : Nat) (expected : String)
  | missingField (name : String)
  | unknownField (name : String) (expected : List String)
  | unknownVariant (name : String) (expected : List String)
  deriving Inhabited

namespace Mismatch

/-- What a value is called; `floatText` writes its floats. -/
def description (floatText : UInt64 → String) : Json → String
  | .null => "null"
  | .bool b => s!"boolean `{b}`"
  | .natural n => s!"integer `{n}`"
  | .negative n => s!"integer `{n}`"
  | .float bits => s!"floating point `{floatText bits}`"
  | .string s => s!"string {Text.quoted s}"
  | .array _ => "sequence"
  | .object _ => "map"

/-- A choice of names. -/
def choice (names : List String) : String :=
  let quoted := names.map fun n => s!"`{n}`"
  match quoted with
  | [a] => a
  | [a, b] => s!"{a} or {b}"
  | _ => "one of " ++ ", ".intercalate quoted

def message (floatText : UInt64 → String) : Mismatch → String
  | type found expected => s!"invalid type: {description floatText found}, expected {expected}"
  | value found expected => s!"invalid value: {description floatText found}, expected {expected}"
  | length found expected => s!"invalid length {found}, expected {expected}"
  | missingField name => s!"missing field `{name}`"
  | unknownField name expected => s!"unknown field `{name}`, expected {choice expected}"
  | unknownVariant name expected => s!"unknown variant `{name}`, expected {choice expected}"

end Mismatch

/-- A step from a value to one that it holds. -/
inductive Step
  | item (index : Nat)
  | entry (name : String)
  deriving DecidableEq, Repr

/-- What does not fit, and on which way from the outermost value. -/
structure DecodeError where
  way : List Step
  mismatch : Mismatch
  deriving Inhabited

namespace DecodeError

def here (m : Mismatch) : DecodeError := ⟨[], m⟩

def under (s : Step) (e : DecodeError) : DecodeError := { e with way := s :: e.way }

/-- The wording for values that come from JSON. -/
def message (e : DecodeError) : String := e.mismatch.message Json.floatText

end DecodeError

/-- Reads data out of a value. -/
abbrev Decoder (α : Type) := Json → Except DecodeError α

namespace Decoder

variable {α σ : Type}

def refuse (v : Json) (expected : String) : Except DecodeError α :=
  .error (.here (.type v expected))

/-- A natural number below `2 ^ 64`; `expected` is what it is called. -/
def natural (expected : String) : Decoder Nat
  | .natural n => .ok n
  | .negative n => .error (.here (.value (.negative n) expected))
  | v => refuse v expected

def boolean : Decoder Bool
  | .bool b => .ok b
  | v => refuse v "a boolean"

def string (expected : String) : Decoder String
  | .string s => .ok s
  | v => refuse v expected

/-- A value that may be null. -/
def optional (d : Decoder α) : Decoder (Option α)
  | .null => .ok none
  | v => some <$> d v

def items (d : Decoder α) (index : Nat) : List Json → Except DecodeError (List α)
  | [] => .ok []
  | v :: vs => do
    let a ← (d v).mapError (·.under (.item index))
    return a :: (← items d (index + 1) vs)

def list (d : Decoder α) : Decoder (List α)
  | .array vs => items d 0 vs
  | v => refuse v "a sequence"

/-- One of some named values, given by its name alone or as the name of an entry without a value. -/
def choice (names : List (String × α)) : Decoder α
  | .string s => pick s
  | .object [(s, v)] => do
    let a ← pick s
    match v with
    | .null => return a
    | v => refuse v "unit"
  | .object es => .error (.here (.value (.object es) "map with a single key"))
  | v => refuse v "string or map"
where
  pick (s : String) : Except DecodeError α :=
    match names.lookup s with
    | some a => .ok a
    | none => .error (.here (.unknownVariant s (names.map (·.1))))

/-- A field of a record; `σ` is what is known of the record so far. -/
structure Field (σ : Type) where
  name : String
  /-- Whether an array may stop before the field. -/
  optional : Bool
  read : Json → σ → Except DecodeError σ

/-- The fields of a record. -/
structure Shape (σ : Type) where
  title : String
  fields : List (Field σ)
  /-- Whether there must be no other fields. -/
  closed : Bool

namespace Shape

def names (shape : Shape σ) : List String := shape.fields.map (·.name)

/-- Reads the entries of an object. -/
def readEntries (shape : Shape σ) (known : σ) : List (String × Json) → Except DecodeError σ
  | [] => .ok known
  | (name, v) :: es =>
    match shape.fields.find? (·.name = name) with
    | some field => do
      let known ← (field.read v known).mapError (·.under (.entry name))
      shape.readEntries known es
    | none =>
      if shape.closed then
        .error ⟨[.entry name], .unknownField name shape.names⟩
      else shape.readEntries known es

/-- Reads the items of an array of `length` items. -/
def readItems (shape : Shape σ) (length index : Nat) (known : σ) :
    List (Field σ) → List Json → Except DecodeError σ
  | [], [] => .ok known
  | [], _ :: _ => .error (.here (.length length "fewer elements in array"))
  | field :: fields, v :: vs => do
    let known ← (field.read v known).mapError (·.under (.item index))
    shape.readItems length (index + 1) known fields vs
  | field :: fields, [] =>
    if field.optional then shape.readItems length (index + 1) known fields []
    else
      .error (.here (.length index
        s!"struct {shape.title} with {shape.fields.length} elements"))

/-- Reads a record of which `start` is known. -/
def read (shape : Shape σ) (start : σ) : Json → Except DecodeError σ
  | .object es => shape.readEntries start es
  | .array vs => shape.readItems vs.length 0 start shape.fields vs
  | v => refuse v s!"struct {shape.title}"

end Shape

/-- The value of a field that must be there. -/
def require (name : String) (v : Option α) : Except DecodeError α :=
  match v with
  | some a => .ok a
  | none => .error (.here (.missingField name))

/-- A field of which the value is kept in an `Option`. -/
def field (name : String) (d : Decoder α) (set : α → σ → σ) : Field σ :=
  ⟨name, false, fun v known => (set · known) <$> d v⟩

end Decoder
end SymbolIndex
