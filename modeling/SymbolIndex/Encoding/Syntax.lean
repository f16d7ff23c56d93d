import SymbolIndex.Extraction
import SymbolIndex.Json.Decode

/-!
# Extractions as JSON

How positions, symbols, errors and extractions are written as JSON values and read back.
-/
namespace SymbolIndex

open Decoder

namespace Position

def toJson (p : Position) : Json := .object [("line", p.line), ("column", p.column)]

/-- The fields of a position. -/
def shape : Shape (Option Nat × Option Nat) where
  title := "Position"
  fields := [field "line" (natural "usize") fun n p => (some n, p.2),
    field "column" (natural "usize") fun n p => (p.1, some n)]
  closed := false

def ofJson : Decoder Position := fun v => do
  let p ← shape.read (none, none) v
  return ⟨← require "line" p.1, ← require "column" p.2⟩

end Position

namespace Language

def toJson (l : Language) : Json := l.name

def ofJson : Decoder Language := choice (all.map fun l => (l.name, l))

end Language

namespace SymbolKind

def ofJson : Decoder SymbolKind := choice (all.map fun k => (k.text, k))

end SymbolKind

namespace Symbol

def toJson (s : Symbol) : Json :=
  .objectWith [("kind", s.kind.text), ("name", s.name), ("start", s.start.toJson),
    ("end", s.stop.toJson)] "parent" (s.parent.map .natural)

/-- What is known of a symbol. -/
structure Draft where
  kind : Option SymbolKind := none
  name : Option String := none
  start : Option Position := none
  stop : Option Position := none
  parent : Option Nat := none

/-- The fields of a symbol. -/
def shape : Shape Draft where
  title := "Symbol"
  fields := [field "kind" SymbolKind.ofJson fun x d => { d with kind := some x },
    field "name" (string "a string") fun x d => { d with name := some x },
    field "start" Position.ofJson fun x d => { d with start := some x },
    field "end" Position.ofJson fun x d => { d with stop := some x },
    { field "parent" (optional (natural "usize")) fun x d => { d with parent := x } with
      optional := true }]
  closed := false

def ofJson : Decoder Symbol := fun v => do
  let d ← shape.read {} v
  return ⟨← require "kind" d.kind, ← require "name" d.name, ← require "start" d.start,
    ← require "end" d.stop, d.parent⟩

end Symbol

namespace ParseError

def toJson (e : ParseError) : Json :=
  .object [("start", e.start.toJson), ("end", e.stop.toJson), ("message", e.message)]

/-- What is known of an error. -/
structure Draft where
  start : Option Position := none
  stop : Option Position := none
  message : Option String := none

/-- The fields of an error. -/
def shape : Shape Draft where
  title := "ParseError"
  fields := [field "start" Position.ofJson fun x d => { d with start := some x },
    field "end" Position.ofJson fun x d => { d with stop := some x },
    field "message" (string "a string") fun x d => { d with message := some x }]
  closed := false

def ofJson : Decoder ParseError := fun v => do
  let d ← shape.read {} v
  return ⟨← require "start" d.start, ← require "end" d.stop, ← require "message" d.message⟩

end ParseError

namespace Extraction

def toJson (e : Extraction) : Json :=
  .object [("language", e.language.toJson), ("symbols", .array (e.symbols.map Symbol.toJson)),
    ("errors", .array (e.errors.map ParseError.toJson))]

/-- What is known of an extraction. -/
structure Draft where
  language : Option Language := none
  symbols : Option (List Symbol) := none
  errors : Option (List ParseError) := none

/-- The fields of an extraction. -/
def shape : Shape Draft where
  title := "Extraction"
  fields := [field "language" Language.ofJson fun x d => { d with language := some x },
    field "symbols" (list Symbol.ofJson) fun x d => { d with symbols := some x },
    field "errors" (list ParseError.ofJson) fun x d => { d with errors := some x }]
  closed := false

def ofJson : Decoder Extraction := fun v => do
  let d ← shape.read {} v
  return ⟨← require "language" d.language, ← require "symbols" d.symbols,
    ← require "errors" d.errors⟩

end Extraction
end SymbolIndex
