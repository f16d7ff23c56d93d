import SymbolIndex.Analysis.Basic
import SymbolIndex.Encoding.Syntax

/-!
# Analyses as JSON

How fingerprints, analyses and summaries are written as JSON values and read back.
-/
namespace SymbolIndex

open Decoder

namespace Path

def toJson (p : Path) : Json := p.text

def ofJson : Decoder Path := fun v => Path.mk <$> string "path string" v

end Path

namespace Fingerprint

def toJson (f : Fingerprint) : Json := .object [("size", f.size), ("sha256", f.sha256)]

/-- The fields of a fingerprint. -/
def shape : Shape (Option Nat × Option String) where
  title := "Fingerprint"
  fields := [field "size" (natural "u64") fun n p => (some n, p.2),
    field "sha256" (string "a string") fun s p => (p.1, some s)]
  closed := false

def ofJson : Decoder Fingerprint := fun v => do
  let p ← shape.read (none, none) v
  return ⟨← require "size" p.1, ← require "sha256" p.2⟩

end Fingerprint

namespace AnalysisStatus

def ofJson : Decoder AnalysisStatus :=
  choice [("parsed", .parsed), ("unsupported", .unsupported)]

end AnalysisStatus

namespace Analysis

def toJson (a : Analysis) : Json :=
  .object [("path", a.path.toJson), ("language", a.language.toJson), ("status", a.status.name),
    ("symbols", .array (a.symbols.map Symbol.toJson)),
    ("errors", .array (a.errors.map ParseError.toJson)), ("fingerprint", a.fingerprint.toJson)]

/-- What is known of an analysis. -/
structure Draft where
  path : Option Path := none
  language : Option Language := none
  status : Option AnalysisStatus := none
  symbols : Option (List Symbol) := none
  errors : Option (List ParseError) := none
  fingerprint : Option Fingerprint := none

/-- The fields of an analysis. -/
def shape : Shape Draft where
  title := "AnalysisResult"
  fields := [field "path" Path.ofJson fun x d => { d with path := some x },
    field "language" Language.ofJson fun x d => { d with language := some x },
    field "status" AnalysisStatus.ofJson fun x d => { d with status := some x },
    field "symbols" (list Symbol.ofJson) fun x d => { d with symbols := some x },
    field "errors" (list ParseError.ofJson) fun x d => { d with errors := some x },
    field "fingerprint" Fingerprint.ofJson fun x d => { d with fingerprint := some x }]
  closed := false

def ofJson : Decoder Analysis := fun v => do
  let d ← shape.read {} v
  return ⟨← require "path" d.path, ← require "language" d.language, ← require "status" d.status,
    ← require "symbols" d.symbols, ← require "errors" d.errors,
    ← require "fingerprint" d.fingerprint⟩

end Analysis

namespace SymbolEntry

def toJson (s : SymbolEntry) : Json :=
  .objectWith [("name", s.name), ("start", s.start.toJson), ("end", s.stop.toJson)] "parent"
    (s.parent.map .string)

/-- What is known of a symbol in a summary. -/
structure Draft where
  name : Option String := none
  start : Option Position := none
  stop : Option Position := none
  parent : Option String := none

/-- The fields of a symbol in a summary. -/
def shape : Shape Draft where
  title := "SymbolSummary"
  fields := [field "name" (string "a string") fun x d => { d with name := some x },
    field "start" Position.ofJson fun x d => { d with start := some x },
    field "end" Position.ofJson fun x d => { d with stop := some x },
    { field "parent" (optional (string "a string")) fun x d => { d with parent := x } with
      optional := true }]
  closed := false

def ofJson : Decoder SymbolEntry := fun v => do
  let d ← shape.read {} v
  return ⟨← require "name" d.name, ← require "start" d.start, ← require "end" d.stop, d.parent⟩

end SymbolEntry

namespace Summary

def toJson (s : Summary) : Json :=
  .object [("path", s.path.toJson), ("language", s.language.toJson), ("status", s.status.name),
    ("fingerprint", s.digest), ("functions", .array (s.functions.map SymbolEntry.toJson)),
    ("classes", .array (s.classes.map SymbolEntry.toJson)),
    ("imports", .array (s.imports.map SymbolEntry.toJson)),
    ("errors", .array (s.errors.map ParseError.toJson))]

/-- What is known of a summary. -/
structure Draft where
  path : Option Path := none
  language : Option Language := none
  status : Option AnalysisStatus := none
  digest : Option String := none
  functions : Option (List SymbolEntry) := none
  classes : Option (List SymbolEntry) := none
  imports : Option (List SymbolEntry) := none
  errors : Option (List ParseError) := none

/-- The fields of a summary. -/
def shape : Shape Draft where
  title := "AnalysisSummary"
  fields := [field "path" Path.ofJson fun x d => { d with path := some x },
    field "language" Language.ofJson fun x d => { d with language := some x },
    field "status" AnalysisStatus.ofJson fun x d => { d with status := some x },
    field "fingerprint" (string "a string") fun x d => { d with digest := some x },
    field "functions" (list SymbolEntry.ofJson) fun x d => { d with functions := some x },
    field "classes" (list SymbolEntry.ofJson) fun x d => { d with classes := some x },
    field "imports" (list SymbolEntry.ofJson) fun x d => { d with imports := some x },
    field "errors" (list ParseError.ofJson) fun x d => { d with errors := some x }]
  closed := false

def ofJson : Decoder Summary := fun v => do
  let d ← shape.read {} v
  return ⟨← require "path" d.path, ← require "language" d.language, ← require "status" d.status,
    ← require "fingerprint" d.digest, ← require "functions" d.functions,
    ← require "classes" d.classes, ← require "imports" d.imports, ← require "errors" d.errors⟩

end Summary
end SymbolIndex
