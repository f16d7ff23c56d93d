import SymbolIndex.Json.Basic

/-!
# Tallies

Counts over the files of a batch.
-/
namespace SymbolIndex

structure Tally where
  files : Nat
  parsed : Nat
  unsupported : Nat
  symbols : Nat
  /-- Files in which something could not be made sense of. -/
  withParseErrors : Nat
  /-- Parsed files by language. -/
  languages : List (String × Nat)
  /-- What went wrong with the files that have no analysis. -/
  errors : List String
  deriving DecidableEq, Repr, Inhabited

namespace Tally

def zero : Tally := ⟨0, 0, 0, 0, 0, [], []⟩

/-- Adds one to the count of a language. -/
def bump (language : String) : List (String × Nat) → List (String × Nat)
  | [] => [(language, 1)]
  | (l, n) :: rest => if l = language then (l, n + 1) :: rest else (l, n) :: bump language rest

/-- Counts a parsed file. -/
def addFile (t : Tally) (language : String) (symbols errors : Nat) : Tally :=
  { t with
    files := t.files + 1
    parsed := t.parsed + 1
    symbols := t.symbols + symbols
    withParseErrors := t.withParseErrors + if errors > 0 then 1 else 0
    languages := bump language t.languages }

/-- Counts a file that no analyzer knows. -/
def addUnsupported (t : Tally) : Tally :=
  { t with files := t.files + 1, unsupported := t.unsupported + 1 }

/-- Counts a file that has no analysis. -/
def addError (t : Tally) (error : String) : Tally :=
  { t with files := t.files + 1, errors := t.errors ++ [error] }

/-- A tally as a value; how long it took is left open. -/
def toJson (t : Tally) (milliseconds : Nat) : Json :=
  .object [("files", t.files), ("parsed", t.parsed), ("unsupported", t.unsupported),
    ("symbols", t.symbols), ("with_parse_errors", t.withParseErrors), ("time_ms", milliseconds),
    ("languages", .object (t.languages.map fun (l, n) => (l, Json.natural n))),
    ("errors", .array (t.errors.map Json.string))]

end Tally
end SymbolIndex
