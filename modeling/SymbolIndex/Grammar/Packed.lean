import SymbolIndex.Grammar.Basic
import SymbolIndex.Text.Varint

/-!
# Packed grammar tables

The tables of a grammar are kept as numbers packed into text. `Packed.grammar` reads a whole table
from such a text. A parse state is stored as the difference from an earlier one.
-/
namespace SymbolIndex

/-- The tables of a grammar as text, with the names that the text refers to by number. -/
structure Packed where
  name : String
  symbols : List GrammarSymbol
  fields : List String
  data : String

namespace Packed

/-- Reading numbers off the packed text, front to back. -/
abbrev Unpack := ReaderT ByteArray (StateM Nat)

/-- The next number. -/
def nat : Unpack Nat := do
  let pos ← get
  let (n, pos') := Varint.read (← read) pos
  set pos'
  return n

/-- The next signed number: even codes are nonnegative. -/
def int : Unpack Int := do
  let n ← nat
  return if n % 2 = 0 then (n / 2 : Nat) else -((n + 1) / 2 : Nat)

def bool : Unpack Bool := return (← nat) != 0

/-- A number shifted up by one, so that 0 stands for none. -/
def option : Unpack (Option Nat) := do
  match ← nat with
  | 0 => return none
  | n + 1 => return some n

/-- `n` items read one after the other. -/
def times {α : Type} (n : Nat) (item : Unpack α) : Unpack (Array α) :=
  n.foldM (fun _ _ acc => return acc.push (← item)) (Array.mkEmpty n)

/-- Items preceded by their number. -/
def array {α : Type} (item : Unpack α) : Unpack (Array α) := do times (← nat) item

def action : Unpack Action := do
  match ← nat with
  | 0 => return .shift (← nat) (← bool)
  | 1 => return .shiftExtra
  | 2 => return .reduce (← nat) (← nat) (← int) (← nat)
  | 3 => return .accept
  | _ => return .recover

def entry : Unpack ActionEntry := return ⟨← bool, ← array action⟩

def fieldMapping : Unpack FieldMapping := return ⟨← nat, ← nat, ← bool⟩

def production : Unpack Production := return ⟨← array nat, ← array fieldMapping⟩

/-- A set of scanner tokens, written as the list of its members. -/
def scannerSet (size : Nat) : Unpack (Array Bool) := do
  let members ← array nat
  return Array.ofFn fun i : Fin size => members.contains i.val

def setCell (rows : ByteArray) (cell value : Nat) : ByteArray :=
  (rows.set! (2 * cell) (UInt8.ofNat value)).set! (2 * cell + 1) (UInt8.ofNat (value / 256))

/-- One parse state: its lexing modes, and its row as changes to an earlier row. -/
def row (width i : Nat) (blank : ByteArray) (rows : ByteArray) : Unpack ((Nat × Nat) × ByteArray) := do
  let lex ← nat
  let scanner ← nat
  let back ← nat
  let start := i * width
  let rows :=
    if back = 0 then rows ++ blank
    else rows ++ rows.extract (2 * (start - back * width)) (2 * (start - back * width) + 2 * width)
  let changes ← nat
  let change := fun (_ : Nat) (_ : _ < changes) (at' : Nat × ByteArray) => show Unpack _ from do
    let cell := at'.1 + (← nat)
    return (cell, setCell at'.2 cell (← nat))
  return ((lex, scanner), (← changes.foldM change (start, rows)).2)

def charRanges : Unpack CharRanges := do
  let n ← nat
  let range := fun (_ : Nat) (_ : _ < n) (acc : Nat × Array UInt32) => show Unpack _ from do
    let lo := acc.1 + (← nat)
    let hi := lo + (← nat)
    return (hi, (acc.2.push lo.toUInt32).push hi.toUInt32)
  return ⟨(← n.foldM range (0, Array.mkEmpty (2 * n))).2⟩

def lexState (sets : Array CharRanges) : Unpack LexState := do
  let accept ← option
  let atEnd ← option
  let moves ← array do
    let chars := sets.getD (← nat) default
    return { chars, target := ← nat, skip := ← bool }
  return { accept, atEnd, moves }

def tables (p : Packed) : Unpack Grammar := do
  let tokenCount ← nat
  let wordToken ← nat
  let symbolCount ← nat
  let scannerTokens ← array (return (← nat) - 1)
  let scannerSets ← array (scannerSet scannerTokens.size)
  let productions ← array production
  let entries ← array entry
  let stateCount ← nat
  let blank : ByteArray := ⟨Array.replicate (2 * symbolCount) 0⟩
  let state := fun (i : Nat) (_ : i < stateCount) (acc : Array (Nat × Nat) × ByteArray) =>
    show Unpack _ from do
      let (mode, rows) ← row symbolCount i blank acc.2
      return (acc.1.push mode, rows)
  let (lexModes, rows) ← stateCount.foldM state
    (Array.mkEmpty stateCount, ByteArray.emptyWithCapacity (2 * stateCount * symbolCount))
  let sets ← array charRanges
  let tokenAutomaton ← array (lexState sets)
  let keywordAutomaton ← array (lexState sets)
  return { name := p.name, symbols := p.symbols.toArray, fieldNames := p.fields.toArray, tokenCount,
           wordToken, symbolCount, scannerTokens, scannerSets, productions, entries, lexModes, rows,
           tokenAutomaton, keywordAutomaton }

/-- The grammar that the packed text describes. -/
def grammar (p : Packed) : Grammar := ((p.tables.run (Varint.bytesOf p.data)).run 0).1

end Packed
end SymbolIndex
