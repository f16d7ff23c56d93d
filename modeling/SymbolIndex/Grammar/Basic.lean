/-!
# Grammar tables

A `Grammar` is everything a table-driven parser knows about a language: its symbols, the actions of
every parse state, the automata that cut the text into tokens, and how the children of a production
are renamed and labelled. All look-ups are total: outside the tables there is nothing to do.
-/
namespace SymbolIndex

/-- How a symbol shows in the syntax tree. -/
inductive Visibility
  | hidden
  | anonymous
  | named
  deriving DecidableEq, Repr, Inhabited

/-- A symbol of a grammar: its name and how it shows. -/
structure GrammarSymbol where
  name : String
  visibility : Visibility
  deriving DecidableEq, Repr, Inhabited

namespace GrammarSymbol

def named (name : String) : GrammarSymbol := ⟨name, .named⟩
def anonymous (name : String) : GrammarSymbol := ⟨name, .anonymous⟩
def hidden (name : String) : GrammarSymbol := ⟨name, .hidden⟩

def isVisible (s : GrammarSymbol) : Bool := s.visibility != .hidden
def isNamed (s : GrammarSymbol) : Bool := s.visibility == .named

end GrammarSymbol

/-- A symbol by its number. Number 0 is the end of the text. -/
abbrev SymbolId := Nat

/-- A parse state by its number. State 0 is the error state and state 1 the start. -/
abbrev StateId := Nat

/-- The symbol of a node that holds text no production accounts for. -/
def errorSymbol : SymbolId := 65535

/-- The hidden symbol that strings skipped pieces together inside an error. -/
def errorRepeatSymbol : SymbolId := 65534

/-- What a parse state does with a token. -/
inductive Action
  /-- Move to a state; a repeated shift only marks the ambiguity of a repetition. -/
  | shift (state : StateId) (repetition : Bool)
  /-- Take the token without changing state. -/
  | shiftExtra
  | reduce (symbol : SymbolId) (count : Nat) (precedence : Int) (production : Nat)
  | accept
  | recover
  deriving DecidableEq, Repr, Inhabited

/-- The actions for one token in one state. -/
structure ActionEntry where
  /-- Whether a token read in another state may be taken here. -/
  reusable : Bool
  actions : Array Action
  deriving Inhabited

namespace ActionEntry

def empty : ActionEntry := ⟨false, #[]⟩

/-- Whether the first action is a reduction. -/
def startsWithReduce (e : ActionEntry) : Bool :=
  match e.actions[0]? with
  | some (Action.reduce ..) => true
  | _ => false

/-- Whether the last action takes the token without changing state. -/
def endsWithExtra (e : ActionEntry) : Bool :=
  e.actions.back? == some .shiftExtra

end ActionEntry

/-- A field of a production: the child it labels, or the hidden child that brings it. -/
structure FieldMapping where
  field : Nat
  child : Nat
  inherited : Bool
  deriving Repr, Inhabited

/-- How the children of one production are renamed and labelled. -/
structure Production where
  /-- The symbol a child is shown as, by position; 0 keeps the child's own. -/
  aliases : Array SymbolId
  fields : Array FieldMapping
  deriving Inhabited

/-- Sorted, disjoint, inclusive ranges of code points, flattened to `lo, hi, lo, hi, …`. -/
structure CharRanges where
  bounds : Array UInt32
  deriving Inhabited

namespace CharRanges

/-- Whether `c` lies in one of the ranges from pair `lo` up to, but not including, pair `hi`. -/
def search (r : CharRanges) (c : UInt32) : Nat → Nat → Nat → Bool
  | 0, _, _ => false
  | fuel + 1, lo, hi =>
    if lo < hi then
      let mid := (lo + hi) / 2
      if c < r.bounds.getD (2 * mid) 0 then r.search c fuel lo mid
      else if r.bounds.getD (2 * mid + 1) 0 < c then r.search c fuel (mid + 1) hi
      else true
    else false

def contains (r : CharRanges) (c : UInt32) : Bool :=
  r.search c (r.bounds.size + 1) 0 (r.bounds.size / 2)

/-- Whether the ranges reach the last code point, as those of a negated class do. -/
def isOpen (r : CharRanges) : Bool := r.bounds.back? == some 0x10FFFF

end CharRanges

/-- A move of a token automaton; a skipping move leaves the character out of the token. -/
structure LexMove where
  chars : CharRanges
  target : Nat
  skip : Bool
  deriving Inhabited

/-- A state of a token automaton. -/
structure LexState where
  accept : Option SymbolId
  atEnd : Option Nat
  moves : Array LexMove
  deriving Inhabited

namespace LexState

/-- The move on a character. A negated class never takes the NUL character. -/
def move? (s : LexState) (c : UInt32) : Option LexMove :=
  s.moves.find? fun m => m.chars.contains c && !(c == 0 && m.chars.isOpen)

end LexState

/-- The tables of one language. -/
structure Grammar where
  name : String
  symbols : Array GrammarSymbol
  /-- How many symbols are not merely names that other symbols are shown under. -/
  symbolCount : Nat
  /-- How many symbols are tokens; these come first. -/
  tokenCount : Nat
  /-- The token whose spellings include the keywords; 0 if there is none. -/
  wordToken : SymbolId
  fieldNames : Array String
  /-- The symbol of each token that the language's scanner knows. -/
  scannerTokens : Array SymbolId
  /-- Sets of scanner tokens, each as one flag per token. -/
  scannerSets : Array (Array Bool)
  productions : Array Production
  entries : Array ActionEntry
  /-- For each state the states of the token automaton and of the scanner. -/
  lexModes : Array (Nat × Nat)
  /-- Two bytes for each state and symbol. -/
  rows : ByteArray
  tokenAutomaton : Array LexState
  keywordAutomaton : Array LexState
  deriving Inhabited

namespace Grammar

/-- The table cell of a state and a symbol: an action entry for a token, else the next state. -/
def cell (g : Grammar) (state : StateId) (symbol : SymbolId) : Nat :=
  let i := 2 * (state * g.symbolCount + symbol)
  if symbol < g.symbolCount ∧ i + 1 < g.rows.size then
    (g.rows.get! i).toNat + 256 * (g.rows.get! (i + 1)).toNat
  else 0

def symbol (g : Grammar) (s : SymbolId) : GrammarSymbol :=
  if s = errorSymbol then .named "ERROR"
  else if s = errorRepeatSymbol then .hidden "_ERROR"
  else g.symbols.getD s (.hidden "")

/-- The actions of `state` on the token `symbol`; there are none on an error. -/
def actions (g : Grammar) (state : StateId) (symbol : SymbolId) : ActionEntry :=
  if symbol < g.tokenCount then
    match g.cell state symbol with
    | 0 => .empty
    | n + 1 => g.entries.getD n .empty
  else .empty

def hasActions (g : Grammar) (state : StateId) (symbol : SymbolId) : Bool :=
  g.cell state symbol != 0

/-- The state after `symbol` has been shifted in `state`; 0 if it cannot be. -/
def next (g : Grammar) (state : StateId) (symbol : SymbolId) : StateId :=
  if symbol < g.tokenCount then
    match (g.actions state symbol).actions.back? with
    | some (.shift s _) => s
    | some .shiftExtra => state
    | _ => 0
  else if symbol = errorSymbol ∨ symbol = errorRepeatSymbol then 0
  else g.cell state symbol

def lexMode (g : Grammar) (state : StateId) : Nat × Nat := g.lexModes.getD state (0, 0)

def production (g : Grammar) (p : Nat) : Production := g.productions.getD p ⟨#[], #[]⟩

def fieldName (g : Grammar) (f : Nat) : String := g.fieldNames.getD f ""

end Grammar
end SymbolIndex
