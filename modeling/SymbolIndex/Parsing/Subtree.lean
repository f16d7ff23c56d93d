import SymbolIndex.Grammar.Basic
import SymbolIndex.Parsing.Extent
import SymbolIndex.Parsing.Scanner

/-!
# Subtrees

The pieces a parser works with: tokens and the nodes built from them, hidden ones included, each with
a digest of what it holds. The digest counts what went wrong below (its cost) so that competing
readings of a text can be compared.
-/
namespace SymbolIndex

/-! ## The costs of what goes wrong -/

namespace Cost

def recovery : Nat := 500
def missing : Nat := 110
def skippedTree : Nat := 100
def skippedByte : Nat := 1
def skippedLine : Nat := 30

end Cost

/-- What is known of a subtree without looking at its children. -/
structure Digest where
  symbol : SymbolId
  production : Nat
  /-- The white space before the subtree. -/
  padding : Extent
  size : Extent
  visible : Bool
  named : Bool
  /-- Whether the subtree may stand anywhere, as comments do. -/
  extra : Bool
  /-- Whether the token is not in the text but was supposed to be. -/
  missing : Bool
  /-- Whether the token also spells a keyword. -/
  keyword : Bool
  cost : Nat
  precedence : Int
  visibleDescendants : Nat
  visibleChildren : Nat
  /-- The parse state in which a token was read. -/
  state : StateId
  /-- Whether the token comes from the scanner. -/
  scanned : Bool
  /-- What the scanner remembers after the token. -/
  scannerState : ScannerState
  /-- Whether the scanner remembers something new after the subtree. -/
  scannerChanged : Bool
  deriving Inhabited

/-- A token or a node with its children. -/
inductive Subtree
  | mk (digest : Digest) (children : Array Subtree)

namespace Subtree

def digest : Subtree → Digest
  | mk d _ => d

def children : Subtree → Array Subtree
  | mk _ cs => cs

instance : Inhabited Subtree := ⟨mk default #[]⟩

def symbol (t : Subtree) : SymbolId := t.digest.symbol
def isLeaf (t : Subtree) : Bool := t.children.isEmpty
def isError (t : Subtree) : Bool := t.symbol == errorSymbol
def extra (t : Subtree) : Bool := t.digest.extra
def visible (t : Subtree) : Bool := t.digest.visible
def cost (t : Subtree) : Nat := t.digest.cost
def precedence (t : Subtree) : Int := if t.isLeaf then 0 else t.digest.precedence

/-- The extent of the subtree with the white space before it. -/
def total (t : Subtree) : Extent := t.digest.padding ++ t.digest.size

def withExtra (t : Subtree) (extra : Bool) : Subtree :=
  mk { t.digest with extra } t.children

/-- Progress that a subtree stands for: its visible nodes and the pieces skipped in errors. -/
def nodeCount (t : Subtree) : Nat :=
  t.digest.visibleDescendants + (if t.visible then 1 else 0)
    + (if t.symbol = errorRepeatSymbol then 1 else 0)

variable (g : Grammar)

/-- A token. The end of the text may stand anywhere. -/
def token (symbol : SymbolId) (padding size : Extent) (state : StateId) : Subtree :=
  let s := g.symbol symbol
  mk { (default : Digest) with
       symbol, padding, size, state, visible := s.isVisible, named := s.isNamed,
       extra := symbol == 0 } #[]

/-- A token that the text lacks. -/
def missingToken (symbol : SymbolId) : Subtree :=
  let t := token g symbol .zero .zero 0
  mk { t.digest with missing := true, cost := Cost.missing + Cost.recovery } #[]

/-- Reads a keyword as the token whose spellings include it. -/
def asWord (t : Subtree) : Subtree :=
  let s := g.symbol g.wordToken
  mk { t.digest with symbol := g.wordToken, visible := s.isVisible, named := s.isNamed } t.children

/-- Adds a child to a digest; the counter is the number of children that are not extra. -/
def addChild (aliases : Array SymbolId) (acc : Digest × Nat) (child : Subtree) : Digest × Nat :=
  let (d, index) := acc
  let c := child.digest
  let inError := d.symbol = errorSymbol ∨ d.symbol = errorRepeatSymbol
  let skipped : Nat :=
    if inError ∧ !c.extra ∧ !(child.isError && child.isLeaf) then
      if c.visible then Cost.skippedTree
      else if child.isLeaf then 0
      else Cost.skippedTree * c.visibleChildren
    else 0
  let ownCost := if c.symbol = errorRepeatSymbol then 0 else c.cost
  let renamed := !c.extra && aliases.getD index 0 != 0
  let (children, descendants) : Nat × Nat :=
    if renamed || c.visible then (1, 1) else if child.isLeaf then (0, 0) else (c.visibleChildren, 0)
  ({ d with
     cost := d.cost + ownCost + skipped
     precedence := d.precedence + child.precedence
     visibleDescendants := d.visibleDescendants + c.visibleDescendants + descendants
     visibleChildren := d.visibleChildren + children
     scannerChanged := d.scannerChanged || c.scannerChanged },
   if c.extra then index else index + 1)

/-- A node over its children. -/
def node (symbol : SymbolId) (children : Array Subtree) (production : Nat) : Subtree :=
  let s := g.symbol symbol
  let (padding, size) := match children[0]? with
    | some first =>
      (first.digest.padding,
       children.foldl (fun size c => size ++ c.total) first.digest.size 1)
    | none => (.zero, .zero)
  let start : Digest :=
    { (default : Digest) with
      symbol, production, padding, size, visible := s.isVisible, named := s.isNamed }
  let (d, _) := children.foldl (addChild (g.production production).aliases) (start, 0)
  let d :=
    if symbol = errorSymbol ∨ symbol = errorRepeatSymbol then
      { d with cost := d.cost + Cost.recovery + Cost.skippedByte * d.size.bytes
                        + Cost.skippedLine * d.size.rows }
    else d
  mk d children

def withPrecedence (t : Subtree) (precedence : Int) : Subtree :=
  mk { t.digest with precedence := t.digest.precedence + precedence } t.children

/-- A node for text that no production accounts for. -/
def errorNode (children : Array Subtree) (extra : Bool) : Subtree :=
  (node g errorSymbol children 0).withExtra extra

/-- Splits off the extras at the end. -/
def splitTrailingExtras (ts : Array Subtree) : Array Subtree × Array Subtree :=
  let extras := (ts.toList.reverse.takeWhile extra).length
  (ts.extract 0 (ts.size - extras), ts.extract (ts.size - extras) ts.size)

/-- Orders subtrees by symbol and number of children, top down and left to right. -/
def compare : Nat → List (Subtree × Subtree) → Ordering
  | 0, _ => .eq
  | _ + 1, [] => .eq
  | fuel + 1, (l, r) :: rest =>
    match (Ord.compare l.symbol r.symbol).then (Ord.compare l.children.size r.children.size) with
    | .eq => compare fuel ((l.children.toList.zip r.children.toList) ++ rest)
    | o => o

/-- Whether two subtrees between the same places need not both be kept. -/
def equivalent (a b : Subtree) : Bool :=
  a.symbol == b.symbol &&
    ((a.cost > 0 && b.cost > 0) ||
      (a.digest.padding.bytes == b.digest.padding.bytes
        && a.digest.size.bytes == b.digest.size.bytes
        && a.children.size == b.children.size
        && a.extra == b.extra
        && a.digest.scannerState == b.digest.scannerState))

end Subtree
end SymbolIndex
