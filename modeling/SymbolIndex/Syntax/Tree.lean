import SymbolIndex.Parsing.Extent
import SymbolIndex.Syntax.Position

/-!
# Syntax trees

The tree of a text as its readers see it: every node has a kind and a span, and may carry the label
of the role it plays in its parent. Text that fits no rule is under nodes of kind `ERROR`; a token
that the text lacks is a missing node without width.
-/
namespace SymbolIndex

/-- What is known of a syntax node besides its children. -/
structure SyntaxNode where
  kind : String
  named : Bool
  /-- The role of the node in its parent. -/
  role : Option String
  /-- Whether the node holds text that fits no rule. -/
  isError : Bool
  /-- Whether the node stands for a token that the text lacks. -/
  isMissing : Bool
  /-- Whether something is wrong at or below the node. -/
  hasError : Bool
  start : Extent
  stop : Extent
  deriving DecidableEq, Repr, Inhabited

/-- A syntax node with its children in order. -/
inductive SyntaxTree
  | node (root : SyntaxNode) (children : List SyntaxTree)

namespace SyntaxTree

instance : Inhabited SyntaxTree := ⟨node default []⟩

def root : SyntaxTree → SyntaxNode
  | node r _ => r

def children : SyntaxTree → List SyntaxTree
  | node _ cs => cs

@[simp] theorem root_node (r : SyntaxNode) (cs : List SyntaxTree) : (node r cs).root = r := rfl
@[simp] theorem children_node (r : SyntaxNode) (cs : List SyntaxTree) : (node r cs).children = cs := rfl

def kind (t : SyntaxTree) : String := t.root.kind

/-- Where the node starts. -/
def startPosition (t : SyntaxTree) : Position := ⟨t.root.start.rows + 1, t.root.start.column⟩

/-- Where the node stops. -/
def stopPosition (t : SyntaxTree) : Position := ⟨t.root.stop.rows + 1, t.root.stop.column⟩

/-- The children that are not mere punctuation or keywords. -/
def namedChildren (t : SyntaxTree) : List SyntaxTree := t.children.filter (·.root.named)

/-- The first child in a role. -/
def child? (t : SyntaxTree) (role : String) : Option SyntaxTree :=
  t.children.find? (·.root.role == some role)

/-- All children in a role. -/
def childrenIn (t : SyntaxTree) (role : String) : List SyntaxTree :=
  t.children.filter (·.root.role == some role)

end SyntaxTree
end SymbolIndex
