import SymbolIndex.Parsing.Subtree
import SymbolIndex.Syntax.Tree

/-!
# From subtrees to syntax trees

Hidden nodes give way to their children, which take over the role of the hidden node where they have
none of their own. Productions rename children and give them roles.
-/
namespace SymbolIndex

namespace Production

/-- The role that the production itself gives to a child. -/
def role? (p : Production) (child : Nat) : Option Nat :=
  (p.fields.find? fun f => !f.inherited && f.child == child).map (·.field)

end Production

namespace Subtree

/-- How a subtree is shown by its parent. -/
structure Showing where
  /-- The symbol it is shown under, or 0 for its own. -/
  shownAs : SymbolId
  role : Option Nat
  deriving Inhabited

mutual

/-- The syntax trees that a subtree at a position stands for, before those in `acc`. -/
def shown (g : Grammar) (t : Subtree) (at' : Extent) (how : Showing) (acc : List SyntaxTree) :
    List SyntaxTree :=
  match t with
  | .mk d cs =>
    let start := at' ++ d.padding
    let production := g.production d.production
    if how.shownAs ≠ 0 ∨ d.visible then
      let symbol := if how.shownAs ≠ 0 then how.shownAs else d.symbol
      let s := g.symbol symbol
      let root : SyntaxNode :=
        { kind := s.name, named := s.isNamed, role := how.role.map g.fieldName
          isError := d.symbol == errorSymbol, isMissing := d.missing, hasError := d.cost > 0
          start, stop := start ++ d.size }
      .node root (shownAll g production none cs at' 0 []) :: acc
    else shownAll g production how.role cs at' 0 acc

/-- The syntax trees of the children of a node. -/
def shownAll (g : Grammar) (p : Production) (outer : Option Nat) (ts : Array Subtree) (at' : Extent)
    (index : Nat) (acc : List SyntaxTree) : List SyntaxTree :=
  match ts with
  | ⟨l⟩ => shownList g p outer l at' index acc

/-- The syntax trees of the children from number `index` on, extras not counted. -/
def shownList (g : Grammar) (p : Production) (outer : Option Nat) (ts : List Subtree) (at' : Extent)
    (index : Nat) (acc : List SyntaxTree) : List SyntaxTree :=
  match ts with
  | [] => acc
  | t :: ts =>
    let extra := t.extra
    let how : Showing :=
      if extra then ⟨0, none⟩ else ⟨p.aliases.getD index 0, p.role? index <|> outer⟩
    let rest := shownList g p outer ts (at' ++ t.total) (if extra then index else index + 1) acc
    shown g t at' how rest

end

/-- The syntax tree of a whole text. -/
def toSyntax (g : Grammar) (t : Subtree) : SyntaxTree :=
  (shown g t .zero ⟨0, none⟩ []).headD default

end Subtree
end SymbolIndex
