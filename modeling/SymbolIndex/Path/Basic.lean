import SymbolIndex.Text.Basic

/-!
# Paths

A path is kept as it was spelled, and its spelling is a text: names that are not UTF-8 are left out.
What a path means is its list of components: a path that begins with a slash begins at the root,
repeated slashes and dots between slashes mean nothing, and only a dot that a relative path begins with
counts. Two paths are the same if their components are.
-/
namespace SymbolIndex

/-- A step of a path. -/
inductive Component
  | root
  /-- The dot that a path begins with. -/
  | here
  | up
  | name (s : String)
  deriving DecidableEq, Repr, Inhabited

namespace Component

def rank : Component → Nat
  | root => 0
  | here => 1
  | up => 2
  | name _ => 3

/-- Names are ordered as texts, and come after all other components. -/
protected def compare : Component → Component → Ordering
  | name s, name t => compareOfLessAndEq s t
  | a, b => compareOfLessAndEq a.rank b.rank

def text : Component → String
  | root => ""
  | here => "."
  | up => ".."
  | name s => s

/-- What stands between two slashes, if it means anything there. -/
def ofPiece? (s : String) : Option Component :=
  if s = "" ∨ s = "." then none else if s = ".." then some up else some (name s)

def name? : Component → Option String
  | name s => some s
  | _ => none

end Component

/-- A path as it was spelled. -/
structure Path where
  text : String
  deriving DecidableEq, Repr, Inhabited

namespace Path

def isSlash (c : Char) : Bool := c == '/'

def pieces (p : Path) : List String := Text.splitWhere isSlash p.text

def isAbsolute (p : Path) : Bool := p.text.startsWith "/"

def components (p : Path) : List Component :=
  let rest := p.pieces.filterMap Component.ofPiece?
  if p.isAbsolute then .root :: rest
  else if p.pieces.head? = some "." then .here :: rest
  else rest

/-- The shortest spelling of some components. -/
def ofComponents : List Component → Path
  | [.root] => ⟨"/"⟩
  | cs => ⟨"/".intercalate (cs.map Component.text)⟩

/-- Whether two paths have the same components. -/
def Same (p q : Path) : Prop := p.components = q.components

instance (p q : Path) : Decidable (p.Same q) := inferInstanceAs (Decidable (_ = _))

/-- Paths are ordered by their components. -/
protected def compare (p q : Path) : Ordering :=
  List.compareLex Component.compare p.components q.components

def le (p q : Path) : Bool := (p.compare q).isLE

/-- Paths in order. -/
def sorted (ps : List Path) : List Path := ps.mergeSort le

/-- The components of `p` below the directory `dir`, if it is there. -/
def below? (dir p : Path) : Option (List Component) :=
  if dir.components.isPrefixOf p.components then
    some (p.components.drop dir.components.length)
  else none

/-- Whether `p` is `dir` or below it. -/
def isUnder (dir p : Path) : Bool := dir.components.isPrefixOf p.components

/-- The names below the directory `dir`. -/
def namesBelow (dir p : Path) : List String :=
  ((below? dir p).getD []).filterMap Component.name?

/-- The name that a path ends with, unless it ends otherwise. -/
def fileName? (p : Path) : Option String := p.components.getLast?.bind Component.name?

/-- The path without its last component. The root has none. -/
def parent? (p : Path) : Option Path :=
  match p.components.getLast? with
  | none | some .root => none
  | some _ => some (ofComponents p.components.dropLast)

/-- The path `q` as seen from the directory `p`. -/
def join (p q : Path) : Path :=
  if q.isAbsolute || p.text = "" then q
  else if p.text.endsWith "/" then ⟨p.text ++ q.text⟩
  else ⟨p.text ++ "/" ++ q.text⟩

/-- An entry of the directory `p`. -/
def child (p : Path) (name : String) : Path := p.join ⟨name⟩

/-- What follows the last dot of a file name. A dot at the start does not count. -/
def extensionOf? (name : String) : Option String :=
  match (Text.splitWhere (· == '.') name).reverse with
  | last :: before :: more => if before = "" ∧ more = [] then none else some last
  | _ => none

def extension? (p : Path) : Option String := p.fileName?.bind extensionOf?

end Path
end SymbolIndex
