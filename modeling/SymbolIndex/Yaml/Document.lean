import SymbolIndex.Text.Quoted
import SymbolIndex.Yaml.Event
import SymbolIndex.Yaml.Value

/-!
# Documents of YAML texts

`documents` gives the values of the documents of a text up to the first that has none, and why it has
none. A reference stands for the node with its anchor. Two limits keep the work within bounds: how deep
collections nest, and how often references are followed.
-/
namespace SymbolIndex.Yaml

/-- What a scalar with a tag was expected to be. -/
inductive Wanted
  | boolean
  | integer
  | float
  | null
  deriving DecidableEq, Repr

def Wanted.text : Wanted → String
  | boolean => "a boolean"
  | integer => "an integer"
  | float => "a float"
  | null => "null"

/-- Why a node has no value. -/
inductive Refusal
  | duplicateKey (key : Value)
  | mistagged (text : String) (wanted : Wanted)
  /-- A number of more than 64 bits. -/
  | wideInteger (n : Int)
  deriving Repr

namespace Refusal

def keyText : Value → String
  | .null => "with null key"
  | .bool b => s!"with key `{b}`"
  | .natural n => s!"with key {n}"
  | .negative n => s!"with key {n}"
  | .float bits => s!"with key {Value.floatText bits}"
  | .string s => s!"with key {Text.quoted s}"
  | _ => "in YAML map"

def text : Refusal → String
  | duplicateKey key => s!"duplicate entry {keyText key}"
  | mistagged s wanted => s!"invalid value: string {Text.quoted s}, expected {wanted.text}"
  | wideInteger n =>
    let width := if n < 0 then "i128" else "u128"
    s!"invalid type: integer `{n}` as {width}, expected any YAML value"

end Refusal

/-- A step from a node to one inside it. -/
inductive Step
  | item (index : Nat)
  | entry (key : String)
  /-- The value of a key that is no scalar. -/
  | unknown
  deriving DecidableEq, Repr

/-- The way to a node, from the innermost step. -/
abbrev Path := List Step

def pathText : Path → String
  | [] => "."
  | .item i :: rest => s!"{pathText rest}[{i}]"
  | .entry key :: rest => (if rest.isEmpty then "" else pathText rest ++ ".") ++ key
  | .unknown :: rest => (if rest.isEmpty then "" else pathText rest ++ ".") ++ "?"

/-- Why a document has no value. -/
inductive Failure
  | malformed (fault : Fault)
  | unknownAnchor (mark : Mark)
  | tooDeep (mark : Mark)
  | tooManyReferences
  | refused (refusal : Refusal) (mark : Mark) (path : Path)
  /-- The events of the document end too early. -/
  | incomplete

namespace Failure

/-- Where the failure is, if it has a place. -/
def mark? : Failure → Option Mark
  | malformed f => some f.mark
  | unknownAnchor m | tooDeep m | refused _ m _ => some m
  | tooManyReferences | incomplete => none

def placed (text : String) (m : Mark) : String :=
  if m.isOrigin then text else s!"{text} at {m.text}"

def text : Failure → String
  | malformed f => f.text
  | unknownAnchor m => placed "unknown anchor" m
  | tooDeep m => placed "recursion limit exceeded" m
  | tooManyReferences => "repetition limit exceeded"
  | refused r m [] => placed r.text m
  | refused r m path => placed s!"{pathText path}: {r.text}" m
  | incomplete => "EOF while parsing a value"

end Failure

/-! ### From events to documents -/

/-- A node or the end of a collection, with references resolved to the number of an anchor. -/
inductive Piece
  | nothing
  | reference (anchor : Nat)
  | scalar (tag : Option Tag) (text : String) (style : ScalarStyle)
  | sequenceStart (tag : Option Tag)
  | sequenceEnd
  | mappingStart (tag : Option Tag)
  | mappingEnd
  deriving Inhabited

/-- The events of one document, and the failure that cuts it short. -/
structure Document where
  pieces : Array (Piece × Mark)
  /-- Where the anchors' nodes are. An anchor is numbered by how many names there were before. -/
  anchors : List (Nat × Nat)
  failure : Option Failure

namespace Document

/-- What is known while the events of a document are gathered. -/
structure Gathering where
  document : Document
  names : List (String × Nat)

def Gathering.empty : Gathering := ⟨⟨#[], [], none⟩, []⟩

/-- Adds a piece, whose anchor from then on stands for it. -/
def Gathering.add (g : Gathering) (anchor : Option String) (p : Piece) (m : Mark) : Gathering :=
  let d := g.document
  let pieces := d.pieces.push (p, m)
  match anchor with
  | none => { g with document := { d with pieces } }
  | some name =>
    let id := g.names.length
    { document := { d with pieces, anchors := (id, d.pieces.size) :: d.anchors }
      names := (name, id) :: g.names.filter (·.1 ≠ name) }

/-- Gathers the events of a document. There is none at the end of the text, unless it is the first. -/
def gather (first : Bool) : Nat → Gathering → Outline → Option Document × Outline
  | 0, g, o => (some { g.document with failure := some .incomplete }, o)
  | fuel + 1, g, o =>
    match Parse.next.run o with
    | .error f o => (some { g.document with failure := some (.malformed f) }, o)
    | .ok e o =>
      match e.kind with
      | .streamStart | .documentStart => gather first fuel g o
      | .streamEnd =>
        let d := if g.document.pieces.isEmpty then (g.add none .nothing e.mark).document else g.document
        (if first then some d else none, o)
      | .documentEnd => (some g.document, o)
      | .reference name =>
        match g.names.lookup name with
        | some id => gather first fuel (g.add none (.reference id) e.mark) o
        | none => (some { g.document with failure := some (.unknownAnchor e.mark) }, o)
      | .scalar p text style => gather first fuel (g.add p.anchor (.scalar p.tag text style) e.mark) o
      | .sequenceStart p => gather first fuel (g.add p.anchor (.sequenceStart p.tag) e.mark) o
      | .sequenceEnd => gather first fuel (g.add none .sequenceEnd e.mark) o
      | .mappingStart p => gather first fuel (g.add p.anchor (.mappingStart p.tag) e.mark) o
      | .mappingEnd => gather first fuel (g.add none .mappingEnd e.mark) o

end Document

/-! ### From documents to values -/

/-- A tag that makes a value of its own, without its exclamation mark unless that is all. -/
def localTag? (tag : Option Tag) : Option String := do
  let text ← (← tag).text?
  if text.front == '!' && !text.isEmpty then
    some (if text.length > 1 then (text.drop 1).toString else text)
  else none

/-- The value of a plain scalar without a tag. -/
def plainValue (text : String) : Except Refusal Value :=
  if text.isEmpty || isNull text then .ok .null
  else match boolean? text with
  | some b => .ok (.bool b)
  | none =>
    match integer? text with
    | some (.natural n) => .ok (.natural n)
    | some (.integer n) => .ok (if n < 0 then .negative n else .natural n.toNat)
    | some (.wide n) => .error (.wideInteger n)
    | none =>
      match if isPaddedDigits text.toList then none else float? text with
      | some bits => .ok (.float bits)
      | none => .ok (.string text)

/-- The tag of a kind of scalar that is known by name. -/
def coreTag (name : String) : Tag := .ofString s!"tag:yaml.org,2002:{name}"

/-- The value of a scalar; `settled` says that its tag has been dealt with. -/
def scalarValue (settled : Bool) (tag : Option Tag) (text : String) (style : ScalarStyle) :
    Except Refusal Value :=
  let untagged := if style = .plain then plainValue text else .ok (.string text)
  let must (v : Option Value) (wanted : Wanted) : Except Refusal Value :=
    match v with
    | some v => .ok v
    | none => .error (.mistagged text wanted)
  match if settled then none else tag with
  | none => untagged
  | some tag =>
    if tag = coreTag "bool" then must ((boolean? text).map .bool) .boolean
    else if tag = coreTag "int" then
      match integer? text with
      | some (.natural n) => .ok (.natural n)
      | some (.integer n) => .ok (if n < 0 then .negative n else .natural n.toNat)
      | some (.wide n) => .error (.wideInteger n)
      | none => .error (.mistagged text .integer)
    else if tag = coreTag "float" then must ((float? text).map .float) .float
    else if tag = coreTag "null" then must (if isNull text then some .null else none) .null
    else if tag[0]? = some 33 then untagged
    else .ok (.string text)

namespace Document

/-- How deep collections may nest. -/
def depthLimit : Nat := 128

/-- How many references may be followed for each event of a document. -/
def referenceLimit : Nat := 100

/-- Decoding counts the references that were followed. -/
abbrev Decode := StateT Nat (Except Failure)

variable (d : Document)

/-- The piece at a place, or why there is none. -/
def piece (at' : Nat) : Decode (Piece × Mark) :=
  match d.pieces[at']? with
  | some p => return p
  | none => throw (d.failure.getD .incomplete)

/-- Follows a reference to the place of its node. -/
def follow (anchor : Nat) : Decode Nat := do
  let count := (← get) + 1
  set count
  if count > d.pieces.size * referenceLimit then throw .tooManyReferences
  return (d.anchors.lookup anchor).getD 0

/-- The key of an entry as a step. -/
def stepTo : Piece → Step
  | .scalar _ text _ => .entry text
  | _ => .unknown

mutual

/-- The value of the node at a place, and the place after it. `left` counts how much deeper
collections may nest. -/
def value (left : Nat) (path : Path) (at' : Nat) : Decode (Value × Nat) := do
  let (p, m) ← d.piece at'
  match p with
  | .reference anchor =>
    let target ← d.follow anchor
    let (p, m) ← d.piece target
    let (v, _) ← content left path false p m (target + 1)
    return (v, at' + 1)
  | _ => content left path false p m (at' + 1)
  termination_by (left, 3, 0)

/-- The value of a node that is no reference. -/
def content (left : Nat) (path : Path) (settled : Bool) (p : Piece) (m : Mark) (next : Nat) :
    Decode (Value × Nat) := do
  let tag := match p with
    | .scalar t .. | .sequenceStart t | .mappingStart t => if settled then none else localTag? t
    | _ => none
  match tag, settled with
  | some t, false =>
    let (v, next) ← content left path true p m next
    return (.tagged t v, next)
  | _, _ =>
    match p with
    | .scalar tag text style =>
      match scalarValue settled tag text style with
      | .ok v => return (v, next)
      | .error r => throw (.refused r m path)
    | .sequenceStart _ =>
      match left with
      | 0 => throw (.tooDeep m)
      | left + 1 =>
        let (vs, next) ← items left path (d.pieces.size + 1) 0 next #[]
        return (.sequence vs.toList, next)
    | .mappingStart _ =>
      match left with
      | 0 => throw (.tooDeep m)
      | left + 1 =>
        let (es, next) ← entries left path m (d.pieces.size + 1) next #[]
        return (.mapping es.toList, next)
    | _ => return (.null, next)
  termination_by (left, if settled then 1 else 2, 0)

/-- The values up to the end of a sequence. -/
def items (left : Nat) (path : Path) (fuel index at' : Nat) (acc : Array Value) :
    Decode (Array Value × Nat) := do
  match fuel with
  | 0 => throw .incomplete
  | fuel + 1 =>
    match (← d.piece at').1 with
    | .sequenceEnd | .nothing => return (acc, at' + 1)
    | _ =>
      let (v, next) ← value left (.item index :: path) at'
      items left path fuel (index + 1) next (acc.push v)
  termination_by (left, 4, fuel)

/-- The entries up to the end of a mapping. -/
def entries (left : Nat) (path : Path) (m : Mark) (fuel at' : Nat) (acc : Array (Value × Value)) :
    Decode (Array (Value × Value) × Nat) := do
  match fuel with
  | 0 => throw .incomplete
  | fuel + 1 =>
    let (p, _) ← d.piece at'
    match p with
    | .mappingEnd | .nothing => return (acc, at' + 1)
    | _ =>
      let (key, next) ← value left path at'
      if acc.any fun e => e.1.same key then throw (.refused (.duplicateKey key) m path)
      let (v, next) ← value left (stepTo p :: path) next
      entries left path m fuel next (acc.push (key, v))
  termination_by (left, 4, fuel)

end

/-- The value of a document. -/
def toValue : Except Failure Value := do
  let ((v, _), _) ← (d.value depthLimit [] 0).run 0
  match d.failure with
  | some f => throw f
  | none => return v

end Document

/-- The documents of a text from some state on, up to the first failure. -/
def documentsFrom (turns : Nat) : Nat → Bool → Outline → Array Value → Array Value × Option Failure
  | 0, _, _, acc => (acc, none)
  | fuel + 1, first, o, acc =>
    match Document.gather first turns .empty o with
    | (none, _) => (acc, none)
    | (some d, o) =>
      match d.toValue with
      | .ok v => documentsFrom turns fuel false o (acc.push v)
      | .error f => (acc, some f)

/-- The values of the documents of a text up to the first that has none, and why it has none. -/
def documents (s : String) : List Value × Option Failure :=
  let turns := 8 * (s.length + 4)
  let (vs, f) := documentsFrom turns turns true (Parse.start s) #[]
  (vs.toList, f)

end SymbolIndex.Yaml
