import SymbolIndex.Yaml.Token.Lexer

/-!
# Events of YAML texts

The structure of a text as a sequence of events: documents, collections and scalars begin and end.
`Parse.next` finds the next event from the tokens ahead and a stack of what is to come after.
-/
namespace SymbolIndex.Yaml

/-- What a node carries besides its content. -/
structure Properties where
  anchor : Option String
  tag : Option Tag
  deriving DecidableEq, Inhabited

inductive EventKind
  | streamStart
  | streamEnd
  | documentStart
  | documentEnd
  | reference (anchor : String)
  | scalar (properties : Properties) (text : String) (style : ScalarStyle)
  | sequenceStart (properties : Properties)
  | sequenceEnd
  | mappingStart (properties : Properties)
  | mappingEnd
  deriving DecidableEq, Inhabited

/-- An event with the place where it starts. -/
structure Event where
  kind : EventKind
  mark : Mark
  deriving DecidableEq, Inhabited

/-- What is expected next. -/
inductive Expected
  | streamStart
  /-- A document, which needs a mark in front of it unless it is the first. -/
  | documentStart (first : Bool)
  | documentContent
  | documentEnd
  | blockNode
  | sequenceEntry (first : Bool)
  | indentlessEntry
  | mappingKey (first : Bool)
  | mappingValue
  | flowEntry (first : Bool)
  | flowPairKey
  | flowPairValue
  | flowPairEnd
  | flowKey (first : Bool)
  | flowValue
  | flowEmptyValue
  deriving DecidableEq, Inhabited

/-- The state between two events. -/
structure Outline where
  reading : Reading
  expected : Expected
  /-- What is expected after the collections being read, innermost first. -/
  pending : List Expected
  /-- Where these collections began. -/
  starts : List Mark
  tagDirectives : List (String × Tag)

abbrev Parse := EStateM Fault Outline

namespace Parse

/-- Runs a step of the scanner. -/
def scan {α : Type} (x : Scan α) : Parse α := fun o =>
  match x.run o.reading with
  | .ok a r => .ok a { o with reading := r }
  | .error f r => .error f { o with reading := r }

def peek : Parse Token := scan Scan.peek

def skip : Parse Unit := scan Scan.advance

def complain {α : Type} (c : Complaint) (m : Mark) (context : Option (Activity × Mark)) : Parse α :=
  throw ⟨c, m, context⟩

def expect (e : Expected) : Parse Unit := modify fun o => { o with expected := e }

def push (e : Expected) : Parse Unit := modify fun o => { o with pending := e :: o.pending }

/-- Goes on with what is expected after the current node. -/
def pop : Parse Unit := modify fun o =>
  { o with expected := o.pending.headD .streamStart, pending := o.pending.tail }

def pushStart (m : Mark) : Parse Unit := modify fun o => { o with starts := m :: o.starts }

/-- Forgets where the current collection began. -/
def popStart : Parse Mark := do
  let o ← get
  set { o with starts := o.starts.tail }
  return o.starts.headD .zero

/-- A scalar that is not there. -/
def emptyScalar (m : Mark) : Parse Event := return ⟨.scalar ⟨none, none⟩ "" .plain, m⟩

/-- Ends a collection. -/
def close (kind : EventKind) (m : Mark) : Parse Event := do
  pop
  let _ ← popStart
  skip
  return ⟨kind, m⟩

/-- Reads the anchor and the tag in front of a node, in either order: the anchor, the handle and the
rest of the tag with its place, and the place of the first. -/
def properties : Parse (Option String × Option (String × Tag × Mark) × Mark) := do
  let t ← peek
  let start := t.start
  match t.lexeme with
  | .anchor name =>
    skip
    let t ← peek
    match t.lexeme with
    | .tag handle rest =>
      skip
      return (some name, some (handle, rest, t.start), start)
    | _ => return (some name, none, start)
  | .tag handle rest =>
    skip
    let tag := some (handle, rest, start)
    match (← peek).lexeme with
    | .anchor name =>
      skip
      return (some name, tag, start)
    | _ => return (none, tag, start)
  | _ => return (none, none, start)

/-- Spells out a tag. -/
def resolveTag (start : Mark) : Option (String × Tag × Mark) → Parse (Option Tag)
  | none => return none
  | some (handle, rest, m) => do
    if handle.isEmpty then return some rest
    match (← get).tagDirectives.lookup handle with
    | some lead => return some (lead ++ rest)
    | none => complain .undefinedTagHandle m (some (.parseNode, start))

/-- Reads a node, or its start. Sequences without indentation are only allowed in block mappings. -/
def node (block indentless : Bool) : Parse Event := do
  let t ← peek
  if let .reference name := t.lexeme then
    pop
    skip
    return ⟨.reference name, t.start⟩
  let (anchor, tag, start) ← properties
  let t ← peek
  let tag ← resolveTag start tag
  let own : Properties := ⟨anchor, tag⟩
  match t.lexeme with
  | .scalar text style =>
    pop
    skip
    let tag := if tag = some (.ofString "!") then none else tag
    return ⟨.scalar ⟨anchor, tag⟩ text style, start⟩
  | .flowSequenceStart =>
    expect (.flowEntry true)
    return ⟨.sequenceStart own, start⟩
  | .flowMappingStart =>
    expect (.flowKey true)
    return ⟨.mappingStart own, start⟩
  | lexeme =>
    if indentless && lexeme = .blockEntry then
      expect .indentlessEntry
      return ⟨.sequenceStart own, start⟩
    else if block && lexeme = .blockSequenceStart then
      expect (.sequenceEntry true)
      return ⟨.sequenceStart own, start⟩
    else if block && lexeme = .blockMappingStart then
      expect (.mappingKey true)
      return ⟨.mappingStart own, start⟩
    else if anchor.isSome || tag.isSome then
      pop
      return ⟨.scalar own "" .plain, start⟩
    else
      complain .missingContent t.start
        (some (if block then .parseBlockNode else .parseFlowNode, start))

/-- Reads the node that is next unless one of the `stops` is, and then goes on with `e`. -/
def nodeUnless (stops : List Lexeme) (e : Expected) (block indentless : Bool)
    (empty : Token → Mark) : Parse Event := do
  let t ← peek
  if stops.contains t.lexeme then
    expect e
    emptyScalar (empty t)
  else
    push e
    node block indentless

/-- Adds a shorthand for tags. -/
def addTagDirective (handle : String) (lead : Tag) (m : Option Mark) : Parse Unit := do
  let o ← get
  if (o.tagDirectives.lookup handle).isSome then
    match m with
    | some m => complain .duplicateTagDirective m none
    | none => pure ()
  else set { o with tagDirectives := o.tagDirectives ++ [(handle, lead)] }

/-- Reads the directives in front of a document. -/
def directives : Nat → Bool → Parse Unit
  | 0, _ => pure ()
  | fuel + 1, versioned => do
    let t ← peek
    match t.lexeme with
    | .versionDirective major minor =>
      if versioned then complain .duplicateVersion t.start none
      if major != 1 || (minor != 1 && minor != 2) then complain .incompatibleVersion t.start none
      skip
      directives fuel true
    | .tagDirective handle lead =>
      addTagDirective handle lead (some t.start)
      skip
      directives fuel versioned
    | _ =>
      addTagDirective "!" (.ofString "!") none
      addTagDirective "!!" (.ofString "tag:yaml.org,2002:") none

def skipDocumentEnds : Nat → Parse Unit
  | 0 => pure ()
  | fuel + 1 => do
    if (← peek).lexeme = .documentEnd then
      skip
      skipDocumentEnds fuel

def isDirective : Lexeme → Bool
  | .versionDirective .. | .tagDirective .. => true
  | _ => false

def documentStart (first : Bool) : Parse Event := do
  let fuel ← scan Scan.turns
  if !first then skipDocumentEnds fuel
  let t ← peek
  if t.lexeme = .streamEnd then
    skip
    return ⟨.streamEnd, t.start⟩
  else if first && !isDirective t.lexeme && t.lexeme ≠ .documentStart then
    directives fuel false
    push .documentEnd
    expect .blockNode
    return ⟨.documentStart, t.start⟩
  else
    directives fuel false
    let mark ← peek
    if mark.lexeme ≠ .documentStart then complain .missingDocumentStart mark.start none
    push .documentEnd
    expect .documentContent
    skip
    return ⟨.documentStart, t.start⟩

/-- Reads the next event. -/
def next : Parse Event := do
  match (← get).expected with
  | .streamStart =>
    let t ← peek
    expect (.documentStart true)
    skip
    return ⟨.streamStart, t.start⟩
  | .documentStart first => documentStart first
  | .documentContent =>
    let t ← peek
    if isDirective t.lexeme || [.documentStart, .documentEnd, .streamEnd].contains t.lexeme then
      pop
      emptyScalar t.start
    else node true false
  | .documentEnd =>
    let t ← peek
    if t.lexeme = .documentEnd then skip
    modify fun o => { o with tagDirectives := [] }
    expect (.documentStart false)
    return ⟨.documentEnd, t.start⟩
  | .blockNode => node true false
  | .sequenceEntry first =>
    if first then
      pushStart (← peek).start
      skip
    let t ← peek
    match t.lexeme with
    | .blockEntry =>
      skip
      nodeUnless [.blockEntry, .blockEnd] (.sequenceEntry false) true false fun _ => t.stop
    | .blockEnd => close .sequenceEnd t.start
    | _ => complain .missingEntry t.start (some (.parseBlockCollection, ← popStart))
  | .indentlessEntry =>
    let t ← peek
    match t.lexeme with
    | .blockEntry =>
      skip
      nodeUnless [.blockEntry, .key, .value, .blockEnd] .indentlessEntry true false fun _ => t.stop
    | _ =>
      pop
      return ⟨.sequenceEnd, t.start⟩
  | .mappingKey first =>
    if first then
      pushStart (← peek).start
      skip
    let t ← peek
    match t.lexeme with
    | .key =>
      skip
      nodeUnless [.key, .value, .blockEnd] .mappingValue true true fun _ => t.stop
    | .blockEnd => close .mappingEnd t.start
    | _ => complain .missingKey t.start (some (.parseBlockMapping, ← popStart))
  | .mappingValue =>
    let t ← peek
    match t.lexeme with
    | .value =>
      skip
      nodeUnless [.key, .value, .blockEnd] (.mappingKey false) true true fun _ => t.stop
    | _ =>
      expect (.mappingKey false)
      emptyScalar t.start
  | .flowEntry first =>
    if first then
      pushStart (← peek).start
      skip
    let t ← peek
    if t.lexeme = .flowSequenceEnd then return ← close .sequenceEnd t.start
    if !first then
      if t.lexeme = .flowEntry then skip
      else complain .missingSequenceEnd t.start (some (.parseFlowSequence, ← popStart))
    let t ← peek
    match t.lexeme with
    | .key =>
      expect .flowPairKey
      skip
      return ⟨.mappingStart ⟨none, none⟩, t.start⟩
    | .flowSequenceEnd => close .sequenceEnd t.start
    | _ =>
      push (.flowEntry false)
      node false false
  | .flowPairKey =>
    let t ← peek
    if [.value, .flowEntry, .flowSequenceEnd].contains t.lexeme then
      skip
      expect .flowPairValue
      emptyScalar t.stop
    else
      push .flowPairValue
      node false false
  | .flowPairValue =>
    let t ← peek
    if t.lexeme = .value then
      skip
      nodeUnless [.flowEntry, .flowSequenceEnd] .flowPairEnd false false (·.start)
    else
      expect .flowPairEnd
      emptyScalar t.start
  | .flowPairEnd =>
    let t ← peek
    expect (.flowEntry false)
    return ⟨.mappingEnd, t.start⟩
  | .flowKey first =>
    if first then
      pushStart (← peek).start
      skip
    let t ← peek
    if t.lexeme = .flowMappingEnd then return ← close .mappingEnd t.start
    if !first then
      if t.lexeme = .flowEntry then skip
      else complain .missingMappingEnd t.start (some (.parseFlowMapping, ← popStart))
    let t ← peek
    match t.lexeme with
    | .key =>
      skip
      nodeUnless [.value, .flowEntry, .flowMappingEnd] .flowValue false false (·.start)
    | .flowMappingEnd => close .mappingEnd t.start
    | _ =>
      push .flowEmptyValue
      node false false
  | .flowValue =>
    let t ← peek
    if t.lexeme = .value then
      skip
      nodeUnless [.flowEntry, .flowMappingEnd] (.flowKey false) false false (·.start)
    else
      expect (.flowKey false)
      emptyScalar t.start
  | .flowEmptyValue =>
    let t ← peek
    expect (.flowKey false)
    emptyScalar t.start

/-- The state before the events of a text. -/
def start (s : String) : Outline := ⟨.ofText s, .streamStart, [], [], []⟩

end Parse
end SymbolIndex.Yaml
