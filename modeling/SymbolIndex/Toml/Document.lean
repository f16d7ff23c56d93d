import SymbolIndex.Toml.Text

/-!
# TOML documents

A document is a sequence of statements: entries, and headers that say to which table the entries after
them belong. A key must not be given twice, and a table must not be opened again by other means than
those that opened it.
-/
namespace SymbolIndex.Toml

open Reader

/-- How deep values may lie in each other. -/
def depthLimit : Nat := 80

def isBareKeyChar (c : Char) : Bool := c.isAlphanum || c == '_' || c == '-'

def keyText : Reader String := do
  match ← peek with
  | some '"' => basicString
  | some '\'' => literalString
  | some _ => do return String.ofList (← some_ isBareKeyChar)
  | none => none_ .plain

def simpleKey : Reader Key := do
  let ((name, raw), span) ← spanned (withText keyText)
  return ⟨name, String.ofList raw, span⟩

/-- Keys with dots between them. -/
def dottedKey : Reader (List Key) :=
  reading "key" (check (separated1 (do spaces; let k ← simpleKey; spaces; return k) (char '.'))
    fun ks => if depthLimit ≤ ks.length then .error (.because "recursion limit exceeded") else .ok ks)

def comment : Reader Unit := do
  char '#'
  let _ ← all isPlain

/-- The end of a line or of the text. -/
def lineEnd : Reader Unit := orElse newline finish

/-- What may follow a statement on its line. -/
def trailing : Reader Unit :=
  orExpected ["newline", "`#`"] do
    spaces
    let _ ← optional comment
    lineEnd

def arraySpaceLoop : Nat → Reader Unit
  | 0 => pure ()
  | fuel + 1 => do
    spaces
    match ← peek with
    | some '#' => do comment; newline; arraySpaceLoop fuel
    | some '\n' | some '\r' => do newline; arraySpaceLoop fuel
    | _ => pure ()

/-- Spaces, comments and line ends between the items of an array. -/
def arraySpace : Reader Unit := fun i => arraySpaceLoop (i.rest.length + 1) i

/-- Reads one of the words of TOML that its first letter tells. -/
def word (s : String) : Reader Unit := committed (text s)

/-- The keys of a table that it may have from a key with dots only once. -/
def duplicate (key : String) : Fault := .because s!"duplicate key `{key}`"

/-- A key on the way to a value stands for something that is no table. -/
def wrongType (path : List Key) (typeName : String) : Fault :=
  let key := ".".intercalate (path.map (·.name))
  .because s!"dotted key `{key}` attempted to extend non-table type ({typeName})"

/-- Adds a value to the entries of a table between braces; `way` is the key up to its last part, of
which `done` is the part that leads to the table. -/
def insertInline (dotted : Bool) (entries : List (Key × Value)) (done way : List Key) (key : Key)
    (v : Value) : Except Fault (List (Key × Value)) :=
  match way with
  | [] =>
    if dotted == done.isEmpty then .error (duplicate key.name)
    else if entries.any (·.1.name = key.name) then .error (duplicate key.name)
    else .ok (entries ++ [(key, v)])
  | k :: rest =>
    match entries.find? (·.1.name = k.name) with
    | none => do
      let inner ← insertInline true [] (done ++ [k]) rest key v
      return entries ++ [(k, .inlineTable true inner)]
    | some (_, .inlineTable inner es) =>
      if !inner then .error (duplicate k.name)
      else do
        let es ← insertInline true es (done ++ [k]) rest key v
        return entries.map fun e => if e.1.name = k.name then (e.1, .inlineTable true es) else e
    | some (_, other) => .error (wrongType (done ++ [k]) other.typeName)

/-- The table between braces that has some entries. -/
def inlineTableOf (entries : List (List Key × Value)) : Except Fault Value := do
  let es ← entries.foldlM (fun es (path, v) =>
    insertInline false es [] path.dropLast (path.getLastD default) v) []
  return .inlineTable false es

/-- The equals sign after a key, and the value. -/
def afterKey {α : Type} (value : Reader α) (closing : Reader Unit) : Reader α :=
  committed do
    orExpected ["`.`", "`=`"] (char '=')
    spaces
    let v ← value
    closing
    return v

/-- Reads a value; `depth` more values may lie in each other. -/
def value (depth : Nat) : Reader (Value × Span) :=
  spanned do
    match ← peek with
    | some '"' | some '\'' => return .string (← string)
    | some '[' =>
      match depth with
      | 0 | 1 => fun i => .fail (.because "recursion limit exceeded") i
      | depth + 2 => do
        char '['
        let items ← committed do
          if ← looksLike "]" then return []
          let items ← separated (do arraySpace; let v ← value (depth + 1); arraySpace; return v)
            (char ',')
          if !items.isEmpty then
            let _ ← optional (char ',')
          arraySpace
          return items
        orExpected ["`]`"] (reading "array" (committed (char ']')))
        return .array items
    | some '\x7b' =>
      match depth with
      | 0 | 1 => fun i => .fail (.because "recursion limit exceeded") i
      | depth + 2 => do
        char '\x7b'
        let entries := separated
          (do let k ← dottedKey; let (v, _) ← afterKey (value (depth + 1)) spaces; return (k, v))
          (char ',')
        let v ← committed (check (do let es ← entries; spaces; return es) inlineTableOf)
        orExpected ["`\x7d`"] (reading "inline table" (committed (char '\x7d')))
        return v
    | some 't' => do orExpected ["`true`"] (word "true"); return .boolean true
    | some 'f' => do orExpected ["`false`"] (word "false"); return .boolean false
    | some 'i' => do orExpected ["`inf`"] (text "inf"); return .float Decimal.infinityBits
    | some 'n' => do orExpected ["`nan`"] (text "nan"); return .float Decimal.nanBits
    | some '_' => return .integer (← orExpected ["leading digit"] integer)
    | some '.' => return .float (← orExpected ["leading digit"] float)
    | some c =>
      if isSign c || isDigit c then
        orElse (do let (_, cs) ← withText dateTime; return .dateTime (String.ofList cs))
          (orElse (do return .float (← float)) (do return .integer (← integer)))
      else orExpected ["`\"`", "`'`"] (reading "string" (none_ .plain))
    | none => none_ .plain
  termination_by depth

/-- A line of a document. -/
inductive Statement
  | entry (path : List Key) (v : Value) (span : Span)
  | header (path : List Key) (span : Span)
  /-- The header of one more table of an array. -/
  | arrayHeader (path : List Key) (span : Span)

def entry : Reader Statement := do
  let path ← dottedKey
  let (v, span) ← afterKey (value depthLimit) trailing
  return .entry path v span

def headerWith (opening closing : String) : Reader (List Key × Span) := do
  let r ← spanned do
    text opening
    let path ← committed dottedKey
    orExpected ["`.`", s!"`{closing}`"] (committed (text closing))
    return path
  committed trailing
  return r

/-- A table under construction. -/
structure State where
  /-- The finished tables. -/
  root : Item
  /-- The table that entries are added to. -/
  current : Item
  path : List Key
  isArray : Bool

namespace State

def emptyTable (span : Option Span) : Item := .table false false span []

def initial : State := ⟨emptyTable none, emptyTable none, [], false⟩

/-- Replaces what a key stands for, or adds it as the last one. -/
def put (entries : List (Key × Item)) (key : Key) (i : Item) : List (Key × Item) :=
  if entries.any (·.1.name = key.name) then
    entries.map fun e => if e.1.name = key.name then (e.1, i) else e
  else entries ++ [(key, i)]

def find? (entries : List (Key × Item)) (key : Key) : Option Item :=
  (entries.find? (·.1.name = key.name)).map (·.2)

/-- Changes the table that a path leads to; tables that are not there are implied by it. In an array
of tables the last one is meant. -/
def update (dotted : Bool) (f : Item → Except Fault Item) (done : List Key) :
    Item → List Key → Except Fault Item
  | t, [] => f t
  | t, k :: rest =>
    let set (i : Item) : Item := match t with
      | .table implicit isDotted span es => .table implicit isDotted span (put es k i)
      | other => other
    match find? t.entries k with
    | none => do return set (← update dotted f (done ++ [k]) (.table true dotted none []) rest)
    | some (.value v _) => .error (wrongType (done ++ [k]) v.typeName)
    | some (.tables items) => do
      let last ← update dotted f (done ++ [k]) (items.getLastD (emptyTable none)) rest
      return set (.tables (items.dropLast ++ [last]))
    | some (.table implicit isDotted span es) =>
      if dotted && !implicit then .error (duplicate k.name)
      else do return set (← update dotted f (done ++ [k]) (.table implicit isDotted span es) rest)

/-- A key that the table at a path already has. -/
def duplicateIn (path : List Key) (key : String) : Fault :=
  if path.isEmpty then .because s!"duplicate key `{key}` in document root"
  else
    let table := ".".intercalate (path.map (·.raw))
    .because s!"duplicate key `{key}` in table `{table}`"

/-- Adds an entry to the table under construction. -/
def addEntry (s : State) (path : List Key) (v : Value) (span : Span) : Except Fault State := do
  let way := path.dropLast
  let key := path.getLastD default
  let widened := match s.current with
    | .table implicit dotted (some sp) es => .table implicit dotted (some ⟨sp.start, span.stop⟩) es
    | t => t
  let current ← update true (fun t =>
    if t.isDotted == way.isEmpty then .error (duplicate key.name)
    else if (find? t.entries key).isSome then .error (duplicateIn s.path key.name)
    else match t with
      | .table implicit dotted sp es => .ok (.table implicit dotted sp (es ++ [(key, .value v span)]))
      | other => .ok other) [] widened way
  return { s with current }

/-- Puts the table under construction in its place. -/
def finishTable (s : State) : Except Fault Item :=
  if s.path.isEmpty then .ok s.current
  else
    let key := s.path.getLastD default
    update false (fun t =>
      match t with
      | .table implicit dotted sp es =>
        if s.isArray then
          match find? es key with
          | some (.tables items) =>
            .ok (.table implicit dotted sp (put es key (.tables (items ++ [s.current]))))
          | none => .ok (.table implicit dotted sp (put es key (.tables [s.current])))
          | some _ => .error (duplicateIn s.path.dropLast key.raw)
        else .ok (.table implicit dotted sp (put es key s.current))
      | other => .ok other) [] s.root s.path.dropLast

/-- What the last key of a path stands for in the table that the others lead to. -/
def lookup? (t : Item) : List Key → Option Item
  | [] => some t
  | k :: rest =>
    match find? t.entries k with
    | some (.tables items) => if rest.isEmpty then some (.tables items)
      else lookup? (items.getLastD (emptyTable none)) rest
    | some i => lookup? i rest
    | none => none

/-- Starts the table of a header. A table that was only implied so far goes on. -/
def openTable (s : State) (path : List Key) (span : Span) : Except Fault State := do
  let root ← s.finishTable
  let key := path.getLastD default
  let way := path.dropLast
  let root ← update false (fun t => .ok t) [] root way
  let taken : Except Fault (List (Key × Item)) := match lookup? root path with
    | none => .ok []
    | some (.table true false _ es) => .ok es
    | some _ => .error (duplicateIn way key.raw)
  let es ← taken
  let root ← update false (fun t => match t with
    | .table implicit dotted sp es =>
      .ok (.table implicit dotted sp (es.filter (·.1.name ≠ key.name)))
    | other => .ok other) [] root way
  return ⟨root, .table false false (some span) es, path, false⟩

/-- Starts one more table of an array. -/
def openArrayTable (s : State) (path : List Key) (span : Span) : Except Fault State := do
  let root ← s.finishTable
  let key := path.getLastD default
  let root ← update false (fun t => match t with
    | .table implicit dotted sp es =>
      match find? es key with
      | some (.tables _) => .ok t
      | none => .ok (.table implicit dotted sp (put es key (.tables [])))
      | some _ => .error (duplicateIn path.dropLast key.raw)
    | other => .ok other) [] root path.dropLast
  return ⟨root, .table false false (some span) [], path, true⟩

end State

/-- Takes in a statement; one that will not do is missed at its start. -/
def State.apply (s : State) : Statement → Except Fault State
  | .entry path v span => s.addEntry path v span
  | .header path span => s.openTable path span
  | .arrayHeader path span => s.openArrayTable path span

/-- A header, taken in. -/
def headerLine (s : State) : Reader State := do
  let two ← looksLike "[["
  reading "table header" fun i =>
    if i.rest.length < 2 && Text.byteSize i.rest < 2 then .miss .plain i
    else if two then
      check (headerWith "[[" "]]") (fun (path, span) => s.openArrayTable path span) i
    else check (headerWith "[" "]") (fun (path, span) => s.openTable path span) i

/-- One line of a document, taken in. -/
def line (s : State) : Reader State := do
  match ← peek with
  | none => none_ .plain
  | some '#' => committed do comment; lineEnd; return s
  | some '[' => committed (headerLine s)
  | some '\n' | some '\r' => do newline; return s
  | some _ => committed (check entry s.apply)

def documentLoop : Nat → State → Input → Outcome State
  | 0, s, i => .ok s i
  | fuel + 1, s, i =>
    match (do let s ← line s; spaces; return s : Reader State) i with
    | .ok s left => documentLoop fuel s left
    | .miss _ _ => .ok s i
    | .fail e left => .fail e left

/-- Reads a document to its end. -/
def document : Reader Item := do
  let _ ← optional (char '\uFEFF')
  spaces
  let s ← fun i => documentLoop (i.rest.length + 1) .initial i
  finish
  fun i => match s.finishTable with
    | .ok root => .ok root i
    | .error e => .fail e i

end SymbolIndex.Toml
