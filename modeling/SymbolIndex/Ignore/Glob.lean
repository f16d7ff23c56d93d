import SymbolIndex.Ignore.Pattern

/-!
# Globs

Patterns for paths as people write them: `?` stands for a byte and `*` for any bytes but slashes, `**`
between slashes for any directories, brackets for one of some characters, and braces for a choice.
-/
namespace SymbolIndex

/-- A part of a glob. -/
inductive GlobPart
  | char (c : Char)
  | anyByte
  | star
  /-- Any directories at the start. -/
  | leading
  /-- Everything below at the end. -/
  | trailing
  /-- Any directories between two slashes. -/
  | between
  | oneOf (ranges : List (Char × Char)) (negated : Bool)
  | choice (branches : List (List GlobPart))
  deriving Inhabited, Repr

namespace GlobPart

def bytesOf (c : Char) : List UInt8 := c.toString.toUTF8.toList

/-- The ranges of bytes between two characters: characters of several bytes are taken apart. -/
def byteRanges (r : Char × Char) : List (UInt8 × UInt8) :=
  let single (b : UInt8) : UInt8 × UInt8 := (b, b)
  if r.1 = r.2 then (bytesOf r.1).map single
  else
    match (bytesOf r.1).reverse, bytesOf r.2 with
    | lo :: before, hi :: after =>
      before.reverse.map single ++ [(lo, hi)] ++ after.map single
    | _, _ => []

mutual

/-- The byte sequences that a part stands for. -/
def pattern : GlobPart → Pattern
  | char c => .ofList ((bytesOf c).map .one)
  | anyByte => .notSlash
  | star => .many .notSlash
  | leading => .orElse (.optional .slash) (.andThen (.many .anyByte) .slash)
  | trailing => .andThen .slash (.many .anyByte)
  | between => .orElse .slash (.ofList [.slash, .many .anyByte, .slash])
  | oneOf ranges negated => .byte (ranges.flatMap byteRanges) negated
  | choice branches => if branches.all List.isEmpty then .nothing else branchPattern branches

/-- The byte sequences that some parts in a row stand for. -/
def sequencePattern : List GlobPart → Pattern
  | [] => .nothing
  | p :: ps => .andThen (pattern p) (sequencePattern ps)

/-- The byte sequences that one of some branches stands for; empty branches do not count. -/
def branchPattern : List (List GlobPart) → Pattern
  | [] => .never
  | b :: bs => if b.isEmpty then branchPattern bs else .orElse (sequencePattern b) (branchPattern bs)

end

end GlobPart

/-- A glob as its parts. -/
abbrev Glob := List GlobPart

namespace Glob

/-- The byte sequences that a glob stands for. -/
def pattern (g : Glob) : Pattern :=
  match g with
  | [.leading] => .many .anyByte
  | g => GlobPart.sequencePattern g

/-- A glob being read: the branches that are open, the last one first, and how many there were when
each choice began. -/
structure Reading where
  branches : List Glob
  choices : List Nat
  /-- The character before the next one. -/
  previous : Option Char
  /-- Whether brackets no longer count, since one was not closed. -/
  bracketsPlain : Bool

namespace Reading

def push (r : Reading) (p : GlobPart) : Reading :=
  match r.branches with
  | b :: bs => { r with branches := (b ++ [p]) :: bs }
  | [] => { r with branches := [[p]] }

/-- Takes the last part of the open branch off. -/
def pop (r : Reading) : Reading × Option GlobPart :=
  match r.branches with
  | b :: bs => ({ r with branches := b.dropLast :: bs }, b.getLast?)
  | [] => (r, none)

def isFresh (r : Reading) : Bool := r.branches.head?.all List.isEmpty

def open_ (r : Reading) : Reading :=
  { r with choices := r.branches.length :: r.choices, branches := [] :: r.branches }

/-- Ends a choice, if one is open. -/
def close? (r : Reading) : Option Reading :=
  match r.choices with
  | [] => none
  | n :: choices =>
    let count := r.branches.length - n
    let branches := (r.branches.take count).reverse
    some ({ r with choices, branches := r.branches.drop count }.push (.choice branches))

def comma (r : Reading) : Reading :=
  if r.choices.isEmpty then r.push (.char ',') else { r with branches := [] :: r.branches }

def isSlash (c : Char) : Bool := c == '/'

/-- What two stars stand for; `next` follows them. The second part of the result says whether the next
character is used up. -/
def twoStars (r : Reading) (next : Option Char) : Reading × Bool :=
  let plain := (r.push .star).push .star
  if r.isFresh then
    if next.all isSlash then (r.push .leading, true) else (plain, false)
  else if !r.previous.any isSlash &&
      (r.branches.length ≤ 1 || !(r.previous == some ',' || r.previous == some '\x7b')) then
    (plain, false)
  else
    let replace (part : GlobPart) : Reading :=
      match r.pop with
      | (r, some .leading) => r.push .leading
      | (r, some .trailing) => r.push .trailing
      | (r, _) => r.push part
    match next with
    | none => (replace .trailing, true)
    | some c =>
      if (c == ',' || c == '\x7d') && r.branches.length ≥ 2 then (replace .trailing, false)
      else if isSlash c then (replace .between, true)
      else (plain, false)

end Reading

/-- Characters between brackets being read. -/
structure Brackets where
  /-- The ranges, the last one first. -/
  ranges : List (Char × Char)
  /-- Whether a dash waits for the end of a range. -/
  dash : Bool

/-- Whether brackets are closed, and what is in them. -/
inductive BracketsEnd
  | closed (ranges : List (Char × Char)) (rest : List Char)
  | unclosed
  /-- A range ends before it begins. -/
  | backwards

/-- Reads what is between brackets. -/
def readBrackets (first : Bool) (b : Brackets) : List Char → BracketsEnd
  | [] => .unclosed
  | c :: cs =>
    if c = ']' ∧ !first then
      .closed ((if b.dash then ('-', '-') :: b.ranges else b.ranges).reverse) cs
    else if c = '-' ∧ !first ∧ !b.dash then readBrackets false { b with dash := true } cs
    else if b.dash then
      match b.ranges with
      | (lo, _) :: more =>
        if c < lo then .backwards else readBrackets false ⟨(lo, c) :: more, false⟩ cs
      | [] => readBrackets false ⟨[(c, c)], false⟩ cs
    else readBrackets false ⟨(c, c) :: b.ranges, false⟩ cs

/-- Reads the rest of a glob. There is none if something is not closed, or a backslash is last. -/
def read? : Nat → Reading → List Char → Option Glob
  | 0, _, _ => none
  | _ + 1, r, [] =>
    match r.branches, r.choices with
    | [g], [] => some g
    | _, _ => none
  | fuel + 1, r, c :: cs =>
    let go (r : Reading) (previous : Char) (cs : List Char) : Option Glob :=
      read? fuel { r with previous := some previous } cs
    match c, cs with
    | '?', cs => go (r.push .anyByte) c cs
    | '*', '*' :: cs =>
      match r.twoStars cs.head?, cs with
      | (r, true), d :: cs => go r d cs
      | (r, _), cs => go r c cs
    | '*', cs => go (r.push .star) c cs
    | '\x7b', cs => go r.open_ c cs
    | '\x7d', cs => r.close?.bind fun r => go r c cs
    | ',', cs => go r.comma c cs
    | '\\', [] => none
    | '\\', d :: cs => go (r.push (.char d)) d cs
    | '[', cs =>
      if r.bracketsPlain then go (r.push (.char '[')) c cs
      else
        let negated := cs.head?.any fun d => d == '!' || d == '^'
        match readBrackets true ⟨[], false⟩ (if negated then cs.tail else cs) with
        | .closed ranges rest => go (r.push (.oneOf ranges negated)) ']' rest
        | .unclosed => go { r.push (.char '[') with bracketsPlain := true } c cs
        | .backwards => none
    | c, cs => go (r.push (.char c)) c cs

/-- The glob that is written as given. -/
def ofChars? (cs : List Char) : Option Glob := read? (cs.length + 1) ⟨[[]], [], none, false⟩ cs

end Glob
end SymbolIndex
