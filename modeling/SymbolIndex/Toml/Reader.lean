import SymbolIndex.Text.Basic

/-!
# Readers of TOML texts

A reader takes something off the front of a text. It may miss, and then another reader may be tried,
or fail for good. What went wrong is told by the names of the things that were being read, what could
have followed, and a cause, at the place where reading stopped.
-/
namespace SymbolIndex.Toml

/-- What is left of a text, and how many bytes were before it. -/
structure Input where
  rest : List Char
  offset : Nat

/-- A stretch of a text in bytes. -/
structure Span where
  start : Nat
  stop : Nat
  deriving DecidableEq, Repr, Inhabited

/-- What is known about a fault. -/
inductive Clue
  /-- What was being read. -/
  | reading (what : String)
  /-- What could have followed. -/
  | expected (what : String)
  deriving DecidableEq, Repr

/-- What went wrong; the clues come from the inside out. -/
structure Fault where
  clues : List Clue
  cause : Option String
  deriving DecidableEq, Repr, Inhabited

namespace Fault

def plain : Fault := ⟨[], none⟩

def because (cause : String) : Fault := ⟨[], some cause⟩

def add (c : Clue) (f : Fault) : Fault := { f with clues := f.clues ++ [c] }

/-- The innermost thing that was being read, all that could have followed, and the cause. -/
def message (f : Fault) : String :=
  let reading := f.clues.findSome? fun
    | .reading w => some s!"invalid {w}"
    | .expected _ => none
  let expected := f.clues.filterMap fun
    | .expected w => some w
    | .reading _ => none
  let expectation := if expected.isEmpty then none else some ("expected " ++ ", ".intercalate expected)
  "\n".intercalate ([reading, expectation, f.cause].filterMap id)

end Fault

/-- What a reader comes to, and what is left of the text then. -/
inductive Outcome (α : Type)
  | ok (a : α) (left : Input)
  /-- Something else may be tried. -/
  | miss (f : Fault) (left : Input)
  /-- Nothing else may be tried. -/
  | fail (f : Fault) (left : Input)

/-- Takes something off the front of a text. -/
def Reader (α : Type) := Input → Outcome α

namespace Reader

variable {α β : Type}

instance : Monad Reader where
  pure a := fun i => .ok a i
  bind r f := fun i =>
    match r i with
    | .ok a left => f a left
    | .miss e left => .miss e left
    | .fail e left => .fail e left

/-- Misses where it is. -/
def none_ (f : Fault) : Reader α := fun i => .miss f i

/-- Tries a second reader where the first misses. -/
def orElse (r s : Reader α) : Reader α := fun i =>
  match r i with
  | .miss _ _ => s i
  | o => o

/-- Reads something that may be missing. -/
def optional (r : Reader α) : Reader (Option α) := fun i =>
  match r i with
  | .ok a left => .ok (some a) left
  | .miss _ _ => .ok none i
  | .fail e left => .fail e left

/-- Does not allow to try anything else where the reader misses. -/
def committed (r : Reader α) : Reader α := fun i =>
  match r i with
  | .miss e left => .fail e left
  | o => o

/-- Adds a clue to what goes wrong. -/
def clue (c : Clue) (r : Reader α) : Reader α := fun i =>
  match r i with
  | .ok a left => .ok a left
  | .miss e left => .miss (e.add c) left
  | .fail e left => .fail (e.add c) left

def reading (what : String) (r : Reader α) : Reader α := r.clue (.reading what)

/-- Says which texts could have followed, or what in words. -/
def orExpected (what : List String) (r : Reader α) : Reader α :=
  what.foldl (fun r w => r.clue (.expected w)) r

/-- Checks what was read, and misses at its start if it will not do. -/
def check (r : Reader α) (f : α → Except Fault β) : Reader β := fun i =>
  match r i with
  | .ok a left =>
    match f a with
    | .ok b => .ok b left
    | .error e => .miss e i
  | .miss e left => .miss e left
  | .fail e left => .fail e left

/-- Reads something and gives its stretch of the text too. -/
def spanned (r : Reader α) : Reader (α × Span) := fun i =>
  match r i with
  | .ok a left => .ok (a, ⟨i.offset, left.offset⟩) left
  | .miss e left => .miss e left
  | .fail e left => .fail e left

/-- Reads something and gives its text too. -/
def withText (r : Reader α) : Reader (α × List Char) := fun i =>
  match r i with
  | .ok a left => .ok (a, i.rest.take (i.rest.length - left.rest.length)) left
  | .miss e left => .miss e left
  | .fail e left => .fail e left

/-- The next character, which stays. -/
def peek : Reader (Option Char) := fun i => .ok i.rest.head? i

/-- Reads one character that satisfies `p`. -/
def one (p : Char → Bool) : Reader Char := fun i =>
  match i.rest with
  | c :: cs => if p c then .ok c ⟨cs, i.offset + c.utf8Size⟩ else .miss .plain i
  | [] => .miss .plain i

def char (c : Char) : Reader Unit := do let _ ← one (· == c)

/-- The characters after some others, if the text goes on with those. -/
def stripped? : List Char → List Char → Option (List Char)
  | [], cs => some cs
  | p :: ps, c :: cs => if p = c then stripped? ps cs else none
  | _ :: _, [] => none

/-- Reads a text as it stands. -/
def text (s : String) : Reader Unit := fun i =>
  match stripped? s.toList i.rest with
  | some cs => .ok () ⟨cs, i.offset + s.utf8ByteSize⟩
  | none => .miss .plain i

/-- Whether the text goes on as given, which stays. -/
def looksLike (s : String) : Reader Bool := fun i => .ok (stripped? s.toList i.rest).isSome i

/-- Reads the end of the text. -/
def finish : Reader Unit := fun i =>
  match i.rest with
  | [] => .ok () i
  | _ => .miss .plain i

/-- Reads all characters that satisfy `p`. -/
def all (p : Char → Bool) : Reader (List Char) := fun i =>
  let (cs, rest) := i.rest.span p
  .ok cs ⟨rest, i.offset + Text.byteSize cs⟩

/-- Reads characters that satisfy `p`, one at least. -/
def some_ (p : Char → Bool) : Reader (List Char) := do
  let c ← one p
  return c :: (← all p)

/-- Reads `least` to `most` characters that satisfy `p`, as many as there are. -/
def between (least most : Nat) (p : Char → Bool) : Reader (List Char) := fun i =>
  let cs := (i.rest.take most).takeWhile p
  if cs.length < least then .miss .plain i
  else .ok cs ⟨i.rest.drop cs.length, i.offset + Text.byteSize cs⟩

def manyLoop (r : Reader α) : Nat → Array α → Input → Outcome (List α)
  | 0, found, i => .ok found.toList i
  | fuel + 1, found, i =>
    match r i with
    | .ok a left =>
      if left.rest.length < i.rest.length then manyLoop r fuel (found.push a) left
      else .ok (found.push a).toList left
    | .miss _ _ => .ok found.toList i
    | .fail e left => .fail e left

/-- Reads something as often as it is there. -/
def many (r : Reader α) : Reader (List α) := fun i => manyLoop r (i.rest.length + 1) #[] i

/-- Reads something as often as it is there, once at least. -/
def many1 (r : Reader α) : Reader (List α) := do
  let a ← r
  return a :: (← many r)

/-- Reads something once at least, with separators. A separator that nothing follows stays. -/
def separated1 (r : Reader α) (separator : Reader Unit) : Reader (List α) := do
  let a ← r
  return a :: (← many (do separator; r))

/-- Reads something with separators, as often as it is there. -/
def separated (r : Reader α) (separator : Reader Unit) : Reader (List α) := fun i =>
  match separated1 r separator i with
  | .miss _ _ => .ok [] i
  | o => o

/-- Reads something that must follow what was read, and leaves it. -/
def followedBy (r : Reader α) (next : Reader β) : Reader α := fun i =>
  match r i with
  | .ok a left =>
    match next left with
    | .ok _ _ => .ok a left
    | .miss e l => .miss e l
    | .fail e l => .fail e l
  | o => o

end Reader
end SymbolIndex.Toml
