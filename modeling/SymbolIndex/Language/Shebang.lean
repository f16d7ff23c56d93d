import SymbolIndex.Language.Basic
import SymbolIndex.Text.Utf8
import SymbolIndex.Text.Word

/-!
# Interpreter lines

A file without an extension may name the program that runs it on its first line, after `#!`. The
program is looked for at several places of the line, one after another, and the first place where the
name of a known program stands as a whole word decides: below the last slash, when the first word is
the path of `env` in the word after its options, and last within longer names.
-/
namespace SymbolIndex
namespace Shebang

/-- The programs with a fixed name. -/
def programs : List (List Char × Language) :=
  [("node".toList, .javaScript), ("nodejs".toList, .javaScript), ("deno".toList, .typeScript),
    ("ts-node".toList, .typeScript), ("tsx".toList, .typeScript)]

/-- What follows a beginning. -/
def after? : List Char → List Char → Option (List Char)
  | [], cs => some cs
  | p :: ps, c :: cs => if p = c then after? ps cs else none
  | _ :: _, [] => none

def isVersionChar (c : Char) : Bool := c.isDigit || c == '.'

/-- Whether a word stops somewhere in the version that `cs` may begin with; `before` precedes it. -/
def stopsInVersion (before : Char) : List Char → Bool
  | [] => Text.isWordBoundary (some before) none
  | c :: cs =>
    Text.isWordBoundary (some before) (some c) || (isVersionChar c && stopsInVersion c cs)

/-- Whether a place is the name of a program that runs Python, with any version. -/
def isPython (place : List Char) : Bool :=
  ((after? "python".toList place).map (stopsInVersion 'n')).getD false

/-- Whether a place has a name as a whole word. -/
def hasWord (name place : List Char) : Bool :=
  match after? name place with
  | some rest => Text.isWordBoundary name.getLast? rest.head?
  | none => false

/-- The language of the program that a place names. -/
def languageAt? (place : List Char) : Option Language :=
  if isPython place then some .python
  else (programs.find? fun p => hasWord p.1 place).map (·.2)

/-- The places in the first word of a text that begins with one, its end included. -/
def wordTails : List Char → List (List Char)
  | [] => [[]]
  | c :: cs => if isBlank c then [c :: cs] else (c :: cs) :: wordTails cs

/-- The places after the slashes of the first word, the last slash first. -/
def belowSlashes (cs : List Char) : List (List Char) :=
  ((wordTails cs).filterMap fun
    | '/' :: place => some place
    | _ => none).reverse

def dropBlanks (cs : List Char) : List Char := cs.dropWhile isBlank

def dropWord (cs : List Char) : List Char := cs.dropWhile (!isBlank ·)

/-- The first of some words, and each next one as long as all words so far are options; the last one
first. -/
def afterOptions (cs : List Char) (found : List (List Char)) : List (List Char) :=
  match _h : dropBlanks cs with
  | [] => found
  | '-' :: d :: rest =>
    if isBlank d then ('-' :: d :: rest) :: found
    else afterOptions (dropWord rest) (('-' :: d :: rest) :: found)
  | word => word :: found
  termination_by cs.length
  decreasing_by
    have h₁ : (dropBlanks cs).length ≤ cs.length := (List.dropWhile_suffix _).length_le
    have h₂ : (dropWord rest).length ≤ rest.length := (List.dropWhile_suffix _).length_le
    simp only [_h, List.length_cons] at h₁
    omega

/-- The places in the words after a first word that ends with the path of `env`. -/
def placesAfterEnv (cs : List Char) : List (List Char) :=
  match after? "/env".toList cs with
  | some (c :: rest) =>
    if isBlank c then
      (afterOptions (c :: rest) []).flatMap fun word => belowSlashes word ++ [word]
    else []
  | _ => []

/-- The places in which a line that names a program may name it, in order. -/
def places (line : List Char) : List (List Char) :=
  let line := dropBlanks line
  placesAfterEnv line ++ belowSlashes line ++
    (wordTails line).flatMap fun place => placesAfterEnv place ++ [place]

/-- The language that an interpreter line tells. -/
def languageOfLine (line : String) : Language :=
  match after? "#!".toList (Text.trimEnd line).toList with
  | some rest => ((places rest).findSome? languageAt?).getD .unknown
  | none => .unknown

end Shebang

namespace Language

/-- The language that the first line of a file tells. -/
def ofContent (content : List UInt8) : Language :=
  Shebang.languageOfLine (Utf8.decodeLossy ⟨(content.takeWhile (· != 10)).toArray⟩)

/-- The language of a file: its extension tells, or without one its first line. -/
def ofFile (p : Path) (content : List UInt8) : Language :=
  if p.extension?.isSome then ofPath p else ofContent content

end Language
end SymbolIndex
