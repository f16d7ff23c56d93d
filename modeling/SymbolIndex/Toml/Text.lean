import SymbolIndex.Toml.Number

/-!
# Texts in TOML

Basic texts between double quotes have escapes, literal texts between single quotes have none. With
three quotes on each side a text may go over several lines.
-/
namespace SymbolIndex.Toml

open Reader

def isSpace (c : Char) : Bool := c == ' ' || c == '\t'

def isNonAscii (c : Char) : Bool := 0x80 ≤ c.toNat

/-- A printable character, or a tab. -/
def isPlain (c : Char) : Bool :=
  c == '\t' || (0x20 ≤ c.toNat && c.toNat ≤ 0x7E) || isNonAscii c

def isBasicChar (c : Char) : Bool := isPlain c && c != '"' && c != '\\'

def isLiteralChar (c : Char) : Bool := isPlain c && c != '\''

def spaces : Reader Unit := do let _ ← all isSpace

def newline : Reader Unit := orElse (char '\n') (do char '\r'; char '\n')

/-- The character of a hexadecimal number of `width` digits. -/
def codePoint (width : Nat) : Reader Char :=
  check (between width width isHex) fun cs =>
    let n := numberIn 16 cs
    if n.isValidChar then .ok (Char.ofNat n) else .error (.because "value is out of range")

/-- The letters that name a character, with the character. -/
def namedEscapes : List (Char × Char) :=
  [('b', '\x08'), ('f', '\x0c'), ('n', '\n'), ('r', '\r'), ('t', '\t'), ('\\', '\\'), ('"', '"')]

/-- What may follow a backslash. -/
def escapeNames : List String := ["`b`", "`f`", "`n`", "`r`", "`t`", "`u`", "`U`", "`\\`", "`\"`"]

/-- A character that is none that may follow a backslash. Only one of ASCII is passed over. -/
def badEscape : Reader Char := fun i =>
  let left := match i.rest with
    | c :: cs => if isNonAscii c then i else ⟨cs, i.offset + 1⟩
    | [] => i
  let fault := escapeNames.foldl (fun (f : Fault) w => f.add (.expected w))
    (Fault.plain.add (.reading "escape sequence"))
  .fail fault left

def escaped : Reader Char := do
  char '\\'
  match ← peek with
  | none => none_ .plain
  | some 'u' => do
    char 'u'
    reading "unicode 4-digit hex code" (committed (codePoint 4))
  | some 'U' => do
    char 'U'
    reading "unicode 8-digit hex code" (committed (codePoint 8))
  | some c =>
    match namedEscapes.lookup c with
    | some d => do
      char c
      return d
    | none => badEscape

/-- A piece of a basic text. -/
def basicPiece : Reader (List Char) :=
  orElse (some_ isBasicChar) (do return [← escaped])

def basicString : Reader String := do
  char '"'
  let pieces ← many basicPiece
  reading "basic string" (committed (char '"'))
  return String.ofList pieces.flatten

/-- A backslash at the end of a line, and all blanks and line ends after it. -/
def continuation : Reader Unit := do
  let _ ← many1 do
    char '\\'
    spaces
    newline
    let _ ← many (orElse newline (do let _ ← some_ isSpace))

/-- A piece of a basic text of several lines, without quotes. -/
def basicLinesPiece : Reader (List Char) :=
  orElse (some_ isBasicChar) <| orElse (do continuation; return []) <|
    orElse (do return [← escaped]) (do newline; return ['\n'])

/-- Two quotes or one, when something follows that the closing quotes do not begin with. -/
def quotes (quote : Char) (next : Reader Unit) : Reader (List Char) :=
  let some_ (n : Nat) : Reader (List Char) := do
    text (String.ofList (List.replicate n quote))
    return List.replicate n quote
  orElse ((some_ 2).followedBy next) ((some_ 1).followedBy next)

/-- Pieces and quotes of a text of several lines, up to its last quotes. -/
def linesBody (quote : Char) (piece : Reader (List Char)) : Reader (List Char) := do
  let first ← many piece
  let more ← many do
    let q ← quotes quote (do let _ ← one (· != quote))
    let pieces ← many1 piece
    return q ++ pieces.flatten
  let last ← optional (quotes quote (text (String.ofList (List.replicate 3 quote))))
  return first.flatten ++ more.flatten ++ last.getD []

def lines (what delimiter : String) (body : Reader (List Char)) : Reader String :=
  reading what do
    text delimiter
    let _ ← optional newline
    let cs ← committed body
    committed (text delimiter)
    return String.ofList cs

def basicLines : Reader String :=
  lines "multiline basic string" "\"\"\"" (linesBody '"' basicLinesPiece)

def literalString : Reader String :=
  reading "literal string" do
    char '\''
    let cs ← all isLiteralChar
    committed (char '\'')
    return String.ofList cs

def literalLines : Reader String :=
  lines "multiline literal string" "'''"
    (linesBody '\'' (orElse (some_ isLiteralChar) (do newline; return ['\n'])))

def string : Reader String :=
  orElse basicLines <| orElse basicString <| orElse literalLines literalString

end SymbolIndex.Toml
