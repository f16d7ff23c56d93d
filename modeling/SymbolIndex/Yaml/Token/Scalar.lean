import SymbolIndex.Yaml.Token.Reading

/-!
# Reading YAML scalars

Plain, quoted and block scalars. A single line break inside a scalar folds to a space, unless the
scalar is a literal block.
-/
namespace SymbolIndex.Yaml.Scan

/-- Joins two pieces of a scalar across the line breaks between them. -/
def fold (text leading trailing : String) : String :=
  if leading.front == '\n' then
    if trailing.isEmpty then text.push ' ' else text ++ trailing
  else text ++ leading ++ trailing

/-- What is between two pieces of a scalar: blanks, or line breaks if there are any. -/
structure Between where
  broken : Bool
  blanks : String
  leading : String
  trailing : String

namespace Between

def none : Between := ⟨false, "", "", ""⟩

def isNone (b : Between) : Bool := !b.broken && b.blanks.isEmpty

/-- Adds what is between two pieces to the first. -/
def join (b : Between) (text : String) : String :=
  if b.broken then fold text b.leading b.trailing else text ++ b.blanks

end Between

/-- Passes blanks and line breaks. In a plain scalar the indentation may not hold a tab. -/
def between (plain : Option (Nat × Mark)) : Nat → Between → Scan Between
  | 0, b => return b
  | fuel + 1, b => do
    let c ← char
    if isGap c then
      match plain with
      | some (indent, start) =>
        if b.broken && (← mark).column < indent && c == '\t' then
          complain .tabInPlainScalar (some (.scanPlainScalar, start))
      | none => pure ()
      skip
      need 1
      between plain fuel (if b.broken then b else { b with blanks := b.blanks.push c })
    else if isBreak c then
      need 2
      let line ← takeBreak
      need 1
      between plain fuel
        (if b.broken then { b with trailing := b.trailing ++ line } else ⟨true, "", line, b.trailing⟩)
    else return b

/-- The number that `n` hexadecimal digits write, the first of them `k` places on. -/
def hexNumber (start : Mark) : Nat → Nat → Nat → Scan Nat
  | 0, _, acc => return acc
  | n + 1, k, acc => do
    match hexDigit? (← charAt k) with
    | some d => hexNumber start n (k + 1) (acc * 16 + d)
    | none => complain .missingHexDigit (some (.parseQuotedScalar, start))

/-- Reads the hexadecimal digits of an escape and gives the character. -/
def escapedCode (start : Mark) (digits : Nat) : Scan Char := do
  need digits
  let value ← hexNumber start digits 0 0
  if value.isValidChar then
    skips digits
    return Char.ofNat value
  else complain .badCodePoint (some (.parseQuotedScalar, start))

/-- The characters that a letter after a backslash stands for. -/
def escapes : List (Char × Char) :=
  [('0', '\x00'), ('a', '\x07'), ('b', '\x08'), ('t', '\t'), ('\t', '\t'), ('n', '\n'), ('v', '\x0b'),
   ('f', '\x0c'), ('r', '\r'), ('e', '\x1b'), (' ', ' '), ('"', '"'), ('/', '/'), ('\\', '\\'),
   ('N', '\u0085'), ('_', '\u00a0'), ('L', '\u2028'), ('P', '\u2029')]

/-- Reads an escape sequence, backslash included. -/
def escape (start : Mark) : Scan Char := do
  let c ← charAt 1
  let code (digits : Nat) : Scan Char := do
    skips 2
    escapedCode start digits
  match escapes.lookup c with
  | some e =>
    skips 2
    return e
  | none =>
    if c == 'x' then code 2
    else if c == 'u' then code 4
    else if c == 'U' then code 8
    else complain .unknownEscape (some (.parseQuotedScalar, start))

/-- Reads characters of a quoted scalar up to a blank, a line break or the closing quote. The flag
says whether an escaped line break ended them. -/
def quotedRun (single : Bool) (start : Mark) : Nat → String → Scan (String × Bool)
  | 0, text => return (text, false)
  | fuel + 1, text => do
    let c ← char
    if isGapOrEnd c then return (text, false)
    let next ← charAt 1
    if single && c == '\'' && next == '\'' then
      skips 2
      need 2
      quotedRun single start fuel (text.push '\'')
    else if c == (if single then '\'' else '"') then return (text, false)
    else if !single && c == '\\' && isBreak next then
      need 3
      skip
      skipBreak
      return (text, true)
    else if !single && c == '\\' then
      let e ← escape start
      need 2
      quotedRun single start fuel (text.push e)
    else
      skip
      need 2
      quotedRun single start fuel (text.push c)

def quotedLoop (single : Bool) (start : Mark) : Nat → String → Scan String
  | 0, text => return text
  | fuel + 1, text => do
    need 4
    if ← atDocumentMark true true then
      complain .documentInScalar (some (.scanQuotedScalar, start))
    if isEnd (← char) then complain .endInScalar (some (.scanQuotedScalar, start))
    need 2
    let (text, escaped) ← quotedRun single start (← turns) text
    need 1
    if (← char) == (if single then '\'' else '"') then return text
    need 1
    let b ← between none (← turns) { Between.none with broken := escaped }
    quotedLoop single start fuel (b.join text)

/-- Reads a quoted scalar. -/
def quotedScalar (single : Bool) : Scan Unit := do
  let start ← mark
  skip
  let text ← quotedLoop single start (← turns) ""
  skip
  emit (.scalar text (if single then .singleQuoted else .doubleQuoted)) start (← mark)

/-- Whether a character ends a plain scalar inside flow collections. -/
def isFlowIndicator (c : Char) : Bool :=
  c == ',' || c == '[' || c == ']' || c == '\x7b' || c == '\x7d'

/-- Reads characters of a plain scalar up to a blank or an indicator. The result holds the text, what
is left between, the end, and whether an indicator was met. -/
def plainRun (start : Mark) :
    Nat → String → Between → Mark → Scan (String × Between × Mark)
  | 0, text, b, stop => return (text, b, stop)
  | fuel + 1, text, b, stop => do
    let c ← char
    if isGapOrEnd c then return (text, b, stop)
    let next ← charAt 1
    let flow ← inFlow
    if flow && c == ':' && (isFlowIndicator next || next == '?') then
      complain .colonInPlainScalar (some (.scanPlainScalar, start))
    if (c == ':' && isGapOrEnd next) || (flow && isFlowIndicator c) then return (text, b, stop)
    let text := if b.isNone then text else b.join text
    skip
    let stop ← mark
    need 2
    plainRun start fuel (text.push c) .none stop

def plainLoop (start : Mark) (indent : Nat) :
    Nat → String → Between → Mark → Scan (String × Between × Mark)
  | 0, text, b, stop => return (text, b, stop)
  | fuel + 1, text, b, stop => do
    need 4
    if (← atDocumentMark true true) || (← char) == '#' then return (text, b, stop)
    let (text, b, stop) ← plainRun start (← turns) text b stop
    if !(isGap (← char) || isBreak (← char)) then return (text, b, stop)
    need 1
    let b ← between (some (indent, start)) (← turns) b
    if !(← inFlow) && (← mark).column < indent then return (text, b, stop)
    plainLoop start indent fuel text b stop

/-- Reads a plain scalar. A line break after it lets a key begin. -/
def plainScalar : Scan Unit := do
  let start ← mark
  let (text, b, stop) ← plainLoop start ((← get).indent + 1).toNat (← turns) "" .none start
  emit (.scalar text .plain) start stop
  if b.broken then modify fun r => { r with keyAllowed := true }

/-- Passes the blank lines and the indentation in front of a line of a block scalar. The result holds
the line breaks, the widest indentation, and the place after the last line break. -/
def blockBreaks (indent : Nat) (start : Mark) :
    Nat → String → Nat → Mark → Scan (String × Nat × Mark)
  | 0, breaks, widest, stop => return (breaks, widest, stop)
  | fuel + 1, breaks, widest, stop => do
    need 1
    indentation (← turns)
    let column := (← mark).column
    let widest := max widest column
    if (indent == 0 || column < indent) && (← char) == '\t' then
      complain .tabIndentation (some (.scanBlockScalar, start))
    if !isBreak (← char) then return (breaks, widest, stop)
    need 2
    let line ← takeBreak
    blockBreaks indent start fuel (breaks ++ line) widest (← mark)
where
  indentation : Nat → Scan Unit
    | 0 => pure ()
    | fuel + 1 => do
      if (indent == 0 || (← mark).column < indent) && (← char) == ' ' then
        skip
        need 1
        indentation fuel

/-- The blank lines in front of a line of a block scalar, with its indentation. If none is given, the
first line that is not blank sets it. -/
def blockLead (indent : Nat) (start : Mark) : Scan (String × Nat × Mark) := do
  let (breaks, widest, stop) ← blockBreaks indent start (← turns) "" 0 (← mark)
  let least := max ((← get).indent + 1) 1
  return (breaks, if indent == 0 then max widest least.toNat else indent, stop)

/-- The text of a block scalar so far: its lines, the last line break, and the blank lines after. -/
structure BlockText where
  text : String
  leading : String
  trailing : String
  stop : Mark

def blockLoop (literal : Bool) (start : Mark) (indent : Nat) :
    Nat → Bool → BlockText → Scan BlockText
  | 0, _, b => return b
  | fuel + 1, leadingBlank, b => do
    if (← mark).column == indent && !isEnd (← char) then
      let blank := isGap (← char)
      let text :=
        if !literal && b.leading.front == '\n' && !leadingBlank && !blank then
          if b.trailing.isEmpty then b.text.push ' ' else b.text
        else b.text ++ b.leading
      let line ← takeWhile fun c => !isBreakOrEnd c
      need 2
      let leading ← takeBreak
      let (trailing, _, stop) ← blockLead indent start
      blockLoop literal start indent fuel blank ⟨text ++ b.trailing ++ line, leading, trailing, stop⟩
    else return b

/-- What becomes of the line breaks at the end of a block scalar. -/
inductive Chomping
  | strip
  | clip
  | keep
  deriving DecidableEq

def chomping? (c : Char) : Option Chomping :=
  if c == '+' then some .keep else if c == '-' then some .strip else none

/-- Reads the digit that sets an indentation, if there is one. -/
def indentation (start : Mark) : Scan (Option Nat) := do
  let c ← char
  if !c.isDigit then return none
  if c == '0' then complain .zeroIndentation (some (.scanBlockScalar, start))
  skip
  return some (c.toNat - 48)

/-- Reads what follows the indicator of a block scalar: how to chomp, and how to indent. -/
def blockHeader (start : Mark) : Scan (Chomping × Option Nat) := do
  need 1
  match chomping? (← char) with
  | some chomping =>
    skip
    need 1
    return (chomping, ← indentation start)
  | none =>
    match ← indentation start with
    | none => return (.clip, none)
    | some n =>
      need 1
      match chomping? (← char) with
      | some chomping =>
        skip
        return (chomping, some n)
      | none => return (.clip, some n)

/-- Reads a literal or a folded block scalar. -/
def blockScalar (literal : Bool) : Scan Unit := do
  let start ← mark
  skip
  let (chomping, increment) ← blockHeader start
  need 1
  skipWhile isGap
  skipComment
  if !isBreakOrEnd (← char) then complain .missingLineEnd (some (.scanBlockScalar, start))
  if isBreak (← char) then
    need 2
    skipBreak
  let around := (← get).indent
  let given := match increment with
    | some n => (max around 0).toNat + n
    | none => 0
  let (trailing, indent, stop) ← blockLead given start
  need 1
  let b ← blockLoop literal start indent (← turns) false ⟨"", "", trailing, stop⟩
  let text := match chomping with
    | .strip => b.text
    | .clip => b.text ++ b.leading
    | .keep => b.text ++ b.leading ++ b.trailing
  emit (.scalar text (if literal then .literal else .folded)) start b.stop

end SymbolIndex.Yaml.Scan
