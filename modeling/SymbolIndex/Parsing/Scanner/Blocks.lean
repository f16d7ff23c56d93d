import SymbolIndex.Parsing.Cursor

/-!
# Blocks and strings

The tokens of an indentation-based language that a finite automaton cannot find: line ends that end
a statement, changes of indentation, and the pieces of string literals with interpolation.
-/
namespace SymbolIndex

/-- An open string literal: its quote and how its contents are read. -/
structure OpenString where
  quote : Char
  raw : Bool
  formatted : Bool
  tripled : Bool
  bytes : Bool
  deriving DecidableEq, Repr, Inhabited

/-- What is open at a point of the text: strings and indented blocks, innermost first. -/
structure BlockState where
  insideFormatted : Bool
  strings : List OpenString
  indents : List Nat
  deriving DecidableEq, Repr, Inhabited

/-- The tokens found by the block scanner, in the order of its grammar. -/
inductive BlockToken
  | newline | indent | dedent | stringStart | stringContent | escapeInterpolation | stringEnd
  | comment | closeBracket | closeParen | closeBrace | except
  deriving DecidableEq, Repr, Inhabited

/-- The place of a token among the scanner tokens of its grammar. -/
def BlockToken.index : BlockToken → Nat
  | .newline => 0 | .indent => 1 | .dedent => 2 | .stringStart => 3 | .stringContent => 4
  | .escapeInterpolation => 5 | .stringEnd => 6 | .comment => 7 | .closeBracket => 8
  | .closeParen => 9 | .closeBrace => 10 | .except => 11

namespace BlockState

def initial : BlockState := ⟨false, [], [0]⟩

/-- What survives between tokens: indentation is kept up to 255 columns. -/
def saved (s : BlockState) : BlockState :=
  { s with indents := s.indents.map (· % 256) }

abbrev Outcome := Option (BlockToken × BlockState) × Cursor

/-- The rest of a string literal after a quote character that may close it. -/
def closing (s : BlockState) (d : OpenString) (hasContent : Bool) (c : Cursor) : Outcome :=
  let closed : BlockState := { s with strings := s.strings.tail, insideFormatted := false }
  let content (c : Cursor) : Outcome := (some (.stringContent, s), c)
  if d.tripled then
    let c := c.markEnd.advance
    if c.sees d.quote then
      let c := c.advance
      if c.sees d.quote then
        if hasContent then content c
        else (some (.stringEnd, closed), c.advance.markEnd)
      else content c.markEnd
    else content c.markEnd
  else if hasContent then content c.markEnd
  else (some (.stringEnd, closed), c.advance.markEnd)

/-- Steps over a backslash in a raw string, with an escaped quote, backslash or line end. -/
def rawEscape (d : OpenString) (c : Cursor) : Cursor :=
  let c := c.advance
  let c := if c.sees d.quote || c.sees '\\' then c.advance else c
  if c.sees '\r' then
    let c := c.advance
    if c.sees '\n' then c.advance else c
  else if c.sees '\n' then c.advance
  else c

/-- Reads the contents of the innermost string; `none` in the first place lets the scan go on. -/
def contents (s : BlockState) (d : OpenString) : Nat → Bool → Cursor → Option Outcome × Cursor
  | 0, _, c => (none, c)
  | fuel + 1, hasContent, c =>
    if c.char == 0 then (none, c)
    else if (c.sees '\x7b' || c.sees '\x7d') && d.formatted then
      let c := c.markEnd
      (some (if hasContent then some (.stringContent, s) else none, c), c)
    else if c.sees '\\' then
      if d.raw then contents s d fuel hasContent (rawEscape d c)
      else
        let stopHere (c : Cursor) : Option Outcome × Cursor :=
          (some (if hasContent then some (.stringContent, s) else none, c), c)
        if d.bytes then
          let c := c.markEnd.advance
          if c.sees 'N' || c.sees 'u' || c.sees 'U' then contents s d fuel true c.advance.advance
          else stopHere c
        else stopHere c.markEnd
    else if c.sees d.quote then
      let r := closing s d hasContent c
      (some r, r.2)
    else if c.sees '\n' && hasContent && !d.tripled then (some (none, c), c)
    else contents s d fuel true c.advance

/-- White space before a token: whether a line ended, the indentation of the last line, and the
indentation of the first comment line. The last component is false where the scan must give up. -/
structure Margin where
  lineEnded : Bool
  indent : Nat
  firstComment : Option Nat
  ok : Bool

/-- Reads the white space, comments and joined lines before a token. -/
def margin (comments : Bool) : Nat → Margin → Cursor → Margin × Cursor
  | 0, m, c => (m, c)
  | fuel + 1, m, c =>
    if c.sees '\n' then margin comments fuel { m with lineEnded := true, indent := 0 } c.skip
    else if c.sees ' ' then margin comments fuel { m with indent := (m.indent + 1) % 65536 } c.skip
    else if c.sees '\r' || c.sees '\x0c' then margin comments fuel { m with indent := 0 } c.skip
    else if c.sees '\t' then margin comments fuel { m with indent := (m.indent + 8) % 65536 } c.skip
    else if c.sees '#' && comments then
      if !m.lineEnded then ({ m with ok := false }, c)
      else
        let m := { m with firstComment := m.firstComment <|> some m.indent }
        let c := (c.skipWhile fun c => c.char != 0 && !c.sees '\n').skip
        margin comments fuel { m with indent := 0 } c
    else if c.sees '\\' then
      let c := c.skip
      let c := if c.sees '\r' then c.skip else c
      if c.sees '\n' || c.atEnd then margin comments fuel m c.skip
      else ({ m with ok := false }, c)
    else if c.atEnd then ({ m with indent := 0, lineEnded := true }, c)
    else (m, c)

/-- The letters before a quote. -/
def stringFlags : Nat → OpenString → Bool → Cursor → OpenString × Bool × Cursor
  | 0, d, seen, c => (d, seen, c)
  | fuel + 1, d, seen, c =>
    if c.sees 'f' || c.sees 'F' then stringFlags fuel { d with formatted := true } true c.advance
    else if c.sees 'r' || c.sees 'R' then stringFlags fuel { d with raw := true } true c.advance
    else if c.sees 'b' || c.sees 'B' then stringFlags fuel { d with bytes := true } true c.advance
    else if c.sees 'u' || c.sees 'U' then stringFlags fuel d true c.advance
    else (d, seen, c)

/-- The quote that opens a string: one, or three of the same. -/
def openingQuote (quote : Char) (c : Cursor) : Bool × Cursor :=
  let c := c.advance.markEnd
  if c.sees quote then
    let c := c.advance
    if c.sees quote then (true, c.advance.markEnd) else (false, c)
  else (false, c)

/-- A string literal that starts here. -/
def opening (s : BlockState) (c : Cursor) : Outcome :=
  let (d, _, c) := stringFlags c.fuel ⟨'"', false, false, false, false⟩ false c
  let opened (d : OpenString) (c : Cursor) : Outcome :=
    (some (.stringStart, { s with strings := d :: s.strings, insideFormatted := d.formatted }), c)
  if c.sees '`' then opened { d with quote := '`' } c.advance.markEnd
  else if c.sees '\'' then
    let (tripled, c) := openingQuote '\'' c
    opened { d with quote := '\'', tripled } c
  else if c.sees '"' then
    let (tripled, c) := openingQuote '"' c
    opened { d with quote := '"', tripled } c
  else (none, c)

/-- A doubled brace in a formatted string; `none` in the first place lets the scan go on. -/
def doubledBrace (s : BlockState) (valid : BlockToken → Bool) (recovering : Bool) (c : Cursor) :
    Option Outcome :=
  match s.strings with
  | d :: _ =>
    if valid .escapeInterpolation && (c.sees '\x7b' || c.sees '\x7d') && !recovering && d.formatted then
      let brace := c.char
      let c := c.markEnd.advance
      if c.char == brace then some (some (.escapeInterpolation, s), c.advance.markEnd)
      else some (none, c)
    else none
  | [] => none

/-- Line ends, indentation and the start of a string literal. -/
def layout (s : BlockState) (valid : BlockToken → Bool) (recovering : Bool) (c : Cursor) : Outcome :=
  let brackets := valid .closeBrace || valid .closeParen || valid .closeBracket
  let c := c.markEnd
  let comments := valid .indent || valid .dedent || valid .newline || valid .except
  let (m, c) := margin comments c.fuel ⟨false, 0, none, true⟩ c
  if !m.ok then (none, c) else
  let string : Outcome :=
    if m.firstComment.isNone && valid .stringStart then s.opening c else (none, c)
  if !m.lineEnded then string else
  let atQuote := c.sees '"' || c.sees '\'' || c.sees '`'
  let lineEnd : Outcome :=
    if valid .newline && !recovering then (some (.newline, s), c) else string
  match s.indents with
  | [] => lineEnd
  | current :: outer =>
    if valid .indent && m.indent > current then
      (some (.indent, { s with indents := m.indent :: s.indents }), c)
    else if (valid .dedent || (!valid .newline && !(valid .stringStart && atQuote) && !brackets))
        && m.indent < current && !s.insideFormatted
        && (match m.firstComment with | some i => i < current | none => true) then
      (some (.dedent, { s with indents := outer }), c)
    else lineEnd

/-- The next token at the cursor among the `valid` ones, with what is open after it. -/
def scan (s : BlockState) (valid : BlockToken → Bool) (c : Cursor) : Outcome :=
  let recovering := valid .stringContent && valid .indent
  match s.doubledBrace valid recovering c with
  | some r => r
  | none =>
    match s.strings with
    | d :: _ =>
      if valid .stringContent && !recovering then
        match s.contents d c.fuel false c with
        | (some r, _) => r
        | (none, c) => s.layout valid recovering c
      else s.layout valid recovering c
    | [] => s.layout valid recovering c

end BlockState
end SymbolIndex
