import SymbolIndex.Parsing.Cursor

/-!
# Inserted semicolons

The tokens of a brace language with optional semicolons that a finite automaton cannot find: the
semicolon that a line end stands for, the text of templates and markup, and the question mark that
starts a conditional. The typed dialect decides some of them by the validity of a binary operator,
which tells an expression from a type.
-/
namespace SymbolIndex

/-- The tokens found by the semicolon scanner, in the order of its grammars. -/
inductive SemicolonToken
  | automaticSemicolon | templateChars | ternaryMark | htmlComment | logicalOr | escapeSequence
  | regexPattern | markupText | signatureSemicolon | errorRecovery
  deriving DecidableEq, Repr, Inhabited

/-- The place of a token among the scanner tokens of its grammar. -/
def SemicolonToken.index : SemicolonToken → Nat
  | .automaticSemicolon => 0 | .templateChars => 1 | .ternaryMark => 2 | .htmlComment => 3
  | .logicalOr => 4 | .escapeSequence => 5 | .regexPattern => 6 | .markupText => 7
  | .signatureSemicolon => 8 | .errorRecovery => 9

namespace SemicolonScanner

abbrev Outcome := Option SemicolonToken × Cursor

/-- Whether the character ends a line comment. -/
def endsLine (c : Cursor) : Bool := c.sees '\n' || c.sees '\u2028' || c.sees '\u2029'

/-- The text of a template up to a substitution, an escape or the closing quote. -/
def templateChars : Nat → Bool → Cursor → Outcome
  | 0, _, c => (none, c)
  | fuel + 1, hasContent, c =>
    let c := c.markEnd
    let found := if hasContent then some .templateChars else none
    if c.sees '`' || c.sees '\\' then (found, c)
    else if c.char == 0 then (none, c)
    else if c.sees '$' then
      let c := c.advance
      if c.sees '\x7b' then (found, c) else templateChars fuel true c
    else templateChars fuel true c.advance

/-- How white space and comments bear on an inserted semicolon. -/
inductive Gap
  /-- No semicolon can be inserted: something other than a comment follows. -/
  | reject
  /-- A comment without a line end: a later line end decides. -/
  | sameLine
  | accept
  deriving DecidableEq

/-- Skips a block comment after its opening. Says whether it was closed and held a line end. -/
def blockComment : Nat → Bool → Cursor → Bool × Bool × Cursor
  | 0, newline, c => (false, newline, c)
  | fuel + 1, newline, c =>
    if c.char == 0 then (false, newline, c)
    else if c.sees '*' then
      let c := c.skip
      if c.sees '/' then (true, newline, c.skip) else blockComment fuel newline c
    else blockComment fuel (newline || endsLine c) c.skip

/-- Skips white space and comments. `leading` is set where only a first comment is of interest. The
flag that comes back says whether a comment was seen. -/
def gap (leading : Bool) : Nat → Bool → Bool → Cursor → Gap × Bool × Cursor
  | 0, _, seen, c => (.accept, seen, c)
  | fuel + 1, newline, seen, c =>
    let c := c.skipWhile (·.isSpace)
    if c.sees '/' then
      let c := c.skip
      if c.sees '/' then
        let c := c.skip.skipWhile fun c => c.char != 0 && !endsLine c
        gap leading fuel newline true c
      else if c.sees '*' then
        let c := c.skip
        let (closed, newline, c) := blockComment c.fuel newline c
        if closed && leading && !c.sees '/' then (if newline then .accept else .sameLine, true, c)
        else gap leading fuel newline (seen || closed) c
      else (.reject, seen, c)
    else (.accept, seen, c)

/-- Whether the keyword `in` or `instanceof` does not start here, after an `i` was seen. -/
def notRelation (c : Cursor) : Bool × Cursor :=
  let c := c.skip
  if !c.sees 'n' then (true, c) else
    let c := c.skip
    if !c.isLetter then (false, c) else go "stanceof".toList c
where
  go : List Char → Cursor → Bool × Cursor
    | [], c => (c.isLetter, c)
    | x :: xs, c => if c.sees x then go xs c.skip else (true, c)

/-- Whether the first character of the next line allows a semicolon before it. -/
def lineAllows (typed : Bool) (valid : SemicolonToken → Bool) (c : Cursor) : Bool × Cursor :=
  let oneOf (s : String) : Bool := s.toList.any c.sees
  if oneOf "`,;*%><=?^|&/:" then (false, c)
  else if c.sees '.' then
    if typed then (false, c) else
      let c := c.skip
      (c.isDigit, c)
  else if oneOf "([" then (typed && !valid .logicalOr, c)
  else if c.sees '\x7b' then (!(typed && valid .signatureSemicolon), c)
  else if c.sees '+' then
    let c := c.skip
    (c.sees '+', c)
  else if c.sees '-' then
    let c := c.skip
    (c.sees '-', c)
  else if c.sees '!' then
    let c := c.skip
    (!c.sees '=', c)
  else if c.sees 'i' then notRelation c
  else (true, c)

/-- Whether a semicolon is inserted at a line end or a closing brace, in the untyped dialect. -/
def untypedLineEnd (valid : SemicolonToken → Bool) : Nat → Bool → Cursor → Bool × Bool × Cursor
  | 0, seen, c => (false, seen, c)
  | fuel + 1, seen, c =>
    if c.char == 0 then (true, seen, c) else
    let (verdict, seen, c) :=
      if c.sees '/' then
        let (g, seen, c) := gap true c.fuel false seen c
        if g = .reject then (some false, seen, c)
        else if g = .accept && !valid .logicalOr && !c.sees ',' && !c.sees '=' then (some true, seen, c)
        else (none, seen, c)
      else (none, seen, c)
    match verdict with
    | some b => (b, seen, c)
    | none =>
      if c.sees '\x7d' then (true, seen, c)
      else if endsLine c then
        let c := c.skip
        let (g, seen, c) := gap false c.fuel false seen c
        if g = .reject then (false, seen, c)
        else
          let (b, c) := lineAllows false valid c
          (b, seen, c)
      else if !c.isSpace then (false, seen, c)
      else untypedLineEnd valid fuel seen c.skip

/-- Whether a semicolon is inserted at a line end or a closing brace, in the typed dialect. A brace
before a colon closes a pattern and takes no semicolon. -/
def typedLineEnd (valid : SemicolonToken → Bool) : Nat → Bool → Cursor → Bool × Bool × Cursor
  | 0, seen, c => (false, seen, c)
  | fuel + 1, seen, c =>
    if c.char == 0 then (true, seen, c)
    else if c.sees '\x7d' then
      let c := c.skip.skipWhile (·.isSpace)
      (if c.sees ':' then valid .logicalOr else true, seen, c)
    else if !c.isSpace then (false, seen, c)
    else if c.sees '\n' then
      let c := c.skip
      let (g, seen, c) := gap false c.fuel false seen c
      if g = .reject then (false, seen, c)
      else
        let (b, c) := lineAllows true valid c
        (b, seen, c)
    else typedLineEnd valid fuel seen c.skip

/-- The question mark of a conditional, which no other mark may extend. -/
def ternaryMark (typed : Bool) (c : Cursor) : Outcome :=
  let c := c.skipWhile (·.isSpace)
  if !c.sees '?' then (none, c) else
  let c := c.advance
  if c.sees '?' || (typed && c.sees '.') then (none, c) else
  let c := c.markEnd
  let c := if typed then c.takeWhile (·.isSpace) else c
  if typed && (c.sees ':' || c.sees ')' || c.sees ',') then (none, c)
  else if c.sees '.' then
    let c := c.advance
    (if c.isDigit then some .ternaryMark else none, c)
  else (some .ternaryMark, c)

def takeText (cs : List Char) (c : Cursor) : Option Cursor :=
  match cs with
  | [] => some c
  | x :: xs => if c.sees x then takeText xs c.advance else none

/-- A comment opened by `<!--` or `-->` runs to the end of the line. -/
def htmlComment (c : Cursor) : Outcome :=
  let c := c.skipWhile fun c => c.isSpace || c.sees '\u2028' || c.sees '\u2029'
  match takeText "<!--".toList c <|> takeText "-->".toList c with
  | some c => (some .htmlComment, (c.takeWhile fun c => c.char != 0 && !endsLine c).markEnd)
  | none => (none, c)

/-- Text between markup tags. Blank lines alone are no text. -/
def markupText : Nat → Bool → Bool → Cursor → Bool × Cursor
  | 0, saw, _, c => (saw, c)
  | fuel + 1, saw, atNewline, c =>
    if c.char == 0 || "<>\x7b\x7d&".toList.any c.sees then (saw, c)
    else if c.sees '\n' then markupText fuel saw true c.advance
    else
      let atNewline := atNewline && c.isSpace
      markupText fuel (saw || !atNewline) atNewline c.advance

/-- A semicolon, or the conditional mark where no semicolon can be inserted. -/
def semicolon (typed : Bool) (valid : SemicolonToken → Bool) (c : Cursor) : Outcome :=
  let c := c.markEnd
  let (found, seen, c) :=
    if typed then typedLineEnd valid c.fuel false c else untypedLineEnd valid c.fuel false c
  if found then (some .automaticSemicolon, c)
  else if !seen && valid .ternaryMark && c.sees '?' then ternaryMark typed c
  else (none, c)

/-- The next token at the cursor among the `valid` ones. -/
def scan (typed : Bool) (valid : SemicolonToken → Bool) (c : Cursor) : Outcome :=
  if valid .templateChars then
    if valid .automaticSemicolon then (none, c) else templateChars c.fuel false c
  else
    let (text, c) := if valid .markupText then markupText c.fuel false false c else (false, c)
    if text then (some .markupText, c)
    else if valid .automaticSemicolon || (typed && valid .signatureSemicolon) then
      semicolon typed valid c
    else if valid .ternaryMark then ternaryMark typed c
    else if valid .htmlComment && !valid .logicalOr && !valid .escapeSequence
        && !valid .regexPattern then htmlComment c
    else (none, c)

end SemicolonScanner
end SymbolIndex
