import SymbolIndex.Yaml.Token.Scalar

/-!
# Reading YAML tokens

`Scan.next?` gives the tokens of a text one after the other. A token whose text may turn out to be a
mapping key is held back until that is settled, because the key's own token goes in front of it.
-/
namespace SymbolIndex.Yaml.Scan

/-- How long a key without a question mark may be. -/
def longestKey : Nat := 1024

/-- Whether it is too late for a key to be followed by its colon. -/
def isStale (m : Mark) (k : SimpleKey) : Bool :=
  k.mark.line < m.line || k.mark.index + longestKey < m.index

/-- Gives up the possible keys whose colon can no longer come. -/
def dropStaleKeys : Scan Unit := do
  let m ← mark
  let keys := (← get).keys
  match keys.reverse.findSome? (Option.filter fun k => isStale m k && k.required) with
  | some k => complain .missingColon (some (.scanSimpleKey, k.mark))
  | none => modify fun r => { r with keys := r.keys.map (Option.filter fun k => !isStale m k) }

/-- Gives up the possible key of the current flow level. -/
def dropKey : Scan Unit := do
  match (← get).keys with
  | some k :: _ => if k.required then complain .missingColon (some (.scanSimpleKey, k.mark))
  | _ => pure ()
  modify fun r => { r with keys := none :: r.keys.tail }

/-- Notes that a key may begin here. -/
def noteKey : Scan Unit := do
  let r ← get
  if r.keyAllowed then
    let key : SimpleKey :=
      { required := r.flowLevel == 0 && r.indent == r.mark.column, token := r.tokens.size, mark := r.mark }
    dropKey
    modify fun r => { r with keys := some key :: r.keys.tail }

def allowKey (allowed : Bool) : Scan Unit := modify fun r => { r with keyAllowed := allowed }

/-- Opens a block at a column to the right of the current one, before the token of a given number. -/
def indentTo (column : Nat) (before : Option Nat) (lexeme : Lexeme) (m : Mark) : Scan Unit := do
  let r ← get
  if r.flowLevel == 0 && r.indent < column then
    set { r with indents := r.indent :: r.indents, indent := column }
    match before with
    | some number => emitBefore number lexeme m
    | none => emit lexeme m m

/-- Closes the blocks to the right of a column. -/
def closeBlocks (column : Int) : Nat → Scan Unit
  | 0 => pure ()
  | fuel + 1 => do
    let r ← get
    if r.indent > column then
      emit .blockEnd r.mark r.mark
      modify fun r => { r with indent := r.indents.headD (-1), indents := r.indents.tail }
      closeBlocks column fuel

/-- Goes back to a column outside of flow collections. -/
def unindentTo (column : Int) : Scan Unit := do
  if !(← inFlow) then closeBlocks column ((← get).indents.length + 1)

/-- Passes blanks, comments and line breaks, and a byte order mark that starts a line. -/
def toNextToken : Nat → Scan Unit
  | 0 => pure ()
  | fuel + 1 => do
    need 1
    if (← mark).column == 0 && (← char) == '\ufeff' then skip
    need 1
    let r ← get
    let tabs := r.flowLevel > 0 || !r.keyAllowed
    skipWhile fun c => c == ' ' || (tabs && c == '\t')
    skipComment
    if isBreak (← char) then
      need 2
      skipBreak
      if !(← inFlow) then allowKey true
      toNextToken fuel

/-- Reads a part of a version number. -/
def versionNumber (start : Mark) : Scan Nat := do
  need 1
  let digits ← takeDigits 9 ""
  if digits.isEmpty then complain .missingVersion (some (.scanVersionDirective, start))
  return digits.foldl (fun n c => n * 10 + (c.toNat - 48)) 0
where
  takeDigits : Nat → String → Scan String
    | 0, acc => do
      if (← char).isDigit then complain .longVersion (some (.scanVersionDirective, start))
      return acc
    | fuel + 1, acc => do
      if (← char).isDigit then
        let acc := acc.push (← take)
        need 1
        takeDigits fuel acc
      else return acc

/-- Reads the handle of a tag, which starts with an exclamation mark and may end with one. -/
def tagHandle (directive : Bool) (start : Mark) : Scan String := do
  need 1
  if (← char) != '!' then
    complain .missingBang (some (if directive then .scanTagDirectiveHandle else .scanTag, start))
  skip
  need 1
  let handle := "!" ++ (← takeWhile isWord)
  if (← char) == '!' then
    skip
    return handle.push '!'
  else
    if directive && handle != "!" then
      complain .missingBang (some (.parseTagDirectiveHandle, start))
    return handle

/-- Whether a character may be in a tag. Flow indicators may only be in some. -/
def isTagChar (flow : Bool) (c : Char) : Bool :=
  isWord c || ";/?:@&=+$.%!~*'()".toList.contains c || (flow && (c == ',' || c == '[' || c == ']'))

/-- How many bytes the encoding of a character has that starts with a given byte. -/
def encodedWidth (b : Nat) : Nat :=
  if b < 0x80 then 1 else if b / 32 == 6 then 2 else if b / 16 == 14 then 3
  else if b / 8 == 30 then 4 else 0

/-- Reads one byte written with a percent sign. -/
def escapedByte (activity : Activity) (start : Mark) : Scan Nat := do
  need 3
  let high := hexDigit? (← charAt 1)
  let low := hexDigit? (← charAt 2)
  match (← char), high, low with
  | '%', some h, some l => return h * 16 + l
  | _, _, _ => complain .missingEscapedByte (some (activity, start))

/-- Reads the `n` bytes that complete a character. -/
def trailingBytes (activity : Activity) (start : Mark) : Nat → Tag → Scan Tag
  | 0, acc => return acc
  | n + 1, acc => do
    let b ← escapedByte activity start
    if b / 64 != 2 then complain .badTrailingByte (some (activity, start))
    skips 3
    trailingBytes activity start n (acc.push b.toUInt8)

/-- Reads the bytes of one character written with percent signs. -/
def escapedBytes (activity : Activity) (start : Mark) (acc : Tag) : Scan Tag := do
  let b ← escapedByte activity start
  let width := encodedWidth b
  if width == 0 then complain .badLeadingByte (some (activity, start))
  skips 3
  trailingBytes activity start (width - 1) (acc.push b.toUInt8)

def tagUriLoop (flow : Bool) (activity : Activity) (start : Mark) :
    Nat → Tag → Nat → Scan (Tag × Nat)
  | 0, acc, n => return (acc, n)
  | fuel + 1, acc, n => do
    let c ← char
    if !isTagChar flow c then return (acc, n)
    let acc ← if c == '%' then escapedBytes activity start acc else do
      skip
      pure (acc ++ Tag.ofString c.toString)
    need 1
    tagUriLoop flow activity start fuel acc (n + 1)

/-- Reads a tag or the rest of one, after a `head` whose exclamation mark does not count. -/
def tagUri (flow directive : Bool) (head : String) (start : Mark) : Scan Tag := do
  let activity : Activity := if directive then .parseTagDirective else .parseTag
  need 1
  let (bytes, n) ←
    tagUriLoop flow activity start (← turns) (.ofString (head.drop 1).toString) head.length
  if n == 0 then complain .missingTagUri (some (activity, start))
  return bytes

/-- Reads the rest of a directive that sets the version. -/
def versionDirective (start : Mark) : Scan Lexeme := do
  need 1
  skipWhile isGap
  let major ← versionNumber start
  if (← char) != '.' then complain .missingVersionDigit (some (.scanVersionDirective, start))
  skip
  return .versionDirective major (← versionNumber start)

/-- Reads the rest of a directive that sets a shorthand for tags. -/
def tagDirective (start : Mark) : Scan Lexeme := do
  need 1
  skipWhile isGap
  let handle ← tagHandle true start
  need 1
  if !isGap (← char) then complain .missingBlank (some (.scanTagDirective, start))
  skipWhile isGap
  let lead ← tagUri true true "" start
  need 1
  if !isGapOrEnd (← char) then complain .missingBlankOrLineEnd (some (.scanTagDirective, start))
  return .tagDirective handle lead

/-- Reads a directive with its line. -/
def directive : Scan Unit := do
  let context := some (Activity.scanDirective, ← mark)
  let start ← mark
  skip
  need 1
  let name ← takeWhile isWord
  if name.isEmpty then complain .missingDirectiveName context
  if !isGapOrEnd (← char) then complain .nonAlphabeticName context
  let lexeme ← match name with
    | "YAML" => versionDirective start
    | "TAG" => tagDirective start
    | _ => complain .unknownDirective context
  let stop ← mark
  need 1
  skipWhile isGap
  skipComment
  if !isBreakOrEnd (← char) then complain .missingLineEnd context
  if isBreak (← char) then
    need 2
    skipBreak
  emit lexeme start stop

/-- Reads an anchor or a reference to one. -/
def anchor (isAnchor : Bool) : Scan Unit := do
  let start ← mark
  skip
  need 1
  let name ← takeWhile isWord
  let stop ← mark
  let c ← char
  if name.isEmpty || !(isGapOrEnd c || "?:,]\x7d%@`".toList.contains c) then
    complain .badAnchor (some (if isAnchor then .scanAnchor else .scanAlias, start))
  emit (if isAnchor then .anchor name else .reference name) start stop

/-- Reads a tag: in angle brackets, with a handle, or local. -/
def tag : Scan Unit := do
  let start ← mark
  need 2
  let (handle, rest) ← do
    if (← charAt 1) == '<' then
      skips 2
      let uri ← tagUri true false "" start
      if (← char) != '>' then complain .missingTagEnd (some (.scanTag, start))
      skip
      pure ("", uri)
    else
      let handle ← tagHandle false start
      if handle.length > 1 && handle.back == '!' then
        pure (handle, ← tagUri false false "" start)
      else
        let rest ← tagUri false false handle start
        pure (if rest.isEmpty then ("", .ofString "!") else ("!", rest))
  need 1
  let c ← char
  if !isGapOrEnd c && !((← inFlow) && c == ',') then
    complain .missingBlankOrLineEnd (some (.scanTag, start))
  emit (.tag handle rest) start (← mark)

/-- Reads an indicator of `width` characters. -/
def indicator (width : Nat) (lexeme : Lexeme) : Scan Unit := do
  let start ← mark
  skips width
  emit lexeme start (← mark)

/-- Ends all blocks and with them all possible keys. -/
def endBlocks : Scan Unit := do
  unindentTo (-1)
  dropKey
  allowKey false

def streamEnd : Scan Unit := do
  if (← mark).column != 0 then
    modify fun r => { r with mark := { r.mark with line := r.mark.line + 1, column := 0 } }
  endBlocks
  emit .streamEnd (← mark) (← mark)

/-- Opens a flow collection. -/
def openFlow (lexeme : Lexeme) : Scan Unit := do
  noteKey
  modify fun r => { r with keys := none :: r.keys, flowLevel := r.flowLevel + 1, keyAllowed := true }
  indicator 1 lexeme

/-- Closes a flow collection. -/
def closeFlow (lexeme : Lexeme) : Scan Unit := do
  dropKey
  if ← inFlow then modify fun r => { r with keys := r.keys.tail, flowLevel := r.flowLevel - 1 }
  allowKey false
  indicator 1 lexeme

def flowEntry : Scan Unit := do
  dropKey
  allowKey true
  indicator 1 .flowEntry

def blockEntry : Scan Unit := do
  if !(← inFlow) then
    if !(← get).keyAllowed then complain .entryNotAllowed none
    indentTo (← mark).column none .blockSequenceStart (← mark)
  dropKey
  allowKey true
  indicator 1 .blockEntry

def key : Scan Unit := do
  if !(← inFlow) then
    if !(← get).keyAllowed then complain .keyNotAllowed none
    indentTo (← mark).column none .blockMappingStart (← mark)
  dropKey
  allowKey !(← inFlow)
  indicator 1 .key

def value : Scan Unit := do
  match (← get).keys with
  | some k :: _ =>
    emitBefore k.token .key k.mark
    indentTo k.mark.column (some k.token) .blockMappingStart k.mark
    modify fun r => { r with keys := none :: r.keys.tail, keyAllowed := false }
  | _ =>
    if !(← inFlow) then
      if !(← get).keyAllowed then complain .valueNotAllowed none
      indentTo (← mark).column none .blockMappingStart (← mark)
    allowKey !(← inFlow)
  indicator 1 .value

/-- Reads a token that may be the start of a key. -/
def keyStart (read : Scan Unit) : Scan Unit := do
  noteKey
  allowKey false
  read

/-- Characters that no plain scalar starts with, other than before some others. -/
def isIndicator (c : Char) : Bool := "-?:,[]\x7b\x7d#&*!|>'\"%@`".toList.contains c

/-- Whether a plain scalar starts with the character `c` before `next`. -/
def startsPlain (flow : Bool) (c next : Char) : Bool :=
  !(isGapOrEnd c || isIndicator c) || (c == '-' && !isGap next) ||
    (!flow && (c == '?' || c == ':') && !isGapOrEnd next)

/-- Finds the next token, if need be together with tokens in front of it. -/
def fetch : Scan Unit := do
  need 1
  if !(← get).started then
    modify fun r => { r with started := true }
    emit .streamStart (← mark) (← mark)
  else
    toNextToken (← turns)
    dropStaleKeys
    unindentTo (← mark).column
    need 4
    let c ← char
    let next ← charAt 1
    let flow ← inFlow
    if isEnd c then streamEnd
    else if (← mark).column == 0 && c == '%' then
      endBlocks
      directive
    else if ← atDocumentMark true false then
      endBlocks
      indicator 3 .documentStart
    else if ← atDocumentMark false true then
      endBlocks
      indicator 3 .documentEnd
    else if c == '[' then openFlow .flowSequenceStart
    else if c == '\x7b' then openFlow .flowMappingStart
    else if c == ']' then closeFlow .flowSequenceEnd
    else if c == '\x7d' then closeFlow .flowMappingEnd
    else if c == ',' then flowEntry
    else if c == '-' && isGapOrEnd next then blockEntry
    else if c == '?' && (flow || isGapOrEnd next) then key
    else if c == ':' && (flow || isGapOrEnd next) then value
    else if c == '*' then keyStart (anchor false)
    else if c == '&' then keyStart (anchor true)
    else if c == '!' then keyStart tag
    else if (c == '|' || c == '>') && !flow then
      dropKey
      allowKey true
      blockScalar (c == '|')
    else if c == '\'' then keyStart (quotedScalar true)
    else if c == '"' then keyStart (quotedScalar false)
    else if startsPlain flow c next then keyStart plainScalar
    else complain .noToken (some (.scanToken, ← mark))

/-- Finds tokens until it is settled which comes next. -/
def settle : Nat → Scan Unit
  | 0 => pure ()
  | fuel + 1 => do
    let r ← get
    if r.taken < r.tokens.size then
      dropStaleKeys
      let r ← get
      if r.keys.any fun k => (k.map (·.token)) == some r.taken then
        fetch
        settle fuel
    else
      fetch
      settle fuel

/-- The next token, which stays next. -/
def peek : Scan Token := do
  settle (← turns)
  let r ← get
  return r.tokens.getD r.taken ⟨.streamEnd, r.mark, r.mark⟩

/-- Hands out the next token. -/
def advance : Scan Unit := modify fun r => { r with taken := r.taken + 1 }

end SymbolIndex.Yaml.Scan
