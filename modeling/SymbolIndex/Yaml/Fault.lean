/-!
# Faults of YAML texts

Why a text is not YAML: what was found, where, and what was being read at the time. `Fault.text` is
the wording; a place on the first line at its start is not worth a mention.
-/
namespace SymbolIndex.Yaml

/-- A place in a text: characters, lines and characters on the line before it. -/
structure Mark where
  index : Nat
  line : Nat
  column : Nat
  deriving DecidableEq, Repr, Inhabited

namespace Mark

def zero : Mark := ⟨0, 0, 0⟩

/-- Whether the place is the start of the first line. -/
def isOrigin (m : Mark) : Bool := m.line == 0 && m.column == 0

def sameSpot (m n : Mark) : Bool := m.line == n.line && m.column == n.column

def text (m : Mark) : String := s!"line {m.line + 1} column {m.column + 1}"

end Mark

/-- What can be wrong with a text. -/
inductive Complaint
  /-- A control character, with the bytes before it. -/
  | controlCharacter (offset : Nat)
  | noToken
  | missingColon
  | entryNotAllowed
  | keyNotAllowed
  | valueNotAllowed
  | missingDirectiveName
  | nonAlphabeticName
  | unknownDirective
  | missingLineEnd
  | missingVersionDigit
  | longVersion
  | missingVersion
  | missingBlank
  | missingBlankOrLineEnd
  | badAnchor
  | missingTagEnd
  | missingBang
  | missingTagUri
  | missingEscapedByte
  | badLeadingByte
  | badTrailingByte
  | zeroIndentation
  | tabIndentation
  | tabInPlainScalar
  | documentInScalar
  | endInScalar
  | unknownEscape
  | missingHexDigit
  | badCodePoint
  | colonInPlainScalar
  | missingDocumentStart
  | duplicateVersion
  | incompatibleVersion
  | duplicateTagDirective
  | undefinedTagHandle
  | missingContent
  | missingEntry
  | missingKey
  | missingSequenceEnd
  | missingMappingEnd
  deriving DecidableEq, Repr, Inhabited

namespace Complaint

def text : Complaint → String
  | controlCharacter _ => "control characters are not allowed"
  | noToken => "found character that cannot start any token"
  | missingColon => "could not find expected ':'"
  | entryNotAllowed => "block sequence entries are not allowed in this context"
  | keyNotAllowed => "mapping keys are not allowed in this context"
  | valueNotAllowed => "mapping values are not allowed in this context"
  | missingDirectiveName => "could not find expected directive name"
  | nonAlphabeticName => "found unexpected non-alphabetical character"
  | unknownDirective => "found unknown directive name"
  | missingLineEnd => "did not find expected comment or line break"
  | missingVersionDigit => "did not find expected digit or '.' character"
  | longVersion => "found extremely long version number"
  | missingVersion => "did not find expected version number"
  | missingBlank => "did not find expected whitespace"
  | missingBlankOrLineEnd => "did not find expected whitespace or line break"
  | badAnchor => "did not find expected alphabetic or numeric character"
  | missingTagEnd => "did not find the expected '>'"
  | missingBang => "did not find expected '!'"
  | missingTagUri => "did not find expected tag URI"
  | missingEscapedByte => "did not find URI escaped octet"
  | badLeadingByte => "found an incorrect leading UTF-8 octet"
  | badTrailingByte => "found an incorrect trailing UTF-8 octet"
  | zeroIndentation => "found an indentation indicator equal to 0"
  | tabIndentation => "found a tab character where an indentation space is expected"
  | tabInPlainScalar => "found a tab character that violates indentation"
  | documentInScalar => "found unexpected document indicator"
  | endInScalar => "found unexpected end of stream"
  | unknownEscape => "found unknown escape character"
  | missingHexDigit => "did not find expected hexdecimal number"
  | badCodePoint => "found invalid Unicode character escape code"
  | colonInPlainScalar => "found unexpected ':'"
  | missingDocumentStart => "did not find expected <document start>"
  | duplicateVersion => "found duplicate %YAML directive"
  | incompatibleVersion => "found incompatible YAML document"
  | duplicateTagDirective => "found duplicate %TAG directive"
  | undefinedTagHandle => "found undefined tag handle"
  | missingContent => "did not find expected node content"
  | missingEntry => "did not find expected '-' indicator"
  | missingKey => "did not find expected key"
  | missingSequenceEnd => "did not find expected ',' or ']'"
  | missingMappingEnd => "did not find expected ',' or '\x7d'"

end Complaint

/-- What was being read when something was found to be wrong. -/
inductive Activity
  | scanToken
  | scanSimpleKey
  | scanDirective
  | scanVersionDirective
  | scanTagDirective
  | scanTagDirectiveHandle
  | parseTagDirectiveHandle
  | parseTagDirective
  | scanAnchor
  | scanAlias
  | scanTag
  | parseTag
  | scanBlockScalar
  | scanQuotedScalar
  | parseQuotedScalar
  | scanPlainScalar
  | parseNode
  | parseBlockNode
  | parseFlowNode
  | parseBlockCollection
  | parseBlockMapping
  | parseFlowSequence
  | parseFlowMapping
  deriving DecidableEq, Repr, Inhabited

namespace Activity

def text : Activity → String
  | scanToken => "while scanning for the next token"
  | scanSimpleKey => "while scanning a simple key"
  | scanDirective => "while scanning a directive"
  | scanVersionDirective => "while scanning a %YAML directive"
  | scanTagDirective => "while scanning a %TAG directive"
  | scanTagDirectiveHandle => "while scanning a tag directive"
  | parseTagDirectiveHandle => "while parsing a tag directive"
  | parseTagDirective => "while parsing a %TAG directive"
  | scanAnchor => "while scanning an anchor"
  | scanAlias => "while scanning an alias"
  | scanTag => "while scanning a tag"
  | parseTag => "while parsing a tag"
  | scanBlockScalar => "while scanning a block scalar"
  | scanQuotedScalar => "while scanning a quoted scalar"
  | parseQuotedScalar => "while parsing a quoted scalar"
  | scanPlainScalar => "while scanning a plain scalar"
  | parseNode => "while parsing a node"
  | parseBlockNode => "while parsing a block node"
  | parseFlowNode => "while parsing a flow node"
  | parseBlockCollection => "while parsing a block collection"
  | parseBlockMapping => "while parsing a block mapping"
  | parseFlowSequence => "while parsing a flow sequence"
  | parseFlowMapping => "while parsing a flow mapping"

end Activity

/-- Something wrong at a place, with what was being read and where that began. -/
structure Fault where
  complaint : Complaint
  mark : Mark
  context : Option (Activity × Mark)
  deriving DecidableEq, Repr, Inhabited

namespace Fault

/-- Where the fault is, as far as it has a place worth a mention. -/
def place (f : Fault) : String :=
  if !f.mark.isOrigin then s!" at {f.mark.text}"
  else
    match f.complaint with
    | .controlCharacter (n + 1) => s!" at position {n + 1}"
    | _ => ""

/-- What was being read, and where it began if that is another place. -/
def contextText (f : Fault) : String :=
  match f.context with
  | none => ""
  | some (a, m) =>
    if !m.isOrigin && !m.sameSpot f.mark then s!", {a.text} at {m.text}" else s!", {a.text}"

def text (f : Fault) : String := f.complaint.text ++ f.place ++ f.contextText

end Fault
end SymbolIndex.Yaml
