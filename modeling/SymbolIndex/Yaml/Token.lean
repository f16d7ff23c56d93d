import SymbolIndex.Yaml.Fault

/-!
# Tokens of YAML texts

The pieces that a YAML text is made of. Where blocks begin and end shows in the indentation alone;
there are tokens for that too.
-/
namespace SymbolIndex.Yaml

/-- How a scalar is written. -/
inductive ScalarStyle
  | plain
  | singleQuoted
  | doubleQuoted
  | literal
  | folded
  deriving DecidableEq, Repr, Inhabited

/-- A tag, or a part of one, as its bytes: what is written with percent signs need not be text. -/
abbrev Tag := Array UInt8

namespace Tag

def ofString (s : String) : Tag := s.toUTF8.data

/-- The text of a tag, if it is one. -/
def text? (t : Tag) : Option String := String.fromUTF8? ⟨t⟩

end Tag

/-- What a token stands for. -/
inductive Lexeme
  | streamStart
  | streamEnd
  | versionDirective (major minor : Nat)
  /-- A shorthand for tags: texts that start with `handle` are to start with `lead`. -/
  | tagDirective (handle : String) (lead : Tag)
  | documentStart
  | documentEnd
  | blockSequenceStart
  | blockMappingStart
  | blockEnd
  | flowSequenceStart
  | flowSequenceEnd
  | flowMappingStart
  | flowMappingEnd
  | blockEntry
  | flowEntry
  | key
  | value
  | reference (name : String)
  | anchor (name : String)
  | tag (handle : String) (rest : Tag)
  | scalar (text : String) (style : ScalarStyle)
  deriving DecidableEq, Inhabited

/-- A lexeme with its place. -/
structure Token where
  lexeme : Lexeme
  start : Mark
  stop : Mark
  deriving DecidableEq, Inhabited

end SymbolIndex.Yaml
