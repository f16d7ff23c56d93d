import SymbolIndex.Analyzer.Basic
import SymbolIndex.Text.Utf8

/-!
# Contents that are not text

A content is analysed as the text that it is leniently read as. Where it is not UTF-8 for the first
time is an error of its own, in its place among the errors of the text.
-/
namespace SymbolIndex

namespace ParseError

/-- The wording for a content that is not UTF-8. -/
def invalidUtf8Message : String :=
  "invalid UTF-8; later columns on this line count U+FFFD, not raw bytes"

/-- The place at an offset of some bytes. -/
def positionAt (content : List UInt8) (offset : Nat) : Position :=
  let before := content.take offset
  ⟨before.count 10 + 1, (before.reverse.takeWhile (· != 10)).length⟩

/-- Where a content is not UTF-8 for the first time. -/
def ofInvalidUtf8? (content : List UInt8) : Option ParseError :=
  (Utf8.invalidFrom? content 0).map fun offset =>
    let at_ := positionAt content offset
    ⟨at_, { at_ with column := at_.column + 1 }, invalidUtf8Message⟩

/-- Puts an error after all that start no later. -/
def insert (e : ParseError) (errors : List ParseError) : List ParseError :=
  errors.takeWhile (·.start ≤ e.start) ++ e :: errors.dropWhile (·.start ≤ e.start)

end ParseError

namespace Analyzer

/-- The symbols and errors of a content. -/
def analyzeContent (a : Analyzer) (content : ByteArray) : Except AnalyzerError Extraction := do
  let e ← a.analyze (Utf8.decodeLossy content)
  match ParseError.ofInvalidUtf8? content.toList with
  | some invalid => return { e with errors := invalid.insert e.errors }
  | none => return e

end Analyzer
end SymbolIndex
