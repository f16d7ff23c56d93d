import SymbolIndex.Ignore.Glob
import SymbolIndex.Text.Basic
import SymbolIndex.Text.Utf8

/-!
# Rules of ignore files

Each line of an ignore file is a rule: a glob for paths below the directory of the file, which ignores
what it matches or, after an exclamation mark, keeps it. The last rule that matches decides. A glob
without a slash matches at any depth, and one with a slash at the end only directories.
-/
namespace SymbolIndex

/-- What rules say about an entry. -/
inductive Verdict
  | undecided
  | ignored
  | kept
  deriving DecidableEq, Repr, Inhabited

/-- The first verdict, or the second if the first leaves it open. -/
def Verdict.or (v w : Verdict) : Verdict := if v = .undecided then w else v

/-- A line of an ignore file. -/
structure IgnoreRule where
  pattern : Pattern
  keeps : Bool
  onlyDirectories : Bool
  deriving DecidableEq, Repr, Inhabited

namespace IgnoreRule

def endsWith (ending cs : List Char) : Bool := ending.reverse.isPrefixOf cs.reverse

/-- The rule of a line, if the line is one. -/
def ofLine? (line : String) : Option IgnoreRule :=
  let cs := line.toList
  if cs.head? = some '#' then none
  else
    let cs := if endsWith ['\\', ' '] cs then cs else Text.dropTail isBlank cs
    if cs.isEmpty then none
    else
      let (keeps, anchored, cs) := match cs with
        | '\\' :: '!' :: rest => (false, false, '!' :: rest)
        | '\\' :: '#' :: rest => (false, false, '#' :: rest)
        | '!' :: '/' :: rest => (true, true, rest)
        | '!' :: rest => (true, false, rest)
        | '/' :: rest => (false, true, rest)
        | cs => (false, false, cs)
      let onlyDirectories := cs.getLast? = some '/'
      let cs := if onlyDirectories then cs.dropLast else cs
      let cs := if onlyDirectories && cs.getLast? = some '\\' then cs.dropLast else cs
      let deep := cs = ['*', '*'] || ['*', '*', '/'].isPrefixOf cs
      let glob := if !anchored && !cs.contains '/' && !deep then '*' :: '*' :: '/' :: cs else cs
      let glob := if endsWith ['/', '*', '*'] glob then glob ++ ['/', '*'] else glob
      (Glob.ofChars? glob).map fun g => ⟨g.pattern, keeps, onlyDirectories⟩

/-- Whether a rule is about a path. -/
def applies (r : IgnoreRule) (path : List UInt8) (isDirectory : Bool) : Bool :=
  (!r.onlyDirectories || isDirectory) && r.pattern.contains path

end IgnoreRule

/-- The rules of an ignore file, in order. -/
abbrev IgnoreRules := List IgnoreRule

namespace IgnoreRules

/-- What the last rule that is about a path says. -/
def verdict (rules : IgnoreRules) (path : List UInt8) (isDirectory : Bool) : Verdict :=
  match rules.reverse.find? (·.applies path isDirectory) with
  | some r => if r.keeps then .kept else .ignored
  | none => .undecided

def dropMark (s : String) : String :=
  String.ofList (s.toList.dropWhile (· == '\uFEFF'))

/-- The rules of a text. A mark of the byte order at its start does not count. -/
def ofText (text : String) : IgnoreRules :=
  let lines := Text.lines text
  let lines := lines.map fun l => if l.endsWith "\r" then (l.dropEnd 1).toString else l
  match lines with
  | first :: rest => (dropMark first :: rest).filterMap IgnoreRule.ofLine?
  | [] => []

/-- The rules of a content, up to the first line that is not text. -/
def ofContent (content : List UInt8) : IgnoreRules :=
  let readable := match Utf8.invalidFrom? content 0 with
    | some offset => ((content.take offset).reverse.dropWhile (· != 10)).reverse
    | none => content
  ofText (Utf8.decodeLossy ⟨readable.toArray⟩)

end IgnoreRules
end SymbolIndex
