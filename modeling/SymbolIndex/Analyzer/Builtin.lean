import SymbolIndex.Analyzer.Basic
import SymbolIndex.Grammar.Data.JavaScript
import SymbolIndex.Grammar.Data.Json
import SymbolIndex.Grammar.Data.Python
import SymbolIndex.Grammar.Data.Tsx
import SymbolIndex.Grammar.Data.TypeScript
import SymbolIndex.Parsing.Engine
import SymbolIndex.Parsing.Shown
import SymbolIndex.Symbols.EcmaScript
import SymbolIndex.Symbols.Python

/-!
# The analyzers of the known languages

TypeScript has two dialects that cannot be told apart beforehand: the plain one, and one with markup
in expressions. A text is of the plain dialect unless the other makes sense of strictly more of it.
-/
namespace SymbolIndex

namespace ParserSetup

def python : ParserSetup := ⟨Grammar.python.grammar, .blocks⟩
def javaScript : ParserSetup := ⟨Grammar.javaScript.grammar, .semicolons false⟩
def typeScript : ParserSetup := ⟨Grammar.typeScript.grammar, .semicolons true⟩
def tsx : ParserSetup := ⟨Grammar.tsx.grammar, .semicolons true⟩
def json : ParserSetup := ⟨Grammar.json.grammar, .none⟩

/-- The syntax tree of a text. -/
def tree (p : ParserSetup) (language : Language) (source : String) :
    Except AnalyzerError SyntaxTree :=
  match p.parse source.toUTF8 with
  | some t => .ok (t.toSyntax p.grammar)
  | none => .error (.parseAborted language.name)

end ParserSetup

/-- The better of the trees of two dialects, with its errors; the second is only asked for if
something is wrong in the first. -/
def chooseDialect {ε : Type} (source : String) (plain : SyntaxTree)
    (markup : Unit → Except ε SyntaxTree) : Except ε (SyntaxTree × List ParseError) := do
  if plain.root.hasError then
    let errors := plain.problems source
    let other ← markup ()
    let otherErrors := other.problems source
    if otherErrors.length < errors.length then return (other, otherErrors)
    else return (plain, errors)
  else return (plain, plain.problems source)

namespace Analyzer

/-- The symbols of a text of `language` that was parsed to a tree; other parsed texts are refused. -/
def symbolsOfTree (language : Language) (collect : String → SyntaxTree → List Symbol)
    (p : ParsedText) : Except AnalyzerError (List Symbol) :=
  if p.language ≠ language then
    .error (.foreignTree language.name p.language.name)
  else
    match p.body with
    | .tree t => .ok (collect p.source t)
    | .documents _ => .error (.foreignTree language.name "documents")

/-- An analyzer that takes the tree that one parser gives. -/
def ofParser (language : Language) (parser : ParserSetup)
    (collect : String → SyntaxTree → List Symbol) : Analyzer where
  language := language
  parse source := return .ofTree source language (← parser.tree language source)
  symbols := symbolsOfTree language collect

def python : Analyzer := ofParser .python .python Python.symbols

def javaScript : Analyzer := ofParser .javaScript .javaScript EcmaScript.symbols

/-- JSON declares nothing. -/
def json : Analyzer := ofParser .json .json fun _ _ => []

def typeScript : Analyzer where
  language := .typeScript
  parse source := do
    let plain ← ParserSetup.typeScript.tree .typeScript source
    let (t, errors) ← chooseDialect source plain fun _ => ParserSetup.tsx.tree .typeScript source
    return .ofErrors source .typeScript (.tree t) errors
  symbols := symbolsOfTree .typeScript EcmaScript.symbols

/-- The error of a YAML text that cannot be read to its end. -/
def yamlError (f : Yaml.Failure) : ParseError :=
  let at_ : Position := match f.mark? with
    | some m => ⟨m.line + 1, m.column⟩
    | none => ⟨1, 0⟩
  ⟨at_, at_, f.text⟩

/-- YAML declares nothing. -/
def yaml : Analyzer where
  language := .yaml
  parse source :=
    let (values, failure) := Yaml.documents source
    .ok (.ofErrors source .yaml (.documents values) (failure.map yamlError).toList)
  symbols p :=
    if p.language ≠ .yaml then .error (.foreignTree Language.yaml.name p.language.name)
    else
      match p.body with
      | .documents _ => .ok []
      | .tree _ => .error (.foreignTree Language.yaml.name "concrete")

/-- The analyzer of a language. -/
def builtin? : Language → Option Analyzer
  | .python => some python
  | .javaScript => some javaScript
  | .typeScript => some typeScript
  | .json => some json
  | .yaml => some yaml
  | .unknown => none

end Analyzer
end SymbolIndex
