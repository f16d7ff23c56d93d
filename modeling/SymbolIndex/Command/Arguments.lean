import SymbolIndex.Path.Basic

/-!
# Arguments of the command line

A command is named first, and its options and paths follow. An option with a value takes the next
argument, or what follows an equals sign; flags stand alone, and those of one letter may be written
together. After two dashes all arguments are paths. No option may be given twice unless it says so, and
no path is empty.
-/
namespace SymbolIndex.Command

/-- How much is logged. -/
structure Verbosity where
  verbose : Bool
  quiet : Bool
  deriving DecidableEq, Repr, Inhabited

structure AnalyzeArguments where
  paths : List Path
  config : Option Path
  pretty : Bool
  deriving DecidableEq, Repr, Inhabited

structure WatchArguments where
  roots : List Path
  config : Option Path
  eager : Bool
  deriving DecidableEq, Repr, Inhabited

/-- What is asked for on the command line. -/
inductive Request
  | analyze (v : Verbosity) (a : AnalyzeArguments)
  | watch (v : Verbosity) (a : WatchArguments)
  | version
  | help
  /-- The arguments do not fit. -/
  | misuse
  deriving DecidableEq, Repr, Inhabited

/-- An option by its name; some take a value. -/
inductive OptionName
  | verbose
  | quiet
  | config
  | pretty
  | root
  | eager
  | help
  | version
  deriving DecidableEq, Repr, Inhabited

namespace OptionName

def takesValue : OptionName → Bool
  | config | root => true
  | _ => false

/-- Whether an option may be given more than once. -/
def repeats : OptionName → Bool
  | root => true
  | _ => false

def long : OptionName → String
  | verbose => "verbose"
  | quiet => "quiet"
  | config => "config"
  | pretty => "pretty"
  | root => "root"
  | eager => "eager"
  | help => "help"
  | version => "version"

/-- The letter that stands for an option. -/
def short? : OptionName → Option Char
  | verbose => some 'v'
  | help => some 'h'
  | version => some 'V'
  | _ => none

end OptionName

/-- What was read of the arguments so far. -/
structure Parsed where
  /-- The options without a value. -/
  flags : List OptionName
  /-- The options with a value. -/
  values : List (OptionName × String)
  /-- The other arguments. -/
  operands : List String
  deriving Inhabited

/-- Why reading the arguments ends before they do. -/
inductive Interruption
  | help
  | version
  | misuse
  deriving DecidableEq, Repr, Inhabited

namespace Interruption

def request : Interruption → Request
  | help => .help
  | version => .version
  | misuse => .misuse

end Interruption

namespace Parsed

def empty : Parsed := ⟨[], [], []⟩

def has (p : Parsed) (o : OptionName) : Bool := p.flags.contains o

/-- The values of an option, in order. -/
def valuesOf (p : Parsed) (o : OptionName) : List Path :=
  (p.values.filter (·.1 = o)).map fun v => ⟨v.2⟩

/-- Takes an option without a value. -/
def addFlag (p : Parsed) (o : OptionName) : Except Interruption Parsed :=
  match o with
  | .help => .error .help
  | .version => .error .version
  | o => if p.has o then .error .misuse else .ok { p with flags := p.flags ++ [o] }

/-- Takes an option with its value. -/
def addValue (p : Parsed) (o : OptionName) (value : String) : Except Interruption Parsed :=
  if value = "" ∨ (!o.repeats ∧ (p.values.any (·.1 = o))) then .error .misuse
  else .ok { p with values := p.values ++ [(o, value)] }

/-- Takes an argument that is no option. -/
def addOperand (p : Parsed) (s : String) : Except Interruption Parsed :=
  if s = "" then .error .misuse else .ok { p with operands := p.operands ++ [s] }

/-- Takes flags of one letter. -/
def addLetters (known : List OptionName) (p : Parsed) (letters : List Char) :
    Except Interruption Parsed :=
  letters.foldlM (fun p c =>
    match known.find? (·.short? = some c) with
    | some o => p.addFlag o
    | none => .error .misuse) p

end Parsed

/-- Whether an argument is an option by its form. -/
def isOption (s : String) : Bool := s.startsWith "-" && s != "-"

/-- Takes an option by its long form, which is all after the dashes; `next` are the arguments after it.
The second part of the result are the arguments that are left. -/
def takeLong (known : List OptionName) (p : Parsed) (text : String) (next : List String) :
    Except Interruption (Parsed × List String) :=
  let name := (text.takeWhile (· != '=')).toString
  let value? := if text.contains '=' then some ((text.drop (name.length + 1)).toString) else none
  match known.find? (·.long = name) with
  | none => .error .misuse
  | some o =>
    if o.takesValue then
      match value?, next with
      | some value, next => return (← p.addValue o value, next)
      | none, value :: rest =>
        if isOption value then .error .misuse else return (← p.addValue o value, rest)
      | none, [] => .error .misuse
    else if value?.isSome then .error .misuse
    else return (← p.addFlag o, next)

/-- Reads options and operands. `stopAtOperand` leaves the first operand and all after it unread.
There is fuel for all arguments. -/
def readArguments (known : List OptionName) (stopAtOperand : Bool) :
    Nat → Parsed → List String → Except Interruption (Parsed × List String)
  | 0, p, rest => .ok (p, rest)
  | _, p, [] => .ok (p, [])
  | fuel + 1, p, s :: rest =>
    if s = "--" then do
      if stopAtOperand then .error .misuse
      else return (← rest.foldlM Parsed.addOperand p, [])
    else if s.startsWith "--" then do
      let (p, rest) ← takeLong known p (s.drop 2).toString rest
      readArguments known stopAtOperand fuel p rest
    else if isOption s then do
      readArguments known stopAtOperand fuel (← p.addLetters known (s.drop 1).toString.toList) rest
    else if stopAtOperand then .ok (p, s :: rest)
    else do readArguments known stopAtOperand fuel (← p.addOperand s) rest

/-- Reads all arguments of a command. -/
def readCommand (known : List OptionName) (args : List String) : Except Interruption Parsed := do
  return (← readArguments known false args.length .empty args).1

/-- The options that are allowed before and after the command. -/
def sharedOptions : List OptionName := [.verbose, .quiet, .help]

/-- The request that some arguments make. -/
def request? (args : List String) : Except Interruption Request := do
  let (shared, rest) ← readArguments (.version :: sharedOptions) true args.length .empty args
  let verbosity (p : Parsed) : Verbosity :=
    ⟨shared.has .verbose || p.has .verbose, shared.has .quiet || p.has .quiet⟩
  match rest with
  | "analyze" :: args =>
    let p ← readCommand (.config :: .pretty :: sharedOptions) args
    if p.operands.isEmpty then .error .misuse
    else
      return .analyze (verbosity p)
        ⟨p.operands.map Path.mk, (p.valuesOf .config).head?, p.has .pretty⟩
  | "watch" :: args =>
    let p ← readCommand (.root :: .config :: .eager :: sharedOptions) args
    if !p.operands.isEmpty then .error .misuse
    else return .watch (verbosity p) ⟨p.valuesOf .root, (p.valuesOf .config).head?, p.has .eager⟩
  | "help" :: _ => .error .help
  | _ => .error .misuse

/-- The request that some arguments make. -/
def Request.ofArguments (args : List String) : Request :=
  match request? args with
  | .ok r => r
  | .error e => e.request

end SymbolIndex.Command
