import SymbolIndex.IndexError

/-!
# Failures of commands

A command that fails tells what it could not do, and why. The causes follow each other from the
outermost to the innermost; they are numbered if there are several.
-/
namespace SymbolIndex

namespace IndexError

/-- The text of an error and of what it comes from, the outermost first. -/
def causes (e : IndexError) : List String :=
  e.message :: match e with
    | unreadable _ cause | io cause => [cause.text]
    | analyzer cause => [cause.message]
    | _ => []

end IndexError

namespace Command

structure Failure where
  task : String
  causes : List String
  deriving DecidableEq, Repr, Inhabited

namespace Failure

/-- An error that keeps a command from doing something. -/
def ofError (task : String) (e : IndexError) : Failure := ⟨task, e.causes⟩

/-- The lines of a text, the first after `lead` and the others after as many blanks. -/
def indented (lead text : String) : List String :=
  match Text.lines text with
  | [] => []
  | first :: rest =>
    (lead ++ first) :: rest.map fun line => "".pushn ' ' lead.length ++ line

/-- A number before a cause. -/
def numbering (n : Nat) : String :=
  let digits := toString n
  "".pushn ' ' (5 - digits.length) ++ digits ++ ": "

/-- The lines that tell a failure. -/
def lines (f : Failure) : List String :=
  let head := Text.lines s!"Error: {f.task}"
  match f.causes with
  | [] => head
  | [cause] => head ++ ["", "Caused by:"] ++ indented "    " cause
  | causes =>
    head ++ ["", "Caused by:"] ++ causes.zipIdx.flatMap fun (cause, n) => indented (numbering n) cause

end Failure
end Command
end SymbolIndex
