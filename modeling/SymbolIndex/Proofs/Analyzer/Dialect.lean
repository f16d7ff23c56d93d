import SymbolIndex.Proofs.Analyzer.Failure
import SymbolIndex.Proofs.Syntax.Faults

/-!
# The dialect of a text

The second dialect of TypeScript is asked only if something is wrong in the tree of the first. That
makes no difference: a tree without a flag at its root has no errors, and the second dialect is
preferred only for strictly fewer. So the answer is always that of trying both (`dialect_exact`), for
whatever two parsers.
-/
namespace SymbolIndex

/-- The tree of two dialects that has fewer errors; the first if they have as many. -/
def betterDialect (source : String) (plain markup : SyntaxTree) : SyntaxTree :=
  if (markup.problems source).length < (plain.problems source).length then markup else plain

namespace Analyzer

/-- An analyzer that is not told which of two dialects its texts are in. -/
def ofDialects (plain markup : String → Except AnalyzerError SyntaxTree) : Analyzer where
  language := .typeScript
  parse source := choose source (plain source) (markup source)
  symbols := symbolsOfTree .typeScript EcmaScript.symbols

theorem typeScript_eq_ofDialects : typeScript =
    ofDialects (ParserSetup.typeScript.tree .typeScript) (ParserSetup.tsx.tree .typeScript) := rfl

variable {source : String} {p m : SyntaxTree}

theorem problems_eq_nil (h : p.root.hasError = false) : p.problems source = [] := by
  simp [SyntaxTree.problems, h]

theorem betterDialect_of_sound (h : p.root.hasError = false) : betterDialect source p m = p := by
  rw [betterDialect, problems_eq_nil h]
  exact if_neg (Nat.not_lt_zero _)

theorem length_problems_betterDialect (source : String) (p m : SyntaxTree) :
    ((betterDialect source p m).problems source).length =
      min (p.problems source).length (m.problems source).length := by
  rw [betterDialect]
  split
  · rename_i hless
    exact (Nat.min_eq_right (Nat.le_of_lt hless)).symm
  · rename_i hless
    exact (Nat.min_eq_left (Nat.not_lt.1 hless)).symm

/-- Without a flag at the root of the first tree, the second is not asked for. -/
theorem chooseDialect_of_sound {ε : Type} (h : p.root.hasError = false)
    (markup : Unit → Except ε SyntaxTree) :
    chooseDialect source p markup = .ok (p, p.problems source) := by
  simp [chooseDialect, h, pure, Except.pure]

/-- The second tree is preferred for strictly fewer errors, whether or not it had to be asked for. -/
theorem chooseDialect_ok {ε : Type} (source : String) (p m : SyntaxTree) :
    chooseDialect source p (fun _ => (.ok m : Except ε SyntaxTree)) =
      .ok (betterDialect source p m, (betterDialect source p m).problems source) := by
  cases h : p.root.hasError with
  | false => rw [chooseDialect_of_sound h, betterDialect_of_sound h]
  | true =>
    by_cases hless : (m.problems source).length < (p.problems source).length
    · simp [chooseDialect, h, betterDialect, hless, bind, Except.bind, pure, Except.pure]
    · simp [chooseDialect, h, betterDialect, hless, bind, Except.bind, pure, Except.pure]

variable {plain markup : String → Except AnalyzerError SyntaxTree}

theorem parse_ofDialects (hp : plain source = .ok p) (hm : markup source = .ok m) :
    (ofDialects plain markup).parse source = .ok (.ofTree source .typeScript (betterDialect source p m)) := by
  show choose source (plain source) (markup source) = _
  rw [hp, hm]
  show (chooseDialect source p (fun _ => .ok m) >>= fun x => _) = _
  rw [chooseDialect_ok]
  rfl

/-- The symbols of a text are those of the tree that it was parsed to. -/
theorem analyze_ofDialects {t : SyntaxTree}
    (h : (ofDialects plain markup).parse source = .ok (.ofTree source .typeScript t)) :
    (ofDialects plain markup).analyze source =
      .ok ⟨.typeScript, EcmaScript.symbols source t, ParseError.sorted (t.problems source)⟩ := by
  rw [analyze, h]
  rfl

/-- The analyzer of TypeScript answers as if it had tried both dialects and kept the second only for
strictly fewer errors: its errors are the fewest, and they are those of the tree that its symbols are
from. It asks for the second dialect only if there is a fault in the tree of the first, provided that
the flag at its root says so. -/
theorem dialect_exact (hp : plain source = .ok p) (hm : markup source = .ok m) :
    typeScript = ofDialects (ParserSetup.typeScript.tree .typeScript) (ParserSetup.tsx.tree .typeScript) ∧
    (∃ t, t = (if (m.problems source).length < (p.problems source).length then m else p) ∧
      (ofDialects plain markup).parse source = .ok (.ofTree source .typeScript t) ∧
      (ofDialects plain markup).analyze source =
        .ok ⟨.typeScript, EcmaScript.symbols source t, ParseError.sorted (t.problems source)⟩ ∧
      (ParseError.sorted (t.problems source)).length =
        min (p.problems source).length (m.problems source).length) ∧
    ((p.root.hasError = true ↔ p.HoldsFault) → ¬ p.HoldsFault → ∀ other,
      (ofDialects plain other).parse source = .ok (.ofTree source .typeScript p)) := by
  have hparse := parse_ofDialects hp hm
  refine ⟨typeScript_eq_ofDialects, ⟨_, rfl, hparse, analyze_ofDialects hparse, ?_⟩,
    fun hflag hnone other => ?_⟩
  · rw [(ParseError.stablySorted _).perm.length_eq]
    exact length_problems_betterDialect source p m
  · have hsound : p.root.hasError = false := Bool.eq_false_iff.2 fun h => hnone (hflag.1 h)
    show choose source (plain source) (other source) = _
    rw [hp]
    show (chooseDialect source p (fun _ => other source) >>= fun x => _) = _
    rw [chooseDialect_of_sound hsound]
    rfl

end Analyzer

namespace Markup
open SyntaxTree

/-- An element without content. -/
def text : String := "<a/>"

/-- The element in the plain dialect, which takes it for type parameters and cannot make sense of the
slash. -/
def plain : SyntaxTree :=
  unsound "program" none 0 4 [unsound "ERROR" none 0 4 [unsound "type_parameters" none 0 4 [
    token "<" 0 1,
    sound "type_parameter" true none 1 2 [sound "type_identifier" true (some "name") 1 2 []],
    unsound "ERROR" none 2 3 [token "/" 2 3],
    token ">" 3 4]]]

def markup : SyntaxTree :=
  sound "program" true none 0 4 [sound "expression_statement" true none 0 4 [
    sound "jsx_self_closing_element" true none 0 4 [
      token "<" 0 1,
      sound "identifier" true (some "name") 1 2 [],
      token "/>" 2 4]]]

end Markup

/-- Two faults of which one is under the other count once, and the dialect without any is preferred. -/
theorem Analyzer.dialect_exact_markup :
    let analyzer := ofDialects (fun _ => .ok Markup.plain) (fun _ => .ok Markup.markup)
    Markup.plain.problems Markup.text = [⟨⟨1, 0⟩, ⟨1, 4⟩, "unexpected `<a/>`"⟩] ∧
      Markup.markup.problems Markup.text = [] ∧
      analyzer.parse Markup.text = .ok (.ofTree Markup.text .typeScript Markup.markup) ∧
      analyzer.analyze Markup.text = .ok ⟨.typeScript, EcmaScript.symbols Markup.text Markup.markup, []⟩ := by
  intro analyzer
  have hplain : Markup.plain.problems Markup.text = [⟨⟨1, 0⟩, ⟨1, 4⟩, "unexpected `<a/>`"⟩] := by
    decide +kernel
  have hmarkup : Markup.markup.problems Markup.text = [] := by decide +kernel
  obtain ⟨-, ⟨t, ht, hparse, hanalyze, -⟩, -⟩ := @dialect_exact Markup.text Markup.plain Markup.markup
    (fun _ => .ok Markup.plain) (fun _ => .ok Markup.markup) rfl rfl
  obtain rfl : t = Markup.markup := by simpa [hplain, hmarkup] using ht
  rw [hmarkup, ParseError.sorted_eq_nil_iff.2 rfl] at hanalyze
  exact ⟨hplain, hmarkup, hparse, hanalyze⟩

end SymbolIndex
