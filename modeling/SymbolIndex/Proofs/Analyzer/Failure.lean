import SymbolIndex.Index.Basic

/-!
# How analyses fail

An analyzer takes what it has parsed itself, so the only way in which one of the known languages can
fail is that its parser stops before it is through (`Registry.analyze_builtins_error`). Every known
language has an analyzer.
-/
namespace SymbolIndex

theorem Except.bind_eq_error {ε α β : Type} {x : Except ε α} {f : α → Except ε β} {e : ε}
    (h : (x >>= f) = .error e) : x = .error e ∨ ∃ a, x = .ok a ∧ f a = .error e := by
  cases x with
  | error e' => cases h; exact .inl rfl
  | ok a => exact .inr ⟨a, rfl, h⟩

theorem Except.bind_eq_ok {ε α β : Type} {x : Except ε α} {f : α → Except ε β} {b : β}
    (h : (x >>= f) = .ok b) : ∃ a, x = .ok a ∧ f a = .ok b := by
  cases x with
  | error e => cases h
  | ok a => exact ⟨a, rfl, h⟩

namespace Analyzer
variable {l : Language} {a : Analyzer} {source : String} {e : AnalyzerError}

theorem tree_error {p : ParserSetup} (h : p.tree l source = .error e) : e = .parseAborted l.name := by
  unfold ParserSetup.tree at h
  split at h <;> cases h
  rfl

theorem chooseDialect_error {plain : SyntaxTree} {markup : Unit → Except AnalyzerError SyntaxTree}
    (h : chooseDialect source plain markup = .error e) : markup () = .error e := by
  unfold chooseDialect at h
  split at h
  · rcases Except.bind_eq_error h with h | ⟨other, -, h⟩
    · exact h
    · dsimp only at h
      split at h <;> cases h
  · cases h

/-- An analyzer fails only if it cannot parse, provided that it takes what it has parsed. -/
theorem parse_error (h : a.analyze source = .error e)
    (hown : ∀ p, a.parse source = .ok p → ∃ symbols, a.symbols p = .ok symbols) :
    a.parse source = .error e := by
  rcases Except.bind_eq_error h with h | ⟨p, hp, h⟩
  · exact h
  · obtain ⟨symbols, hs⟩ := hown p hp
    rw [hs] at h
    cases h

theorem ofParser_error {parser : ParserSetup} {collect : String → SyntaxTree → List Symbol}
    (h : (ofParser l parser collect).analyze source = .error e) : e = .parseAborted l.name := by
  have hparse := parse_error h fun p hp => by
    obtain ⟨t, -, hp⟩ := Except.bind_eq_ok hp
    cases hp
    exact ⟨collect source t, by simp [ofParser, symbolsOfTree, ParsedText.ofTree, ParsedText.ofErrors]⟩
  rcases Except.bind_eq_error hparse with h | ⟨t, -, h⟩
  · exact tree_error h
  · cases h

section
-- The trees are left open, or comparing terms would come to running the parsers.
variable {first second : Except AnalyzerError SyntaxTree} {p : ParsedText}

/-- A text of which there may be two trees. -/
def choose (source : String) (first second : Except AnalyzerError SyntaxTree) :
    Except AnalyzerError ParsedText := do
  let plain ← first
  let (t, errors) ← chooseDialect source plain fun _ => second
  return .ofErrors source .typeScript (.tree t) errors

theorem choose_ok (h : choose source first second = .ok p) :
    ∃ t, p.body = .tree t ∧ p.language = .typeScript := by
  obtain ⟨plain, -, h⟩ := Except.bind_eq_ok h
  obtain ⟨⟨t, errors⟩, -, h⟩ := Except.bind_eq_ok h
  cases h
  exact ⟨t, rfl, rfl⟩

theorem choose_error (h : choose source first second = .error e) : first = .error e ∨ second = .error e := by
  rcases Except.bind_eq_error h with h | ⟨plain, -, h⟩
  · exact .inl h
  · rcases Except.bind_eq_error h with h | ⟨⟨t, errors⟩, -, h⟩
    · exact .inr (chooseDialect_error h)
    · cases h

end

theorem typeScript_parse (source : String) : typeScript.parse source =
    choose source (ParserSetup.typeScript.tree .typeScript source)
      (ParserSetup.tsx.tree .typeScript source) := rfl

theorem typeScript_error (h : typeScript.analyze source = .error e) :
    e = .parseAborted Language.typeScript.name := by
  have hparse := parse_error h fun p hp => by
    obtain ⟨t, hbody, hlanguage⟩ := choose_ok (typeScript_parse source ▸ hp)
    exact ⟨EcmaScript.symbols p.source t, by simp [typeScript, symbolsOfTree, hbody, hlanguage]⟩
  rw [typeScript_parse] at hparse
  rcases choose_error hparse with h | h <;> exact tree_error h

/-- YAML texts that cannot be read to their end are analysed all the same. -/
theorem yaml_ne_error : yaml.analyze source ≠ .error e := by
  intro h
  have hparse := parse_error h fun p hp => by
    cases hp
    exact ⟨[], by simp [yaml, ParsedText.ofErrors]⟩
  cases hparse

theorem analyze_eq_error {content : ByteArray} (h : a.analyzeContent content = .error e) :
    a.analyze (Utf8.decodeLossy content) = .error e := by
  rcases Except.bind_eq_error h with h | ⟨extraction, -, h⟩
  · exact h
  · split at h <;> cases h

/-- The analyzer of a language fails only if a parser stops before it is through. -/
theorem builtin_error (ha : builtin? l = some a) (h : a.analyze source = .error e) :
    e = .parseAborted l.name := by
  cases l with
  | unknown => cases ha
  | typeScript => cases ha; exact typeScript_error h
  | yaml => cases ha; exact absurd h yaml_ne_error
  | _ => cases ha; exact ofParser_error h

end Analyzer

namespace Registry
variable {l : Language} {s : Source}

theorem resolve?_builtins (l : Language) : builtins.resolve? l = Analyzer.builtin? l := by
  cases l <;> rfl

theorem isSome_resolve?_builtins (h : l ≠ .unknown) : (builtins.resolve? l).isSome = true := by
  cases l with
  | unknown => exact absurd rfl h
  | _ => rfl

/-- A parser stops before it is through with a content. -/
def Aborts (r : Registry) (s : Source) : Prop :=
  ∃ language, r.analyze s = .error (.analyzer (.parseAborted language))

theorem not_aborts_of_yaml {r : Registry} (h : r.analyzerFor? s = some Analyzer.yaml) : ¬ r.Aborts s := by
  rintro ⟨language, ha⟩
  unfold analyze at ha
  rw [h] at ha
  dsimp only at ha
  cases hc : Analyzer.yaml.analyzeContent s.content with
  | ok extraction =>
    rw [hc] at ha
    cases ha
  | error cause => exact Analyzer.yaml_ne_error (Analyzer.analyze_eq_error hc)

/-- Unless a parser stops, a content has an analysis. -/
theorem exists_of_not_aborts (h : ¬ builtins.Aborts s) : ∃ a, builtins.analyze s = .ok a := by
  cases ha : builtins.analyze s with
  | ok a => exact ⟨a, rfl⟩
  | error e =>
    refine absurd ?_ h
    unfold Aborts
    unfold analyze at ha ⊢
    cases hr : builtins.analyzerFor? s with
    | none =>
      rw [hr] at ha
      cases ha
    | some analyzer =>
      rw [hr] at ha
      dsimp only at ha ⊢
      cases hc : analyzer.analyzeContent s.content with
      | ok extraction =>
        rw [hc] at ha
        cases ha
      | error cause =>
        rw [analyzerFor?, resolve?_builtins] at hr
        exact ⟨_, by rw [Analyzer.builtin_error hr (Analyzer.analyze_eq_error hc)]⟩

end Registry
end SymbolIndex
