import SymbolIndex.Command.Arguments
import SymbolIndex.Proofs.Analyzer.Failure

/-!
# What arguments ask for

Whatever options stand among them, the paths that arguments name are there and none of them is empty
(`Request.paths_of_analyze`), and all such paths can be asked for (`Request.ofArguments_analyze`).
-/
namespace SymbolIndex.Command

/-- What each step of a loop keeps, the loop keeps. -/
theorem foldlM_preserves {ε α β : Type} {f : β → α → Except ε β} {as : List α} {b c : β} {P : β → Prop}
    (step : ∀ {b a c}, P b → f b a = .ok c → P c) (hb : P b) (h : as.foldlM f b = .ok c) : P c := by
  induction as generalizing b with
  | nil =>
    cases h
    exact hb
  | cons a as ih =>
    rw [List.foldlM_cons] at h
    obtain ⟨d, hd, h⟩ := Except.bind_eq_ok h
    exact ih (step hb hd) h

namespace Parsed
variable {known : List OptionName} {o : OptionName} {p q : Parsed} {s : String}

/-! ### Options leave the other arguments as they are -/

theorem operands_addFlag (h : p.addFlag o = .ok q) : q.operands = p.operands := by
  unfold addFlag at h
  split at h
  · cases h
  · cases h
  · split at h <;> cases h
    rfl

theorem operands_addValue (h : p.addValue o s = .ok q) : q.operands = p.operands := by
  unfold addValue at h
  split at h <;> cases h
  rfl

theorem operands_addLetters {letters : List Char} (h : p.addLetters known letters = .ok q) :
    q.operands = p.operands := by
  refine foldlM_preserves (P := fun r => r.operands = p.operands) (fun {r c r'} hr h => ?_) rfl h
  split at h
  · exact (operands_addFlag h).trans hr
  · cases h

theorem operands_takeLong {next rest : List String} (h : takeLong known p s next = .ok (q, rest)) :
    q.operands = p.operands := by
  unfold takeLong at h
  dsimp only at h
  split at h
  · cases h
  split at h
  · split at h
    · obtain ⟨r, hr, h⟩ := Except.bind_eq_ok h
      cases h
      exact operands_addValue hr
    · split at h
      · cases h
      · obtain ⟨r, hr, h⟩ := Except.bind_eq_ok h
        cases h
        exact operands_addValue hr
    · cases h
  · split at h
    · cases h
    · obtain ⟨r, hr, h⟩ := Except.bind_eq_ok h
      cases h
      exact operands_addFlag hr

/-! ### Other arguments -/

theorem addOperand_of_ne (p : Parsed) (h : s ≠ "") :
    p.addOperand s = .ok { p with operands := p.operands ++ [s] } :=
  if_neg h

theorem addOperand_eq_ok (h : p.addOperand s = .ok q) : s ≠ "" ∧ q.operands = p.operands ++ [s] := by
  unfold addOperand at h
  split at h <;> cases h
  exact ⟨‹_›, rfl⟩

/-- No argument that is no option is empty. -/
def IsSpelled (p : Parsed) : Prop := ∀ s ∈ p.operands, s ≠ ""

theorem IsSpelled.addOperand (hp : p.IsSpelled) (h : p.addOperand s = .ok q) : q.IsSpelled := by
  obtain ⟨hs, hq⟩ := addOperand_eq_ok h
  unfold IsSpelled
  rw [hq]
  exact List.forall_mem_append.2 ⟨hp, List.forall_mem_singleton.2 hs⟩

/-- Arguments that are not empty are all taken. -/
theorem foldlM_addOperand {args : List String} (p : Parsed) (h : ∀ s ∈ args, s ≠ "") :
    args.foldlM Parsed.addOperand p = .ok { p with operands := p.operands ++ args } := by
  induction args generalizing p with
  | nil => simp; rfl
  | cons s args ih =>
    obtain ⟨hs, hargs⟩ := List.forall_mem_cons.1 h
    rw [List.foldlM_cons, p.addOperand_of_ne hs]
    refine (ih _ hargs).trans ?_
    simp

end Parsed

variable {known : List OptionName} {stop : Bool} {fuel : Nat} {p q : Parsed} {args rest : List String}

/-- Reading arguments passes over options, and takes no empty argument. -/
theorem Parsed.IsSpelled.readArguments (hp : p.IsSpelled)
    (h : readArguments known stop fuel p args = .ok (q, rest)) : q.IsSpelled := by
  induction fuel generalizing p args with
  | zero => cases h; exact hp
  | succ fuel ih =>
    have of_operands {r : Parsed} (hr : r.operands = p.operands) : r.IsSpelled := by
      unfold IsSpelled
      rwa [hr]
    cases args with
    | nil => cases h; exact hp
    | cons s args =>
      unfold Command.readArguments at h
      split at h
      · -- All that follows two dashes is taken.
        split at h
        · cases h
        · obtain ⟨r, hr, h⟩ := Except.bind_eq_ok h
          cases h
          exact foldlM_preserves .addOperand hp hr
      split at h
      · obtain ⟨⟨r, left⟩, hr, h⟩ := Except.bind_eq_ok h
        exact ih (of_operands (operands_takeLong hr)) h
      split at h
      · obtain ⟨r, hr, h⟩ := Except.bind_eq_ok h
        exact ih (of_operands (operands_addLetters hr)) h
      split at h
      · cases h
        exact hp
      · obtain ⟨r, hr, h⟩ := Except.bind_eq_ok h
        exact ih (hp.addOperand hr) h

theorem isSpelled_readCommand (h : readCommand known args = .ok p) : p.IsSpelled := by
  obtain ⟨⟨q, rest⟩, hq, h⟩ := Except.bind_eq_ok h
  cases h
  exact Parsed.IsSpelled.readArguments (p := .empty) nofun hq

/-- After two dashes, all arguments are taken as they are. -/
theorem readCommand_dashes (h : ∀ s ∈ args, s ≠ "") :
    readCommand known ("--" :: args) = .ok ⟨[], [], args⟩ := by
  rw [readCommand, List.length_cons, readArguments, if_pos rfl, if_neg (by decide),
    Parsed.foldlM_addOperand _ h]
  rfl

namespace Request
variable {v : Verbosity} {a : AnalyzeArguments} {paths : List Path}

/-- Whoever asks for analyses names a path, and none that is empty. -/
theorem paths_of_analyze (h : Request.ofArguments args = .analyze v a) :
    a.paths ≠ [] ∧ ∀ p ∈ a.paths, p.text ≠ "" := by
  unfold Request.ofArguments at h
  split at h
  · rename_i r hr
    subst h
    unfold request? at hr
    obtain ⟨⟨shared, rest⟩, -, hr⟩ := Except.bind_eq_ok hr
    dsimp only at hr
    split at hr
    · obtain ⟨p, hp, hr⟩ := Except.bind_eq_ok hr
      split at hr
      · cases hr
      · cases hr
        have hspelled := isSpelled_readCommand hp
        refine ⟨by simpa using ‹¬ p.operands.isEmpty = true›, fun path hpath => ?_⟩
        obtain ⟨s, hs, rfl⟩ := List.mem_map.1 hpath
        exact hspelled s hs
    · obtain ⟨p, hp, hr⟩ := Except.bind_eq_ok hr
      split at hr <;> cases hr
    · cases hr
    · cases hr
  · rename_i e _
    cases e <;> cases h

/-- All such paths can be asked for. -/
theorem ofArguments_analyze (hne : paths ≠ []) (h : ∀ p ∈ paths, p.text ≠ "") :
    Request.ofArguments ("analyze" :: "--" :: paths.map (·.text)) = .analyze ⟨false, false⟩
      ⟨paths, none, false⟩ := by
  have hread (known : List OptionName) :
      readCommand known ("--" :: paths.map (·.text)) = .ok ⟨[], [], paths.map (·.text)⟩ :=
    readCommand_dashes (List.forall_mem_map.2 h)
  have hshared (known : List OptionName) (fuel : Nat) (args : List String) :
      readArguments known true (fuel + 1) .empty ("analyze" :: args) = .ok (.empty, "analyze" :: args) := by
    have hdashes : ¬ "analyze".startsWith "--" = true := by
      simp [show "analyze".startsWith "--" = false by decide +kernel]
    have hoption : ¬ isOption "analyze" = true := by simp [show isOption "analyze" = false by decide +kernel]
    rw [readArguments, if_neg (by decide), if_neg hdashes, if_neg hoption, if_pos rfl]
  have hempty : (paths.map (·.text)).isEmpty = false := by simpa using hne
  have htexts : (paths.map (·.text)).map Path.mk = paths := by
    rw [List.map_map]
    exact List.map_id _
  have hrequest : request? ("analyze" :: "--" :: paths.map (·.text)) =
      .ok (.analyze ⟨false, false⟩ ⟨paths, none, false⟩) := by
    rw [request?, List.length_cons, hshared]
    simp only [bind, Except.bind, hread, hempty, htexts, Bool.false_eq_true, if_false]
    rfl
  rw [Request.ofArguments, hrequest]

end Request

end SymbolIndex.Command
