import SymbolIndex.Proofs.Yaml.Reading
import SymbolIndex.Yaml.Token.Scalar

/-!
# The places that reading scalars comes to
-/
open Std.Do

set_option mvcgen.warning false

namespace SymbolIndex.Yaml.Scan
open Mark

variable {s : String}

/-- The characters that end a line, and what the end of a text reads as. -/
def lineEnds : List Char := ['\n', '\r', '\u0085', '\u2028', '\u2029', '\x00']

theorem isBreakOrEnd_of {p : Char → Bool} (hp : lineEnds.all (!p ·) = true) {c : Char} (hc : p c = true) :
    isBreakOrEnd c = false := by
  rw [Bool.eq_false_iff]
  intro hend
  have hmem : c ∈ lineEnds := by
    simp only [isBreakOrEnd, isBreak, isEnd, Bool.or_eq_true, beq_iff_eq] at hend
    simp only [lineEnds, List.mem_cons, List.not_mem_nil, or_false]
    tauto
  have hnot := List.all_eq_true.1 hp c hmem
  simp [hc] at hnot

@[grind →]
theorem isBreakOrEnd_of_isGap {c : Char} (h : isGap c = true) : isBreakOrEnd c = false :=
  isBreakOrEnd_of (by decide) h

@[grind →]
theorem isBreakOrEnd_of_isGapOrEnd {c : Char} (h : isGapOrEnd c = false) : isBreakOrEnd c = false :=
  (Bool.or_eq_false_iff.1 h).2

-- what the kinds of characters are does not matter below, only that none ends a line
attribute [local irreducible] isGapOrEnd isBreakOrEnd isBreak isEnd isGap

/-- Passing what is between two pieces of a scalar does not go back. -/
theorem between_mono (plain : Option (Nat × Mark)) (n fuel : Nat) (b : Between) :
    ⦃fun r => ⌜Sound s r ∧ n ≤ r.mark.index⌝⦄ between plain fuel b ⦃Ends s fun _ r => n ≤ r.mark.index⦄ := by
  induction fuel generalizing b with
  | zero => mvcgen [between]
  | succ fuel ih =>
    rcases plain with _ | ⟨indent, start⟩
    · mvcgen [between, ih]
      all_goals grind -ring -linarith
    · mvcgen [between, ih]
      all_goals grind -ring -linarith

/-- Between two pieces of a scalar a gap or a line break is passed, and nothing else. -/
@[spec]
theorem between_spec (r₀ : Reading) (plain : Option (Nat × Mark)) (fuel : Nat) (b : Between)
    (hfuel : fuel ≠ 0) :
    ⦃From s r₀⦄ between plain fuel b ⦃Ends s fun _ r => r₀.mark.index ≤ r.mark.index ∧
      (isGapOrEnd (look (chars s) r₀.mark 0) = true → r₀.mark.index < r.mark.index ∨
        isEnd (look (chars s) r₀.mark 0) = true ∧ r.mark = r₀.mark)⦄ := by
  have hmono (plain : Option (Nat × Mark)) := between_mono (s := s) plain (r₀.mark.index + 1)
  obtain ⟨fuel, rfl⟩ := Nat.exists_eq_succ_of_ne_zero hfuel
  rcases plain with _ | ⟨indent, start⟩
  · rw [between]
    mvcgen [hmono]
    all_goals grind -ring -linarith [isGapOrEnd, isBreakOrEnd]
  · rw [between]
    mvcgen [hmono]
    all_goals grind -ring -linarith [isGapOrEnd, isBreakOrEnd]

@[grind →]
theorem isBreakOrEnd_of_hexDigit? {c : Char} {d : Nat} (h : hexDigit? c = some d) : isBreakOrEnd c = false :=
  isBreakOrEnd_of (p := fun c => (hexDigit? c).isSome) (by decide) (by rw [h]; rfl)

@[spec]
theorem hexNumber_spec (r₀ : Reading) (start : Mark) (n k acc : Nat) : ⦃From s r₀⦄ hexNumber start n k acc
    ⦃Ends s fun _ r => r.mark = r₀.mark ∧ ∀ j, k ≤ j → j < k + n →
      isBreakOrEnd (look (chars s) r₀.mark j) = false⦄ := by
  induction n generalizing k acc with
  | zero =>
    mvcgen [hexNumber]
    grind -ring -linarith
  | succ n ih =>
    mvcgen [hexNumber, ih]
    all_goals grind -ring -linarith

theorem escapedCode_mono (n : Nat) (start : Mark) (digits : Nat) : ⦃fun r => ⌜Sound s r ∧ n ≤ r.mark.index⌝⦄
    escapedCode start digits ⦃Ends s fun _ r => n ≤ r.mark.index⦄ := by
  mvcgen [escapedCode]
  all_goals grind -ring -linarith

@[grind →]
theorem isBreakOrEnd_of_lookup {c e : Char} (h : escapes.lookup c = some e) : isBreakOrEnd c = false :=
  isBreakOrEnd_of (p := fun c => (escapes.lookup c).isSome) (by decide) (by rw [h]; rfl)

@[spec]
theorem escape_spec (r₀ : Reading) (start : Mark) (hc : isBreakOrEnd (look (chars s) r₀.mark 0) = false) :
    ⦃From s r₀⦄ escape start ⦃Ends s fun _ r => r₀.mark.index < r.mark.index⦄ := by
  have hcode := escapedCode_mono (s := s) (r₀.mark.index + 1) start
  rw [escape]
  -- the table itself is of no use to the steps below, only slow to compare
  generalize htable : escapes = table
  mvcgen [hcode]
  all_goals grind -ring -linarith [isBreakOrEnd, isBreak, isEnd]

def quote (single : Bool) : Char := if single then '\'' else '"'

/-- A run of a quoted scalar moves on from a place, or stops there for the scalar to end or to break. -/
abbrev Runs (s : String) (single : Bool) (n : Nat) (r : Reading) : Prop :=
  n < r.mark.index ∨
    n = r.mark.index ∧ (isGapOrEnd (look (chars s) r.mark 0) = true ∨ look (chars s) r.mark 0 = quote single)

theorem quotedRun_mono (n : Nat) (single : Bool) (start : Mark) (fuel : Nat) (text : String) :
    ⦃fun r => ⌜Sound s r ∧ n ≤ r.mark.index ∧ (chars s).size + 2 ≤ r.mark.index + fuel⌝⦄
    quotedRun single start fuel text
    ⦃Ends s fun _ r => Runs s single n r⦄ := by
  induction fuel generalizing text with
  | zero =>
    mvcgen [quotedRun]
    grind -ring -linarith
  | succ fuel ih =>
    mvcgen [quotedRun, ih]
    all_goals grind -ring -linarith [quote]

@[spec]
theorem quotedRun_spec (r₀ : Reading) (single : Bool) (start : Mark) (fuel : Nat) (text : String)
    (hfuel : (chars s).size + 2 ≤ r₀.mark.index + fuel) : ⦃From s r₀⦄ quotedRun single start fuel text
    ⦃Ends s fun _ r => Runs s single r₀.mark.index r⦄ := by
  have hrun := quotedRun_mono (s := s) r₀.mark.index single start fuel text
  mvcgen [hrun]
  grind -ring -linarith

/-- A quoted scalar is left at its closing quote: each turn of the loop moves on, unless the text
ends, which the next one finds. -/
@[spec]
theorem quotedLoop_spec (single : Bool) (start : Mark) (fuel : Nat) (text : String) :
    ⦃fun r => ⌜Sound s r ∧
      ((chars s).size + 2 ≤ r.mark.index + fuel ∨ isEnd (look (chars s) r.mark 0) = true ∧ fuel ≠ 0)⌝⦄
    quotedLoop single start fuel text ⦃Ends s fun _ r => look (chars s) r.mark 0 = quote single⦄ := by
  induction fuel generalizing text with
  | zero =>
    mvcgen [quotedLoop]
    grind -ring -linarith
  | succ fuel ih =>
    mvcgen [quotedLoop, ih]
    all_goals grind -ring -linarith [quote]

@[spec]
theorem quotedScalar_spec (r₀ : Reading) (single : Bool)
    (hc : isBreakOrEnd (look (chars s) r₀.mark 0) = false) :
    ⦃From s r₀⦄ quotedScalar single ⦃Ends s fun _ _ => True⦄ := by
  mvcgen [quotedScalar]
  all_goals try exact fun r _ => r
  all_goals grind -ring -linarith [quote, isBreakOrEnd, isBreak, isEnd]

@[spec]
theorem plainRun_spec (start : Mark) (fuel : Nat) (text : String) (b : Between) (stop : Mark) :
    ⦃fun r => ⌜Sound s r ∧ Reached (chars s) stop⌝⦄ plainRun start fuel text b stop
    ⦃Ends s fun a _ => Reached (chars s) a.2.2⦄ := by
  induction fuel generalizing text b stop with
  | zero => mvcgen [plainRun]
  | succ fuel ih =>
    mvcgen [plainRun, ih]
    all_goals grind -ring -linarith

@[spec]
theorem plainLoop_spec (start : Mark) (indent fuel : Nat) (text : String) (b : Between) (stop : Mark) :
    ⦃fun r => ⌜Sound s r ∧ Reached (chars s) stop⌝⦄ plainLoop start indent fuel text b stop
    ⦃Ends s fun a _ => Reached (chars s) a.2.2⦄ := by
  induction fuel generalizing text b stop with
  | zero => mvcgen [plainLoop]
  | succ fuel ih =>
    mvcgen [plainLoop, ih]
    all_goals grind -ring -linarith

@[spec]
theorem plainScalar_spec : ⦃fun r => ⌜Sound s r⌝⦄ plainScalar ⦃Ends s fun _ _ => True⦄ := by
  mvcgen [plainScalar]
  all_goals grind -ring -linarith

@[spec]
theorem blockBreaks_indentation_spec (indent fuel : Nat) :
    ⦃fun r => ⌜Sound s r⌝⦄ blockBreaks.indentation indent fuel ⦃Ends s fun _ _ => True⦄ := by
  induction fuel with
  | zero => mvcgen [blockBreaks.indentation]
  | succ fuel ih =>
    mvcgen [blockBreaks.indentation, ih]
    all_goals grind -ring -linarith [isBreakOrEnd, isBreak, isEnd]

@[spec]
theorem blockBreaks_spec (indent : Nat) (start : Mark) (fuel : Nat) (breaks : String) (widest : Nat)
    (stop : Mark) :
    ⦃fun r => ⌜Sound s r ∧ Reached (chars s) stop⌝⦄ blockBreaks indent start fuel breaks widest stop
    ⦃Ends s fun a _ => Reached (chars s) a.2.2⦄ := by
  induction fuel generalizing breaks widest stop with
  | zero => mvcgen [blockBreaks]
  | succ fuel ih =>
    mvcgen [blockBreaks, ih]
    all_goals grind -ring -linarith

@[spec]
theorem blockLead_spec (indent : Nat) (start : Mark) :
    ⦃fun r => ⌜Sound s r⌝⦄ blockLead indent start ⦃Ends s fun a _ => Reached (chars s) a.2.2⦄ := by
  mvcgen [blockLead]
  all_goals grind -ring -linarith

@[spec]
theorem blockLoop_spec (literal : Bool) (start : Mark) (indent fuel : Nat) (leadingBlank : Bool)
    (b : BlockText) :
    ⦃fun r => ⌜Sound s r ∧ Reached (chars s) b.stop⌝⦄ blockLoop literal start indent fuel leadingBlank b
    ⦃Ends s fun b _ => Reached (chars s) b.stop⦄ := by
  induction fuel generalizing leadingBlank b with
  | zero => mvcgen [blockLoop]
  | succ fuel ih =>
    mvcgen [blockLoop, ih]
    all_goals grind -ring -linarith

@[grind →]
theorem isBreakOrEnd_of_isDigit {c : Char} (h : c.isDigit = true) : isBreakOrEnd c = false :=
  isBreakOrEnd_of (by decide) h

@[grind →]
theorem isBreakOrEnd_of_chomping? {c : Char} {chomping : Chomping} (h : chomping? c = some chomping) :
    isBreakOrEnd c = false :=
  isBreakOrEnd_of (p := fun c => (chomping? c).isSome) (by decide) (by rw [h]; rfl)

@[spec]
theorem indentation_spec (start : Mark) :
    ⦃fun r => ⌜Sound s r⌝⦄ indentation start ⦃Ends s fun _ _ => True⦄ := by
  mvcgen [indentation]
  all_goals grind -ring -linarith

@[spec]
theorem blockHeader_spec (start : Mark) :
    ⦃fun r => ⌜Sound s r⌝⦄ blockHeader start ⦃Ends s fun _ _ => True⦄ := by
  mvcgen [blockHeader]
  all_goals grind -ring -linarith

@[spec]
theorem blockScalar_spec (r₀ : Reading) (literal : Bool)
    (hc : isBreakOrEnd (look (chars s) r₀.mark 0) = false) :
    ⦃From s r₀⦄ blockScalar literal ⦃Ends s fun _ _ => True⦄ := by
  mvcgen [blockScalar]
  all_goals try exact fun r _ => r
  all_goals grind -ring -linarith

end SymbolIndex.Yaml.Scan
