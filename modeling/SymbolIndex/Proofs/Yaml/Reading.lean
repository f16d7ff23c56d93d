import Mathlib
import SymbolIndex.Proofs.Yaml.Place

/-!
# The places that reading comes to

What a step of the scanner keeps: the text is the one that was given, and the place it is at, the
places of all tokens and those of the possible keys are places that the scanner has come to
(`Sound`). A step that fails does so at such a place too. Each function has one triple that says
this, and how far it moves on.

The state in which the last step of a function begins is left open by its triple, as a goal of its
own. It is the state at hand there, `fun r _ => r`.
-/
open Std.Do

set_option mvcgen.warning false

namespace SymbolIndex.Yaml
open Mark

/-- The characters of a text that is read. -/
@[irreducible]
def chars (s : String) : Array Char := (Reading.ofText s).text

theorem toList_chars (s : String) : (chars s).toList = s.toList := by rw [chars, Reading.ofText]

/-- A state on the way through a text in which all places are places of the text. -/
structure Sound (s : String) (r : Reading) : Prop where
  text : r.text = chars s
  barrier : r.barrier = (Reading.ofText s).barrier
  mark : Reached (chars s) r.mark
  tokens : ∀ t ∈ r.tokens, Reached (chars s) t.start ∧ Reached (chars s) t.stop
  keys : ∀ key, some key ∈ r.keys → Reached (chars s) key.mark

variable {s : String} {r : Reading} {m : Mark}

theorem Sound.move (h : Sound s r) (hm : Reached (chars s) m) :
    Sound s { r with mark := m } := { h with mark := hm }

attribute [grind →] Sound.text Sound.barrier Sound.mark Sound.tokens Sound.keys

/-- What else a state holds is of no matter. -/
@[grind =]
theorem sound_iff {text : Array Char} {barrier : Option (Nat × Fault)} {tokens : Array Token}
    {taken : Nat} {started : Bool} {indent : Int} {indents : List Int} {flowLevel : Nat}
    {keyAllowed : Bool} {keys : List (Option SimpleKey)} :
    Sound s ⟨text, barrier, m, tokens, taken, started, indent, indents, flowLevel, keyAllowed, keys⟩ ↔
      text = chars s ∧ barrier = (Reading.ofText s).barrier ∧ Reached (chars s) m ∧
      (∀ t ∈ tokens, Reached (chars s) t.start ∧ Reached (chars s) t.stop) ∧
      ∀ key, some key ∈ keys → Reached (chars s) key.mark :=
  ⟨fun h => ⟨h.text, h.barrier, h.mark, h.tokens, h.keys⟩,
    fun h => ⟨h.1, h.2.1, h.2.2.1, h.2.2.2.1, h.2.2.2.2⟩⟩

@[grind →]
theorem Sound.index_le (h : Sound s r) : r.mark.index ≤ (chars s).size := by
  cases h.mark.placed with
  | within _ _ hparts => exact hparts.le_size
  | past _ _ hparts => exact hparts.le_size

namespace Scan

/-- From the place of the state `r₀`, when all places are places of the text. -/
abbrev From (s : String) (r₀ : Reading) : Assertion (.except Fault (.arg Reading .pure)) :=
  fun r => ⌜Sound s r ∧ r.mark = r₀.mark⌝

/-- To such a state again, or to a fault at a place of the text. -/
abbrev Ends (s : String) {α : Type} (Q : α → Reading → Prop) :
    PostCond α (.except Fault (.arg Reading .pure)) :=
  post⟨fun a r => ⌜Sound s r ∧ Q a r⌝, fun f _ => ⌜Reached (chars s) f.mark⌝⟩

/-- A complaint ends the scan, so nothing after it matters. -/
@[spec]
theorem complain_spec {α : Type} {Q : PostCond α (.except Fault (.arg Reading .pure))} (c : Complaint)
    (context : Option (Activity × Mark)) :
    ⦃fun r => Q.2.1 ⟨c, r.mark, context⟩ r⦄ complain c context ⦃Q⦄ := by
  mvcgen [complain, mark]

@[spec]
theorem charAt_spec (r₀ : Reading) (k : Nat) :
    ⦃From s r₀⦄ charAt k ⦃Ends s fun c r => r.mark = r₀.mark ∧ c = look (chars s) r₀.mark k⦄ := by
  mvcgen [charAt]
  rename_i h
  obtain ⟨hsound, hmark⟩ := h
  exact ⟨hsound, hmark, by rw [hsound.text, hmark, look]⟩

@[spec]
theorem char_spec (r₀ : Reading) :
    ⦃From s r₀⦄ char ⦃Ends s fun c r => r.mark = r₀.mark ∧ c = look (chars s) r₀.mark 0⦄ :=
  charAt_spec r₀ 0

@[spec]
theorem mark_spec (r₀ : Reading) : ⦃From s r₀⦄ mark ⦃Ends s fun m r => r.mark = r₀.mark ∧ m = r₀.mark⦄ := by
  mvcgen [mark]
  grind -ring -linarith

@[spec]
theorem inFlow_spec (r₀ : Reading) : ⦃From s r₀⦄ inFlow ⦃Ends s fun _ r => r.mark = r₀.mark⦄ := by
  mvcgen [inFlow]

/-- A loop has more turns than there are characters left. -/
@[spec]
theorem turns_spec (r₀ : Reading) :
    ⦃From s r₀⦄ turns ⦃Ends s fun n r => r.mark = r₀.mark ∧ (chars s).size + 2 ≤ r₀.mark.index + n⦄ := by
  mvcgen [turns]
  rename_i h
  obtain ⟨hsound, hmark⟩ := h
  refine ⟨hsound, hmark, ?_⟩
  rw [hsound.text, hmark]
  omega

@[spec]
theorem skip_spec (r₀ : Reading) (hc : isBreakOrEnd (look (chars s) r₀.mark 0) = false) :
    ⦃From s r₀⦄ skip ⦃Ends s fun _ r => r.mark = r₀.mark.ahead 1⦄ := by
  mvcgen [skip]
  rename_i r h _
  obtain ⟨hsound, hmark⟩ := h
  rw [← hmark] at hc ⊢
  exact ⟨{ hsound with mark := hsound.mark.ahead hc }, rfl⟩

@[grind =]
theorem look_ahead (text : Array Char) (m : Mark) (n k : Nat) :
    look text (m.ahead n) k = look text m (n + k) := by
  rw [look, look, Mark.ahead, Nat.add_assoc]

@[grind =]
theorem ahead_zero (m : Mark) : m.ahead 0 = m := rfl

@[grind =]
theorem index_ahead (m : Mark) (n : Nat) : (m.ahead n).index = m.index + n := rfl

@[grind =]
theorem ahead_ahead (m : Mark) (n k : Nat) : (m.ahead n).ahead k = m.ahead (n + k) := by
  simp [Mark.ahead, Nat.add_assoc]

@[spec]
theorem skips_spec (r₀ : Reading) (n : Nat) (hc : ∀ k < n, isBreakOrEnd (look (chars s) r₀.mark k) = false) :
    ⦃From s r₀⦄ skips n ⦃Ends s fun _ r => r.mark = r₀.mark.ahead n⦄ := by
  induction n generalizing r₀ with
  | zero => mvcgen [skips]
  | succ n ih =>
    mvcgen [skips, ih]
    all_goals try exact fun r _ => r
    all_goals grind -ring -linarith

@[spec]
theorem take_spec (r₀ : Reading) (hc : isBreakOrEnd (look (chars s) r₀.mark 0) = false) :
    ⦃From s r₀⦄ take ⦃Ends s fun _ r => r.mark = r₀.mark.ahead 1⦄ := by
  mvcgen [take]
  all_goals grind -ring -linarith

/-- The place after the line break that begins at a place, if one does. -/
def afterBreak (text : Array Char) (m : Mark) : Mark :=
  if look text m 0 = '\r' ∧ look text m 1 = '\n' then m.down 2
  else if isBreak (look text m 0) then m.down 1
  else m

theorem reached_afterBreak {text : Array Char} {m : Mark} (h : Reached text m) :
    Reached text (afterBreak text m) := by
  rw [afterBreak]
  split
  · next hpair => exact h.pair hpair.1 hpair.2
  · split
    · next hpair hbreak => exact h.down hbreak hpair
    · exact h

/-- A line break is passed, and nothing else. -/
abbrev PassesBreak (s : String) (r₀ r : Reading) : Prop :=
  (isBreak (look (chars s) r₀.mark 0) = true → r₀.mark.index < r.mark.index) ∧
    (isBreak (look (chars s) r₀.mark 0) = false → r.mark = r₀.mark)

@[spec]
theorem takeBreak_spec (r₀ : Reading) : ⦃From s r₀⦄ takeBreak ⦃Ends s fun _ r => PassesBreak s r₀ r⦄ := by
  have hafter : Reached (chars s) r₀.mark → Reached (chars s) (afterBreak (chars s) r₀.mark) :=
    reached_afterBreak
  mvcgen [takeBreak]
  all_goals grind -ring -linarith [afterBreak, Mark.down, Sound.move, isBreak]

@[spec]
theorem skipBreak_spec (r₀ : Reading) : ⦃From s r₀⦄ skipBreak ⦃Ends s fun _ r => PassesBreak s r₀ r⦄ := by
  mvcgen [skipBreak]

end Scan

namespace Reading

/-- Up to the barrier all characters are allowed, and the fault beyond it has no place. -/
theorem barrierFrom_cases (offset limit : Nat) {count readable : Nat} (h : readable ≤ count)
    (cs : List Char) :
    match barrierFrom offset count limit readable cs with
    | none => ∀ c ∈ cs, isAllowed c = true
    | some (n, f) => f.mark = .zero ∧ ∀ i, ∀ c ∈ cs[i]?, count + i < n → isAllowed c = true := by
  induction cs generalizing offset count limit readable with
  | nil => simp [barrierFrom]
  | cons c cs ih =>
    rw [barrierFrom]
    generalize hlimit : (if offset + c.utf8Size > limit then (offset + portion, count)
      else (limit, readable)) = p
    obtain ⟨limit', readable'⟩ := p
    have hle : readable' ≤ count := by
      split at hlimit
      · cases hlimit
        exact Nat.le_refl _
      · cases hlimit
        exact h
    dsimp only
    by_cases hc : isAllowed c = true
    · have hrest := ih (offset + c.utf8Size) limit' (Nat.le_succ_of_le hle)
      rw [if_pos hc]
      split at hrest
      · next hnone => simpa [hnone, hc] using hrest
      · next n f hsome =>
        rw [hsome]
        refine ⟨hrest.1, fun i d hd hlt => ?_⟩
        cases i with
        | zero => cases hd; exact hc
        | succ i => exact hrest.2 i d hd (by omega)
    · rw [if_neg hc]
      exact ⟨rfl, fun i d hd hlt => by omega⟩

theorem barrier_cases (s : String) : match (ofText s).barrier with
    | none => ∀ c ∈ chars s, isAllowed c = true
    | some (n, f) => f.mark = .zero ∧ ∀ i, ∀ c ∈ (chars s)[i]?, i < n → isAllowed c = true := by
  have hcases := barrierFrom_cases 0 portion (Nat.le_refl 0) s.toList
  rw [show (ofText s).barrier = barrierFrom 0 0 portion 0 s.toList from rfl]
  split at hcases
  · next hnone => simpa [hnone, ← Array.mem_toList_iff, toList_chars] using hcases
  · next n f hsome => simpa [hsome, ← Array.getElem?_toList, toList_chars] using hcases

end Reading

namespace Scan

theorem size_le_of_isAllowed {text : Array Char} {m : Mark} {k : Nat}
    (h : ∀ c ∈ text[m.index + k]?, Reading.isAllowed c = true) (hend : isEnd (look text m k) = true) :
    text.size ≤ m.index + k := by
  by_contra hlt
  have hget : text[m.index + k]? = some (look text m k) := by
    rw [look, Array.getD_eq_getD_getElem?, Array.getElem?_eq_getElem (by omega), Option.getD_some]
  have hallowed := h _ hget
  rw [beq_iff_eq.1 hend] at hallowed
  exact absurd hallowed (by decide)

@[spec]
theorem need_spec (r₀ : Reading) (n : Nat) : ⦃From s r₀⦄ need n
    ⦃Ends s fun _ r => r.mark = r₀.mark ∧
      ∀ k < n, isEnd (look (chars s) r₀.mark k) = true → (chars s).size ≤ r₀.mark.index + k⦄ := by
  have hbarrier := Reading.barrier_cases s
  mvcgen [need]
  · rename_i h _ _ hsome hlt
    rw [h.1.barrier] at hsome
    rw [hsome] at hbarrier
    rw [hbarrier.1]
    exact .zero
  · rename_i h _ _ hsome hle
    obtain ⟨hsound, hmark⟩ := h
    rw [hsound.barrier] at hsome
    rw [hsome] at hbarrier
    rw [hmark] at hle
    refine ⟨hsound, hmark,
      fun k hk hend => size_le_of_isAllowed (fun c hc => hbarrier.2 _ c hc (by omega)) hend⟩
  · rename_i h hnone
    obtain ⟨hsound, hmark⟩ := h
    rw [hsound.barrier] at hnone
    rw [hnone] at hbarrier
    exact ⟨hsound, hmark,
      fun k _ hend => size_le_of_isAllowed (fun c hc => hbarrier c (Array.mem_of_getElem? hc)) hend⟩

/-- Of these characters none ends a line. -/
@[grind =]
def EndsNone (p : Char → Bool) : Prop := ∀ c, p c = true → isBreakOrEnd c = false

theorem takeWhileLoop_spec {p : Char → Bool} (hp : EndsNone p) (fuel : Nat) (acc : String) :
    ⦃fun r => ⌜Sound s r⌝⦄ takeWhileLoop p fuel acc ⦃Ends s fun _ _ => True⦄ := by
  induction fuel generalizing acc with
  | zero => mvcgen [takeWhileLoop]
  | succ fuel ih =>
    mvcgen [takeWhileLoop, ih]
    all_goals grind -ring -linarith

@[spec]
theorem takeWhile_spec {p : Char → Bool} (hp : EndsNone p) :
    ⦃fun r => ⌜Sound s r⌝⦄ takeWhile p ⦃Ends s fun _ _ => True⦄ := by
  have hloop := takeWhileLoop_spec (s := s) hp
  mvcgen [takeWhile, hloop]
  all_goals grind -ring -linarith

@[spec]
theorem skipWhile_spec {p : Char → Bool} (hp : EndsNone p) :
    ⦃fun r => ⌜Sound s r⌝⦄ skipWhile p ⦃Ends s fun _ _ => True⦄ := by
  mvcgen [skipWhile]

@[spec]
theorem skipComment_spec : ⦃fun r => ⌜Sound s r⌝⦄ skipComment ⦃Ends s fun _ _ => True⦄ := by
  mvcgen [skipComment]
  all_goals grind -ring -linarith

/-- Three characters follow that begin no line. -/
def Thrice (text : Array Char) (m : Mark) : Prop := ∀ k < 3, isBreakOrEnd (look text m k) = false

@[spec]
theorem atDocumentMark_spec (r₀ : Reading) (dash dot : Bool) : ⦃From s r₀⦄ atDocumentMark dash dot
    ⦃Ends s fun b r => r.mark = r₀.mark ∧ (b = true → Thrice (chars s) r₀.mark)⦄ := by
  mvcgen [atDocumentMark]
  rename_i r h at' thrice
  obtain ⟨hsound, hmark⟩ := h
  refine ⟨hsound, hmark, fun hthrice => ?_⟩
  rw [← hmark]
  have hat (k : Nat) : r.text.getD (r.mark.index + k) '\x00' = look (chars s) r.mark k := by
    rw [hsound.text, look]
  obtain ⟨c, hc, h0, h1, h2⟩ : ∃ c, isBreakOrEnd c = false ∧ look (chars s) r.mark 0 = c ∧
      look (chars s) r.mark 1 = c ∧
      look (chars s) r.mark 2 = c := by
    simp only [at', thrice, hat, Bool.and_eq_true, Bool.or_eq_true, beq_iff_eq] at hthrice
    obtain ⟨⟨-, ⟨-, ⟨h0, h1⟩, h2⟩ | ⟨-, ⟨h0, h1⟩, h2⟩⟩, -⟩ := hthrice
    · exact ⟨'-', by decide, h0, h1, h2⟩
    · exact ⟨'.', by decide, h0, h1, h2⟩
  intro k hk
  have hk : k = 0 ∨ k = 1 ∨ k = 2 := by omega
  rcases hk with rfl | rfl | rfl
  · rw [h0, hc]
  · rw [h1, hc]
  · rw [h2, hc]

@[spec]
theorem emit_spec (r₀ : Reading) (lexeme : Lexeme) (start stop : Mark) (hstart : Reached (chars s) start)
    (hstop : Reached (chars s) stop) :
    ⦃From s r₀⦄ emit lexeme start stop ⦃Ends s fun _ r => r.mark = r₀.mark⦄ := by
  mvcgen [emit]
  rename_i h _
  obtain ⟨hsound, hmark⟩ := h
  refine ⟨{ hsound with tokens := fun t ht => ?_ }, hmark⟩
  rcases Array.mem_push.1 ht with ht | rfl
  · exact hsound.tokens t ht
  · exact ⟨hstart, hstop⟩

@[spec]
theorem emitBefore_spec (r₀ : Reading) (number : Nat) (lexeme : Lexeme) (m : Mark)
    (hm : Reached (chars s) m) :
    ⦃From s r₀⦄ emitBefore number lexeme m ⦃Ends s fun _ r => r.mark = r₀.mark⦄ := by
  mvcgen [emitBefore]
  rename_i r h _
  obtain ⟨hsound, hmark⟩ := h
  refine ⟨{ hsound with tokens := fun t ht => ?_ }, hmark⟩
  have hmem : t = ⟨lexeme, m, m⟩ ∨ t ∈ r.tokens := by
    have ht : t ∈ r.tokens.insertIdxIfInBounds number ⟨lexeme, m, m⟩ := ht
    rw [Array.insertIdxIfInBounds] at ht
    split at ht
    · exact Array.mem_insertIdx.1 ht
    · exact .inr ht
  rcases hmem with rfl | ht
  · exact ⟨hm, hm⟩
  · exact hsound.tokens t ht

end Scan
end SymbolIndex.Yaml
