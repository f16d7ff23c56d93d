import SymbolIndex.Proofs.Yaml.Scalar
import SymbolIndex.Yaml.Token.Lexer

/-!
# The places that reading tokens comes to

Opening and closing blocks and looking after possible keys does not move the place, so what was seen there
still holds when the token itself is read.
-/
open Std.Do

set_option mvcgen.warning false

namespace SymbolIndex.Yaml.Scan
open Mark

variable {s : String}

@[grind →]
theorem isBreakOrEnd_of_isWord {c : Char} (h : isWord c = true) : isBreakOrEnd c = false :=
  isBreakOrEnd_of (by decide) h

@[grind →]
theorem isBreakOrEnd_of_isTagChar {flow : Bool} {c : Char} (h : isTagChar flow c = true) :
    isBreakOrEnd c = false := by
  cases flow
  · exact isBreakOrEnd_of (p := isTagChar false) (by decide) h
  · exact isBreakOrEnd_of (p := isTagChar true) (by decide) h

-- what the kinds of characters are does not matter below, only that none ends a line
attribute [local irreducible] isGapOrEnd isBreakOrEnd isBreak isEnd isGap isWord isTagChar

/-! ### Keys and blocks -/

@[grind →]
theorem mem_of_mem_tail {k : SimpleKey} {keys : List (Option SimpleKey)} (h : some k ∈ keys.tail) :
    some k ∈ keys :=
  List.mem_of_mem_tail h

@[grind →]
theorem mem_of_mem_filter {p : SimpleKey → Bool} {k : SimpleKey} {keys : List (Option SimpleKey)}
    (h : some k ∈ keys.map (Option.filter p)) : some k ∈ keys := by
  obtain ⟨key, hmem, hkey⟩ := List.mem_map.1 h
  rwa [← (Option.filter_eq_some_iff.1 hkey).1]

@[spec]
theorem dropStaleKeys_spec (r₀ : Reading) :
    ⦃From s r₀⦄ dropStaleKeys ⦃Ends s fun _ r => r.mark = r₀.mark⦄ := by
  mvcgen [dropStaleKeys]
  all_goals grind -ring -linarith

@[spec]
theorem dropKey_spec (r₀ : Reading) : ⦃From s r₀⦄ dropKey ⦃Ends s fun _ r => r.mark = r₀.mark⦄ := by
  mvcgen [dropKey]
  all_goals grind -ring -linarith

@[spec]
theorem noteKey_spec (r₀ : Reading) : ⦃From s r₀⦄ noteKey ⦃Ends s fun _ r => r.mark = r₀.mark⦄ := by
  mvcgen [noteKey]
  all_goals grind -ring -linarith

@[spec]
theorem allowKey_spec (r₀ : Reading) (allowed : Bool) :
    ⦃From s r₀⦄ allowKey allowed ⦃Ends s fun _ r => r.mark = r₀.mark⦄ := by
  mvcgen [allowKey]
  all_goals grind -ring -linarith

@[spec]
theorem indentTo_spec (r₀ : Reading) (column : Nat) (before : Option Nat) (lexeme : Lexeme) (m : Mark)
    (hm : Reached (chars s) m) :
    ⦃From s r₀⦄ indentTo column before lexeme m ⦃Ends s fun _ r => r.mark = r₀.mark⦄ := by
  mvcgen [indentTo]
  all_goals grind -ring -linarith

@[spec]
theorem closeBlocks_spec (r₀ : Reading) (column : Int) (fuel : Nat) :
    ⦃From s r₀⦄ closeBlocks column fuel ⦃Ends s fun _ r => r.mark = r₀.mark⦄ := by
  induction fuel with
  | zero => mvcgen [closeBlocks]
  | succ fuel ih =>
    mvcgen [closeBlocks, ih]
    all_goals grind -ring -linarith

@[spec]
theorem unindentTo_spec (r₀ : Reading) (column : Int) :
    ⦃From s r₀⦄ unindentTo column ⦃Ends s fun _ r => r.mark = r₀.mark⦄ := by
  mvcgen [unindentTo]
  all_goals grind -ring -linarith

@[spec]
theorem endBlocks_spec (r₀ : Reading) : ⦃From s r₀⦄ endBlocks ⦃Ends s fun _ r => r.mark = r₀.mark⦄ := by
  mvcgen [endBlocks]
  all_goals grind -ring -linarith

@[spec]
theorem toNextToken_spec (fuel : Nat) : ⦃fun r => ⌜Sound s r⌝⦄ toNextToken fuel ⦃Ends s fun _ _ => True⦄ := by
  induction fuel with
  | zero => mvcgen [toNextToken]
  | succ fuel ih =>
    mvcgen [toNextToken, ih]
    all_goals grind -ring -linarith [isBreakOrEnd, isBreak, isEnd]

/-! ### Directives, anchors and tags -/

@[spec]
theorem versionNumber_takeDigits_spec (start : Mark) (fuel : Nat) (acc : String) :
    ⦃fun r => ⌜Sound s r⌝⦄ versionNumber.takeDigits start fuel acc ⦃Ends s fun _ _ => True⦄ := by
  induction fuel generalizing acc with
  | zero =>
    mvcgen [versionNumber.takeDigits]
    all_goals grind -ring -linarith
  | succ fuel ih =>
    mvcgen [versionNumber.takeDigits, ih]
    all_goals grind -ring -linarith

@[spec]
theorem versionNumber_spec (start : Mark) :
    ⦃fun r => ⌜Sound s r⌝⦄ versionNumber start ⦃Ends s fun _ _ => True⦄ := by
  mvcgen [versionNumber]
  all_goals grind -ring -linarith

@[spec]
theorem tagHandle_spec (directive : Bool) (start : Mark) :
    ⦃fun r => ⌜Sound s r⌝⦄ tagHandle directive start ⦃Ends s fun _ _ => True⦄ := by
  mvcgen [tagHandle]
  all_goals grind -ring -linarith [isBreakOrEnd, isBreak, isEnd]

/-- A byte that is written with a percent sign takes three characters. -/
@[spec]
theorem escapedByte_spec (r₀ : Reading) (activity : Activity) (start : Mark) :
    ⦃From s r₀⦄ escapedByte activity start
    ⦃Ends s fun _ r => r.mark = r₀.mark ∧ Thrice (chars s) r₀.mark⦄ := by
  have hneed := need_spec (s := s) r₀ 3
  have hcharAt := charAt_spec (s := s) r₀
  have hchar := char_spec (s := s) r₀
  mvcgen [escapedByte, -need_spec, -charAt_spec, -char_spec, hneed, hcharAt, hchar]
  all_goals grind -ring -linarith [Thrice, isBreakOrEnd, isBreak, isEnd]

@[spec]
theorem trailingBytes_spec (activity : Activity) (start : Mark) (n : Nat) (acc : Tag) :
    ⦃fun r => ⌜Sound s r⌝⦄ trailingBytes activity start n acc ⦃Ends s fun _ _ => True⦄ := by
  induction n generalizing acc with
  | zero => mvcgen [trailingBytes]
  | succ n ih =>
    mvcgen [trailingBytes, ih]
    all_goals grind -ring -linarith [Thrice]

@[spec]
theorem escapedBytes_spec (activity : Activity) (start : Mark) (acc : Tag) :
    ⦃fun r => ⌜Sound s r⌝⦄ escapedBytes activity start acc ⦃Ends s fun _ _ => True⦄ := by
  mvcgen [escapedBytes]
  all_goals grind -ring -linarith [Thrice]

@[spec]
theorem tagUriLoop_spec (flow : Bool) (activity : Activity) (start : Mark) (fuel : Nat) (acc : Tag)
    (n : Nat) :
    ⦃fun r => ⌜Sound s r⌝⦄ tagUriLoop flow activity start fuel acc n ⦃Ends s fun _ _ => True⦄ := by
  induction fuel generalizing acc n with
  | zero => mvcgen [tagUriLoop]
  | succ fuel ih =>
    mvcgen [tagUriLoop, ih]
    all_goals grind -ring -linarith

@[spec]
theorem tagUri_spec (flow directive : Bool) (head : String) (start : Mark) :
    ⦃fun r => ⌜Sound s r⌝⦄ tagUri flow directive head start ⦃Ends s fun _ _ => True⦄ := by
  mvcgen [tagUri]
  all_goals grind -ring -linarith

@[spec]
theorem versionDirective_spec (start : Mark) :
    ⦃fun r => ⌜Sound s r⌝⦄ versionDirective start ⦃Ends s fun _ _ => True⦄ := by
  mvcgen [versionDirective]
  all_goals grind -ring -linarith [isBreakOrEnd, isBreak, isEnd]

@[spec]
theorem tagDirective_spec (start : Mark) :
    ⦃fun r => ⌜Sound s r⌝⦄ tagDirective start ⦃Ends s fun _ _ => True⦄ := by
  mvcgen [tagDirective]
  all_goals grind -ring -linarith

@[spec]
theorem directive_spec (r₀ : Reading) (hc : isBreakOrEnd (look (chars s) r₀.mark 0) = false) :
    ⦃From s r₀⦄ directive ⦃Ends s fun _ _ => True⦄ := by
  -- after the first character no other matters for the places
  have hchar : ⦃fun r => ⌜Sound s r⌝⦄ char ⦃Ends s fun _ _ => True⦄ := by
    mvcgen
    grind -ring -linarith
  mvcgen [directive, -char_spec, hchar]
  all_goals try exact fun r _ => r
  all_goals grind -ring -linarith

@[spec]
theorem anchor_spec (r₀ : Reading) (isAnchor : Bool) (hc : isBreakOrEnd (look (chars s) r₀.mark 0) = false) :
    ⦃From s r₀⦄ anchor isAnchor ⦃Ends s fun _ _ => True⦄ := by
  rw [anchor]
  -- the table itself is of no use to the steps below, only slow to compare
  generalize htable : String.toList _ = table
  mvcgen
  all_goals try exact fun r _ => r
  all_goals grind -ring -linarith

@[spec]
theorem tag_spec (r₀ : Reading) (hc : isBreakOrEnd (look (chars s) r₀.mark 0) = false) :
    ⦃From s r₀⦄ tag ⦃Ends s fun _ _ => True⦄ := by
  mvcgen [tag]
  all_goals try exact fun r _ => r
  all_goals grind -ring -linarith [isBreakOrEnd, isBreak, isEnd]

/-! ### The next token -/

@[spec]
theorem indicator_spec (r₀ : Reading) (width : Nat) (lexeme : Lexeme)
    (hc : ∀ k < width, isBreakOrEnd (look (chars s) r₀.mark k) = false) :
    ⦃From s r₀⦄ indicator width lexeme ⦃Ends s fun _ _ => True⦄ := by
  mvcgen [indicator]
  all_goals try exact fun r _ => r
  all_goals grind -ring -linarith

theorem reached_past {r : Reading} (h : Sound s r) (hend : (chars s).size ≤ r.mark.index)
    (hcolumn : r.mark.column ≠ 0) :
    Reached (chars s) (r.mark.down 0) := h.mark.past (Nat.le_antisymm h.index_le hend) hcolumn

/-- The end of a text is the start of a line, if need be of one more. -/
@[spec]
theorem streamEnd_spec (r₀ : Reading) (hend : (chars s).size ≤ r₀.mark.index) :
    ⦃From s r₀⦄ streamEnd ⦃Ends s fun _ _ => True⦄ := by
  -- the place has changed when the blocks end, and it is the one they end at
  have hblocks : ⦃fun r => ⌜Sound s r⌝⦄ endBlocks ⦃Ends s fun _ _ => True⦄ := by
    mvcgen
    grind -ring -linarith
  mvcgen [streamEnd, -endBlocks_spec, hblocks]
  all_goals try exact fun r _ => r
  all_goals grind -ring -linarith [→ reached_past, Mark.down]

@[spec]
theorem openFlow_spec (r₀ : Reading) (lexeme : Lexeme)
    (hc : isBreakOrEnd (look (chars s) r₀.mark 0) = false) :
    ⦃From s r₀⦄ openFlow lexeme ⦃Ends s fun _ _ => True⦄ := by
  mvcgen [openFlow]
  all_goals grind -ring -linarith

@[spec]
theorem closeFlow_spec (r₀ : Reading) (lexeme : Lexeme)
    (hc : isBreakOrEnd (look (chars s) r₀.mark 0) = false) :
    ⦃From s r₀⦄ closeFlow lexeme ⦃Ends s fun _ _ => True⦄ := by
  mvcgen [closeFlow]
  all_goals grind -ring -linarith

@[spec]
theorem flowEntry_spec (r₀ : Reading) (hc : isBreakOrEnd (look (chars s) r₀.mark 0) = false) :
    ⦃From s r₀⦄ flowEntry ⦃Ends s fun _ _ => True⦄ := by
  mvcgen [flowEntry]
  all_goals grind -ring -linarith

@[spec]
theorem blockEntry_spec (r₀ : Reading) (hc : isBreakOrEnd (look (chars s) r₀.mark 0) = false) :
    ⦃From s r₀⦄ blockEntry ⦃Ends s fun _ _ => True⦄ := by
  mvcgen [blockEntry]
  all_goals grind -ring -linarith

@[spec]
theorem key_spec (r₀ : Reading) (hc : isBreakOrEnd (look (chars s) r₀.mark 0) = false) :
    ⦃From s r₀⦄ key ⦃Ends s fun _ _ => True⦄ := by
  mvcgen [key]
  all_goals grind -ring -linarith

theorem reached_of_head {r : Reading} {k : SimpleKey} {keys : List (Option SimpleKey)} (h : Sound s r)
    (hkeys : r.keys = some k :: keys) : Reached (chars s) k.mark :=
  h.keys k (by rw [hkeys]; exact List.mem_cons_self)

@[spec]
theorem value_spec (r₀ : Reading) (hc : isBreakOrEnd (look (chars s) r₀.mark 0) = false) :
    ⦃From s r₀⦄ value ⦃Ends s fun _ _ => True⦄ := by
  mvcgen [value]
  all_goals grind -ring -linarith [reached_of_head]

@[spec]
theorem keyStart_spec (r₀ : Reading) (read : Scan Unit) (hread : ⦃From s r₀⦄ read ⦃Ends s fun _ _ => True⦄) :
    ⦃From s r₀⦄ keyStart read ⦃Ends s fun _ _ => True⦄ := by
  mvcgen [keyStart, hread]
  all_goals grind -ring -linarith

@[grind →]
theorem isBreakOrEnd_of_startsPlain {flow : Bool} {c next : Char} (h : startsPlain flow c next = true) :
    isBreakOrEnd c = false := by
  grind -ring -linarith [startsPlain, isGapOrEnd, isBreakOrEnd, isBreak, isEnd]

@[spec]
theorem fetch_spec : ⦃fun r => ⌜Sound s r⌝⦄ fetch ⦃Ends s fun _ _ => True⦄ := by
  mvcgen [fetch]
  all_goals try exact fun r _ => r
  all_goals grind -ring -linarith [Thrice, isBreakOrEnd, isBreak, isEnd]

@[spec]
theorem settle_spec (fuel : Nat) : ⦃fun r => ⌜Sound s r⌝⦄ settle fuel ⦃Ends s fun _ _ => True⦄ := by
  induction fuel with
  | zero => mvcgen [settle]
  | succ fuel ih =>
    mvcgen [settle, ih]
    all_goals grind -ring -linarith

@[spec]
theorem peek_spec : ⦃fun r => ⌜Sound s r⌝⦄ peek
    ⦃Ends s fun t _ => Reached (chars s) t.start ∧ Reached (chars s) t.stop⦄ := by
  mvcgen [peek]
  · grind -ring -linarith
  · rename_i r hsound
    rw [Array.getD_eq_getD_getElem?]
    cases htoken : r.tokens[r.taken]? with
    | none => exact ⟨hsound, hsound.mark, hsound.mark⟩
    | some t => exact ⟨hsound, hsound.tokens t (Array.mem_of_getElem? htoken)⟩

@[spec]
theorem advance_spec : ⦃fun r => ⌜Sound s r⌝⦄ advance ⦃Ends s fun _ _ => True⦄ := by
  mvcgen [advance]
  all_goals grind -ring -linarith

end SymbolIndex.Yaml.Scan
