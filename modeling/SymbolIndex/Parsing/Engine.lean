import SymbolIndex.Parsing.Automaton
import SymbolIndex.Parsing.Stack

/-!
# The parser

A shift-reduce parser that follows several readings of a text at once. Where the grammar leaves more
than one action the reading forks; readings that are clearly worse than another are dropped. When no
reading can go on, the best one recovers: it inserts a missing token, returns to an earlier state, or
skips text, and the skipped text ends up in an error node.
-/
namespace SymbolIndex

/-- What a text is parsed with. -/
structure ParserSetup where
  grammar : Grammar
  scanner : Scanner

/-- The token read last, kept for the other readings at the same place. -/
structure CachedToken where
  token : Subtree
  byte : Nat
  scannerState : ScannerState

/-- The state of a parse. -/
structure ParseState where
  stack : Stack
  cached : Option CachedToken
  finished : Option Subtree
  acceptCount : Nat

/-- A parse: a text and its grammar are fixed, the state moves. -/
structure ParseContext where
  setup : ParserSetup
  text : ByteArray

abbrev Parse := ReaderT ParseContext (StateM ParseState)

namespace Parse

/-! ## Limits -/

/-- No more readings than this are kept. -/
def maxVersions : Nat := 6

/-- So many more readings may exist for a moment. -/
def maxExtraVersions : Nat := 4

/-- A recovering reading can return to a state no deeper than this. -/
def maxSummaryDepth : Nat := 16

/-- A reading is given up when it is worse than another by this much. -/
def maxCostDifference : Nat := 18 * Cost.skippedTree

/-! ## Access -/

def grammar : Parse Grammar := return (← read).setup.grammar
def stack : Parse Stack := return (← get).stack
def setStack (s : Stack) : Parse Unit := modify fun st => { st with stack := s }
def modifyStack (f : Stack → Stack) : Parse Unit := modify fun st => { st with stack := f st.stack }
def ask {α : Type} (f : Stack → α) : Parse α := return f (← stack)

/-- Runs an operation on the stack that also has a result. -/
def onStack {α : Type} (f : Stack → Stack × α) : Parse α :=
  modifyGet fun st =>
    let (s, a) := f st.stack
    (a, { st with stack := s })

/-- A bound on the turns of a loop whose end the parser's limits ensure. -/
def turns : Parse Nat := return 64 * ((← read).text.size + 64)

/-! ## Reading tokens -/

/-- What the scanner finds at the cursor: the token, the state after it and the cursor. -/
def scanToken (mode : Nat) (errorMode : Bool) (v : Version) (state : StateId)
    (before : ScannerState) (c : Cursor) : Parse (Option (SymbolId × ScannerState) × Cursor) := do
  let g ← grammar
  let valid := g.scannerSets.getD mode #[]
  let from' := c.pos
  let (found, c) := (← read).setup.scanner.scan before valid c.start
  let c := c.finish
  match found with
  | none => return (none, c)
  | some (index, after) =>
    let symbol := g.scannerTokens.getD index 0
    let empty := c.stop.bytes ≤ from'.bytes && before == after
    let advanced ← ask (·.hasAdvanced v)
    if empty && (errorMode || !advanced || g.next state symbol == state) then return (none, c)
    else return (some (symbol, after), c)

/-- The outcome of looking for a token. -/
structure Reading where
  found : Option SymbolId
  scanned : Option ScannerState
  /-- The bounds of the text that no token could be found in. -/
  skipped : Option (Extent × Extent)
  cursor : Cursor

/-- Looks for a token, first in the state's own modes, then in those of the error state, skipping
characters that start no token. -/
def readToken (v : Version) (state : StateId) (before : ScannerState) (start : Extent) :
    Nat → Nat × Nat → Bool → Option (Extent × Extent) → Cursor → Parse Reading
  | 0, _, _, skipped, c => return ⟨none, none, skipped, c⟩
  | fuel + 1, (lexMode, scanMode), errorMode, skipped, c => do
    let g ← grammar
    let here := c.pos
    let (external, c) ←
      if scanMode ≠ 0 then
        let (found, c') ← scanToken scanMode errorMode v state before c
        pure (found, if found.isSome then c' else c'.moveTo here)
      else pure (none, c)
    match external with
    | some (symbol, after) => return ⟨some symbol, some after, skipped, c⟩
    | none =>
      let (found, c) := c.start.token g.tokenAutomaton lexMode
      let c := c.finish
      match found with
      | some symbol => return ⟨some symbol, none, skipped, c⟩
      | none =>
        if !errorMode then
          readToken v state before start fuel (g.lexMode 0) true skipped (c.moveTo start)
        else
          let (errorStart, errorEnd) := skipped.getD (c.tokenStart, c.tokenStart)
          if c.pos.bytes = errorEnd.bytes then
            if c.atEnd then return ⟨some errorSymbol, none, some (errorStart, errorEnd), c⟩
            else
              let c := c.advance
              readToken v state before start fuel (lexMode, scanMode) true
                (some (errorStart, c.pos)) c
          else
            readToken v state before start fuel (lexMode, scanMode) true
              (some (errorStart, c.pos)) c

/-- The keyword that a word spells, if the state has a use for it; and whether it spells any. -/
def keyword (state : StateId) (c : Cursor) : Parse (Option SymbolId × Bool) := do
  let g ← grammar
  let stop := c.stop
  let (found, k) := (Cursor.ofPos c.text c.tokenStart).start.token g.keywordAutomaton 0
  let k := k.finish
  match found with
  | none => return (none, false)
  | some symbol =>
    if k.stop.bytes == stop.bytes && g.hasActions state symbol then return (some symbol, true)
    else return (none, true)

/-- The token at a reading's position. -/
def lex (v : Version) (state : StateId) : Parse Subtree := do
  let g ← grammar
  let s ← stack
  let start := s.position v
  let before := (s.head v).scannerState
  let text := (← read).text
  let r ← readToken v state before start (text.size + 4) (g.lexMode state) (state == 0) none
    (Cursor.ofPos text start)
  match r.skipped with
  | some (errorStart, errorEnd) =>
    return .token g errorSymbol (errorStart.since start) (errorEnd.since errorStart) state
  | none =>
    let c := r.cursor
    let symbol := r.found.getD 0
    let leaf (symbol : SymbolId) := Subtree.token g symbol (c.tokenStart.since start)
      (c.stop.since c.tokenStart) state
    match r.scanned with
    | some after =>
      let t := leaf symbol
      return .mk { t.digest with scanned := true, scannerState := after
                                 scannerChanged := before != after } #[]
    | none =>
      if symbol = g.wordToken ∧ symbol ≠ 0 then
        let (k, isKeyword) ← keyword state c
        let t := leaf (k.getD symbol)
        return .mk { t.digest with keyword := isKeyword } #[]
      else return leaf symbol

/-- Whether a token read in another state may be used in this one. -/
def canReuse (g : Grammar) (state : StateId) (t : Subtree) : Bool :=
  let entry := g.actions state t.symbol
  let mode := g.lexMode state
  if !entry.actions.isEmpty && g.lexMode t.digest.state == mode
      && (t.symbol != g.wordToken || (!t.digest.keyword && t.digest.state == state)) then true
  else if t.digest.size.bytes = 0 ∧ t.symbol ≠ 0 then false
  else mode.2 == 0 && entry.reusable

/-- The token for a reading: the one read last if it can be used again, else a new one. -/
def lookahead (v : Version) : Parse Subtree := do
  let g ← grammar
  let s ← stack
  let state := s.state v
  let byte := (s.position v).bytes
  let scannerState := (s.head v).scannerState
  let kept := (← get).cached.bind fun c =>
    if c.byte = byte ∧ c.scannerState = scannerState ∧ canReuse g state c.token then some c.token
    else none
  match kept with
  | some t => return t
  | none =>
    let token ← lex v state
    modify fun st => { st with cached := some { token, byte, scannerState } }
    return token

/-! ## Comparing readings -/

/-- What decides between two readings. -/
structure Standing where
  cost : Nat
  progress : Nat
  precedence : Int
  inError : Bool

inductive Preference
  | takeLeft | preferLeft | none | preferRight | takeRight
  deriving DecidableEq

def Standing.compare (a b : Standing) : Preference :=
  if !a.inError && b.inError then
    if a.cost < b.cost then .takeLeft else .preferLeft
  else if a.inError && !b.inError then
    if b.cost < a.cost then .takeRight else .preferRight
  else if a.cost < b.cost then
    if (b.cost - a.cost) * (1 + a.progress) > maxCostDifference then .takeLeft else .preferLeft
  else if b.cost < a.cost then
    if (a.cost - b.cost) * (1 + b.progress) > maxCostDifference then .takeRight else .preferRight
  else if a.precedence > b.precedence then .preferLeft
  else if b.precedence > a.precedence then .preferRight
  else .none

def standing (v : Version) : Parse Standing := do
  modifyStack (·.settle v)
  let s ← stack
  let paused := s.isPaused v
  return { cost := s.cost v + (if paused then Cost.skippedTree else 0)
           progress := s.progress v
           precedence := (s.top v).precedence
           inError := paused || s.state v == 0 }

/-- Whether some reading is better than `v` would be at a cost. -/
def betterExists (v : Version) (inError : Bool) (cost : Nat) : Parse Bool := do
  match (← get).finished with
  | some t => if t.cost ≤ cost then return true
  | none => pure ()
  modifyStack (·.settle v)
  let s ← stack
  let bytes := (s.position v).bytes
  let mine : Standing :=
    { cost, inError, precedence := (s.top v).precedence, progress := s.progress v }
  for i in [0:s.versionCount] do
    if i != v && (← ask (·.isActive i)) && (s.position i).bytes ≥ bytes then
      match mine.compare (← standing i) with
      | .takeRight => return true
      | .preferRight => if (← ask (·.canMerge i v)) then return true
      | _ => pure ()
  return false

/-- Whether `right` should take the place of `left`. -/
def preferTree (left right : Subtree) : Bool :=
  if right.cost < left.cost then true
  else if left.cost < right.cost then false
  else if right.precedence > left.precedence then true
  else if left.precedence > right.precedence then false
  else if left.cost > 0 then true
  else Subtree.compare 1000000 [(left, right)] == .gt

/-! ## Shifting and reducing -/

def shift (v : Version) (state : StateId) (t : Subtree) (extra : Bool) : Parse Unit := do
  let t := if t.isLeaf then t.withExtra extra else t
  modifyStack (·.push v (some t) state)
  if t.digest.scanned then modifyStack (·.setScannerState v t.digest.scannerState)

/-- The slices after the first that end at the same reading, and the rest. -/
def sameVersion (version : Version) (slices : List Slice) : List Slice × List Slice :=
  slices.span fun x => x.version = version

/-- Pushes the children of each way down as one node. The number of readings removed on the way
shifts the numbers of later ones. -/
def reduceSlices (v : Version) (symbol : SymbolId) (precedence : Int) (production : Nat) :
    Nat → List Slice → Nat → Parse Unit
  | 0, _, _ => pure ()
  | _, [], _ => pure ()
  | fuel + 1, slice :: rest, removed => do
    let g ← grammar
    let version := slice.version - removed
    let (same, rest) := sameVersion slice.version rest
    if version > maxVersions + maxExtraVersions then
      modifyStack (·.remove version)
      reduceSlices v symbol precedence production fuel rest (removed + 1)
    else
      let build (slice : Slice) : Subtree × Array Subtree :=
        let (children, extras) := Subtree.splitTrailingExtras slice.subtrees
        (.node g symbol children production, extras)
      let choose (best : Subtree × Array Subtree) (slice : Slice) : Subtree × Array Subtree :=
        let (children, _) := Subtree.splitTrailingExtras slice.subtrees
        if preferTree best.1 (.node g symbol children 0) then build slice else best
      let (parent, extras) := same.foldl choose (build slice)
      let next := g.next (← ask (·.state version)) symbol
      modifyStack (·.push version (some (parent.withPrecedence precedence)) next)
      for t in extras do
        modifyStack (·.push version (some t) next)
      let s ← stack
      let merged := (List.range version).findSome? fun j =>
        if j = v then none else s.merge? j version
      match merged with
      | some s =>
        setStack s
        reduceSlices v symbol precedence production fuel rest (removed + 1)
      | none => reduceSlices v symbol precedence production fuel rest removed

/-- Reduces in a reading. The result is the first new reading, if one is left. -/
def reduce (v : Version) (symbol : SymbolId) (count : Nat) (precedence : Int) (production : Nat) :
    Parse (Option Version) := do
  let before ← ask (·.versionCount)
  let slices ← onStack (·.popCount v count)
  reduceSlices v symbol precedence production (slices.size + 1) slices.toList 0
  if (← ask (·.versionCount)) > before then return some before else return none

/-- Ends a reading: what is on the stack becomes a whole tree, the last proper node lending its kind
to the root. -/
def accept (v : Version) (t : Subtree) : Parse Unit := do
  let g ← grammar
  modifyStack (·.push v (some t) 1)
  let slices ← onStack (·.popAll v)
  for slice in slices do
    let trees := slice.subtrees.toList
    let after := trees.reverse.takeWhile (·.extra)
    match trees.reverse.drop after.length with
    | [] => pure ()
    | last :: before =>
      let children := before.reverse ++ last.children.toList ++ after.reverse
      let root := Subtree.node g last.symbol children.toArray last.digest.production
      modify fun st =>
        { st with
          acceptCount := st.acceptCount + 1
          finished := match st.finished with
            | some old => if preferTree old root then some root else some old
            | none => some root }
  match slices[0]? with
  | some slice => modifyStack (·.remove slice.version)
  | none => pure ()
  modifyStack (·.halt v)

/-! ## Recovering -/

/-- A reduction that some token asks for. -/
structure Reduction where
  symbol : SymbolId
  count : Nat
  precedence : Int
  production : Nat

/-- The reductions of a state on the tokens from `first` up to `last`, one for each symbol and
count, and whether one of the tokens can be shifted. -/
def reductions (g : Grammar) (state : StateId) (first last : SymbolId) : Array Reduction × Bool :=
  (List.range' first (last - first)).foldl (fun acc symbol =>
    (g.actions state symbol).actions.foldl (fun (found, shifts) a =>
      match a with
      | .shift _ repetition => (found, shifts || !repetition)
      | .recover => (found, true)
      | .reduce symbol count precedence production =>
        if count > 0 && !(found.any fun r => r.symbol == symbol && r.count == count) then
          (found.push ⟨symbol, count, precedence, production⟩, shifts)
        else (found, shifts)
      | _ => (found, shifts)) acc) (#[], false)

/-- Performs every reduction that is possible before a token, or before any token at all if none is
given. The result says whether the token can be shifted afterwards. -/
def reduceAll (start : Version) (token : SymbolId) : Parse Bool := do
  let g ← grammar
  let first ← ask (·.versionCount)
  let (lo, hi) := if token = 0 then (1, g.tokenCount) else (token, token + 1)
  loop g first lo hi (← turns) 0 start false
where
  loop (g : Grammar) (first lo hi : Nat) : Nat → Nat → Version → Bool → Parse Bool
    | 0, _, _, shifts => return shifts
    | fuel + 1, i, v, shifts => do
      let s ← stack
      let count := s.versionCount
      if v ≥ count then return shifts
      let merged := (List.range' first (v - first)).findSome? fun j => s.merge? j v
      match merged with
      | some s =>
        setStack s
        loop g first lo hi fuel (i + 1) v shifts
      | none =>
        let (found, hasShift) := reductions g (s.state v) lo hi
        let mut last : Option Version := none
        for r in found do
          last ← reduce v r.symbol r.count r.precedence r.production
        let next := if v = start then count else v + 1
        if hasShift then loop g first lo hi fuel (i + 1) next true
        else
          match last with
          | some w =>
            if i < maxVersions then
              modifyStack (·.renumber w v)
              loop g first lo hi fuel (i + 1) v shifts
            else
              if token ≠ 0 then modifyStack (·.remove v)
              loop g first lo hi fuel (i + 1) next shifts
          | none =>
            if token ≠ 0 then modifyStack (·.remove v)
            loop g first lo hi fuel (i + 1) next shifts

/-- Returns a reading to a state further down; what lies above becomes an error. -/
def recoverTo (v : Version) (depth : Nat) (goal : StateId) : Parse Bool := do
  let g ← grammar
  let slices ← onStack (·.popCount v depth)
  let mut previous : Option Version := none
  for slice in slices do
    if previous == some slice.version then continue
    if (← ask (·.state slice.version)) != goal then
      modifyStack (·.halt slice.version)
      continue
    let errors ← onStack (·.popError slice.version)
    let below := match errors[0]? with
      | some e => e.children
      | none => #[]
    let (trees, extras) := Subtree.splitTrailingExtras (below ++ slice.subtrees)
    if !trees.isEmpty then
      modifyStack (·.push slice.version (some (.errorNode g trees true)) goal)
    for t in extras do
      modifyStack (·.push slice.version (some t) goal)
    previous := some slice.version
  return previous.isSome

/-- Tries to return to one of the noted states in which the token has a use. -/
def recoverToSummary (v : Version) (token : Subtree) : Parse Bool := do
  let g ← grammar
  let s := (← stack).settle v
  setStack s
  let position := s.position v
  let progress := s.progress v
  let cost := s.cost v
  let count := s.versionCount
  for e in (s.head v).summary.getD #[] do
    if e.state = 0 ∨ e.position.bytes = position.bytes then continue
    let depth := if progress > 0 then e.depth + 1 else e.depth
    let redundant := (List.range count).any fun j =>
      s.state j == e.state && (s.position j).bytes == position.bytes
    if redundant then continue
    let newCost := cost + e.depth * Cost.skippedTree
      + (position.bytes - e.position.bytes) * Cost.skippedByte
      + (position.rows - e.position.rows) * Cost.skippedLine
    if ← betterExists v false newCost then break
    if g.hasActions e.state token.symbol then
      if ← recoverTo v depth e.state then return true
  return false

/-- Drops the readings from `first` on that are not active. -/
def removeInactive : Nat → Version → Parse Unit
  | 0, _ => pure ()
  | fuel + 1, v => do
    let s ← stack
    if v < s.versionCount then
      if s.isActive v then removeInactive fuel (v + 1)
      else
        modifyStack (·.remove v)
        removeInactive fuel v

/-- Skips a token: it joins the pieces already skipped since the error. -/
def skipToken (v : Version) (token : Subtree) : Parse Unit := do
  let g ← grammar
  let token := if (g.actions 1 token.symbol).endsWithExtra then token.withExtra true else token
  let piece := Subtree.node g errorRepeatSymbol #[token] 0
  modifyStack (·.settle v)
  let piece ←
    if (← ask (·.progress v)) > 0 then do
      let slices ← onStack (·.popCount v 1)
      match slices[0]? with
      | some slice =>
        if slices.size > 1 then
          modifyStack fun s => { s with heads := s.heads.extract 0 (slice.version + 1) }
        modifyStack (·.renumber slice.version v)
        pure (Subtree.node g errorRepeatSymbol (slice.subtrees.push piece) 0)
      | none => pure piece
    else pure piece
  modifyStack (·.push v (some piece) 0)
  if token.digest.scanned then modifyStack (·.setScannerState v token.digest.scannerState)

/-- Goes on after an error with a token: back to a state that can use it, and past it as skipped
text. At the end of the text everything becomes one error. -/
def recover (v : Version) (token : Subtree) : Parse Unit := do
  let g ← grammar
  let before ← ask (·.versionCount)
  let cost ← ask (·.cost v)
  let didRecover ← if token.isError then pure false else recoverToSummary v token
  removeInactive (← turns) before
  if didRecover && ((← ask (·.versionCount)) > maxVersions || token.digest.scannerChanged) then
    modifyStack (·.halt v)
  else if token.symbol = 0 then
    modifyStack (·.push v (some (.errorNode g #[] false)) 1)
    accept v token
  else
    let newCost := cost + Cost.skippedTree + token.total.bytes * Cost.skippedByte
      + token.total.rows * Cost.skippedLine
    if ← betterExists v false newCost then modifyStack (·.halt v)
    else skipToken v token

/-- Inserts the first token after which the state can reduce before `token`. The result says
whether one was found that leads on. -/
def insertMissing (v : Version) (token : Subtree) : Parse Bool := do
  let g ← grammar
  let state ← ask (·.state v)
  for symbol in [1:g.tokenCount] do
    let next := g.next state symbol
    if next != 0 && next != state && (g.actions next token.symbol).startsWithReduce then
      let w ← onStack (·.copy v)
      modifyStack (·.push w (some (.missingToken g symbol)) next)
      if ← reduceAll w token.symbol then return true
  return false

/-- Marks the start of an error in a reading and everything that it can be reduced to. -/
def handleError (v : Version) (token : Subtree) : Parse Unit := do
  let before ← ask (·.versionCount)
  let _ ← reduceAll v 0
  let count ← ask (·.versionCount)
  let mut inserted := false
  for i in [0:1 + (count - before)] do
    let w := if i = 0 then v else before + i - 1
    if !inserted then
      inserted ← insertMissing w token
    modifyStack (·.push w none 0)
  for _ in [before:count] do
    let s ← stack
    match s.merge? v before with
    | some s => setStack s
    | none => pure ()
  modifyStack (·.recordSummary v maxSummaryDepth)
  recover v token

/-! ## Following the readings -/

/-- Acts on a token until it is taken or proves to be of no use. -/
def act (v : Version) : Nat → Subtree → Parse Unit
  | 0, _ => pure ()
  | fuel + 1, token => do
    let g ← grammar
    let state ← ask (·.state v)
    let mut last : Option Version := none
    let mut done := false
    for a in (g.actions state token.symbol).actions do
      match a with
      | .shift next repetition =>
        if !repetition then
          shift v next token false
          done := true
          break
      | .shiftExtra =>
        shift v state token true
        done := true
        break
      | .reduce symbol count precedence production =>
        match ← reduce v symbol count precedence production with
        | some w => last := some w
        | none => pure ()
      | .accept =>
        accept v token
        done := true
        break
      | .recover =>
        recover v token
        done := true
        break
    if done then return
    match last with
    | some w =>
      modifyStack (·.renumber w v)
      act v fuel token
    | none =>
      if token.digest.keyword && token.symbol != g.wordToken
          && !(g.actions state g.wordToken).actions.isEmpty then
        act v fuel (token.asWord g)
      else if state = 0 then recover v token
      else modifyStack (·.pause v token)

/-- Takes a reading one token further. -/
def advance (v : Version) : Parse Unit := do
  act v (← turns) (← lookahead v)

/-- Advances a reading until it is ahead of the others. -/
def advanceAhead (v : Version) : Nat → Nat → Parse Nat
  | 0, last => return last
  | fuel + 1, last => do
    if ← ask (·.isActive v) then
      advance v
      let position := (← ask (·.position v)).bytes
      if position > last || (v > 0 && position == last) then return position
      advanceAhead v fuel last
    else return last

def advanceAll : Nat → Version → Nat → Parse Nat
  | 0, _, last => return last
  | fuel + 1, v, last => do
    if v < (← ask (·.versionCount)) then
      let last ← advanceAhead v (← turns) last
      advanceAll fuel (v + 1) last
    else return last

/-- Compares the reading `i` with those before it, from `j` on. The result is the number of the
reading to go on with. -/
def condenseAgainst (mine : Standing) : Nat → Version → Version → Parse Version
  | 0, i, _ => return i + 1
  | fuel + 1, i, j => do
    if j ≥ i then return i + 1
    let s ← stack
    match (← standing j).compare mine with
    | .takeLeft =>
      modifyStack (·.remove i)
      return i
    | .preferLeft | .none =>
      match s.merge? j i with
      | some s =>
        setStack s
        return i
      | none => condenseAgainst mine fuel i (j + 1)
    | .preferRight =>
      match s.merge? j i with
      | some s =>
        setStack s
        return i
      | none =>
        modifyStack (·.swap i j)
        condenseAgainst mine fuel i (j + 1)
    | .takeRight =>
      modifyStack (·.remove j)
      condenseAgainst mine fuel (i - 1) j

/-- Sorts the readings by promise and drops those that are clearly worse than another. The result is
the least cost of a reading that is not in an error. -/
def condenseLoop : Nat → Version → Option Nat → Parse (Option Nat)
  | 0, _, least => return least
  | fuel + 1, i, least => do
    let s ← stack
    if i ≥ s.versionCount then return least
    if s.isHalted i then
      modifyStack (·.remove i)
      condenseLoop fuel i least
    else
      let mine ← standing i
      let better : Bool := match least with
        | some c => mine.cost < c
        | none => true
      let least := if !mine.inError && better then some mine.cost else least
      let i ← condenseAgainst mine (i + 1) i 0
      condenseLoop fuel i least

/-- Resumes the best reading if it is paused, and drops the other paused ones. -/
def resumeLoop : Nat → Version → Nat → Bool → Option Nat → Parse (Option Nat)
  | 0, _, _, _, least => return least
  | fuel + 1, i, n, unpaused, least => do
    if i ≥ n then return least
    let s ← stack
    if !s.isPaused i then resumeLoop fuel (i + 1) n true least
    else if !unpaused && (← get).acceptCount < maxVersions then
      let least := s.cost i
      let token := (s.head i).pausedToken.getD default
      modifyStack (·.resume i)
      handleError i token
      resumeLoop fuel (i + 1) n true (some least)
    else
      modifyStack (·.remove i)
      resumeLoop fuel i (n - 1) unpaused least

/-- Cleans up after every reading has advanced. -/
def condense : Parse (Option Nat) := do
  let fuel ← turns
  let least ← condenseLoop fuel 0 none
  modifyStack fun s => { s with heads := s.heads.take maxVersions }
  resumeLoop fuel 0 (← ask (·.versionCount)) false least

/-- Parses until no reading is left, or a finished tree is better than all of them. -/
def loop : Nat → Nat → Parse Unit
  | 0, _ => pure ()
  | fuel + 1, last => do
    let last ← advanceAll (← turns) 0 last
    let count ← ask (·.versionCount)
    let least ← condense
    let finished := match (← get).finished, least with
      | some t, some c => decide (t.cost < c)
      | some _, none => true
      | none, _ => false
    if finished || count == 0 then pure () else loop fuel last

end Parse

/-- The tree of a text, hidden nodes included. There is none only if the parser ran out of turns. -/
def ParserSetup.parse (p : ParserSetup) (text : ByteArray) : Option Subtree :=
  let start : ParseState := ⟨.initial, none, none, 0⟩
  let run : Parse Unit := do Parse.loop (← Parse.turns) 0
  ((run.run ⟨p, text⟩).run start).2.finished

end SymbolIndex
