import SymbolIndex.Parsing.Subtree

/-!
# Parse stacks

Competing readings of a text share one graph of stack nodes. A `Head` is the top of one reading;
readings that reach the same state at the same place are merged, so a node can have several links
down. Nodes live in one growing array and are named by their index.
-/
namespace SymbolIndex

/-- A step down the stack. The link of a discontinuity carries no subtree. -/
structure StackLink where
  node : Nat
  subtree : Option Subtree
  deriving Inhabited

structure StackNode where
  state : StateId
  position : Extent
  links : Array StackLink
  cost : Nat
  nodeCount : Nat
  precedence : Int
  deriving Inhabited

/-- A state below an error, with the number of pieces above it. -/
structure SummaryEntry where
  position : Extent
  depth : Nat
  state : StateId
  deriving Inhabited

inductive HeadStatus
  | active
  | paused
  | halted
  deriving DecidableEq, Inhabited

/-- The top of one reading. -/
structure Head where
  node : Nat
  summary : Option (Array SummaryEntry)
  /-- The progress made when the last error was met. -/
  nodesAtError : Nat
  /-- What the scanner remembers at this point. -/
  scannerState : ScannerState
  /-- The token that could not be used when the reading was paused. -/
  pausedToken : Option Subtree
  status : HeadStatus
  deriving Inhabited

/-- A reading by its place among the heads. -/
abbrev Version := Nat

structure Stack where
  nodes : Array StackNode
  heads : Array Head
  deriving Inhabited

/-- A way down the stack: the subtrees passed, and the reading that was opened at its end. -/
structure Slice where
  subtrees : Array Subtree
  version : Version
  deriving Inhabited

namespace Stack

/-- At most this many links lead down from a node. -/
def maxLinks : Nat := 8

/-- At most this many ways down are followed at once. -/
def maxWalkers : Nat := 64

/-- One reading, in the start state at the start of the text. -/
def initial : Stack where
  nodes := #[⟨1, .zero, #[], 0, 0, 0⟩]
  heads := #[⟨0, none, 0, none, none, .active⟩]

variable (s : Stack)

def versionCount : Nat := s.heads.size
def head (v : Version) : Head := s.heads.getD v default
def node (n : Nat) : StackNode := s.nodes.getD n default
def top (v : Version) : StackNode := s.node (s.head v).node
def state (v : Version) : StateId := (s.top v).state
def position (v : Version) : Extent := (s.top v).position
def isActive (v : Version) : Bool := (s.head v).status == .active
def isPaused (v : Version) : Bool := (s.head v).status == .paused
def isHalted (v : Version) : Bool := (s.head v).status == .halted

def modifyHead (v : Version) (f : Head → Head) : Stack :=
  { s with heads := s.heads.modify v f }

/-- The cost of a reading; one that has just met an error pays for recovering from it. -/
def cost (v : Version) : Nat :=
  let n := s.top v
  let discontinued := match n.links[0]? with
    | some link => link.subtree.isNone
    | none => true
  n.cost + (if s.isPaused v || (n.state == 0 && discontinued) then Cost.recovery else 0)

/-- The progress of a reading since its last error. -/
def progress (v : Version) : Nat :=
  (s.top v).nodeCount - (s.head v).nodesAtError

/-- Lowers the mark of the last error to the progress that is left, as undone steps require. -/
def settle (v : Version) : Stack :=
  let count := (s.top v).nodeCount
  if count < (s.head v).nodesAtError then
    s.modifyHead v fun h => { h with nodesAtError := count }
  else s

def pushNode (below : Nat) (subtree : Option Subtree) (state : StateId) : Stack × Nat :=
  let b := s.node below
  let n : StackNode := match subtree with
    | some t =>
      { state, position := b.position ++ t.total, links := #[⟨below, some t⟩], cost := b.cost + t.cost,
        nodeCount := b.nodeCount + t.nodeCount, precedence := b.precedence + t.precedence }
    | none => { b with state, links := #[⟨below, none⟩] }
  let index := s.nodes.size
  ({ s with nodes := s.nodes.push n }, index)

/-- Pushes a subtree; without one, a discontinuity that marks the start of an error. -/
def push (v : Version) (subtree : Option Subtree) (state : StateId) : Stack :=
  let (s, n) := s.pushNode (s.head v).node subtree state
  let count := (s.node n).nodeCount
  s.modifyHead v fun h =>
    { h with node := n, nodesAtError := if subtree.isNone then count else h.nodesAtError }

def setScannerState (v : Version) (state : ScannerState) : Stack :=
  s.modifyHead v fun h => { h with scannerState := state }

def halt (v : Version) : Stack := s.modifyHead v fun h => { h with status := .halted }

/-- Suspends a reading at a token that it cannot use. -/
def pause (v : Version) (token : Subtree) : Stack :=
  let count := (s.top v).nodeCount
  s.modifyHead v fun h => { h with status := .paused, pausedToken := some token, nodesAtError := count }

def resume (v : Version) : Stack :=
  s.modifyHead v fun h => { h with status := .active, pausedToken := none }

def remove (v : Version) : Stack := { s with heads := s.heads.eraseIdxIfInBounds v }

/-- Moves the reading `source` to the place of `target`, which it replaces. -/
def renumber (source target : Version) : Stack :=
  if source = target then s else
    let h := s.head source
    let h := { h with summary := h.summary <|> (s.head target).summary }
    ({ s with heads := s.heads.setIfInBounds target h }).remove source

def swap (v w : Version) : Stack := { s with heads := s.heads.swapIfInBounds v w }

/-- Opens a copy of a reading. -/
def copy (v : Version) : Stack × Version :=
  ({ s with heads := s.heads.push { s.head v with summary := none } }, s.heads.size)

def sameSubtree : Option Subtree → Option Subtree → Bool
  | some a, some b => a.equivalent b
  | none, none => true
  | _, _ => false

/-- What becomes of a new link of a node that has others. -/
inductive LinkPlan
  /-- It leads where an old link of the same text leads; the old one may take its subtree over. -/
  | replace (link : Nat) (better : Bool)
  /-- It leads to a node that can be merged into the one below an old link of the same text. -/
  | mergeBelow (node : Nat)
  | add

def linkPlan (n : StackNode) (link : StackLink) : LinkPlan :=
  let precedence (l : StackLink) : Int := (l.subtree.map (·.precedence)).getD 0
  let below := s.node link.node
  let plan (old : StackLink × Nat) : Option LinkPlan :=
    if !sameSubtree old.1.subtree link.subtree then none
    else if old.1.node = link.node then
      some (.replace old.2 (precedence link > precedence old.1))
    else
      let oldBelow := s.node old.1.node
      if oldBelow.state = below.state ∧ oldBelow.position.bytes = below.position.bytes
          ∧ oldBelow.cost = below.cost then some (.mergeBelow old.1.node)
      else none
  (n.links.toList.zipIdx.findSome? plan).getD .add

/-- Adds a link to a node, merging it with what is there. -/
def addLink : Nat → Stack → Nat → StackLink → Stack
  | 0, s, _, _ => s
  | fuel + 1, s, n, link =>
    if link.node = n then s else
    let precedence := (s.node link.node).precedence + (link.subtree.map (·.precedence)).getD 0
    let set (s : Stack) (f : StackNode → StackNode) : Stack := { s with nodes := s.nodes.modify n f }
    match s.linkPlan (s.node n) link with
    | .replace i better =>
      if better then
        set s fun self =>
          { self with
            links := self.links.modify i fun l => { l with subtree := link.subtree }
            precedence }
      else s
    | .mergeBelow old =>
      let s := (s.node link.node).links.foldl (fun s l => addLink fuel s old l) s
      set s fun self => { self with precedence := max precedence self.precedence }
    | .add =>
      let count := (s.node link.node).nodeCount + (link.subtree.map (·.nodeCount)).getD 0
      set s fun self =>
        if self.links.size ≥ maxLinks then self
        else
          { self with
            links := self.links.push link
            nodeCount := max count self.nodeCount
            precedence := max precedence self.precedence }

def canMerge (v w : Version) : Bool :=
  let a := s.head v
  let b := s.head w
  let n := s.node a.node
  let m := s.node b.node
  a.status == .active && b.status == .active && n.state == m.state
    && n.position.bytes == m.position.bytes && n.cost == m.cost && a.scannerState == b.scannerState

/-- Joins the reading `w` to `v`, if both stand in the same state at the same place. -/
def merge? (v w : Version) : Option Stack :=
  if s.canMerge v w then
    let n := (s.head v).node
    let s' := (s.top w).links.foldl (fun t l => addLink (t.nodes.size + 1) t n l) s
    let s' :=
      if (s'.node n).state = 0 then
        s'.modifyHead v fun h => { h with nodesAtError := (s'.node n).nodeCount }
      else s'
    some (s'.remove w)
  else none

/-! ## Walking down -/

/-- A walk down the stack: where it stands, the subtrees passed, last one first, and their number
without extras. -/
structure Walker where
  node : Nat
  subtrees : List Subtree
  count : Nat

/-- What to do where a walker stands. -/
structure WalkStep where
  pop : Bool
  stop : Bool

/-- Records the end of a walk, opening a reading there unless an earlier walk of the same round ended
at the same node. -/
def addSlice (s : Stack) (v : Version) (slices : Array Slice) (w : Walker) : Stack × Array Slice :=
  let subtrees := w.subtrees.toArray
  let ends := slices.map fun x => (s.head x.version).node
  match ends.toList.reverse.findIdx? (· == w.node) with
  | some i =>
    let at' := slices.size - 1 - i
    let version := (slices.getD at' default).version
    (s, slices.insertIdxIfInBounds (at' + 1) ⟨subtrees, version⟩)
  | none =>
    let h := s.head v
    let h' : Head := ⟨w.node, none, h.nodesAtError, h.scannerState, none, .active⟩
    ({ s with heads := s.heads.push h' }, slices.push ⟨subtrees, s.heads.size⟩)

/-- The walker after following a link. -/
def Walker.follow (w : Walker) (l : StackLink) : Walker :=
  match l.subtree with
  | some t => ⟨l.node, t :: w.subtrees, if t.extra then w.count else w.count + 1⟩
  | none => ⟨l.node, w.subtrees, w.count + 1⟩

/-- The state of a walk down: the stack, the slices found, and what the caller collects. -/
structure Walk (σ : Type) where
  stack : Stack
  slices : Array Slice
  user : σ

/-- One round: every walker takes a step, the first link first for the walker itself, the others for
new walkers, which wait for the next round. -/
def walkRound {σ : Type} (v : Version) (decide : σ → StackNode → Walker → WalkStep × σ) :
    List Walker → Walk σ → List Walker → List Walker → Walk σ × List Walker
  | [], acc, kept, opened => (acc, kept.reverse ++ opened)
  | w :: rest, acc, kept, opened =>
    let n := acc.stack.node w.node
    let (step, user) := decide acc.user n w
    let acc := { acc with user }
    let stop := step.stop || n.links.isEmpty
    let acc :=
      if step.pop then
        let (stack, slices) := addSlice acc.stack v acc.slices w
        { acc with stack, slices }
      else acc
    if stop then walkRound v decide rest acc kept opened
    else
      let room := maxWalkers - (kept.length + 1 + rest.length + opened.length)
      let others := (n.links.toList.drop 1).take room
      let kept := match n.links[0]? with
        | some l => w.follow l :: kept
        | none => kept
      walkRound v decide rest acc kept (opened ++ others.map w.follow)

def walkRounds {σ : Type} (v : Version) (decide : σ → StackNode → Walker → WalkStep × σ) :
    Nat → List Walker → Walk σ → Walk σ
  | 0, _, acc => acc
  | _, [], acc => acc
  | fuel + 1, ws, acc =>
    let (acc, ws) := walkRound v decide ws acc [] []
    walkRounds v decide fuel ws acc

def walk {σ : Type} (v : Version) (user : σ) (decide : σ → StackNode → Walker → WalkStep × σ) :
    Walk σ :=
  walkRounds v decide (s.nodes.size + 1) [⟨(s.head v).node, [], 0⟩] ⟨s, #[], user⟩

/-- The ways down past `count` subtrees. -/
def popCount (v : Version) (count : Nat) : Stack × Array Slice :=
  let w := s.walk v () fun _ _ w =>
    let here := w.count == count
    (⟨here, here⟩, ())
  (w.stack, w.slices)

/-- The ways down to the bottom. -/
def popAll (v : Version) : Stack × Array Slice :=
  let w := s.walk v () fun _ n _ => (⟨n.links.isEmpty, false⟩, ())
  (w.stack, w.slices)

/-- Takes an error off the top of a reading, if there is one. -/
def popError (v : Version) : Stack × Array Subtree :=
  let onTop := (s.top v).links.any fun l => (l.subtree.map (·.isError)).getD false
  if !onTop then (s, #[]) else
    let w := s.walk v false fun found _ w =>
      match w.subtrees.getLast? with
      | none => (⟨false, false⟩, found)
      | some t => if !found && t.isError then (⟨true, true⟩, true) else (⟨false, true⟩, found)
    match w.slices[0]? with
    | some slice => (w.stack.renumber slice.version v, slice.subtrees)
    | none => (w.stack, #[])

/-- Notes the states down to a depth, so that recovery can return to one of them. -/
def recordSummary (v : Version) (maxDepth : Nat) : Stack :=
  let known (entries : Array SummaryEntry) (depth : Nat) (state : StateId) : Bool :=
    (entries.toList.reverse.takeWhile (fun e => !(e.depth < depth))).any
      fun e => e.depth == depth && e.state == state
  let w := s.walk v (#[] : Array SummaryEntry) fun entries n w =>
    if w.count > maxDepth then (⟨false, true⟩, entries)
    else if known entries w.count n.state then (⟨false, false⟩, entries)
    else (⟨false, false⟩, entries.push ⟨n.position, w.count, n.state⟩)
  s.modifyHead v fun h => { h with summary := some w.user }

/-- Whether a reading has taken in any text since its last error. -/
def hasAdvanced (v : Version) : Bool :=
  let h := s.head v
  (s.top v).cost == 0 || go h (s.nodes.size + 1) h.node
where
  go (h : Head) : Nat → Nat → Bool
    | 0, _ => false
    | fuel + 1, n =>
      let node : StackNode := s.node n
      match node.links.toList.head? with
      | some (.mk below (some t)) =>
        if t.total.bytes > 0 then true
        else if node.nodeCount > h.nodesAtError && t.cost == 0 then go h fuel below
        else false
      | _ => false

end Stack
end SymbolIndex
