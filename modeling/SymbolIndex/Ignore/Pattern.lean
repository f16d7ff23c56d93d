/-!
# Patterns over bytes

Regular sets of byte sequences. What remains to be matched after a byte is again a pattern, the
derivative, so a sequence is in the set if the derivative by all its bytes admits the empty sequence.
-/
namespace SymbolIndex

/-- A regular set of byte sequences. -/
inductive Pattern
  | never
  | nothing
  /-- One byte in some ranges, or in none of them. -/
  | byte (ranges : List (UInt8 × UInt8)) (negated : Bool)
  | seq (p q : Pattern)
  | either (p q : Pattern)
  | many (p : Pattern)
  deriving DecidableEq, Repr, Inhabited

namespace Pattern

/-- The byte of a character. -/
def one (b : UInt8) : Pattern := byte [(b, b)] false

def anyByte : Pattern := byte [] true

def slash : Pattern := one 47

def notSlash : Pattern := byte [(47, 47)] true

/-- Whether the empty sequence is in the set. -/
def nullable : Pattern → Bool
  | never => false
  | nothing => true
  | byte _ _ => false
  | seq p q => p.nullable && q.nullable
  | either p q => p.nullable || q.nullable
  | many _ => true

/-- One after the other, without parts that do nothing. -/
def andThen (p q : Pattern) : Pattern :=
  match p, q with
  | never, _ => never
  | nothing, q => q
  | _, never => never
  | p, nothing => p
  | p, q => seq p q

/-- One or the other, without parts that do nothing. -/
def orElse (p q : Pattern) : Pattern :=
  match p, q with
  | never, q => q
  | p, never => p
  | p, q => if p = q then p else either p q

def ofList (ps : List Pattern) : Pattern := ps.foldr andThen nothing

def optional (p : Pattern) : Pattern := orElse p nothing

def inRanges (ranges : List (UInt8 × UInt8)) (b : UInt8) : Bool :=
  ranges.any fun r => r.1 ≤ b && b ≤ r.2

/-- What remains to be matched after a byte. -/
def deriv (b : UInt8) : Pattern → Pattern
  | never => never
  | nothing => never
  | byte ranges negated => if inRanges ranges b != negated then nothing else never
  | seq p q =>
    let first := andThen (p.deriv b) q
    if p.nullable then orElse first (q.deriv b) else first
  | either p q => orElse (p.deriv b) (q.deriv b)
  | many p => andThen (p.deriv b) (many p)

/-- Whether a sequence is in the set. -/
def contains (p : Pattern) (bytes : List UInt8) : Bool :=
  (bytes.foldl (fun p b => p.deriv b) p).nullable

end Pattern
end SymbolIndex
