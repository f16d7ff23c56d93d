import SymbolIndex.Digest.Sha256
import SymbolIndex.Text.Basic

/-!
# Fingerprints

What a content is recognised by: its size and its digest.
-/
namespace SymbolIndex

structure Fingerprint where
  size : Nat
  sha256 : String
  deriving DecidableEq, Repr, Inhabited

namespace Fingerprint

def ofBytes (content : ByteArray) : Fingerprint := ⟨content.size, Sha256.hex content⟩

/-- The first bytes of the digest, or all of it if it is shorter or would be cut within a character. -/
def short (f : Fingerprint) : String := (Text.slice? f.sha256 0 12).getD f.sha256

def text (f : Fingerprint) : String := s!"{f.size}:{f.short}"

end Fingerprint
end SymbolIndex
