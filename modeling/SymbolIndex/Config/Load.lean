import SymbolIndex.Config.Toml
import SymbolIndex.FileSystem.Basic
import SymbolIndex.Text.Utf8

/-!
# Configurations in files

A configuration file is a TOML text in UTF-8.
-/
namespace SymbolIndex

namespace Config

/-- Reads the configuration in a file. -/
def load (fs : FileSystem) (p : Path) : Except IndexError Config :=
  match fs.read p with
  | .content bytes =>
    match Utf8.firstInvalid? bytes with
    | none => ofToml (Utf8.decodeLossy bytes)
    | some _ => .error (.ofRead p .invalidUtf8)
  | .fault fault => .error (.ofRead p fault)
  | .stalled => .error (.readTimeout p standard.readTimeoutMs)

end Config
end SymbolIndex
