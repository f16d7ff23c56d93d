import SymbolIndex.Encoding.Config
import SymbolIndex.Toml.Complaint

/-!
# Configurations in TOML

A configuration is the record of the entries of a TOML document. What does not fit is shown in the text:
an unknown field by its key, and a value that will not do by itself, or by its key if it is a table
that is only implied.
-/
namespace SymbolIndex

namespace Toml

/-- Floats in messages are written without an exponent. -/
def floatText (bits : UInt64) : String :=
  Decimal.render "NaN" "inf" "0.0" (·.positional true) bits

/-- The stretch of a document that a mismatch is about. -/
def spanOf (root : Item) (e : DecodeError) : Span :=
  match e.way with
  | .entry name :: more =>
    match root.entries.find? (·.1.name = name) with
    | some (key, item) =>
      match e.mismatch, more with
      | .unknownField _ _, [] => key.span
      | _, .item index :: _ => (item.itemSpan? index).getD key.span
      | _, _ => item.span?.getD key.span
    | none => ⟨0, 0⟩
  | _ => ⟨0, 0⟩

end Toml

namespace Config

/-- The configuration of a TOML text, which may have settings of zero. -/
def ofToml? (source : String) : Except Toml.Complaint Config := do
  let root ← Toml.parse source
  match ofJson root.toJson with
  | .ok c => return c
  | .error e => .error ⟨Toml.spanOf root e, e.mismatch.message Toml.floatText⟩

/-- The configuration of a TOML text. -/
def ofToml (source : String) : Except IndexError Config :=
  match ofToml? source with
  | .ok c => do
    c.validate
    return c
  | .error e => .error (.invalidConfig s!"TOML parse error: {e.text source}")

end Config
end SymbolIndex
