import SymbolIndex.Config.Basic
import SymbolIndex.Encoding.Analysis

/-!
# Configurations as values

A configuration is a record in which every field may be missing, and no others are allowed.
-/
namespace SymbolIndex

open Decoder

namespace Config

def toJson (c : Config) : Json :=
  .object [("watch_roots", .array (c.watchRoots.map Path.toJson)), ("max_entries", c.maxEntries),
    ("max_bytes", c.maxBytes), ("max_source_bytes", c.maxSourceBytes),
    ("read_timeout_ms", c.readTimeoutMs), ("debounce_ms", c.debounceMs),
    ("notify_poll_interval_ms", c.notifyPollIntervalMs), ("eager_reindex", c.eagerReindex)]

/-- A field that may be missing. -/
def setting {α : Type} (name : String) (d : Decoder α) (set : α → Config → Config) :
    Decoder.Field Config := { field name d set with optional := true }

/-- The fields of a configuration. -/
def shape : Shape Config where
  title := "IndexerConfig"
  fields := [setting "watch_roots" (list Path.ofJson) fun x c => { c with watchRoots := x },
    setting "max_entries" (natural "usize") fun x c => { c with maxEntries := x },
    setting "max_bytes" (natural "usize") fun x c => { c with maxBytes := x },
    setting "max_source_bytes" (natural "u64") fun x c => { c with maxSourceBytes := x },
    setting "read_timeout_ms" (natural "u64") fun x c => { c with readTimeoutMs := x },
    setting "debounce_ms" (natural "u64") fun x c => { c with debounceMs := x },
    setting "notify_poll_interval_ms" (natural "u64") fun x c =>
      { c with notifyPollIntervalMs := x },
    setting "eager_reindex" boolean fun x c => { c with eagerReindex := x }]
  closed := true

def ofJson : Decoder Config := shape.read standard

end Config
end SymbolIndex
