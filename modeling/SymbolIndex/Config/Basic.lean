import SymbolIndex.IndexError

/-!
# Configurations

The settings of an index. A size or a time of zero is refused.
-/
namespace SymbolIndex

structure Config where
  /-- The directories to watch when none are named. -/
  watchRoots : List Path
  /-- How many analyses are kept. -/
  maxEntries : Nat
  /-- How many bytes the kept analyses may take together. -/
  maxBytes : Nat
  /-- Files with more bytes are not read. -/
  maxSourceBytes : Nat
  readTimeoutMs : Nat
  /-- How long a path must be quiet until its change counts. -/
  debounceMs : Nat
  notifyPollIntervalMs : Nat
  /-- Whether a changed file is analysed at once. -/
  eagerReindex : Bool
  deriving DecidableEq, Repr, Inhabited

namespace Config

/-- The bytes of a binary megabyte. -/
def mebibyte : Nat := 1024 * 1024

def standard : Config where
  watchRoots := []
  maxEntries := 4096
  maxBytes := 64 * mebibyte
  maxSourceBytes := 8 * mebibyte
  readTimeoutMs := 5000
  debounceMs := 200
  notifyPollIntervalMs := 2000
  eagerReindex := false

/-- The settings that must not be zero. -/
def amounts (c : Config) : List (String × Nat) :=
  [("max_entries", c.maxEntries), ("max_bytes", c.maxBytes),
    ("max_source_bytes", c.maxSourceBytes), ("read_timeout_ms", c.readTimeoutMs),
    ("debounce_ms", c.debounceMs), ("notify_poll_interval_ms", c.notifyPollIntervalMs)]

/-- The names of the settings that are zero and must not be. -/
def zeros (c : Config) : List String := (c.amounts.filter (·.2 = 0)).map (·.1)

/-- Refuses a configuration with a setting that must not be zero. -/
def validate (c : Config) : Except IndexError Unit :=
  if c.zeros.isEmpty then .ok ()
  else .error (.invalidConfig ("must be greater than zero: " ++ ", ".intercalate c.zeros))

end Config
end SymbolIndex
