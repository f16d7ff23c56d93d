import SymbolIndex.FileSystem.Change
import SymbolIndex.Main
import SymbolIndex.Proofs.Path.Same
import SymbolIndex.Proofs.Store.Entries
import SymbolIndex.Proofs.Store.Operation
import SymbolIndex.Proofs.Store.Invariant
import SymbolIndex.Proofs.Index.Advance
import SymbolIndex.Proofs.Index.World
import SymbolIndex.Proofs.Index.Exclusion
import SymbolIndex.Proofs.Index.Transparency
import SymbolIndex.Proofs.Index.Alone
import SymbolIndex.Proofs.Index.SingleAnalysis
import SymbolIndex.Proofs.Store.History
import SymbolIndex.Proofs.Store.Recency
import SymbolIndex.Proofs.Symbols.Reading
import SymbolIndex.Proofs.Syntax.Nesting
import SymbolIndex.Proofs.Symbols.Structure
import SymbolIndex.Proofs.FileSystem.Lookup
import SymbolIndex.Proofs.FileSystem.Key
import SymbolIndex.Proofs.Index.Progress
import SymbolIndex.Proofs.Index.Batch
import SymbolIndex.Proofs.Command.Analyze
import SymbolIndex.Proofs.FileSystem.Place
import SymbolIndex.Proofs.FileSystem.Change
import SymbolIndex.Proofs.FileSystem.Canonical
import SymbolIndex.Proofs.Ignore.Level
import SymbolIndex.Proofs.Ignore.Walk
import SymbolIndex.Proofs.Watch.Coverage
import SymbolIndex.Proofs.Watch.Growth
import SymbolIndex.Proofs.Index.Sequence
import SymbolIndex.Proofs.Index.Spelling
import SymbolIndex.Proofs.Store.Balance
import SymbolIndex.Proofs.Index.Announcement
import SymbolIndex.Proofs.Index.Accounting
import SymbolIndex.Proofs.Store.Looking
import SymbolIndex.Proofs.Store.Subtree
import SymbolIndex.Proofs.Index.Failure
import SymbolIndex.Proofs.Watch.Settling
import SymbolIndex.Proofs.Path.Order
import SymbolIndex.Proofs.Path.Parent
import SymbolIndex.Proofs.Path.Descent
import SymbolIndex.Proofs.Path.Literal
import SymbolIndex.Proofs.Watch.Debouncing
import SymbolIndex.Proofs.Watch.Vanishing
import SymbolIndex.Proofs.Watch.Relevance
import SymbolIndex.Proofs.Ignore.Leading
import SymbolIndex.Proofs.Watch.Agreement
import SymbolIndex.Proofs.Index.Absorption
import SymbolIndex.Proofs.Watch.Pruning
import SymbolIndex.Proofs.Analyzer.Failure
import SymbolIndex.Proofs.Index.Scanned
import SymbolIndex.Proofs.Index.Warming
import SymbolIndex.Proofs.Watch.Conditions
import SymbolIndex.Proofs.Watch.Health
import SymbolIndex.Proofs.Symbols.Exactness
import SymbolIndex.Proofs.Symbols.Python
import SymbolIndex.Proofs.Symbols.EcmaScript
import SymbolIndex.Proofs.Syntax.Sorting
import SymbolIndex.Proofs.Syntax.Faults
import SymbolIndex.Proofs.Analyzer.Dialect
import SymbolIndex.Proofs.Symbols.Naming
import SymbolIndex.Proofs.Text.Utf8
import SymbolIndex.Proofs.Analyzer.Content
import SymbolIndex.Proofs.Analyzer.Location
import SymbolIndex.Proofs.Json.Reordering
import SymbolIndex.Proofs.Encoding.RoundTrip
import SymbolIndex.Proofs.Text.Word
import SymbolIndex.Proofs.Language.Places
import SymbolIndex.Proofs.Language.Interpreter
import SymbolIndex.Proofs.Analyzer.CharacterColumn
import SymbolIndex.Proofs.Symbols.Recursion
import SymbolIndex.Proofs.Symbols.Alike
import SymbolIndex.Proofs.Symbols.Locality
