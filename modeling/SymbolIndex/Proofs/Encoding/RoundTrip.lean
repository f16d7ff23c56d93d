import SymbolIndex.Encoding.Config
import SymbolIndex.Proofs.Json.Reordering

/-!
# What was written is read back

Extractions, analyses, summaries and configurations are read back from the values they are written
as, in whatever order the entries of these come (`Encoding.reads_back`). Each entry of an object sets
a part of the record of its own; the entry of a symbol's parent is left out where there is none.
-/
namespace SymbolIndex

open Decoder Shape

theorem Position.reads (p : Position) : Reads ofJson p.toJson p := by
  have hline : Settles shape ("line", .natural p.line) fun q => (some p.line, q.2) :=
    settles_field (reads_natural "usize" p.line) rfl rfl rfl
  have hcolumn : Settles shape ("column", .natural p.column) fun q => (q.1, some p.column) :=
    settles_field (reads_natural "usize" p.column) rfl rfl rfl
  intro w hw
  have h :=
    reads_object (.cons hline (.cons hcolumn .nil)) (by simp) (none, none) w hw
  rw [ofJson, h]
  rfl

theorem Language.reads (l : Language) : Reads ofJson l.toJson l :=
  reads_choice (by cases l <;> rfl)

theorem SymbolKind.reads (k : SymbolKind) : Reads ofJson (.string k.text) k :=
  reads_choice (by cases k <;> rfl)

theorem AnalysisStatus.reads (s : AnalysisStatus) : Reads ofJson (.string s.name) s :=
  reads_choice (by cases s <;> rfl)

theorem Path.reads (p : Path) : Reads ofJson p.toJson p := by
  intro w hw
  have h := reads_string "path string" p.text w hw
  rw [ofJson, h]
  rfl

theorem Symbol.reads (s : Symbol) : Reads ofJson s.toJson s := by
  have hkind : Settles shape ("kind", .string s.kind.text) fun d => { d with kind := some s.kind } :=
    settles_field (SymbolKind.reads s.kind) rfl rfl rfl
  have hname : Settles shape ("name", .string s.name) fun d => { d with name := some s.name } :=
    settles_field (reads_string "a string" s.name) rfl rfl rfl
  have hstart : Settles shape ("start", s.start.toJson) fun d => { d with start := some s.start } :=
    settles_field (Position.reads s.start) rfl rfl rfl
  have hstop : Settles shape ("end", s.stop.toJson) fun d => { d with stop := some s.stop } :=
    settles_field (Position.reads s.stop) rfl rfl rfl
  obtain ⟨kind, name, start, stop, parent⟩ := s
  intro w hw
  cases parent with
  | none =>
    have hentries := List.Forall₂.cons hkind (.cons hname (.cons hstart (.cons hstop .nil)))
    have h := reads_object hentries (by simp) {} w hw
    rw [ofJson, h]
    rfl
  | some n =>
    have hparent : Settles shape ("parent", .natural n) fun d => { d with parent := some n } :=
      settles_field ((reads_natural "usize" n).optional fun h => by cases h) rfl rfl rfl
    have hentries := List.Forall₂.cons hkind (.cons hname (.cons hstart (.cons hstop (.cons hparent .nil))))
    have h := reads_object hentries (by simp) {} w hw
    rw [ofJson, h]
    rfl

theorem ParseError.reads (e : ParseError) : Reads ofJson e.toJson e := by
  have hstart : Settles shape ("start", e.start.toJson) fun d => { d with start := some e.start } :=
    settles_field (Position.reads e.start) rfl rfl rfl
  have hstop : Settles shape ("end", e.stop.toJson) fun d => { d with stop := some e.stop } :=
    settles_field (Position.reads e.stop) rfl rfl rfl
  have hmessage : Settles shape ("message", .string e.message) fun d =>
      { d with message := some e.message } :=
    settles_field (reads_string "a string" e.message) rfl rfl rfl
  intro w hw
  have h := reads_object (.cons hstart (.cons hstop (.cons hmessage .nil)))
    (by simp) {} w hw
  rw [ofJson, h]
  rfl

theorem Fingerprint.reads (f : Fingerprint) : Reads ofJson f.toJson f := by
  have hsize : Settles shape ("size", .natural f.size) fun p => (some f.size, p.2) :=
    settles_field (reads_natural "u64" f.size) rfl rfl rfl
  have hsha256 : Settles shape ("sha256", .string f.sha256) fun p => (p.1, some f.sha256) :=
    settles_field (reads_string "a string" f.sha256) rfl rfl rfl
  intro w hw
  have h :=
    reads_object (.cons hsize (.cons hsha256 .nil)) (by simp) (none, none) w hw
  rw [ofJson, h]
  rfl

theorem Extraction.reads (e : Extraction) : Reads ofJson e.toJson e := by
  have hlanguage : Settles shape ("language", e.language.toJson) fun d =>
      { d with language := some e.language } :=
    settles_field (Language.reads e.language) rfl rfl rfl
  have hsymbols : Settles shape ("symbols", .array (e.symbols.map Symbol.toJson))
      fun d => { d with symbols := some e.symbols } :=
    settles_field (reads_list Symbol.reads e.symbols) rfl rfl rfl
  have herrors : Settles shape ("errors", .array (e.errors.map ParseError.toJson))
      fun d => { d with errors := some e.errors } :=
    settles_field (reads_list ParseError.reads e.errors) rfl rfl rfl
  intro w hw
  have h := reads_object (.cons hlanguage (.cons hsymbols (.cons herrors .nil)))
    (by simp) {} w hw
  rw [ofJson, h]
  rfl

theorem Analysis.reads (a : Analysis) : Reads ofJson a.toJson a := by
  have hpath : Settles shape ("path", a.path.toJson) fun d => { d with path := some a.path } :=
    settles_field (Path.reads a.path) rfl rfl rfl
  have hlanguage : Settles shape ("language", a.language.toJson) fun d =>
      { d with language := some a.language } :=
    settles_field (Language.reads a.language) rfl rfl rfl
  have hstatus : Settles shape ("status", .string a.status.name) fun d =>
      { d with status := some a.status } :=
    settles_field (AnalysisStatus.reads a.status) rfl rfl rfl
  have hsymbols : Settles shape ("symbols", .array (a.symbols.map Symbol.toJson))
      fun d => { d with symbols := some a.symbols } :=
    settles_field (reads_list Symbol.reads a.symbols) rfl rfl rfl
  have herrors : Settles shape ("errors", .array (a.errors.map ParseError.toJson))
      fun d => { d with errors := some a.errors } :=
    settles_field (reads_list ParseError.reads a.errors) rfl rfl rfl
  have hfingerprint : Settles shape ("fingerprint", a.fingerprint.toJson)
      fun d => { d with fingerprint := some a.fingerprint } :=
    settles_field (Fingerprint.reads a.fingerprint) rfl rfl rfl
  intro w hw
  have h := reads_object
    (.cons hpath (.cons hlanguage (.cons hstatus (.cons hsymbols (.cons herrors (.cons hfingerprint .nil))))))
    (by simp) {} w hw
  rw [ofJson, h]
  rfl

theorem SymbolEntry.reads (s : SymbolEntry) : Reads ofJson s.toJson s := by
  have hname : Settles shape ("name", .string s.name) fun d => { d with name := some s.name } :=
    settles_field (reads_string "a string" s.name) rfl rfl rfl
  have hstart : Settles shape ("start", s.start.toJson) fun d => { d with start := some s.start } :=
    settles_field (Position.reads s.start) rfl rfl rfl
  have hstop : Settles shape ("end", s.stop.toJson) fun d => { d with stop := some s.stop } :=
    settles_field (Position.reads s.stop) rfl rfl rfl
  obtain ⟨name, start, stop, parent⟩ := s
  intro w hw
  cases parent with
  | none =>
    have h := reads_object (.cons hname (.cons hstart (.cons hstop .nil)))
      (by simp) {} w hw
    rw [ofJson, h]
    rfl
  | some parent =>
    have hparent : Settles shape ("parent", .string parent) fun d => { d with parent := some parent } :=
      settles_field ((reads_string "a string" parent).optional fun h => by cases h) rfl rfl rfl
    have h := reads_object (.cons hname (.cons hstart (.cons hstop (.cons hparent .nil))))
      (by simp) {} w hw
    rw [ofJson, h]
    rfl

theorem Summary.reads (s : Summary) : Reads ofJson s.toJson s := by
  have hpath : Settles shape ("path", s.path.toJson) fun d => { d with path := some s.path } :=
    settles_field (Path.reads s.path) rfl rfl rfl
  have hlanguage : Settles shape ("language", s.language.toJson) fun d =>
      { d with language := some s.language } :=
    settles_field (Language.reads s.language) rfl rfl rfl
  have hstatus : Settles shape ("status", .string s.status.name) fun d =>
      { d with status := some s.status } :=
    settles_field (AnalysisStatus.reads s.status) rfl rfl rfl
  have hdigest : Settles shape ("fingerprint", .string s.digest) fun d =>
      { d with digest := some s.digest } :=
    settles_field (reads_string "a string" s.digest) rfl rfl rfl
  have hfunctions : Settles shape ("functions", .array (s.functions.map SymbolEntry.toJson))
      fun d => { d with functions := some s.functions } :=
    settles_field (reads_list SymbolEntry.reads s.functions) rfl rfl rfl
  have hclasses : Settles shape ("classes", .array (s.classes.map SymbolEntry.toJson))
      fun d => { d with classes := some s.classes } :=
    settles_field (reads_list SymbolEntry.reads s.classes) rfl rfl rfl
  have himports : Settles shape ("imports", .array (s.imports.map SymbolEntry.toJson))
      fun d => { d with imports := some s.imports } :=
    settles_field (reads_list SymbolEntry.reads s.imports) rfl rfl rfl
  have herrors : Settles shape ("errors", .array (s.errors.map ParseError.toJson))
      fun d => { d with errors := some s.errors } :=
    settles_field (reads_list ParseError.reads s.errors) rfl rfl rfl
  intro w hw
  have h := reads_object (.cons hpath (.cons hlanguage (.cons hstatus (.cons hdigest (.cons hfunctions
    (.cons hclasses (.cons himports (.cons herrors .nil)))))))) (by simp) {} w hw
  rw [ofJson, h]
  rfl

theorem Config.reads (c : Config) : Reads ofJson c.toJson c := by
  have hroots : Settles shape ("watch_roots", .array (c.watchRoots.map Path.toJson))
      fun d => { d with watchRoots := c.watchRoots } :=
    settles_field (reads_list Path.reads c.watchRoots) rfl rfl rfl
  have hentries : Settles shape ("max_entries", .natural c.maxEntries) fun d =>
      { d with maxEntries := c.maxEntries } :=
    settles_field (reads_natural "usize" c.maxEntries) rfl rfl rfl
  have hbytes : Settles shape ("max_bytes", .natural c.maxBytes) fun d => { d with maxBytes := c.maxBytes } :=
    settles_field (reads_natural "usize" c.maxBytes) rfl rfl rfl
  have hsource : Settles shape ("max_source_bytes", .natural c.maxSourceBytes)
      fun d => { d with maxSourceBytes := c.maxSourceBytes } :=
    settles_field (reads_natural "u64" c.maxSourceBytes) rfl rfl rfl
  have htimeout : Settles shape ("read_timeout_ms", .natural c.readTimeoutMs)
      fun d => { d with readTimeoutMs := c.readTimeoutMs } :=
    settles_field (reads_natural "u64" c.readTimeoutMs) rfl rfl rfl
  have hdebounce : Settles shape ("debounce_ms", .natural c.debounceMs) fun d =>
      { d with debounceMs := c.debounceMs } :=
    settles_field (reads_natural "u64" c.debounceMs) rfl rfl rfl
  have hpoll : Settles shape ("notify_poll_interval_ms", .natural c.notifyPollIntervalMs)
      fun d => { d with notifyPollIntervalMs := c.notifyPollIntervalMs } :=
    settles_field (reads_natural "u64" c.notifyPollIntervalMs) rfl rfl rfl
  have heager : Settles shape ("eager_reindex", .bool c.eagerReindex) fun d =>
      { d with eagerReindex := c.eagerReindex } :=
    settles_field (reads_boolean c.eagerReindex) rfl rfl rfl
  exact reads_object (.cons hroots (.cons hentries (.cons hbytes (.cons hsource (.cons htimeout
    (.cons hdebounce (.cons hpoll (.cons heager .nil)))))))) (by simp) standard

/-- Extractions, analyses, summaries and configurations are read back from what they are written as. -/
theorem Encoding.reads_back :
    ReadsBack Extraction.ofJson Extraction.toJson ∧ ReadsBack Analysis.ofJson Analysis.toJson ∧
    ReadsBack Summary.ofJson Summary.toJson ∧ ReadsBack Config.ofJson Config.toJson :=
  ⟨.of_reads Extraction.reads, .of_reads Analysis.reads, .of_reads Summary.reads, .of_reads Config.reads⟩

end SymbolIndex
