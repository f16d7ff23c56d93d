import SymbolIndex.Proofs.Analyzer.Failure
import SymbolIndex.Proofs.Syntax.Sorting
import SymbolIndex.Proofs.Text.Utf8

/-!
# Where the error of invalid bytes goes

The error of bytes that are no text is put among the errors of the text that they are leniently read
as. Its place can be found by halving only if these come in order; all analyzers of the known
languages see to that (`Analyzer.builtin_ordered`), so the errors of an analysis are in order, too,
and none is missing (`Registry.analyze_merged`).
-/
namespace SymbolIndex

/-! ## Halving -/

/-- Looks among the `size` places from `base` on for the first at which `p` does not hold, and takes
the place after them if there is none. -/
def bisect (p : Nat → Bool) (base size : Nat) : Nat :=
  if size ≤ 1 then if p base then base + 1 else base
  else bisect p (if p (base + size / 2) then base + size / 2 else base) (size - size / 2)
  termination_by size

/-- How many elements come before the first that does not satisfy `p`, if none that does comes after it. -/
def partitionPoint {α : Type} (p : α → Bool) (xs : List α) : Nat := bisect (fun i => xs[i]?.any p) 0 xs.length

/-- The place that is looked for always stays among those that are left. -/
theorem bisect_eq {p : Nat → Bool} {base size k : Nat} (h : ∀ i, p i = true ↔ i < k) (hbase : base ≤ k)
    (hsize : k ≤ base + size) : bisect p base size = k := by
  induction base, size using bisect.induct p with
  | case1 base size hle hp =>
    have := (h base).1 hp
    rw [bisect, if_pos hle, if_pos hp]
    omega
  | case2 base size hle hp =>
    have : ¬ base < k := fun hlt => hp ((h base).2 hlt)
    rw [bisect, if_pos hle, if_neg hp]
    omega
  | case3 base size hle ih =>
    rw [bisect, if_neg hle]
    refine ih ?_ ?_
    · split
      · exact Nat.le_of_lt ((h _).1 ‹_›)
      · exact hbase
    · split
      · omega
      · have : ¬ base + size / 2 < k := fun hlt => ‹¬ _› ((h _).2 hlt)
        omega

theorem partitionPoint_append {α : Type} {p : α → Bool} {before after : List α}
    (hb : ∀ x ∈ before, p x = true)
    (ha : ∀ x ∈ after, p x = false) : partitionPoint p (before ++ after) = before.length := by
  refine bisect_eq (fun i => ?_) (Nat.zero_le _) (by simp)
  rcases Nat.lt_or_ge i before.length with hi | hi
  · rw [List.getElem?_append_left hi, List.getElem?_eq_getElem hi]
    exact iff_of_true (hb _ (List.getElem_mem hi)) hi
  · rw [List.getElem?_append_right hi]
    refine iff_of_false ?_ (Nat.not_lt.2 hi)
    cases hx : after[i - before.length]? with
    | none => exact Bool.false_ne_true
    | some x => simp [ha x (List.mem_of_getElem? hx)]

theorem insertIdx_append {α : Type} (before after : List α) (x : α) :
    (before ++ after).insertIdx before.length x = before ++ x :: after := by
  induction before with
  | nil => simp
  | cons b before ih => simp [ih]

namespace ParseError
variable {e : ParseError} {errors : List ParseError}

/-- An error was put after all that start no later, and before all others, which keep their order. -/
structure Inserted (e : ParseError) (errors result before after : List ParseError) : Prop where
  all : errors = before ++ after
  result : result = before ++ e :: after
  before : ∀ d ∈ before, d.start ≤ e.start
  after : ∀ d ∈ after, ¬ d.start ≤ e.start

theorem exists_inserted (h : Ordered errors) :
    ∃ before after, Inserted e errors (e.insert errors) before after := by
  refine ⟨_, _, (List.takeWhile_append_dropWhile).symm, rfl, fun d hd => ?_, fun d hd hle => ?_⟩
  · simpa using List.all_eq_true.1 List.all_takeWhile d hd
  · -- The first error that is left starts later, and `d` does not start before it.
    cases hrest : errors.dropWhile (·.start ≤ e.start) with
    | nil => simp [hrest] at hd
    | cons first rest =>
      have hfirst : ¬ first.start ≤ e.start := by
        have := List.head?_dropWhile_not (·.start ≤ e.start) errors
        simpa [hrest] using this
      have hordered : (first :: rest).Pairwise fun d e => d.start ≤ e.start :=
        hrest ▸ h.sublist (List.dropWhile_sublist _)
      rw [hrest] at hd
      rcases List.mem_cons.1 hd with rfl | hd
      · exact hfirst hle
      · exact hfirst (Position.le_trans (List.rel_of_pairwise_cons hordered hd) hle)

variable {result before after : List ParseError}

theorem Inserted.ordered (h : Inserted e errors result before after) (hordered : Ordered errors) :
    Ordered result := by
  obtain ⟨rfl, rfl, hbefore, hafter⟩ := h
  obtain ⟨hb, ha, hba⟩ := List.pairwise_append.1 hordered
  have hlater : ∀ d ∈ after, e.start ≤ d.start := fun d hd =>
    (Position.le_total e.start d.start).resolve_right (hafter d hd)
  refine List.pairwise_append.2 ⟨hb, List.pairwise_cons.2 ⟨hlater, ha⟩, fun d hd d' hd' => ?_⟩
  rcases List.mem_cons.1 hd' with rfl | hd'
  · exact hbefore d hd
  · exact hba d hd d' hd'

/-- The place is the one that is found by halving. -/
theorem Inserted.eq_insertIdx (h : Inserted e errors result before after) :
    result = errors.insertIdx (partitionPoint (·.start ≤ e.start) errors) e := by
  obtain ⟨rfl, rfl, hbefore, hafter⟩ := h
  rw [partitionPoint_append (by simpa using hbefore) (by simpa using hafter)]
  exact (insertIdx_append before after e).symm

/-- The errors of a content, given those of the text that it is leniently read as. -/
structure Merged (content : ByteArray) (errors result : List ParseError) : Prop where
  ordered : Ordered result
  /-- A text is read as it is, and there is no other error. -/
  text : content.IsValidUTF8 → (Utf8.decodeLossy content).toUTF8 = content ∧ result = errors
  /-- There is one error more where the content is no text. -/
  invalid : ¬ content.IsValidUTF8 → ∃ e, ofInvalidUtf8? content.toList = some e ∧
    (∃ before after, Inserted e errors result before after) ∧
    result = errors.insertIdx (partitionPoint (·.start ≤ e.start) errors) e

theorem ofInvalidUtf8?_eq_none_iff {content : ByteArray} :
    ofInvalidUtf8? content.toList = none ↔ content.IsValidUTF8 := by
  rw [ofInvalidUtf8?, Option.map_eq_none_iff, Utf8.isValidUTF8_iff]

end ParseError

namespace Analyzer
open ParseError
variable {l : Language} {a : Analyzer} {source : String} {e : Extraction} {content : ByteArray}

theorem exists_parse (h : a.analyze source = .ok e) : ∃ p, a.parse source = .ok p ∧ e.errors = p.errors := by
  obtain ⟨p, hp, h⟩ := Except.bind_eq_ok h
  obtain ⟨symbols, -, h⟩ := Except.bind_eq_ok h
  cases h
  exact ⟨p, hp, rfl⟩

theorem ordered_ofErrors (source : String) (l : Language) (body : ParsedBody) (errors : List ParseError) :
    Ordered (ParsedText.ofErrors source l body errors).errors := (stablySorted errors).ordered

theorem choose_ordered {first second : Except AnalyzerError SyntaxTree} {p : ParsedText}
    (h : choose source first second = .ok p) : Ordered p.errors := by
  obtain ⟨plain, -, h⟩ := Except.bind_eq_ok h
  obtain ⟨⟨t, errors⟩, -, h⟩ := Except.bind_eq_ok h
  cases h
  exact ordered_ofErrors ..

/-- The analyzers of the known languages find errors in order, whatever they take them from. -/
theorem builtin_ordered (ha : builtin? l = some a) (h : a.analyze source = .ok e) : Ordered e.errors := by
  obtain ⟨p, hp, herrors⟩ := exists_parse h
  rw [herrors]
  have ofParser : ∀ {l : Language} {parser : ParserSetup} {collect : String → SyntaxTree → List Symbol},
      (ofParser l parser collect).parse source = .ok p → Ordered p.errors := by
    intro l parser collect hp
    obtain ⟨t, -, hp⟩ := Except.bind_eq_ok hp
    cases hp
    exact ordered_ofErrors ..
  cases l with
  | unknown => cases ha
  | typeScript =>
    cases ha
    rw [typeScript_parse] at hp
    exact choose_ordered hp
  | yaml =>
    cases ha
    cases hp
    exact ordered_ofErrors ..
  | _ => cases ha; exact ofParser hp

/-- A content is analysed as the text that it is read as, but for the error of invalid bytes. -/
theorem analyzeContent_merged (h : a.analyze (Utf8.decodeLossy content) = .ok e)
    (hordered : Ordered e.errors) :
    ∃ errors, a.analyzeContent content = .ok { e with errors := errors } ∧
      Merged content e.errors errors := by
  unfold analyzeContent
  rw [h]
  cases hinvalid : ofInvalidUtf8? content.toList with
  | none =>
    have hvalid := ofInvalidUtf8?_eq_none_iff.1 hinvalid
    refine ⟨e.errors, rfl, hordered, fun _ => ⟨?_, rfl⟩, fun hno => absurd hvalid hno⟩
    obtain ⟨s, rfl⟩ : ∃ s : String, s.toUTF8 = content := ⟨⟨content, hvalid⟩, rfl⟩
    rw [Utf8.decodeLossy_toUTF8]
  | some invalid =>
    obtain ⟨before, after, hinserted⟩ := exists_inserted (e := invalid) hordered
    refine ⟨_, rfl, hinserted.ordered hordered, fun hvalid => ?_, fun _ => ?_⟩
    · rw [ofInvalidUtf8?_eq_none_iff.2 hvalid] at hinvalid
      cases hinvalid
    · exact ⟨invalid, hinvalid, ⟨before, after, hinserted⟩, hinserted.eq_insertIdx⟩

end Analyzer

namespace Registry

/-- The analysis of a content by an analyzer of a known language has the errors of the text that the
content is read as, in order, and among them that of invalid bytes, if there are any. There is an
analysis whenever the text has one. -/
theorem analyze_merged {r : Registry} {s : Source} {l : Language} {a : Analyzer}
    (ha : Analyzer.builtin? l = some a) (hr : r.analyzerFor? s = some a) :
    match a.analyze (Utf8.decodeLossy s.content) with
    | .ok e => ∃ errors, r.analyze s = .ok (.parsed s.key s.fingerprint { e with errors := errors }) ∧
      ParseError.Merged s.content e.errors errors
    | .error cause => r.analyze s = .error (.analyzer cause) := by
  rw [analyze, hr]
  cases h : a.analyze (Utf8.decodeLossy s.content) with
  | ok e =>
    obtain ⟨errors, hcontent, hmerged⟩ := Analyzer.analyzeContent_merged h (Analyzer.builtin_ordered ha h)
    refine ⟨errors, ?_, hmerged⟩
    dsimp only
    rw [hcontent]
  | error cause =>
    have hcontent : a.analyzeContent s.content = .error cause := by
      rw [Analyzer.analyzeContent, h]
      rfl
    dsimp only
    rw [hcontent]

end Registry

/-- A text that is broken before its first node has no documents. -/
theorem Yaml.documents_of_failure {s : String} {d : Document} {o : Outline} {f : Failure}
    (h : Document.gather true (8 * (s.length + 4)) .empty (Parse.start s) = (some d, o))
    (hpieces : d.pieces = #[]) (hfailure : d.failure = some f) : documents s = ([], some f) := by
  have hvalue : d.toValue = .error f := by
    rw [Document.toValue, Document.value]
    simp [Document.piece, hpieces, hfailure]
    rfl
  obtain ⟨turns, hturns⟩ : ∃ turns, 8 * (s.length + 4) = turns + 1 := ⟨8 * s.length + 31, by omega⟩
  rw [documents]
  dsimp only
  rw [hturns] at h ⊢
  simp [documentsFrom, h, hvalue]

theorem Yaml.documents_map_of_failure {β : Type} {s : String} (g : Failure → β) {b : β}
    (h : (Document.gather true (8 * (s.length + 4)) .empty (Parse.start s)).1.map
      (fun d => (d.pieces.size, d.failure.map g)) = some (0, some b)) : (documents s).2.map g = some b := by
  generalize ho : Document.gather true (8 * (s.length + 4)) .empty (Parse.start s) = r at h
  obtain ⟨d, o⟩ := r
  obtain ⟨d, rfl, hd⟩ := Option.map_eq_some_iff.1 h
  obtain ⟨hsize, hfailure⟩ := Prod.mk.inj hd
  obtain ⟨f, hf, hb⟩ := Option.map_eq_some_iff.1 hfailure
  rw [documents_of_failure ho (Array.size_eq_zero_iff.1 hsize) hf]
  exact congrArg some hb

namespace Stray

/-- A character that begins nothing, and a byte that is none. -/
def source : Source := ⟨⟨"/a.yaml"⟩, ⟨#[64, 255]⟩, ⟨2, ""⟩⟩

def text : String := "@\uFFFD"

def error : ParseError :=
  ⟨⟨1, 0⟩, ⟨1, 0⟩, "found character that cannot start any token, while scanning for the next token"⟩

theorem analyzerFor?_source : Registry.builtins.analyzerFor? source = some Analyzer.yaml := by
  have hext : Path.extension? ⟨"/a.yaml"⟩ = some "yaml" := by decide +kernel
  have hlang : Language.ofPath ⟨"/a.yaml"⟩ = .yaml := by decide +kernel
  simp [Registry.analyzerFor?, source, Language.ofFile, hext, hlang]
  rfl

theorem documents_text : (Yaml.documents text).2.map Analyzer.yamlError = some error :=
  Yaml.documents_map_of_failure _ (by decide +kernel)

theorem analyze_text : Analyzer.yaml.analyze text = .ok ⟨.yaml, [], [error]⟩ := by
  have hparse : Analyzer.yaml.parse text =
      .ok (.ofErrors text .yaml (.documents (Yaml.documents text).1)
        ((Yaml.documents text).2.map Analyzer.yamlError).toList) := rfl
  have hsorted : ParseError.sorted [error] = [error] := List.mergeSort_singleton error
  rw [documents_text, ParsedText.ofErrors, Option.toList_some, hsorted] at hparse
  rw [Analyzer.analyze, hparse]
  rfl

end Stray

/-- The error of the byte comes after the error of the character before it. -/
theorem Registry.analyze_merged_stray : builtins.analyze Stray.source =
    .ok (.parsed Stray.source.key Stray.source.fingerprint ⟨.yaml, [],
      [Stray.error, ⟨⟨1, 1⟩, ⟨1, 2⟩, ParseError.invalidUtf8Message⟩]⟩) := by
  have h := analyze_merged (l := .yaml) rfl Stray.analyzerFor?_source
  have hread : Utf8.decodeLossy Stray.source.content = Stray.text := by decide +kernel
  rw [hread, Stray.analyze_text] at h
  obtain ⟨errors, hanalyze, hmerged⟩ := h
  have hinvalid : ParseError.ofInvalidUtf8? Stray.source.content.toList =
      some ⟨⟨1, 1⟩, ⟨1, 2⟩, ParseError.invalidUtf8Message⟩ := by decide +kernel
  obtain ⟨e, he, -, herrors⟩ := hmerged.invalid fun hvalid => by
    rw [ParseError.ofInvalidUtf8?_eq_none_iff.2 hvalid] at hinvalid
    cases hinvalid
  obtain rfl := Option.some.inj (he.symm.trans hinvalid)
  have hplace : partitionPoint (fun d : ParseError => decide (d.start ≤ ⟨1, 1⟩)) [Stray.error] = 1 := by
    decide +kernel
  rw [hanalyze, herrors, hplace]
  rfl

end SymbolIndex
