import SymbolIndex.Proofs.Analyzer.Location
import SymbolIndex.Proofs.Yaml.Document

/-!
# The columns of YAML errors

The place of an error counts lines from one and bytes on the line from zero. The place of a YAML
error is taken from the scanner, which counts characters (`Analyzer.yaml_counts_characters`): it is
the place of the bytes exactly if all characters before it on its line take one byte.
-/
namespace SymbolIndex

namespace Position
variable {p q : Position} {bytes : List UInt8} {offset : Nat}

/-- Before an offset with a line feed before it there is a last one. -/
theorem exists_last_feed (h : 10 ∈ bytes.take offset) :
    ∃ i < offset, bytes[i]? = some 10 ∧ ∀ j, i < j → j < offset → bytes[j]? ≠ some 10 := by
  obtain ⟨after, before, hsplit, hafter⟩ := List.eq_append_cons_of_mem (List.mem_reverse.2 h)
  have htake : bytes.take offset = before.reverse ++ 10 :: after.reverse := by
    rw [← List.reverse_inj, hsplit, List.reverse_append, List.reverse_cons, List.reverse_reverse,
      List.reverse_reverse, List.append_assoc, List.singleton_append]
  have hget (j : Nat) (hj : j < offset) : bytes[j]? = (before.reverse ++ 10 :: after.reverse)[j]? := by
    rw [← htake, List.getElem?_take_of_lt hj]
  have hlt : before.reverse.length < offset := by
    have hlen := congrArg List.length htake
    rw [List.length_take, List.length_append, List.length_cons] at hlen
    omega
  refine ⟨before.reverse.length, hlt, by rw [hget _ hlt]; simp, fun j hij hj hfeed => hafter ?_⟩
  rw [hget j hj, List.getElem?_append_right (Nat.le_of_lt hij), List.getElem?_cons,
    if_neg (Nat.sub_ne_zero_of_lt hij)] at hfeed
  exact List.mem_reverse.1 (List.mem_of_getElem? hfeed)

theorem IsAt.unique (hp : p.IsAt bytes offset) (hq : q.IsAt bytes offset) : p = q := by
  obtain ⟨pline, pcolumn⟩ := p
  obtain ⟨qline, qcolumn⟩ := q
  obtain rfl : pline = qline := hp.line.trans hq.line.symm
  by_cases hfeed : 10 ∈ bytes.take offset
  · obtain ⟨i, hi, hget, hlast⟩ := exists_last_feed hfeed
    have hpcolumn := hp.later i hget hi hlast
    have hqcolumn := hq.later i hget hi hlast
    obtain rfl : pcolumn = qcolumn := Nat.add_left_cancel (hpcolumn.trans hqcolumn.symm)
    rfl
  · obtain rfl : pcolumn = qcolumn := (hp.first hfeed).trans (hq.first hfeed).symm
    rfl

/-- The place after some lines that end with line feeds and some characters of the next line. -/
theorem isAt_iff (pre line rest : List Char) (hpre : ∀ c ∈ pre.getLast?, c = '\n') (hline : '\n' ∉ line) :
    p.IsAt (Utf8.encode (pre ++ line ++ rest)) (Utf8.encode (pre ++ line)).length ↔
      p = ⟨1 + pre.count '\n', (Utf8.encode line).length⟩ := by
  have htake : (Utf8.encode (pre ++ line ++ rest)).take (Utf8.encode (pre ++ line)).length =
      Utf8.encode (pre ++ line) := by
    rw [Utf8.encode_append (pre ++ line), List.take_left]
  have hlength : (Utf8.encode (pre ++ line)).length ≤ (Utf8.encode (pre ++ line ++ rest)).length := by
    rw [Utf8.encode_append (pre ++ line), List.length_append]
    exact Nat.le_add_right _ _
  have hat : ParseError.positionAt (Utf8.encode (pre ++ line ++ rest)) (Utf8.encode (pre ++ line)).length =
      ⟨1 + pre.count '\n', (Utf8.encode line).length⟩ := by
    have hbytes : ∀ b ∈ Utf8.encode line, (b != 10) = true := by
      intro b hb
      rw [bne_iff_ne]
      rintro rfl
      have hcount := Utf8.count_feed_encode line
      rw [List.count_eq_zero_of_not_mem hline] at hcount
      exact List.count_eq_zero.1 hcount hb
    have hfeed : ∀ b ∈ (Utf8.encode pre).getLast?, (b != 10) = false := by
      rcases List.eq_nil_or_concat' pre with rfl | ⟨lines, c, rfl⟩
      · simp
      obtain rfl : c = '\n' := hpre c (by simp)
      have hlast : Utf8.encode ['\n'] = [10] := by decide
      rw [Utf8.encode_append, hlast, List.getLast?_concat]
      simp
    rw [ParseError.positionAt, htake, Utf8.count_feed_encode, Utf8.encode_append,
      ParseError.length_takeWhile_reverse hbytes hfeed, List.count_append,
      List.count_eq_zero_of_not_mem hline, Nat.add_zero, Nat.add_comm]
  have hposition := ParseError.positionAt_isAt hlength
  rw [hat] at hposition
  constructor
  · intro h
    exact h.unique hposition
  · rintro rfl
    exact hposition

end Position

namespace Yaml

theorem Mark.Parts.exists_rest {s : String} {m : Mark} {before line : List Char}
    (h : m.Parts (chars s) before line) : ∃ rest, s.toList = before ++ line ++ rest := by
  refine ⟨(chars s).toList.drop m.index, ?_⟩
  rw [← h.take_eq, List.take_append_drop, toList_chars]

end Yaml

namespace ParseError
open Yaml
open Utf8 (encode)

/-- An error at a place in a YAML text, after some lines and some characters of the next line: what
its numbers count, and when they are those of the bytes before the place. -/
structure CountsCharacters (e : ParseError) (source : String) (m : Mark) (before line : List Char) :
    Prop where
  parts : m.Parts (chars source) before line
  stop : e.stop = e.start
  /-- Lines are counted from one, and characters on the line from zero. -/
  character : m.index < (chars source).size → e.start = ⟨1 + lineBreaks before, line.length⟩
  /-- The end of a text may be a line of its own. -/
  ending : m.index = (chars source).size →
    e.start = ⟨1 + lineBreaks before, line.length⟩ ∨ line ≠ [] ∧ e.start = ⟨2 + lineBreaks before, 0⟩
  /-- The place is that of the bytes if only line feeds end lines, and nothing before it on its line
  takes more bytes than one. -/
  bytes : e.start.IsAt source.toUTF8.toList (encode (before ++ line)).length ↔
    e.start.line = 1 + before.count '\n' ∧ ∀ c ∈ line, c.val ≤ 127

variable {source : String} {m : Mark} {before line : List Char}

theorem not_feed_of_parts (h : m.Parts (chars source) before line) : '\n' ∉ line := fun hfeed =>
  absurd (h.unbroken _ hfeed) (by decide)

/-- The bytes before a place end as many lines as it has line feeds before it. -/
theorem line_of_isAt (h : m.Parts (chars source) before line) {p : Position}
    (hplace : p.IsAt source.toUTF8.toList (encode (before ++ line)).length) :
    p.line = 1 + before.count '\n' := by
  obtain ⟨rest, hrest⟩ := h.exists_rest
  rw [hplace.line, Utf8.toList_toUTF8, hrest, Utf8.encode_append (before ++ line), List.take_left,
    Utf8.count_feed_encode, List.count_append, List.count_eq_zero_of_not_mem (not_feed_of_parts h),
    Nat.add_zero]

/-- The numbers that the scanner counts are those of the bytes if only line feeds end lines, and nothing
before the place on its line takes more bytes than one. -/
theorem isAt_iff_of_parts (h : m.Parts (chars source) before line) :
    Position.IsAt ⟨1 + lineBreaks before, line.length⟩ source.toUTF8.toList (encode (before ++ line)).length ↔
      lineBreaks before = before.count '\n' ∧ ∀ c ∈ line, c.val ≤ 127 := by
  obtain ⟨rest, hrest⟩ := h.exists_rest
  have hat (hfeeds : lineBreaks before = before.count '\n') :=
    Position.isAt_iff (p := ⟨1 + lineBreaks before, line.length⟩) before line rest
      (eq_feed_of_lineBreaks hfeeds h.ended) (not_feed_of_parts h)
  constructor
  · intro hplace
    have hfeeds : lineBreaks before = before.count '\n' := Nat.add_left_cancel (line_of_isAt h hplace)
    rw [Utf8.toList_toUTF8, hrest, hat hfeeds] at hplace
    exact ⟨hfeeds, Utf8.length_encode_eq_iff.1 (congrArg Position.column hplace).symm⟩
  · rintro ⟨hfeeds, hascii⟩
    rw [Utf8.toList_toUTF8, hrest, hat hfeeds, Utf8.length_encode_eq_iff.2 hascii, hfeeds]

theorem countsCharacters_within {e : ParseError} (h : m.Parts (chars source) before line)
    (hstop : e.stop = e.start) (hstart : e.start = ⟨1 + lineBreaks before, line.length⟩) :
    e.CountsCharacters source m before line := by
  refine ⟨h, hstop, fun _ => hstart, fun _ => .inl hstart, ?_⟩
  rw [hstart, isAt_iff_of_parts h]
  simp

/-- No byte is on a line that only the end of the text begins. -/
theorem countsCharacters_past {e : ParseError} (h : m.Parts (chars source) before line)
    (hstop : e.stop = e.start) (hend : m.index = (chars source).size) (hne : line ≠ [])
    (hstart : e.start = ⟨2 + lineBreaks before, 0⟩) : e.CountsCharacters source m before line := by
  have hle := count_le_lineBreaks before
  refine ⟨h, hstop, fun hlt => absurd hend (Nat.ne_of_lt hlt), fun _ => .inr ⟨hne, hstart⟩, ?_⟩
  rw [hstart]
  constructor
  · intro hplace
    have hline := line_of_isAt h hplace
    dsimp only at hline
    omega
  · rintro ⟨hline, -⟩
    dsimp only at hline
    omega

end ParseError

namespace Analyzer

theorem yaml_analyze (source : String) :
    yaml.analyze source = .ok ⟨.yaml, [], ((Yaml.documents source).2.map yamlError).toList⟩ := by
  have hparse : yaml.parse source = .ok (.ofErrors source .yaml (.documents (Yaml.documents source).1)
      ((Yaml.documents source).2.map yamlError).toList) := rfl
  have hsorted : ParseError.sorted ((Yaml.documents source).2.map yamlError).toList =
      ((Yaml.documents source).2.map yamlError).toList := by
    cases (Yaml.documents source).2 with
    | none => exact List.mergeSort_nil
    | some f => exact List.mergeSort_singleton _
  rw [analyze, hparse, ParsedText.ofErrors, hsorted]
  rfl

/-- A YAML text that cannot be read to its end has one error. Its line is that of the character at
which reading ended. Its column counts the characters before that one on its line, which are as many
as their bytes only if each takes one. -/
theorem yaml_counts_characters (source : String) : match (Yaml.documents source).2 with
    | none => yaml.analyze source = .ok ⟨.yaml, [], []⟩
    | some f => ∃ e, yaml.analyze source = .ok ⟨.yaml, [], [e]⟩ ∧ e.message = f.text ∧
        ∀ m ∈ f.mark?, ∃ before line, e.CountsCharacters source m before line := by
  have hanalyze := yaml_analyze source
  split
  · next hnone => rw [hanalyze, hnone]; rfl
  · next f hf =>
    refine ⟨yamlError f, by rw [hanalyze, hf]; rfl, rfl, fun m hm => ?_⟩
    have hstart : (yamlError f).start = ⟨m.line + 1, m.column⟩ := by
      rw [yamlError, show f.mark? = some m from hm]
    cases (Yaml.documents_located hf m hm).placed with
    | within before line hparts hline hcolumn =>
      refine ⟨before, line, ParseError.countsCharacters_within hparts rfl ?_⟩
      rw [hstart, hline, hcolumn, Nat.add_comm]
    | past before line hparts hend hne hline hcolumn =>
      refine ⟨before, line, ParseError.countsCharacters_past hparts rfl hend hne ?_⟩
      rw [hstart, hline, hcolumn, Nat.add_assoc, Nat.add_comm]

end Analyzer

namespace Accent

/-- Of the characters before the wrong escape, one takes two bytes. -/
def source : String := "\"é\\z\""

def error : ParseError :=
  ⟨⟨1, 2⟩, ⟨1, 2⟩, "found unknown escape character at line 1 column 3, while parsing a quoted scalar"⟩

theorem documents_source : (Yaml.documents source).2.map (fun f => (f.mark?, Analyzer.yamlError f)) =
    some (some ⟨2, 0, 2⟩, error) :=
  Yaml.documents_map_of_failure _ (by decide +kernel)

end Accent

/-- The escape is the third character, but the fourth byte of its line. -/
theorem Analyzer.yaml_not_byteColumns : yaml.analyze Accent.source = .ok ⟨.yaml, [], [Accent.error]⟩ ∧
    (Yaml.documents Accent.source).2.bind Yaml.Failure.mark? = some ⟨2, 0, 2⟩ ∧
    Accent.source.toList[2]? = some '\\' ∧
    Position.IsAt ⟨1, 3⟩ Accent.source.toUTF8.toList (Utf8.encode (Accent.source.toList.take 2)).length ∧
    ¬ Accent.error.start.IsAt Accent.source.toUTF8.toList
      (Utf8.encode (Accent.source.toList.take 2)).length := by
  obtain ⟨f, hf, hpair⟩ := Option.map_eq_some_iff.1 Accent.documents_source
  obtain ⟨hmark, herror⟩ := Prod.mk.inj hpair
  have hat : Position.IsAt ⟨1, 3⟩
      Accent.source.toUTF8.toList (Utf8.encode (Accent.source.toList.take 2)).length := by
    rw [Utf8.toList_toUTF8]
    exact (Position.isAt_iff [] ['"', 'é'] ['\\', 'z', '"'] (by simp) (by decide)).2 (by decide)
  refine ⟨?_, by rw [hf]; exact hmark, by decide, hat, fun hplace => ?_⟩
  · rw [yaml_analyze, hf, ← herror]
    rfl
  · exact absurd (hplace.unique hat) (by decide)

end SymbolIndex
