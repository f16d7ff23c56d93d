import SymbolIndex.Proofs.Analyzer.Content

/-!
# Where a content is no text

The error of invalid bytes is at the end of the longest beginning of a content that is a text. The
lenient reading has the same bytes there, and a replacement character after them, so the place is the
same in the text that is parsed (`ParseError.ofInvalidUtf8?_located`).
-/
namespace SymbolIndex

namespace Position

/-- The offset lies within some bytes, and this is its place in them. -/
structure IsAt (p : Position) (bytes : List UInt8) (offset : Nat) : Prop where
  within : offset ≤ bytes.length
  line : p.line = 1 + (bytes.take offset).count 10
  /-- Without a line feed before it, all bytes before it are on its line. -/
  first : 10 ∉ bytes.take offset → p.column = offset
  /-- Otherwise those up to the last line feed are not. -/
  later : ∀ i, bytes[i]? = some 10 → i < offset → (∀ j, i < j → j < offset → bytes[j]? ≠ some 10) →
    i + 1 + p.column = offset

variable {p : Position} {bytes others : List UInt8} {offset : Nat}

theorem IsAt.congr (h : p.IsAt bytes offset) (hwithin : offset ≤ others.length)
    (htake : others.take offset = bytes.take offset) : p.IsAt others offset := by
  have hget : ∀ i, i < offset → others[i]? = bytes[i]? := fun i hi => by
    rw [← List.getElem?_take_of_lt hi, htake, List.getElem?_take_of_lt hi]
  refine ⟨hwithin, htake ▸ h.line, htake ▸ h.first, fun i hi hlt hlast => ?_⟩
  refine h.later i (hget i hlt ▸ hi) hlt fun j hij hj => ?_
  exact hget j hj ▸ hlast j hij hj

end Position

namespace ParseError
variable {bytes : List UInt8} {offset : Nat}

theorem length_takeWhile_reverse {α : Type} {p : α → Bool} {before line : List α}
    (hline : ∀ x ∈ line, p x = true) (hbefore : ∀ x ∈ before.getLast?, p x = false) :
    ((before ++ line).reverse.takeWhile p).length = line.length := by
  rw [List.reverse_append, List.takeWhile_append_of_pos (by simpa using hline), List.length_append,
    List.length_reverse]
  cases hb : before.reverse with
  | nil => simp
  | cons x xs =>
    have hx : p x = false := hbefore x (by simp [← List.head?_reverse, hb])
    simp [hx]

theorem positionAt_isAt (h : offset ≤ bytes.length) : (positionAt bytes offset).IsAt bytes offset := by
  refine ⟨h, Nat.add_comm _ _, fun hnone => ?_, fun i hi hlt hlast => ?_⟩
  · have hline : ∀ b ∈ bytes.take offset, (b != 10) = true := by
      intro b hb
      rw [bne_iff_ne]
      rintro rfl
      exact hnone hb
    have hlength : (([] ++ bytes.take offset).reverse.takeWhile (· != 10)).length =
        (bytes.take offset).length :=
      length_takeWhile_reverse hline (by simp)
    simpa [positionAt, h] using hlength
  · -- The line feed is the last byte of one part, and there is none in the other.
    have hsplit : bytes.take offset = bytes.take (i + 1) ++ (bytes.drop (i + 1)).take (offset - (i + 1)) := by
      rw [← List.take_add]
      congr 1
      omega
    have hfeed : ∀ b ∈ (bytes.take (i + 1)).getLast?, (b != 10) = false := by
      intro b hb
      rw [List.take_add_one, hi] at hb
      simp at hb
      simp [← hb]
    have hline : ∀ b ∈ (bytes.drop (i + 1)).take (offset - (i + 1)), (b != 10) = true := by
      intro b hb
      obtain ⟨k, hk⟩ := List.getElem?_of_mem hb
      have hlt : k < offset - (i + 1) := by
        have := (List.getElem?_eq_some_iff.1 hk).1
        rw [List.length_take] at this
        omega
      rw [List.getElem?_take_of_lt hlt, List.getElem?_drop] at hk
      have := hlast (i + 1 + k) (by omega) (by omega)
      rw [hk] at this
      simpa using this
    have hcolumn := length_takeWhile_reverse hline hfeed
    rw [← hsplit] at hcolumn
    show i + 1 + ((bytes.take offset).reverse.takeWhile (· != 10)).length = offset
    rw [hcolumn, List.length_take, List.length_drop]
    omega

end ParseError

namespace Utf8
variable {bs rest : List UInt8} {cs : List Char} {n k : Nat}

/-- Reading goes on after the characters that were read before. -/
theorem decode_acc (bs : List UInt8) (acc : Array Char) : decode bs acc = acc ++ decode bs #[] := by
  induction hlen : bs.length using Nat.strongRecOn generalizing bs acc with
  | ind n ih =>
    cases bs with
    | nil => simp [decode]
    | cons b bs =>
      have hlt : (next b bs).2.length < n := by
        have := next_length_le b bs
        rw [← hlen, List.length_cons]
        omega
      rw [decode, decode, ih _ hlt _ _ rfl, ih _ hlt _ (#[].push _) rfl]
      simp

theorem decode_of_stuck (h : Stuck rest) (acc : Array Char) :
    ∃ more, decode rest acc = acc.push '\uFFFD' ++ more := by
  cases rest with
  | nil => cases h
  | cons b bs =>
    have h : (next b bs).1 = .bad := h
    rw [decode, h]
    exact ⟨_, decode_acc _ _⟩

theorem le_of_invalidFrom? (h : invalidFrom? bs k = some n) : k ≤ n := by
  induction bs, k using invalidFrom?.induct with
  | case1 k => simp [invalidFrom?] at h
  | case2 k b bs c hnext ih =>
    rw [invalidFrom?, hnext] at h
    have := ih h
    omega
  | case3 k b bs hnext =>
    rw [invalidFrom?, hnext] at h
    exact Nat.le_of_eq (Option.some.inj h)

theorem exists_of_invalidFrom? (h : invalidFrom? bs 0 = some n) :
    ∃ cs rest, bs = encode cs ++ rest ∧ Stuck rest ∧ n = (encode cs).length := by
  obtain ⟨cs, rest, rfl, hend⟩ := exists_eq_encode_append bs
  rw [invalidFrom?_encode_append, Nat.zero_add] at h
  rcases hend with rfl | hstuck
  · simp [invalidFrom?] at h
  · rw [invalidFrom?_of_stuck hstuck] at h
    exact ⟨cs, rest, rfl, hstuck, (Option.some.inj h).symm⟩

theorem toList_extract (content : ByteArray) (n : Nat) :
    (content.extract 0 n).toList = content.toList.take n := by
  simp [toList_eq]

theorem isValidUTF8_extract {content : ByteArray} :
    (content.extract 0 n).IsValidUTF8 ↔ ∃ cs, content.toList.take n = encode cs := by
  rw [isValidUTF8_iff, toList_extract, invalidFrom?_eq_none_iff]

/-- The first `n` bytes of a content are a text, and no more of them are. -/
structure LongestText (content : ByteArray) (n : Nat) : Prop where
  lt_size : n < content.size
  isText : (content.extract 0 n).IsValidUTF8
  longest : ∀ m ≤ content.size, (content.extract 0 m).IsValidUTF8 → m ≤ n

theorem length_toList (content : ByteArray) : content.toList.length = content.size := by
  rw [toList_eq]
  rfl

theorem longestText_of_firstInvalid {content : ByteArray} (h : invalidFrom? content.toList 0 = some n) :
    LongestText content n := by
  obtain ⟨cs, rest, hbytes, hstuck, rfl⟩ := exists_of_invalidFrom? h
  refine ⟨?_, isValidUTF8_extract.2 ⟨cs, ?_⟩, fun m hm htext => ?_⟩
  · have : rest ≠ [] := by
      rintro rfl
      exact hstuck
    have := List.length_pos_iff.2 this
    rw [← length_toList, hbytes, List.length_append]
    omega
  · rw [hbytes, List.take_left]
  · -- A longer text would be read to its end before anything invalid is found.
    obtain ⟨ds, hds⟩ := isValidUTF8_extract.1 htext
    have hlen : (encode ds).length = m := by
      rw [← hds, List.length_take, length_toList]
      omega
    rw [← List.take_append_drop m content.toList, hds, invalidFrom?_encode_append, Nat.zero_add, hlen] at h
    exact le_of_invalidFrom? h

end Utf8

namespace ParseError

/-- An error of invalid bytes is where a content stops being a text. -/
structure LocatesInvalid (e : ParseError) (content : ByteArray) (n : Nat) : Prop where
  invalid : ¬ content.IsValidUTF8
  longest : Utf8.LongestText content n
  start : e.start.IsAt content.toList n
  stop : e.stop = ⟨e.start.line, e.start.column + 1⟩
  message : e.message = invalidUtf8Message
  /-- The text that is parsed has the same bytes before the place, and a replacement character at it. -/
  replaced : ∃ text more, Utf8.decodeLossy content = text ++ "\uFFFD" ++ more ∧
    text.toUTF8 = content.extract 0 n
  parsed : e.start.IsAt (Utf8.decodeLossy content).toUTF8.toList n

/-- The lenient reading begins with the longest text and a replacement character. -/
theorem exists_replaced {content : ByteArray} {n : Nat} (h : Utf8.invalidFrom? content.toList 0 = some n) :
    ∃ text more, Utf8.decodeLossy content = text ++ "\uFFFD" ++ more ∧ text.toUTF8 = content.extract 0 n := by
  obtain ⟨cs, rest, hbytes, hstuck, rfl⟩ := Utf8.exists_of_invalidFrom? h
  obtain ⟨more, hmore⟩ := Utf8.decode_of_stuck hstuck cs.toArray
  refine ⟨String.ofList cs, String.ofList more.toList, ?_, ?_⟩
  · rw [Utf8.decodeLossy, hbytes, Utf8.decode_encode_append]
    simp [hmore, ← String.toList_inj]
  · have htext : (String.ofList cs).toUTF8.toList = Utf8.encode cs := Utf8.eq_utf8Encode_iff.1 rfl
    rw [ByteArray.ext_iff, ← Array.toList_inj, ← Utf8.toList_eq, ← Utf8.toList_eq, Utf8.toList_extract,
      htext, hbytes, List.take_left]

/-- There is an error of invalid bytes in exactly the cases in which a content is no text, and it
tells where. -/
theorem ofInvalidUtf8?_located (content : ByteArray) :
    match ofInvalidUtf8? content.toList with
    | none => content.IsValidUTF8
    | some e => ∃ n, e.LocatesInvalid content n := by
  cases h : Utf8.invalidFrom? content.toList 0 with
  | none =>
    rw [ofInvalidUtf8?, h]
    exact Utf8.isValidUTF8_iff.2 h
  | some n =>
    rw [ofInvalidUtf8?, h]
    have hinvalid : ¬ content.IsValidUTF8 := by
      rw [Utf8.isValidUTF8_iff, h]
      exact Option.some_ne_none n
    have hlongest := Utf8.longestText_of_firstInvalid h
    have hstart : (positionAt content.toList n).IsAt content.toList n :=
      positionAt_isAt (Utf8.length_toList content ▸ Nat.le_of_lt hlongest.lt_size)
    obtain ⟨text, more, hread, htext⟩ := exists_replaced h
    have hbytes : (Utf8.decodeLossy content).toUTF8.toList =
        content.toList.take n ++ ("\uFFFD" ++ more).toUTF8.toList := by
      rw [hread, ← Utf8.toList_extract, ← htext]
      simp [Utf8.toList_eq, String.append_assoc]
    refine ⟨n, hinvalid, hlongest, hstart, rfl, rfl, ⟨text, more, hread, htext⟩, ?_⟩
    have hlen : (content.toList.take n).length = n := List.length_take_of_le hstart.within
    refine hstart.congr ?_ ?_
    · rw [hbytes, List.length_append]
      omega
    · rw [hbytes]
      exact List.take_left' hlen

example : ofInvalidUtf8? [0x61, 0x0A, 0xE9] = some ⟨⟨2, 0⟩, ⟨2, 1⟩, invalidUtf8Message⟩ := by decide +kernel

end ParseError
end SymbolIndex
