import SymbolIndex.Proofs.Text.Utf8
import SymbolIndex.Text.Basic
import SymbolIndex.Text.Word

/-!
# Blanks are no word characters

The word characters are kept in a packed table. What is packed is read off its characters one after
the other (`CharSet.toList_bounds`), and a character is found only in a range that it lies in, so a
table without such a range does not contain it (`isWordChar_of_isBlank`).
-/
namespace SymbolIndex

namespace Varint
variable {bytes : ByteArray}

/-- The number that some digits begin with, and the digits after it. -/
def numberFrom : Nat → Nat → Nat → List UInt8 → Nat × List UInt8
  | 0, _, acc, bs => (acc, bs)
  | _ + 1, _, acc, [] => (acc, [])
  | fuel + 1, scale, acc, b :: bs =>
    if digit b < 32 then (acc + digit b * scale, bs)
    else numberFrom fuel (scale * 32) (acc + (digit b - 32) * scale) bs

/-- The numbers of some digits. -/
def numbersOf : Nat → List UInt8 → List Nat
  | 0, _ => []
  | _ + 1, [] => []
  | fuel + 1, b :: bs => (numberFrom 8 1 0 (b :: bs)).1 :: numbersOf fuel (numberFrom 8 1 0 (b :: bs)).2

theorem drop_toList {pos : Nat} (h : pos < bytes.size) :
    bytes.toList.drop pos = bytes.get! pos :: bytes.toList.drop (pos + 1) := by
  rw [Utf8.toList_eq, Utf8.drop_data h]

theorem drop_toList_of_le {pos : Nat} (h : ¬ pos < bytes.size) : bytes.toList.drop pos = [] := by
  rw [Utf8.toList_eq, Utf8.drop_data_of_le h]

theorem readLoop_eq (fuel pos scale acc : Nat) : numberFrom fuel scale acc (bytes.toList.drop pos) =
    ((readLoop bytes fuel pos scale acc).1, bytes.toList.drop (readLoop bytes fuel pos scale acc).2) := by
  induction fuel generalizing pos scale acc with
  | zero => rfl
  | succ fuel ih =>
    by_cases hpos : pos < bytes.size
    · rw [drop_toList hpos, numberFrom, readLoop, if_pos hpos]
      dsimp only
      split
      · rfl
      · exact ih _ _ _
    · rw [readLoop, if_neg hpos, drop_toList_of_le hpos, numberFrom]

theorem readAllLoop_eq (fuel pos : Nat) (acc : Array Nat) :
    (readAllLoop bytes fuel pos acc).toList = acc.toList ++ numbersOf fuel (bytes.toList.drop pos) := by
  induction fuel generalizing pos acc with
  | zero => simp [readAllLoop, numbersOf]
  | succ fuel ih =>
    by_cases hpos : pos < bytes.size
    · have hread : numberFrom 8 1 0 (bytes.toList.drop pos) = _ := readLoop_eq 8 pos 1 0
      rw [readAllLoop, if_pos hpos, drop_toList hpos, numbersOf, ← drop_toList hpos, hread]
      simp [ih, read]
    · rw [readAllLoop, if_neg hpos, drop_toList_of_le hpos, numbersOf, List.append_nil]

theorem toList_push (bytes : ByteArray) (b : UInt8) : (bytes.push b).toList = bytes.toList ++ [b] := by
  simp [Utf8.toList_eq, ByteArray.data_push]

/-- The bytes of a packed text without blanks. -/
def packedBytes (s : String) : List UInt8 := s.toUTF8.toList.filter fun b => !decide (b ≤ 32)

theorem toList_foldlM_loop (as acc : ByteArray) (i j : Nat) (h : i + j = as.size) :
    (ByteArray.foldlM.loop (m := Id) (fun acc b =>
      pure (if b ≤ 32 then acc else acc.push b)) as as.size (Nat.le_refl _)
      i j acc).run.toList = acc.toList ++ (as.toList.drop j).filter fun b => !decide (b ≤ 32) := by
  induction i generalizing j acc with
  | zero =>
    rw [ByteArray.foldlM.loop, dif_neg (by omega), drop_toList_of_le (by omega)]
    simp
  | succ i ih =>
    have hj : j < as.size := by omega
    have hget : as.get! j = as[j] := getElem!_pos as.data j (by simpa using hj)
    rw [ByteArray.foldlM.loop, dif_pos hj, drop_toList hj, hget]
    refine (ih _ _ (by omega)).trans ?_
    by_cases hb : as[j] ≤ 32
    · rw [if_pos hb, List.filter_cons_of_neg (by simpa using hb)]
      rfl
    · rw [if_neg hb, List.filter_cons_of_pos (by simpa using hb)]
      show (acc.push as[j]).toList ++ _ = _
      rw [toList_push, List.append_assoc, List.singleton_append]

theorem toList_bytesOf (s : String) : (bytesOf s).toList = packedBytes s := by
  have h := toList_foldlM_loop s.toUTF8 .empty s.toUTF8.size 0 (Nat.add_zero _)
  rw [ByteArray.toList_empty, List.nil_append, List.drop_zero] at h
  refine Eq.trans ?_ h
  rw [bytesOf, ByteArray.foldl, ByteArray.foldlM]
  simp

theorem toList_readAll (s : String) :
    (readAll s).toList = numbersOf (packedBytes s).length (packedBytes s) := by
  have hsize : (bytesOf s).size = (packedBytes s).length := by
    rw [← toList_bytesOf, Utf8.toList_eq]
    rfl
  rw [readAll, readAllLoop_eq, List.drop_zero, toList_bytesOf, hsize]
  rfl

end Varint

namespace CharSet
variable {n : Nat}

/-- The bounds of some ranges, of which the gaps and widths are given in turn. -/
def spread (start : Nat) : List Nat → List Nat
  | gap :: width :: rest => (start + gap) :: (start + gap + width) :: spread (start + gap + width + 1) rest
  | rest => rest

/-- Whether a number lies in a range. -/
def covers (n : Nat) : List Nat → Bool
  | lo :: hi :: rest => (lo ≤ n && n ≤ hi) || covers n rest
  | _ => false

theorem covers_of_getElem? {bounds : List Nat} {i lo hi : Nat} (hlo : bounds[2 * i]? = some lo)
    (hhi : bounds[2 * i + 1]? = some hi) (h : lo ≤ n ∧ n ≤ hi) : covers n bounds = true := by
  induction i generalizing bounds with
  | zero =>
    match bounds with
    | lo' :: hi' :: rest =>
      cases hlo
      cases hhi
      simp [covers, h]
  | succ i ih =>
    match bounds with
    | lo' :: hi' :: rest =>
      have hrest : covers n rest = true :=
        ih (by simpa [Nat.mul_add] using hlo) (by simpa [Nat.mul_add] using hhi)
      simp [covers, hrest]

/-- What is found lies in the range where the search ends. -/
theorem covers_of_within {s : CharSet} {fuel lo hi : Nat} (hhi : hi ≤ s.bounds.size / 2)
    (h : s.within n fuel lo hi = true) : covers n s.bounds.toList = true := by
  induction fuel generalizing lo hi with
  | zero => cases h
  | succ fuel ih =>
    rw [within] at h
    split at h
    · rename_i hlt
      dsimp only at h
      split at h
      · exact ih (by omega) h
      · split at h
        · exact ih hhi h
        · rename_i hlo hhi'
          have hmid : 2 * ((lo + hi) / 2) + 1 < s.bounds.size := by omega
          rw [Array.getD_eq_getD_getElem?, Array.getElem?_eq_getElem (by omega), Option.getD_some] at hlo
          rw [Array.getD_eq_getD_getElem?, Array.getElem?_eq_getElem hmid, Option.getD_some] at hhi'
          have hfirst : s.bounds.toList[2 * ((lo + hi) / 2)]? = some s.bounds[2 * ((lo + hi) / 2)] := by simp
          have hlast : s.bounds.toList[2 * ((lo + hi) / 2) + 1]? =
              some s.bounds[2 * ((lo + hi) / 2) + 1] := by simp
          exact covers_of_getElem? hfirst hlast (by omega)
    · cases h

/-- Unpacks the gap and the width of one range. -/
def unpack (acc : Array Nat × Nat) (i : Nat) : Array Nat × Nat :=
  let lo := acc.2 + acc.1.getD (2 * i) 0
  let hi := lo + acc.1.getD (2 * i + 1) 0
  ((acc.1.setIfInBounds (2 * i) lo).setIfInBounds (2 * i + 1) hi, hi + 1)

theorem unpack_eq {acc : Array Nat × Nat} {i gap width : Nat} {before rest : List Nat}
    (hi : before.length = 2 * i) (hacc : acc.1.toList = before ++ gap :: width :: rest) :
    (unpack acc i).1.toList = before ++ (acc.2 + gap) :: (acc.2 + gap + width) :: rest ∧
      (unpack acc i).2 = acc.2 + gap + width + 1 := by
  have hgap : acc.1.getD (2 * i) 0 = gap := by
    rw [Array.getD_eq_getD_getElem?, ← Array.getElem?_toList, hacc, ← hi]
    simp
  have hwidth : acc.1.getD (2 * i + 1) 0 = width := by
    rw [Array.getD_eq_getD_getElem?, ← Array.getElem?_toList, hacc, ← hi]
    simp
  refine ⟨?_, by rw [unpack, hgap, hwidth]⟩
  rw [unpack, hgap, hwidth]
  simp [hacc, ← hi]

theorem toList_foldl_unpack (k i : Nat) (acc : Array Nat × Nat) (before rest : List Nat)
    (hi : before.length = 2 * i) (hacc : acc.1.toList = before ++ rest) (hk : k = rest.length / 2) :
    ((List.range' i k).foldl unpack acc).1.toList = before ++ spread acc.2 rest := by
  induction k generalizing i acc before rest with
  | zero =>
    match rest with
    | [] => simpa [spread] using hacc
    | [x] => simpa [spread] using hacc
    | _ :: _ :: _ => simp at hk; omega
  | succ k ih =>
    match rest with
    | [] => simp at hk
    | [x] => simp at hk
    | gap :: width :: rest =>
      obtain ⟨hlist, hnext⟩ := unpack_eq hi hacc
      rw [List.range'_succ, List.foldl_cons,
        ih (i + 1) _ (before ++ [acc.2 + gap, acc.2 + gap + width]) rest (by simp; omega)
          (by simpa using hlist)
          (by simp at hk; omega), hnext]
      simp [spread]

theorem toList_bounds (packed : String) :
    (ofPacked packed).bounds.toList = spread 0 (Varint.readAll packed).toList := by
  have h :=
    toList_foldl_unpack ((Varint.readAll packed).size / 2) 0 (Varint.readAll packed, 0) [] _ rfl rfl (by simp)
  rw [← List.range_eq_range'] at h
  exact h

/-- Whether some ranges have nothing in common with the intervals that are given. -/
def avoids (intervals : List (Nat × Nat)) : List Nat → Bool
  | lo :: hi :: rest =>
    intervals.all (fun i => Nat.blt i.2 lo || Nat.blt hi i.1) && avoids intervals rest
  | _ => true

theorem covers_of_avoids {intervals : List (Nat × Nat)} {bounds : List Nat}
    (h : avoids intervals bounds = true) (hn : ∃ i ∈ intervals, i.1 ≤ n ∧ n ≤ i.2) :
    covers n bounds = false := by
  match bounds with
  | [] => rfl
  | [_] => rfl
  | lo :: hi :: rest =>
    obtain ⟨hapart, hrest⟩ := Bool.and_eq_true_iff.1 h
    have htail : covers n rest = false := covers_of_avoids hrest hn
    obtain ⟨i, hi, hfirst, hlast⟩ := hn
    have hout := List.all_eq_true.1 hapart i hi
    rw [Bool.or_eq_true, Nat.blt_eq, Nat.blt_eq] at hout
    simp only [covers, htail, Bool.or_false, Bool.and_eq_false_iff, decide_eq_false_iff_not]
    omega

/-- Whether the ranges of a packed table have nothing in common with some intervals. -/
def avoidsPacked (intervals : List (Nat × Nat)) (packed : List Char) : Bool :=
  let bytes := (Utf8.encode packed).filter fun b => !decide (b ≤ 32)
  avoids intervals (spread 0 (Varint.numbersOf bytes.length bytes))

theorem contains_eq_false {c : Char} {packed : List Char} {intervals : List (Nat × Nat)}
    (h : avoidsPacked intervals packed = true) (hc : ∃ i ∈ intervals, i.1 ≤ c.toNat ∧ c.toNat ≤ i.2) :
    (ofPacked (String.ofList packed)).contains c = false := by
  rw [Bool.eq_false_iff]
  intro hcontains
  have hcovers := covers_of_within (Nat.le_refl _) hcontains
  have hbytes : (String.ofList packed).toUTF8.toList = Utf8.encode packed := Utf8.eq_utf8Encode_iff.1 rfl
  rw [toList_bounds, Varint.toList_readAll, Varint.packedBytes, hbytes, covers_of_avoids h hc] at hcovers
  cases hcovers

end CharSet

/-- The blanks that are no ASCII characters, as intervals of code points. -/
def wideBlanks : List (Nat × Nat) :=
  [(0x85, 0x85), (0xA0, 0xA0), (0x1680, 0x1680), (0x2000, 0x200A), (0x2028, 0x2029), (0x202F, 0x202F),
    (0x205F, 0x205F), (0x3000, 0x3000)]

set_option maxRecDepth 100000 in
theorem contains_wideBlanks {c : Char} (h : ∃ i ∈ wideBlanks, i.1 ≤ c.toNat ∧ c.toNat ≤ i.2) :
    wordChars.contains c = false :=
  CharSet.contains_eq_false (by decide +kernel) h

theorem isWordChar_of_isBlank {c : Char} (h : isBlank c = true) : isWordChar c = false := by
  rw [isWordChar]
  split
  · have hcode : c.toNat ∈ [9, 10, 11, 12, 13, 32] := by
      simp [isBlank] at h ⊢
      omega
    have hall : ∀ n ∈ [9, 10, 11, 12, 13, 32], (Char.ofNat n).isAlphanum = false ∧
        Char.ofNat n ≠ '_' := by decide
    obtain ⟨halnum, hline⟩ := hall _ hcode
    rw [Char.ofNat_toNat] at halnum hline
    simp [halnum, hline]
  · refine contains_wideBlanks ?_
    simp [isBlank] at h
    simp [wideBlanks]
    omega

end SymbolIndex
