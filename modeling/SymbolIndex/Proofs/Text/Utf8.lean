import SymbolIndex.Text.Utf8

/-!
# Reading UTF-8 is the inverse of writing it

The reader goes by the table of the byte ranges that well-formed sequences are made of. They are the
sequences that characters are written as (`next_eq_char_iff`), so some bytes are a text in exactly
the cases in which the reader finds nothing invalid in them (`isValidUTF8_iff`), and the lenient
reading of a text is that text (`decodeLossy_toUTF8`).
-/
namespace SymbolIndex.Utf8
open String (utf8EncodeChar)

/-- A byte lies in a range of bytes. -/
def Within (lo hi b : UInt8) : Prop := lo.toNat ≤ b.toNat ∧ b.toNat ≤ hi.toNat

/-- The two bytes begin a character that has `more` further bytes. -/
def Opens (b c : UInt8) (more : Nat) : Prop := ∃ lo hi, tail? b = some (lo, hi, more) ∧ Within lo hi c

/-- A byte and those after it are a well-formed sequence. -/
def WellFormed (b : UInt8) : List UInt8 → Prop
  | [] => b.toNat < 0x80
  | c :: ds => Opens b c ds.length ∧ ∀ d ∈ ds, Within 0x80 0xBF d

/-- The code that a well-formed sequence stands for. -/
def code (b : UInt8) : List UInt8 → Nat
  | [] => b.toNat
  | c :: ds => ds.foldl extend (extend (leadingBits b ds.length) c)

section
variable {b c lo hi : UInt8} {more : Nat}

theorem within_iff : Within lo hi b ↔ (lo ≤ b && b ≤ hi) = true := by
  simp [Within, UInt8.le_iff_toNat_le]

theorem isAscii_iff : b < 0x80 ↔ b.toNat < 0x80 := UInt8.lt_iff_toNat_lt

theorem tail?_eq (b : UInt8) : tail? b =
    if 0xC2 ≤ b.toNat ∧ b.toNat ≤ 0xDF then some (0x80, 0xBF, 0)
    else if b.toNat = 0xE0 then some (0xA0, 0xBF, 1)
    else if b.toNat = 0xED then some (0x80, 0x9F, 1)
    else if 0xE1 ≤ b.toNat ∧ b.toNat ≤ 0xEF then some (0x80, 0xBF, 1)
    else if b.toNat = 0xF0 then some (0x90, 0xBF, 2)
    else if b.toNat = 0xF4 then some (0x80, 0x8F, 2)
    else if 0xF1 ≤ b.toNat ∧ b.toNat ≤ 0xF3 then some (0x80, 0xBF, 2)
    else none := by
  simp [tail?, UInt8.le_iff_toNat_le, ← UInt8.toNat_inj]

/-- Among the bytes that may follow a leading one are none that would make a code that is shorter to
write, a surrogate, or a code past the last. -/
theorem opens_iff : Opens b c more ↔ (0x80 ≤ c.toNat ∧ c.toNat ≤ 0xBF) ∧
    (more = 0 ∧ 0xC2 ≤ b.toNat ∧ b.toNat ≤ 0xDF ∨
      more = 1 ∧ (0xE0 ≤ b.toNat ∧ b.toNat ≤ 0xEF) ∧
        (b.toNat = 0xE0 → 0xA0 ≤ c.toNat) ∧ (b.toNat = 0xED → c.toNat ≤ 0x9F) ∨
      more = 2 ∧ (0xF0 ≤ b.toNat ∧ b.toNat ≤ 0xF4) ∧
        (b.toNat = 0xF0 → 0x90 ≤ c.toNat) ∧ (b.toNat = 0xF4 → c.toNat ≤ 0x8F)) := by
  simp only [Opens, tail?_eq, Within]
  repeat' split
  all_goals simp [and_assoc]
  all_goals omega

theorem Opens.bounds (h : Opens b c more) : more ≤ 2 ∧ 0x80 ≤ b.toNat := by
  have := opens_iff.1 h
  omega

end

variable {b : UInt8} {bs ds rest : List UInt8} {ch : Char}

/-! ## What the reader takes -/

theorem finish_append {n : Nat} (h : ∀ d ∈ ds, Within 0x80 0xBF d) :
    finish n ds.length (ds ++ rest) = (.char (Char.ofNat (ds.foldl extend n)), rest) := by
  induction ds generalizing n with
  | nil => rfl
  | cons d ds ih =>
    obtain ⟨hd, hds⟩ := List.forall_mem_cons.1 h
    simp only [List.length_cons, List.cons_append, finish, if_pos (within_iff.1 hd)]
    exact ih hds

theorem exists_of_finish {n more : Nat} (h : finish n more bs = (.char ch, rest)) :
    ∃ ds, ds.length = more ∧ (∀ d ∈ ds, Within 0x80 0xBF d) ∧ bs = ds ++ rest := by
  induction more generalizing n bs with
  | zero =>
    cases h
    exact ⟨[], rfl, by simp, rfl⟩
  | succ more ih =>
    cases bs with
    | nil => cases h
    | cons d bs =>
      simp only [finish] at h
      split at h
      · obtain ⟨ds, rfl, hds, rfl⟩ := ih h
        exact ⟨d :: ds, rfl, List.forall_mem_cons.2 ⟨within_iff.2 ‹_›, hds⟩, rfl⟩
      · cases h

theorem next_append (h : WellFormed b ds) : next b (ds ++ rest) = (.char (Char.ofNat (code b ds)), rest) := by
  cases ds with
  | nil => exact if_pos (isAscii_iff.2 h)
  | cons c ds =>
    obtain ⟨hopens, hds⟩ := h
    have hb : ¬ b < 0x80 := by
      rw [isAscii_iff]
      exact Nat.not_lt.2 hopens.bounds.2
    obtain ⟨lo, hi, htail, hc⟩ := hopens
    simp only [next, if_neg hb, htail, List.cons_append, if_pos (within_iff.1 hc)]
    exact finish_append hds

theorem exists_of_next (h : next b bs = (.char ch, rest)) : ∃ ds, WellFormed b ds ∧ bs = ds ++ rest := by
  unfold next at h
  split at h
  · cases h
    exact ⟨[], isAscii_iff.1 ‹_›, rfl⟩
  · split at h
    · rename_i lo hi more c cs htail
      split at h
      · obtain ⟨ds, rfl, hds, rfl⟩ := exists_of_finish h
        exact ⟨c :: ds, ⟨⟨lo, hi, htail, within_iff.2 ‹_›⟩, hds⟩, rfl⟩
      · cases h
    · cases h

/-! ## What characters are written as -/

theorem utf8EncodeChar_ofNat {n : Nat} (h : n.isValidChar) : utf8EncodeChar (Char.ofNat n) =
    if n ≤ 0x7F then [UInt8.ofNat n]
    else if n ≤ 0x7FF then [UInt8.ofNat (n / 64 % 32 + 0xC0), UInt8.ofNat (n % 64 + 0x80)]
    else if n ≤ 0xFFFF then
      [UInt8.ofNat (n / 4096 % 16 + 0xE0), UInt8.ofNat (n / 64 % 64 + 0x80), UInt8.ofNat (n % 64 + 0x80)]
    else
      [UInt8.ofNat (n / 262144 % 8 + 0xF0), UInt8.ofNat (n / 4096 % 64 + 0x80),
        UInt8.ofNat (n / 64 % 64 + 0x80), UInt8.ofNat (n % 64 + 0x80)] := by
  have hval : (Char.ofNat n).val.toNat = n := by
    rw [Char.ofNat, dif_pos h]
    rfl
  simp only [utf8EncodeChar, hval]

/-- A well-formed sequence is what its character is written as. -/
theorem utf8EncodeChar_code (h : WellFormed b ds) : utf8EncodeChar (Char.ofNat (code b ds)) = b :: ds := by
  -- One case for each number of bytes. The bounds of the second byte are what makes the code valid, and too
  -- large to be written with fewer.
  match ds, h with
  | [], h =>
    have h : b.toNat < 0x80 := h
    rw [code, utf8EncodeChar_ofNat (.inl (by omega)), if_pos (by omega), UInt8.ofNat_toNat]
  | [c], ⟨hopens, _⟩ =>
    have hb : 0xC2 ≤ b.toNat ∧ b.toNat ≤ 0xDF := by simpa using (opens_iff.1 hopens).2
    have hc := (opens_iff.1 hopens).1
    have hcode : code b [c] = (b.toNat - 0xC0) * 64 + (c.toNat - 0x80) := by
      simp [code, extend, leadingBits]
      omega
    rw [hcode, utf8EncodeChar_ofNat (.inl (by omega)), if_neg (by omega), if_pos (by omega)]
    simp only [List.cons.injEq, ← UInt8.toNat_inj, UInt8.toNat_ofNat', Nat.reducePow, and_true]
    omega
  | [c, d], ⟨hopens, hds⟩ =>
    have hd : 0x80 ≤ d.toNat ∧ d.toNat ≤ 0xBF := hds d (by simp)
    obtain ⟨hc, hb⟩ := opens_iff.1 hopens
    obtain ⟨hb, hshort, hsurrogate⟩ := by simpa using hb
    have hcode : code b [c, d] = (b.toNat - 0xE0) * 4096 + (c.toNat - 0x80) * 64 + (d.toNat - 0x80) := by
      simp [code, extend, leadingBits]
      omega
    have hvalid : (code b [c, d]).isValidChar := by
      rw [hcode]
      unfold Nat.isValidChar
      omega
    rw [utf8EncodeChar_ofNat hvalid, hcode, if_neg (by omega), if_neg (by omega), if_pos (by omega)]
    simp only [List.cons.injEq, ← UInt8.toNat_inj, UInt8.toNat_ofNat', Nat.reducePow, and_true]
    omega
  | [c, d, e], ⟨hopens, hds⟩ =>
    have hd : 0x80 ≤ d.toNat ∧ d.toNat ≤ 0xBF := hds d (by simp)
    have he : 0x80 ≤ e.toNat ∧ e.toNat ≤ 0xBF := hds e (by simp)
    obtain ⟨hc, hb⟩ := opens_iff.1 hopens
    obtain ⟨hb, hshort, hlast⟩ := by simpa using hb
    have hcode : code b [c, d, e] =
        (b.toNat - 0xF0) * 262144 + (c.toNat - 0x80) * 4096 + (d.toNat - 0x80) * 64 + (e.toNat - 0x80) := by
      simp [code, extend, leadingBits]
      omega
    have hvalid : (code b [c, d, e]).isValidChar := by
      rw [hcode]
      unfold Nat.isValidChar
      omega
    rw [utf8EncodeChar_ofNat hvalid, hcode, if_neg (by omega), if_neg (by omega), if_neg (by omega)]
    simp only [List.cons.injEq, ← UInt8.toNat_inj, UInt8.toNat_ofNat', Nat.reducePow, and_true]
    omega
  | c :: d :: e :: f :: ds, ⟨hopens, _⟩ =>
    have := hopens.bounds.1
    simp at this

theorem exists_wellFormed (ch : Char) : ∃ b ds, utf8EncodeChar ch = b :: ds ∧ WellFormed b ds := by
  have hvalid : ch.val.toNat.isValidChar := ch.valid
  unfold Nat.isValidChar at hvalid
  unfold utf8EncodeChar
  generalize ch.val.toNat = n at hvalid
  dsimp only
  split
  · refine ⟨_, _, rfl, ?_⟩
    show _ < _
    rw [UInt8.toNat_ofNat']
    omega
  · split
    · refine ⟨_, _, rfl, opens_iff.2 ?_, by simp⟩
      simp
      omega
    · split
      · refine ⟨_, _, rfl, opens_iff.2 ?_, ?_⟩
        · simp
          omega
        · simp [Within]
          omega
      · refine ⟨_, _, rfl, opens_iff.2 ?_, ?_⟩
        · simp
          omega
        · simp [Within]
          omega

theorem utf8EncodeChar_injective {c d : Char} (h : utf8EncodeChar c = utf8EncodeChar d) : c = d := by
  have hc := @ByteArray.utf8DecodeChar?_utf8EncodeChar_append ByteArray.empty c
  rw [h, ByteArray.utf8DecodeChar?_utf8EncodeChar_append] at hc
  exact (Option.some.inj hc).symm

/-- The reader takes a character off the front of some bytes in exactly the cases in which they begin
with it. -/
theorem next_eq_char_iff : next b bs = (.char ch, rest) ↔ b :: bs = utf8EncodeChar ch ++ rest := by
  constructor
  · intro h
    obtain ⟨ds, hds, rfl⟩ := exists_of_next h
    rw [next_append hds] at h
    cases h
    rw [utf8EncodeChar_code hds]
    rfl
  · intro h
    obtain ⟨b', ds, hch, hds⟩ := exists_wellFormed ch
    obtain ⟨rfl, rfl⟩ : b = b' ∧ bs = ds ++ rest := by simpa [hch] using h
    rw [next_append hds, utf8EncodeChar_injective (utf8EncodeChar_code hds |>.trans hch.symm)]

/-! ## Whole texts -/

/-- The bytes of some characters. -/
def encode (cs : List Char) : List UInt8 := cs.flatMap utf8EncodeChar

@[simp] theorem encode_nil : encode [] = [] := rfl

@[simp] theorem encode_cons (c : Char) (cs : List Char) : encode (c :: cs) = utf8EncodeChar c ++ encode cs :=
  List.flatMap_cons

/-- The bytes are some, but do not begin with a character. -/
def Stuck : List UInt8 → Prop
  | [] => False
  | b :: bs => (next b bs).1 = .bad

theorem exists_next (ch : Char) (rest : List UInt8) :
    ∃ b bs, utf8EncodeChar ch ++ rest = b :: bs ∧ next b bs = (.char ch, rest) := by
  obtain ⟨b, ds, hch, hds⟩ := exists_wellFormed ch
  exact ⟨b, ds ++ rest, by simp [hch], next_eq_char_iff.2 (by simp [hch])⟩

theorem decode_encode_append (cs : List Char) (rest : List UInt8) (acc : Array Char) :
    decode (encode cs ++ rest) acc = decode rest (acc ++ cs.toArray) := by
  induction cs generalizing acc with
  | nil => simp
  | cons c cs ih =>
    obtain ⟨b, bs, hbytes, hnext⟩ := exists_next c (encode cs ++ rest)
    rw [encode_cons, List.append_assoc, hbytes, decode, hnext]
    simp [ih]

theorem invalidFrom?_encode_append (cs : List Char) (rest : List UInt8) (n : Nat) :
    invalidFrom? (encode cs ++ rest) n = invalidFrom? rest (n + (encode cs).length) := by
  induction cs generalizing n with
  | nil => simp
  | cons c cs ih =>
    obtain ⟨b, bs, hbytes, hnext⟩ := exists_next c (encode cs ++ rest)
    rw [encode_cons, List.append_assoc, hbytes, invalidFrom?, hnext]
    simp [ih, Nat.add_assoc]

theorem invalidFrom?_of_stuck {n : Nat} (h : Stuck rest) : invalidFrom? rest n = some n := by
  cases rest with
  | nil => cases h
  | cons b bs =>
    have h : (next b bs).1 = .bad := h
    rw [invalidFrom?, h]

/-- Some bytes are the characters that they begin with, and what is left when no more can be read. -/
theorem exists_eq_encode_append (bs : List UInt8) :
    ∃ cs rest, bs = encode cs ++ rest ∧ (rest = [] ∨ Stuck rest) := by
  induction bs, 0 using invalidFrom?.induct with
  | case1 n => exact ⟨[], [], rfl, .inl rfl⟩
  | case2 n b bs c h ih =>
    obtain ⟨cs, rest, hrest, hend⟩ := ih
    have hbytes : b :: bs = utf8EncodeChar c ++ (next b bs).2 := next_eq_char_iff.1 (Prod.ext h rfl)
    exact ⟨c :: cs, rest, by rw [hbytes, hrest, encode_cons, List.append_assoc], hend⟩
  | case3 n b bs h => exact ⟨[], b :: bs, rfl, .inr h⟩

theorem invalidFrom?_eq_none_iff {n : Nat} : invalidFrom? bs n = none ↔ ∃ cs, bs = encode cs := by
  obtain ⟨cs, rest, rfl, hend⟩ := exists_eq_encode_append bs
  constructor
  · intro h
    rcases hend with rfl | hstuck
    · exact ⟨cs, by simp⟩
    · rw [invalidFrom?_encode_append, invalidFrom?_of_stuck hstuck] at h
      cases h
  · rintro ⟨ds, hds⟩
    have hall := invalidFrom?_encode_append ds [] n
    rw [List.append_nil, invalidFrom?] at hall
    rw [hds, hall]

/-! ### How many bytes some characters take -/

theorem encode_append (cs ds : List Char) : encode (cs ++ ds) = encode cs ++ encode ds := List.flatMap_append

theorem length_le_length_encode (cs : List Char) : cs.length ≤ (encode cs).length := by
  induction cs with
  | nil => exact Nat.zero_le _
  | cons c cs ih =>
    have := c.utf8Size_pos
    rw [encode_cons, List.length_append, String.length_utf8EncodeChar, List.length_cons]
    omega

theorem length_encode_eq_iff {cs : List Char} : (encode cs).length = cs.length ↔ ∀ c ∈ cs, c.val ≤ 127 := by
  induction cs with
  | nil => simp
  | cons c cs ih =>
    have hpos := c.utf8Size_pos
    have hle := length_le_length_encode cs
    rw [List.forall_mem_cons, ← ih, ← Char.utf8Size_eq_one_iff, encode_cons, List.length_append,
      String.length_utf8EncodeChar, List.length_cons]
    omega

/-- Among the bytes of a character there is no line feed, unless it is one. -/
theorem feed_mem_iff {c : Char} : 10 ∈ utf8EncodeChar c ↔ c = '\n' := by
  constructor
  · intro h
    have hvalid : c.val.toNat.isValidChar := c.valid
    unfold Nat.isValidChar at hvalid
    rw [← Char.toNat_inj]
    show c.val.toNat = 10
    unfold utf8EncodeChar at h
    generalize c.val.toNat = n at h hvalid
    dsimp only at h
    split at h
    · simp [← UInt8.toNat_inj] at h
      omega
    · split at h
      · simp [← UInt8.toNat_inj] at h
        omega
      · split at h
        · simp [← UInt8.toNat_inj] at h
          omega
        · simp [← UInt8.toNat_inj] at h
          omega
  · rintro rfl
    decide

theorem count_feed_encode (cs : List Char) : (encode cs).count 10 = cs.count '\n' := by
  induction cs with
  | nil => rfl
  | cons c cs ih =>
    rw [encode_cons, List.count_append, ih, List.count_cons]
    by_cases hc : c = '\n'
    · subst hc
      have : (utf8EncodeChar '\n').count 10 = 1 := by decide
      simp [this, Nat.add_comm]
    · rw [List.count_eq_zero_of_not_mem (mt feed_mem_iff.1 hc)]
      simp [hc]

/-! ## Byte arrays -/

theorem drop_data {bytes : ByteArray} {i : Nat} (h : i < bytes.size) :
    bytes.data.toList.drop i = bytes.get! i :: bytes.data.toList.drop (i + 1) := by
  have hi : i < bytes.data.toList.length := by simpa using h
  have hget : bytes.get! i = bytes.data.toList[i] := by
    simp only [ByteArray.get!, Array.getElem_toList]
    exact getElem!_pos bytes.data i (by simpa using h)
  rw [List.drop_eq_getElem_cons hi, hget]

theorem drop_data_of_le {bytes : ByteArray} {i : Nat} (h : ¬ i < bytes.size) :
    bytes.data.toList.drop i = [] :=
  List.drop_eq_nil_of_le (by simpa using h)

theorem toList_loop (bytes : ByteArray) (i : Nat) (acc : List UInt8) :
    ByteArray.toList.loop bytes i acc = acc.reverse ++ bytes.data.toList.drop i := by
  induction i, acc using ByteArray.toList.loop.induct bytes with
  | case1 i acc hlt ih =>
    rw [ByteArray.toList.loop, if_pos hlt, ih, drop_data hlt]
    simp
  | case2 i acc hge =>
    rw [ByteArray.toList.loop, if_neg hge, drop_data_of_le hge]
    simp

theorem toList_eq (bytes : ByteArray) : bytes.toList = bytes.data.toList := by
  rw [ByteArray.toList, toList_loop]
  rfl

theorem eq_utf8Encode_iff {bytes : ByteArray} {cs : List Char} :
    bytes = cs.utf8Encode ↔ bytes.toList = encode cs := by
  rw [toList_eq, ByteArray.ext_iff, ← Array.toList_inj, List.utf8Encode, List.toList_data_toByteArray]
  rfl

/-- Bytes are a text in exactly the cases in which nothing invalid is found in them. -/
theorem isValidUTF8_iff {bytes : ByteArray} : bytes.IsValidUTF8 ↔ invalidFrom? bytes.toList 0 = none := by
  rw [invalidFrom?_eq_none_iff]
  constructor
  · rintro ⟨cs, h⟩
    exact ⟨cs, eq_utf8Encode_iff.1 h⟩
  · rintro ⟨cs, h⟩
    exact ⟨cs, eq_utf8Encode_iff.2 h⟩

theorem toList_toUTF8 (s : String) : s.toUTF8.toList = encode s.toList :=
  eq_utf8Encode_iff.1 String.utf8Encode_toList.symm

/-- A text is read as it was written. -/
theorem decodeLossy_toUTF8 (s : String) : decodeLossy s.toUTF8 = s := by
  have hall := decode_encode_append s.toList [] #[]
  rw [List.append_nil, decode] at hall
  rw [decodeLossy, toList_toUTF8, hall]
  simp

end SymbolIndex.Utf8
