import ColumnRoles.Text.Symbol

/-!
Texts and their bytes. In the UTF-8 bytes of a text every character is found again, and no byte is
stray. The reader stands behind the bytes of the characters it has read, and it never needs more
steps than there are bytes, since no character takes less than one. A byte below 128 is always a
character of its own, so whoever looks for ASCII characters need not look at anything but bytes.
-/
namespace ColumnRoles.Text

/-- Behind some bytes the next character is found as if they were not there. -/
theorem utf8DecodeChar?_append_size (before behind : ByteArray) :
    (before ++ behind).utf8DecodeChar? before.size = behind.utf8DecodeChar? 0 := by
  have hrest : (before ++ behind).extract before.size (before ++ behind).size = behind := by
    rw [ByteArray.size_append, ByteArray.extract_append_eq_right rfl rfl]
  rw [ByteArray.utf8DecodeChar?_eq_utf8DecodeChar?_extract, hrest]

theorem utf8Encode_cons_append (before : ByteArray) (c : Char) (rest : List Char) :
    before ++ (c :: rest).utf8Encode = (before ++ [c].utf8Encode) ++ rest.utf8Encode := by
  rw [ByteArray.append_assoc, ← List.utf8Encode_append, List.singleton_append]

theorem size_append_utf8Encode_singleton (before : ByteArray) (c : Char) :
    (before ++ [c].utf8Encode).size = before.size + c.utf8Size := by
  rw [ByteArray.size_append, List.utf8Encode_singleton]
  simp

/-- No text has more characters than bytes. -/
theorem length_le_size_utf8Encode (chars : List Char) : chars.length ≤ chars.utf8Encode.size := by
  induction chars with
  | nil => exact Nat.zero_le _
  | cons c rest ih =>
    have hsize : (c :: rest).utf8Encode.size = c.utf8Size + rest.utf8Encode.size := by
      rw [← List.singleton_append, List.utf8Encode_append, ByteArray.size_append,
        List.utf8Encode_singleton]
      simp
    have hpos := c.utf8Size_pos
    rw [List.length_cons, hsize]
    omega

theorem symbolsFrom_utf8Encode (before : ByteArray) (chars : List Char) (fuel : Nat)
    (seen : List Symbol) (h : chars.length ≤ fuel) :
    symbolsFrom (before ++ chars.utf8Encode) fuel before.size seen =
      seen.reverse ++ chars.map some := by
  -- on the characters still to come; the bytes before them grow with every step
  induction chars generalizing before fuel seen with
  | nil =>
    have hend : ¬before.size < (before ++ ([] : List Char).utf8Encode).size := by simp
    cases fuel with
    | zero => simp [symbolsFrom]
    | succ fuel => rw [symbolsFrom, if_neg hend, List.map_nil, List.append_nil]
  | cons c rest ih =>
    cases fuel with
    | zero => simp at h
    | succ fuel =>
      have hmore : before.size < (before ++ (c :: rest).utf8Encode).size := by
        have hsize := length_le_size_utf8Encode (c :: rest)
        rw [ByteArray.size_append]
        rw [List.length_cons] at hsize
        omega
      have hchar : (before ++ (c :: rest).utf8Encode).utf8DecodeChar? before.size = some c := by
        rw [utf8DecodeChar?_append_size, List.utf8DecodeChar?_utf8Encode_cons]
      rw [symbolsFrom, if_pos hmore, hchar]
      have hrest := ih (before ++ [c].utf8Encode) fuel (some c :: seen) (Nat.le_of_succ_le_succ h)
      rw [← utf8Encode_cons_append, size_append_utf8Encode_singleton] at hrest
      simpa using hrest

/-- The bytes of a text have its characters as their symbols. -/
theorem symbols_toUTF8 (text : String) : symbols text.toUTF8 = symbolsOfText text := by
  have hbytes : text.toUTF8 = text.toList.utf8Encode := by simp
  have hfuel := length_le_size_utf8Encode text.toList
  have hread := symbolsFrom_utf8Encode ByteArray.empty text.toList _ [] hfuel
  rw [ByteArray.empty_append, ByteArray.size_empty] at hread
  rw [symbols, hbytes, hread]
  rfl

theorem text?_map_some (chars : List Char) :
    text? (chars.map some) = some (String.ofList chars) := by
  have hchars : chars? (chars.map some) = some chars := by
    unfold chars?
    induction chars with
    | nil => rfl
    | cons c rest ih =>
      rw [List.map_cons, List.mapM_cons, ih]
      rfl
  rw [text?, hchars, Option.map_some]

section Bytes

theorem ofBytes?_bytes (text : String) : ofBytes? (bytes text) = some text := by
  rw [ofBytes?, bytes, Array.toArray_toList, symbols_toUTF8, symbolsOfText, text?_map_some,
    String.ofList_toList]

theorem bytes_eq_flatMap (text : String) :
    bytes text = text.toList.flatMap String.utf8EncodeChar := by
  have hbytes : text.toUTF8 = text.toList.utf8Encode := by simp
  rw [bytes, hbytes, List.utf8Encode, List.toList_data_toByteArray]

variable {c : Char}

theorem utf8Size_eq_one_iff : c.utf8Size = 1 ↔ c.toNat < 128 := by
  rw [Char.utf8Size_eq_one_iff, UInt32.le_iff_toNat_le]
  exact Nat.lt_succ_iff.symm

theorem utf8EncodeChar_of_lt (h : c.toNat < 128) : String.utf8EncodeChar c = [c.toUInt8] :=
  String.utf8EncodeChar_eq_singleton (utf8Size_eq_one_iff.mpr h)

theorem toUInt8_mem_utf8EncodeChar (h : c.toNat < 128) :
    c.toUInt8 ∈ String.utf8EncodeChar c := by
  rw [utf8EncodeChar_of_lt h]
  exact List.mem_singleton_self _

/-- A character outside ASCII has no byte in ASCII. -/
theorem le_of_mem_utf8EncodeChar (hc : 128 ≤ c.toNat) {byte : UInt8}
    (h : byte ∈ String.utf8EncodeChar c) : 128 ≤ byte := by
  -- each of its bytes has a mark of 128 or more
  have hmarked : ∀ mark part : UInt8, 128 ≤ mark → 128 ≤ part ||| mark := fun _ _ hmark =>
    UInt8.le_trans hmark UInt8.right_le_or
  have hsize : c.utf8Size ≠ 1 := fun hone => absurd (utf8Size_eq_one_iff.mp hone) (by omega)
  rcases (Char.utf8Size_eq c).resolve_left hsize with htwo | hthree | hfour
  · rw [String.utf8EncodeChar_eq_cons_cons htwo] at h
    simp only [List.mem_cons, List.not_mem_nil, or_false] at h
    rcases h with rfl | rfl <;> exact hmarked _ _ (by decide)
  · rw [String.utf8EncodeChar_eq_cons_cons_cons hthree] at h
    simp only [List.mem_cons, List.not_mem_nil, or_false] at h
    rcases h with rfl | rfl | rfl <;> exact hmarked _ _ (by decide)
  · rw [String.utf8EncodeChar_eq_cons_cons_cons_cons hfour] at h
    simp only [List.mem_cons, List.not_mem_nil, or_false] at h
    rcases h with rfl | rfl | rfl | rfl <;> exact hmarked _ _ (by decide)

theorem toNat_toUInt8 (h : c.toNat < 128) : c.toUInt8.toNat = c.toNat := by
  have hval : c.val.toNat = c.toNat := rfl
  rw [Char.toUInt8, UInt32.toNat_toUInt8, hval]
  omega

/-- Among the bytes of a character that of an ASCII character is found only if they are the same. -/
theorem eq_toUInt8_iff {ascii : Char} (hascii : ascii.toNat < 128) {byte : UInt8}
    (h : byte ∈ String.utf8EncodeChar c) : byte = ascii.toUInt8 ↔ c = ascii := by
  by_cases hc : c.toNat < 128
  · rw [utf8EncodeChar_of_lt hc, List.mem_singleton] at h
    rw [h, ← UInt8.toNat_inj, toNat_toUInt8 hc, toNat_toUInt8 hascii, Char.toNat_inj]
  · have hbyte := UInt8.le_iff_toNat_le.mp (le_of_mem_utf8EncodeChar (by omega) h)
    refine iff_of_false ?_ ?_
    · rintro rfl
      rw [toNat_toUInt8 hascii] at hbyte
      exact absurd hascii (Nat.not_lt.mpr hbyte)
    · rintro rfl
      exact hc hascii

end Bytes

end ColumnRoles.Text
