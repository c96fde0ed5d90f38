import FastCgi.Proofs.Pairs

/-!
# Texts that are read back

The bytes of a text are read back as that text. The first byte of a character says how many others
it has, and narrows the range of the second so that no character can be spelled in two ways; a
character that is encoded has its second byte in that range. `Utf8.char_encode` goes through the
four lengths, and induction on the characters gives the whole text (`Utf8.decode_ofString`). Names
and values are texts, so pairs that were written are read back as the texts they were
(`NameValue.decode_encode`).
-/

namespace FastCgi

namespace Utf8

/-! ## One character -/

/-- A byte that continues a character and lies in the range asked for gives six more bits. -/
theorem continued_of_range {low high : UInt8} {n : Nat} (hn : n < 64) (hlow : low.toNat ≤ n + 128)
    (hhigh : n + 128 ≤ high.toNat) (owed code : Nat) (rest : Bytes) :
    continued low high (owed + 1) code (UInt8.ofNat (n + 128) :: rest) =
      continued 0x80 0xBF owed (code * 64 + n) rest := by
  have hbyte : (UInt8.ofNat (n + 128)).toNat = n + 128 := by
    rw [UInt8.toNat_ofNat']
    omega
  have hrange : low ≤ UInt8.ofNat (n + 128) ∧ UInt8.ofNat (n + 128) ≤ high := by
    rw [UInt8.le_iff_toNat_le, UInt8.le_iff_toNat_le, hbyte]
    exact ⟨hlow, hhigh⟩
  have hbits : (n + 128) % 64 = n := by omega
  rw [continued, if_pos hrange, hbyte, hbits]

/-- A byte that continues a character and may be any such byte gives six more bits. -/
theorem continued_of_lt {n : Nat} (hn : n < 64) (owed code : Nat) (rest : Bytes) :
    continued 0x80 0xBF (owed + 1) code (UInt8.ofNat (n + 128) :: rest) =
      continued 0x80 0xBF owed (code * 64 + n) rest :=
  continued_of_range hn (Nat.le_add_left ..) (by simp; omega) ..

/-- The cases of a first byte, told by its number. -/
theorem char_ofNat {n : Nat} (hn : n < 256) (rest : Bytes) :
    char (UInt8.ofNat n) rest =
      if n < 0x80 then (Char.ofNat n, rest)
      else if n < 0xC2 then (replacement, rest)
      else if n < 0xE0 then continued 0x80 0xBF 1 (n % 32) rest
      else if n = 0xE0 then continued 0xA0 0xBF 2 0 rest
      else if n = 0xED then continued 0x80 0x9F 2 13 rest
      else if n < 0xF0 then continued 0x80 0xBF 2 (n % 16) rest
      else if n = 0xF0 then continued 0x90 0xBF 3 0 rest
      else if n < 0xF4 then continued 0x80 0xBF 3 (n % 8) rest
      else if n = 0xF4 then continued 0x80 0x8F 3 4 rest
      else (replacement, rest) := by
  have hbyte : (UInt8.ofNat n).toNat = n := by
    rw [UInt8.toNat_ofNat']
    omega
  simp only [char, UInt8.lt_iff_toNat_lt, ← UInt8.toNat_inj, hbyte, UInt8.reduceToNat]

/-! The four lengths. What is said of a number is all that the bytes of its length can spell. -/

section

variable {n : Nat} (rest : Bytes)

/-- A number that needs two bytes is read back from them. -/
theorem char_two (hlow : 0x80 ≤ n) (hhigh : n < 0x800) :
    char (UInt8.ofNat (n / 64 % 32 + 192)) (UInt8.ofNat (n % 64 + 128) :: rest) =
      (Char.ofNat n, rest) := by
  have hcode : (n / 64 % 32 + 192) % 32 * 64 + n % 64 = n := by omega
  rw [char_ofNat (by omega), if_neg (by omega), if_neg (by omega), if_pos (by omega),
    continued_of_lt (by omega), hcode, continued]

/-- A number that needs three bytes is read back from them, unless it is that of a surrogate. -/
theorem char_three (hlow : 0x800 ≤ n) (hhigh : n < 0x10000) (hvalid : n < 0xD800 ∨ 0xDFFF < n) :
    char (UInt8.ofNat (n / 4096 % 16 + 224))
        (UInt8.ofNat (n / 64 % 64 + 128) :: UInt8.ofNat (n % 64 + 128) :: rest) =
      (Char.ofNat n, rest) := by
  rw [char_ofNat (by omega), if_neg (by omega), if_neg (by omega), if_neg (by omega)]
  split
  · -- The second byte spells no number that two bytes could.
    have hcode : (0 * 64 + n / 64 % 64) * 64 + n % 64 = n := by omega
    rw [continued_of_range (by omega) (by simp; omega) (by simp; omega),
      continued_of_lt (by omega), hcode, continued]
  split
  · -- The second byte spells no surrogate.
    have hcode : (13 * 64 + n / 64 % 64) * 64 + n % 64 = n := by omega
    rw [continued_of_range (by omega) (by simp) (by simp; omega),
      continued_of_lt (by omega), hcode, continued]
  · have hcode : ((n / 4096 % 16 + 224) % 16 * 64 + n / 64 % 64) * 64 + n % 64 = n := by omega
    rw [if_pos (by omega), continued_of_lt (by omega), continued_of_lt (by omega), hcode,
      continued]

/-- A number that needs four bytes is read back from them, if there is such a character. -/
theorem char_four (hlow : 0x10000 ≤ n) (hhigh : n < 0x110000) :
    char (UInt8.ofNat (n / 262144 % 8 + 240))
        (UInt8.ofNat (n / 4096 % 64 + 128) :: UInt8.ofNat (n / 64 % 64 + 128) ::
          UInt8.ofNat (n % 64 + 128) :: rest) =
      (Char.ofNat n, rest) := by
  rw [char_ofNat (by omega), if_neg (by omega), if_neg (by omega), if_neg (by omega),
    if_neg (by omega), if_neg (by omega), if_neg (by omega)]
  split
  · -- The second byte spells no number that three bytes could.
    have hcode : ((0 * 64 + n / 4096 % 64) * 64 + n / 64 % 64) * 64 + n % 64 = n := by omega
    rw [continued_of_range (by omega) (by simp; omega) (by simp; omega),
      continued_of_lt (by omega), continued_of_lt (by omega), hcode, continued]
  split
  · have hcode : (((n / 262144 % 8 + 240) % 8 * 64 + n / 4096 % 64) * 64 + n / 64 % 64) * 64 +
        n % 64 = n := by omega
    rw [continued_of_lt (by omega), continued_of_lt (by omega), continued_of_lt (by omega), hcode,
      continued]
  · -- The second byte spells no number above the last character.
    have hcode : ((4 * 64 + n / 4096 % 64) * 64 + n / 64 % 64) * 64 + n % 64 = n := by omega
    rw [if_pos (by omega), continued_of_range (by omega) (by simp) (by simp; omega),
      continued_of_lt (by omega), continued_of_lt (by omega), hcode, continued]

end

/-- A character is read back from its bytes, whatever follows them. -/
theorem char_encode (c : Char) (rest : Bytes) :
    ∃ b bytes, String.utf8EncodeChar c = b :: bytes ∧ char b (bytes ++ rest) = (c, rest) := by
  have hvalid : c.toNat < 0xD800 ∨ 0xDFFF < c.toNat ∧ c.toNat < 0x110000 := c.valid
  have hc : Char.ofNat c.toNat = c := Char.ofNat_toNat c
  have hval : c.val.toNat = c.toNat := rfl
  unfold String.utf8EncodeChar
  dsimp only
  rw [hval]
  split
  · refine ⟨_, _, rfl, ?_⟩
    rw [char_ofNat (by omega), if_pos (by omega), hc]
    rfl
  split
  · exact ⟨_, _, rfl, (char_two rest (by omega) (by omega)).trans (by rw [hc])⟩
  split
  · exact ⟨_, _, rfl, (char_three rest (by omega) (by omega) (by omega)).trans (by rw [hc])⟩
  · exact ⟨_, _, rfl, (char_four rest (by omega) (by omega)).trans (by rw [hc])⟩

/-! ## Texts -/

/-- Characters are read back from their bytes, one after another. -/
theorem chars_flatMap (text : List Char) : chars (text.flatMap String.utf8EncodeChar) = text := by
  induction text with
  | nil => simp [chars]
  | cons c text ih =>
    obtain ⟨b, bytes, hbytes, hchar⟩ := char_encode c (text.flatMap String.utf8EncodeChar)
    rw [List.flatMap_cons, hbytes, List.cons_append, chars, hchar]
    exact congrArg (c :: ·) ih

/-- The bytes of a text are those of its characters. -/
theorem ofString_eq (text : String) :
    Bytes.ofString text = text.toList.flatMap String.utf8EncodeChar := by
  have hbytes : text.toUTF8 = text.toList.utf8Encode := String.utf8Encode_toList.symm
  rw [Bytes.ofString, hbytes, List.utf8Encode]
  simp

/-- A text is read back from its bytes. -/
theorem decode_ofString (text : String) : decode (Bytes.ofString text) = text := by
  rw [← String.toList_inj, toList_decode, ofString_eq, chars_flatMap]

end Utf8

/-! ## Pairs of texts -/

namespace NameValue

/-- The texts of a pair are read back from its bytes. -/
theorem texts_bytes (pair : String × String) : texts (bytes pair) = pair :=
  Prod.ext (Utf8.decode_ofString pair.1) (Utf8.decode_ofString pair.2)

/-- Pairs that were written are read back as the texts they were. -/
theorem decode_encode {pairs : List (String × String)} (h : ∀ pair ∈ pairs, Short pair) :
    decode (encode pairs) = .ok pairs := by
  rw [decode_eq, items_encode h, if_pos rfl, List.map_map]
  have hid : texts ∘ bytes = id := funext texts_bytes
  rw [hid, List.map_id]

end NameValue

end FastCgi
