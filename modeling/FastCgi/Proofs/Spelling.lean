import FastCgi.Proofs.Texts

/-!
# Bytes that are read as a text

A replacement character tells nothing of the bytes that it stands for, but any other character is
read off its own bytes only (`Utf8.eq_encode_of_char`): the range of the second byte excludes the
longer forms, the surrogates and the numbers above the last character. So a byte string is read as a
text without replacement characters exactly if it is the UTF-8 form of that text
(`Utf8.decode_eq_iff`).
-/

namespace FastCgi.Utf8

/-! ## The bytes of a character, by its number -/

/-- The bytes of a character by the size of its number, which is not that of a surrogate. -/
theorem encodeChar_ofNat {n : Nat} (hvalid : n < 0xD800 ∨ 0xDFFF < n ∧ n < 0x110000) :
    String.utf8EncodeChar (Char.ofNat n) =
      if n ≤ 127 then [UInt8.ofNat n]
      else if n ≤ 2047 then [UInt8.ofNat (n / 64 % 32 + 192), UInt8.ofNat (n % 64 + 128)]
      else if n ≤ 65535 then
        [UInt8.ofNat (n / 4096 % 16 + 224), UInt8.ofNat (n / 64 % 64 + 128),
          UInt8.ofNat (n % 64 + 128)]
      else
        [UInt8.ofNat (n / 262144 % 8 + 240), UInt8.ofNat (n / 4096 % 64 + 128),
          UInt8.ofNat (n / 64 % 64 + 128), UInt8.ofNat (n % 64 + 128)] := by
  have hval : (Char.ofNat n).val.toNat = n := by
    rw [Char.ofNat, dif_pos hvalid]
    rfl
  simp only [String.utf8EncodeChar, hval]

section

variable {x n₁ n₂ n₃ : Nat}

/-- Eleven bits are written in two bytes, if seven are not enough. -/
theorem encodeChar_two (hx : x < 32) (hn₁ : n₁ < 64) (hlow : 0x80 ≤ x * 64 + n₁) :
    String.utf8EncodeChar (Char.ofNat (x * 64 + n₁)) =
      [UInt8.ofNat (x + 192), UInt8.ofNat (n₁ + 128)] := by
  have hfirst : (x * 64 + n₁) / 64 % 32 = x := by omega
  have hsecond : (x * 64 + n₁) % 64 = n₁ := by omega
  rw [encodeChar_ofNat (by omega), if_neg (by omega), if_pos (by omega), hfirst, hsecond]

/-- Sixteen bits are written in three bytes, if eleven are not enough and they are no surrogate. -/
theorem encodeChar_three (hx : x < 16) (hn₁ : n₁ < 64) (hn₂ : n₂ < 64)
    (hlow : 0x800 ≤ (x * 64 + n₁) * 64) (hvalid : x * 64 + n₁ < 0x360 ∨ 0x380 ≤ x * 64 + n₁) :
    String.utf8EncodeChar (Char.ofNat ((x * 64 + n₁) * 64 + n₂)) =
      [UInt8.ofNat (x + 224), UInt8.ofNat (n₁ + 128), UInt8.ofNat (n₂ + 128)] := by
  have hfirst : ((x * 64 + n₁) * 64 + n₂) / 4096 % 16 = x := by omega
  have hsecond : ((x * 64 + n₁) * 64 + n₂) / 64 % 64 = n₁ := by omega
  have hthird : ((x * 64 + n₁) * 64 + n₂) % 64 = n₂ := by omega
  rw [encodeChar_ofNat (by omega), if_neg (by omega), if_neg (by omega), if_pos (by omega), hfirst,
    hsecond, hthird]

/-- Twenty-one bits are written in four bytes, if sixteen are not enough and there is such a
character. -/
theorem encodeChar_four (hx : x < 8) (hn₁ : n₁ < 64) (hn₂ : n₂ < 64) (hn₃ : n₃ < 64)
    (hlow : 0x10 ≤ x * 64 + n₁) (hhigh : x * 64 + n₁ < 0x110) :
    String.utf8EncodeChar (Char.ofNat (((x * 64 + n₁) * 64 + n₂) * 64 + n₃)) =
      [UInt8.ofNat (x + 240), UInt8.ofNat (n₁ + 128), UInt8.ofNat (n₂ + 128),
        UInt8.ofNat (n₃ + 128)] := by
  have hfirst : (((x * 64 + n₁) * 64 + n₂) * 64 + n₃) / 262144 % 8 = x := by omega
  have hsecond : (((x * 64 + n₁) * 64 + n₂) * 64 + n₃) / 4096 % 64 = n₁ := by omega
  have hthird : (((x * 64 + n₁) * 64 + n₂) * 64 + n₃) / 64 % 64 = n₂ := by omega
  have hfourth : (((x * 64 + n₁) * 64 + n₂) * 64 + n₃) % 64 = n₃ := by omega
  rw [encodeChar_ofNat (by omega), if_neg (by omega), if_neg (by omega), if_neg (by omega), hfirst,
    hsecond, hthird, hfourth]

end

/-! ## Reading a character -/

section

variable {low high b : UInt8} {owed code x : Nat} {bytes rest rest' : Bytes} {c : Char}
  (hc : c ≠ replacement)

include hc

/-- A character that goes on has a next byte in the range asked for. -/
theorem exists_of_continued (hlow : 0x80 ≤ low.toNat) (hhigh : high.toNat ≤ 0xBF)
    (h : continued low high (owed + 1) code bytes = (c, rest')) :
    ∃ n rest, bytes = UInt8.ofNat (n + 128) :: rest ∧ n < 64 ∧ low.toNat ≤ n + 128 ∧
      n + 128 ≤ high.toNat ∧ continued 0x80 0xBF owed (code * 64 + n) rest = (c, rest') := by
  cases bytes with
  | nil => exact absurd (congrArg Prod.fst h).symm hc
  | cons b rest =>
    rw [continued] at h
    split at h
    next hrange =>
      rw [UInt8.le_iff_toNat_le, UInt8.le_iff_toNat_le] at hrange
      have hbyte : b.toNat - 128 + 128 = b.toNat := by omega
      have hbits : b.toNat % 64 = b.toNat - 128 := by omega
      rw [hbits] at h
      refine ⟨b.toNat - 128, rest, ?_, by omega, by omega, by omega, h⟩
      rw [hbyte, UInt8.ofNat_toNat]
    next => exact absurd (congrArg Prod.fst h).symm hc

/-- A character that is read off two bytes has these two bytes. -/
theorem encode_of_continued_one (hx : x < 32) (hlow : 2 ≤ x)
    (h : continued 0x80 0xBF 1 x rest = (c, rest')) :
    UInt8.ofNat (x + 192) :: rest = String.utf8EncodeChar c ++ rest' := by
  obtain ⟨n₁, rest₁, rfl, hn₁, -, -, h⟩ := exists_of_continued hc (by simp) (by simp) h
  cases h
  rw [encodeChar_two hx hn₁ (by omega)]
  rfl

/-- A character that is read off three bytes has these three bytes, as the range of the second one
excludes shorter forms and surrogates. -/
theorem encode_of_continued_two (hx : x < 16) (hlow : 0x80 ≤ low.toNat) (hhigh : high.toNat ≤ 0xBF)
    (hfirst : 0x20 + 128 ≤ x * 64 + low.toNat)
    (hvalid : x * 64 + high.toNat < 0x360 + 128 ∨ 0x380 + 128 ≤ x * 64 + low.toNat)
    (h : continued low high 2 x rest = (c, rest')) :
    UInt8.ofNat (x + 224) :: rest = String.utf8EncodeChar c ++ rest' := by
  obtain ⟨n₁, rest₁, rfl, hn₁, hlow₁, hhigh₁, h⟩ := exists_of_continued hc hlow hhigh h
  obtain ⟨n₂, rest₂, rfl, hn₂, -, -, h⟩ := exists_of_continued hc (by simp) (by simp) h
  cases h
  rw [encodeChar_three hx hn₁ hn₂ (by omega) (by omega)]
  rfl

/-- A character that is read off four bytes has these four bytes, as the range of the second one
excludes shorter forms and numbers above the last character. -/
theorem encode_of_continued_three (hx : x < 8) (hlow : 0x80 ≤ low.toNat)
    (hhigh : high.toNat ≤ 0xBF) (hfirst : 0x10 + 128 ≤ x * 64 + low.toNat)
    (hlast : x * 64 + high.toNat < 0x110 + 128) (h : continued low high 3 x rest = (c, rest')) :
    UInt8.ofNat (x + 240) :: rest = String.utf8EncodeChar c ++ rest' := by
  obtain ⟨n₁, rest₁, rfl, hn₁, hlow₁, hhigh₁, h⟩ := exists_of_continued hc hlow hhigh h
  obtain ⟨n₂, rest₂, rfl, hn₂, -, -, h⟩ := exists_of_continued hc (by simp) (by simp) h
  obtain ⟨n₃, rest₃, rfl, hn₃, -, -, h⟩ := exists_of_continued hc (by simp) (by simp) h
  cases h
  rw [encodeChar_four hx hn₁ hn₂ hn₃ (by omega) (by omega)]
  rfl

/-- A character other than the replacement character is read off its own bytes only. -/
theorem eq_encode_of_char (h : char b rest = (c, rest')) :
    b :: rest = String.utf8EncodeChar c ++ rest' := by
  obtain ⟨k, hbyte, rfl⟩ : ∃ k < 256, b = UInt8.ofNat k :=
    ⟨b.toNat, b.toNat_lt, UInt8.ofNat_toNat.symm⟩
  rw [char_ofNat hbyte] at h
  -- The cases are the ranges of the first byte. Each has its own range for the second one.
  split at h
  next hone =>
    cases h
    rw [encodeChar_ofNat (by omega), if_pos (by omega)]
    rfl
  split at h
  next => exact absurd (congrArg Prod.fst h).symm hc
  split at h
  next =>
    have hx : k % 32 + 192 = k := by omega
    exact hx ▸ encode_of_continued_one hc (by omega) (by omega) h
  split at h
  next hk =>
    subst hk
    exact encode_of_continued_two hc (by omega) (by simp) (by simp) (by simp) (by simp) h
  split at h
  next hk =>
    subst hk
    exact encode_of_continued_two hc (by omega) (by simp) (by simp) (by simp) (by simp) h
  split at h
  next =>
    have hx : k % 16 + 224 = k := by omega
    exact hx ▸ encode_of_continued_two hc (by omega) (by simp) (by simp) (by simp; omega)
      (by simp; omega) h
  split at h
  next hk =>
    subst hk
    exact encode_of_continued_three hc (by omega) (by simp) (by simp) (by simp) (by simp) h
  split at h
  next =>
    have hx : k % 8 + 240 = k := by omega
    exact hx ▸ encode_of_continued_three hc (by omega) (by simp) (by simp) (by simp; omega)
      (by simp; omega) h
  split at h
  next hk =>
    subst hk
    exact encode_of_continued_three hc (by omega) (by simp) (by simp) (by simp) (by simp) h
  next => exact absurd (congrArg Prod.fst h).symm hc

end

/-! ## Reading a text -/

/-- Bytes that are read without replacement characters are those of the characters, one after
another. -/
theorem eq_encode_of_chars {bytes : Bytes} (h : replacement ∉ chars bytes) :
    bytes = (chars bytes).flatMap String.utf8EncodeChar := by
  induction bytes using chars.induct with
  | case1 => simp [chars]
  | case2 b rest _ ih =>
    rw [chars, List.mem_cons, not_or] at h
    have hchar : b :: rest = String.utf8EncodeChar (char b rest).1 ++ (char b rest).2 :=
      eq_encode_of_char (Ne.symm h.1) rfl
    rw [chars, List.flatMap_cons, ← ih h.2, ← hchar]

/-- A byte string is read as a text without replacement characters only if it is the UTF-8 form of
that text. -/
theorem decode_eq_iff {text : String} (h : replacement ∉ text.toList) {bytes : Bytes} :
    decode bytes = text ↔ bytes = Bytes.ofString text := by
  constructor
  · rintro rfl
    rw [toList_decode] at h
    rw [ofString_eq, toList_decode]
    exact eq_encode_of_chars h
  · rintro rfl
    exact decode_ofString text

end FastCgi.Utf8
