import FastCgi.Bytes

/-!
# Reading UTF-8 without refusing anything

A peer may send names and values that are not well-formed UTF-8. They are still read as text: every
maximal subpart of an ill-formed sequence, that is, every longest run of bytes that a well-formed
character could have begun with, becomes one replacement character, and a byte that no character
begins with becomes one of its own. `Utf8.chars` is that rule read off byte by byte, and
`Utf8.decode` is the text it gives.
-/

namespace FastCgi.Utf8

/-- The character that stands for bytes that are not UTF-8. -/
def replacement : Char := '\uFFFD'

/-- Reads the `owed` bytes that continue a character, the first of which lies between `low` and
`high`. The bits read so far are in `code`. A byte out of range is not consumed: the bytes before it
are a maximal subpart, and reading goes on with that byte. -/
def continued (low high : UInt8) : (owed : Nat) → (code : Nat) → Bytes → Char × Bytes
  | 0, code, bytes => (Char.ofNat code, bytes)
  | _ + 1, _, [] => (replacement, [])
  | owed + 1, code, b :: rest =>
    if low ≤ b ∧ b ≤ high then continued 0x80 0xBF owed (code * 64 + b.toNat % 64) rest
    else (replacement, b :: rest)

/-- The character that begins with the byte `b`, or a replacement character, and the bytes after
it. The first byte fixes how many follow and, where a longer form, a surrogate or a number above
the last character would be spelled, narrows the range of the second. -/
def char (b : UInt8) (rest : Bytes) : Char × Bytes :=
  if b < 0x80 then (Char.ofNat b.toNat, rest)
  else if b < 0xC2 then (replacement, rest)
  else if b < 0xE0 then continued 0x80 0xBF 1 (b.toNat % 32) rest
  else if b = 0xE0 then continued 0xA0 0xBF 2 0 rest
  else if b = 0xED then continued 0x80 0x9F 2 13 rest
  else if b < 0xF0 then continued 0x80 0xBF 2 (b.toNat % 16) rest
  else if b = 0xF0 then continued 0x90 0xBF 3 0 rest
  else if b < 0xF4 then continued 0x80 0xBF 3 (b.toNat % 8) rest
  else if b = 0xF4 then continued 0x80 0x8F 3 4 rest
  else (replacement, rest)

/-- To go on with a character never puts bytes back. -/
theorem length_continued_le (low high : UInt8) (owed code : Nat) (bytes : Bytes) :
    (continued low high owed code bytes).2.length ≤ bytes.length := by
  induction owed generalizing low high code bytes with
  | zero => simp [continued]
  | succ owed ih =>
    cases bytes with
    | nil => simp [continued]
    | cons b rest =>
      simp only [continued]
      split
      · exact Nat.le_succ_of_le (ih 0x80 0xBF _ rest)
      · simp

/-- What is left behind a character are bytes that stood behind its first one. -/
theorem length_char_le (b : UInt8) (rest : Bytes) : (char b rest).2.length ≤ rest.length := by
  unfold char
  repeat' split
  any_goals exact length_continued_le ..
  all_goals exact Nat.le_refl _

/-- The characters that a byte string spells, with a replacement character for every maximal
subpart of an ill-formed sequence. -/
def chars : Bytes → List Char
  | [] => []
  | b :: rest =>
    have := length_char_le b rest
    (char b rest).1 :: chars (char b rest).2
termination_by bytes => bytes.length

/-- `chars` with the characters already read, newest first, in hand. -/
def charsOnto (read : List Char) : Bytes → List Char
  | [] => read.reverse
  | b :: rest =>
    match h : char b rest with
    | (c, rest') =>
      have : rest'.length ≤ rest.length := by simpa [h] using length_char_le b rest
      charsOnto (c :: read) rest'
termination_by bytes => bytes.length

/-- The loop with the characters in hand reads the same characters as the recursion. -/
theorem charsOnto_eq (read : List Char) (bytes : Bytes) :
    charsOnto read bytes = read.reverse ++ chars bytes := by
  induction bytes using chars.induct generalizing read with
  | case1 => simp [charsOnto, chars]
  | case2 b rest _ ih =>
    rw [charsOnto, chars]
    simp [ih]

/-- The text of a byte string. It is the UTF-8 text itself where the bytes are well-formed. -/
def decode (bytes : Bytes) : String := String.ofList (charsOnto [] bytes)

/-- The text of a byte string is made of the characters that are read off it. -/
theorem toList_decode (bytes : Bytes) : (decode bytes).toList = chars bytes := by
  simp [decode, charsOnto_eq]

end FastCgi.Utf8
