/-!
# Byte strings

Everything that crosses a connection is a list of bytes. This module holds the two things the
wire formats ask of such a list: whether it is long enough (`Bytes.atLeast`, which looks no further
than it has to), and numbers of two and four bytes, most significant byte first. `ofBytes_toBytes`
says that such a number reads back.
-/

namespace FastCgi

/-- A byte string. -/
abbrev Bytes := List UInt8

/-- Whether a byte string has at least `n` bytes. It looks at no more than `n` of them, so the
answer costs nothing on a long string. -/
def Bytes.atLeast : Nat → Bytes → Bool
  | 0, _ => true
  | _ + 1, [] => false
  | n + 1, _ :: rest => Bytes.atLeast n rest

/-- To look at no more than `n` bytes is enough to compare the length with `n`. -/
theorem Bytes.atLeast_eq_decide (n : Nat) (bytes : Bytes) :
    Bytes.atLeast n bytes = decide (n ≤ bytes.length) := by
  induction n generalizing bytes with
  | zero => simp [Bytes.atLeast]
  | succ n ih => cases bytes <;> simp [Bytes.atLeast, ih]

/-- The check says of any string, however long, whether it has that many bytes. -/
@[simp]
theorem Bytes.atLeast_iff {n : Nat} {bytes : Bytes} :
    Bytes.atLeast n bytes = true ↔ n ≤ bytes.length := by
  simp [Bytes.atLeast_eq_decide]

/-- The UTF-8 form of a text. -/
def Bytes.ofString (text : String) : Bytes := text.toUTF8.data.toList

/-! ## Numbers of two bytes -/

namespace BigEndian16

/-- The two bytes of a number, the more significant one first. -/
def toBytes (n : UInt16) : Bytes := [UInt8.ofNat (n.toNat / 256), n.toUInt8]

/-- The number that two bytes spell. -/
def ofBytes (high low : UInt8) : UInt16 := UInt16.ofNat (high.toNat * 256 + low.toNat)

@[simp]
theorem length_toBytes (n : UInt16) : (toBytes n).length = 2 := rfl

/-- A number of two bytes is read back from them. -/
theorem ofBytes_toBytes (n : UInt16) :
    ofBytes (UInt8.ofNat (n.toNat / 256)) n.toUInt8 = n := by
  apply UInt16.toNat_inj.mp
  have := n.toNat_lt
  simp only [ofBytes, UInt16.toNat_ofNat', UInt8.toNat_ofNat', UInt16.toNat_toUInt8]
  omega

/-- Two bytes are written back from the number that they spell. -/
theorem toBytes_ofBytes (high low : UInt8) : toBytes (ofBytes high low) = [high, low] := by
  have := high.toNat_lt
  have := low.toNat_lt
  simp only [toBytes, ofBytes, List.cons.injEq, and_true]
  constructor <;> apply UInt8.toNat_inj.mp <;>
    simp only [UInt16.toNat_ofNat', UInt8.toNat_ofNat', UInt16.toNat_toUInt8] <;> omega

end BigEndian16

/-! ## Numbers of four bytes -/

namespace BigEndian32

/-- The four bytes of a number, the most significant one first. -/
def toBytes (n : UInt32) : Bytes :=
  [UInt8.ofNat (n.toNat / 16777216), UInt8.ofNat (n.toNat / 65536), UInt8.ofNat (n.toNat / 256),
    n.toUInt8]

/-- The number that four bytes spell. -/
def ofBytes (b₀ b₁ b₂ b₃ : UInt8) : UInt32 :=
  UInt32.ofNat (((b₀.toNat * 256 + b₁.toNat) * 256 + b₂.toNat) * 256 + b₃.toNat)

@[simp]
theorem length_toBytes (n : UInt32) : (toBytes n).length = 4 := rfl

/-- A number of four bytes is read back from them. -/
theorem ofBytes_toBytes (n : UInt32) :
    ofBytes (UInt8.ofNat (n.toNat / 16777216)) (UInt8.ofNat (n.toNat / 65536))
      (UInt8.ofNat (n.toNat / 256)) n.toUInt8 = n := by
  apply UInt32.toNat_inj.mp
  have := n.toNat_lt
  simp only [ofBytes, UInt32.toNat_ofNat', UInt8.toNat_ofNat', UInt32.toNat_toUInt8]
  omega

/-- Four bytes are written back from the number that they spell. -/
theorem toBytes_ofBytes (b₀ b₁ b₂ b₃ : UInt8) : toBytes (ofBytes b₀ b₁ b₂ b₃) = [b₀, b₁, b₂, b₃] := by
  have := b₀.toNat_lt
  have := b₁.toNat_lt
  have := b₂.toNat_lt
  have := b₃.toNat_lt
  simp only [toBytes, ofBytes, List.cons.injEq, and_true]
  refine ⟨?_, ?_, ?_, ?_⟩ <;> apply UInt8.toNat_inj.mp <;>
    simp only [UInt32.toNat_ofNat', UInt8.toNat_ofNat', UInt32.toNat_toUInt8] <;> omega

end BigEndian32

end FastCgi
