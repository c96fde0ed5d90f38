import FastCgi.NameValue

/-!
# Pairs cut anywhere

The complete pairs at the front of a byte string stay what they are when more bytes follow
(`items_append`), so it does not matter where a stream of pairs is cut. A byte string can be decoded
exactly if nothing is left over behind its pairs (`decode_eq_ok_iff`), and pairs that were written are
read back (`items_encode`).
-/

namespace FastCgi.NameValue

/-! ## More bytes behind -/

/-- A pair that is all there is read alike, whatever is put behind it. -/
theorem item?_append {bytes rest : Bytes} {item : Bytes × Bytes}
    (h : item? bytes = some (item, rest)) (tail : Bytes) :
    item? (bytes ++ tail) = some (item, rest ++ tail) := by
  unfold item? at h
  split at h
  · cases h
  next nameLength afterName hname =>
    split at h
    · cases h
    next valueLength afterValue hvalue =>
      split at h
      next hfits =>
        cases h
        have hfits := Bytes.atLeast_iff.1 hfits
        have hall : Bytes.atLeast (nameLength + valueLength) (afterValue ++ tail) = true :=
          Bytes.atLeast_iff.2 (by rw [List.length_append]; omega)
        have hlength : valueLength ≤ (afterValue.drop nameLength).length := by
          rw [List.length_drop]
          omega
        simp only [item?, length?_append hname, length?_append hvalue, hall, if_true]
        rw [List.take_append_of_le_length (by omega), List.drop_append_of_le_length (by omega),
          List.take_append_of_le_length hlength, List.drop_append_of_le_length hlength]
      · cases h

/-- The pairs of a byte string with more behind it are its own pairs, and those that its remaining
bytes make with what is behind. -/
theorem items_append (bytes tail : Bytes) :
    items (bytes ++ tail) =
      ((items bytes).1 ++ (items ((items bytes).2 ++ tail)).1,
        (items ((items bytes).2 ++ tail)).2) := by
  induction bytes using items.induct with
  | case1 bytes h => rw [items_of_none h]; rfl
  | case2 bytes item rest h _ ih =>
    rw [items_of_some h, items_of_some (item?_append h tail), ih]
    rfl

/-! ## Decoding a stream -/

/-- A byte string can be decoded if nothing is left over behind its pairs. -/
theorem decode_eq (content : Bytes) :
    decode content =
      if (items content).2 = [] then .ok ((items content).1.map texts)
      else .error (.truncatedNameValue (items content).2.length) := by
  simp only [decode, Decoder.feed_eq, Decoder.pending_new, List.nil_append, Decoder.finish,
    Decoder.pending_holding, List.isEmpty_iff]
  split <;> rfl

/-- A byte string is decoded as the pairs that are read off it, exactly if nothing is left. -/
theorem decode_eq_ok_iff {content : Bytes} {pairs : List (String × String)} :
    decode content = .ok pairs ↔ (items content).2 = [] ∧ pairs = (items content).1.map texts := by
  rw [decode_eq]
  split
  next h => simp [h, eq_comm]
  next h => simp [h]

/-! ## Reading back what was written -/

/-- The bytes of a pair of texts. -/
def bytes (pair : String × String) : Bytes × Bytes :=
  (Bytes.ofString pair.1, Bytes.ofString pair.2)

/-- Whether the lengths of a pair can be written. -/
def Short (pair : String × String) : Prop :=
  (bytes pair).1.length < 0x80000000 ∧ (bytes pair).2.length < 0x80000000

/-- Pairs that were written are read back, and nothing is left over. -/
theorem items_encode {pairs : List (String × String)} (h : ∀ pair ∈ pairs, Short pair) :
    items (encode pairs) = (pairs.map bytes, []) := by
  induction pairs with
  | nil => exact items_of_none rfl
  | cons pair pairs ih =>
    have hpair := h pair (.head _)
    have hrest := ih fun p hp => h p (.tail _ hp)
    have hencode : encode (pair :: pairs) =
        encodePair (bytes pair).1 (bytes pair).2 ++ encode pairs := rfl
    rw [hencode, items_of_some (item?_encodePair hpair.1 hpair.2 (encode pairs)), hrest]
    rfl

/-- A pair that is repeated takes as many bytes every time. -/
theorem length_encode_replicate (n : Nat) (pair : String × String) :
    (encode (List.replicate n pair)).length =
      n * (encodePair (bytes pair).1 (bytes pair).2).length := by
  simp [encode, bytes, List.length_flatMap]

end FastCgi.NameValue
