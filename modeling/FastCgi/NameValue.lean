import FastCgi.Bytes
import FastCgi.ProtocolError
import FastCgi.Text.Utf8

/-!
# Name/value pairs

Parameters and queries are lists of pairs. Each pair is written as the length of its name, the
length of its value, the name and the value. A length below 128 takes one byte; any length can be
given four bytes, the first of which has its top bit set.

`NameValue.items` reads the complete pairs off the front of a byte string and gives the bytes that
are left, `NameValue.encode` writes pairs, and `NameValue.Decoder` reads a stream of pairs that
arrives in pieces cut anywhere.
-/

namespace FastCgi.NameValue

/-! ## Lengths -/

/-- The bytes of a length. The long form has room for 31 bits. -/
def lengthBytes (n : Nat) : Bytes :=
  if n < 128 then [UInt8.ofNat n]
  else [UInt8.ofNat (128 + n / 16777216 % 128), UInt8.ofNat (n / 65536), UInt8.ofNat (n / 256),
    UInt8.ofNat n]

/-- Reads a length off the front of a byte string, in either of its forms. -/
def length? : Bytes → Option (Nat × Bytes)
  | [] => none
  | b₀ :: rest =>
    if b₀ < 128 then some (b₀.toNat, rest)
    else match rest with
      | b₁ :: b₂ :: b₃ :: rest =>
        some (((b₀.toNat % 128 * 256 + b₁.toNat) * 256 + b₂.toNat) * 256 + b₃.toNat, rest)
      | _ => none

/-- To read a length takes bytes. -/
theorem length?_eq_some_length {bytes rest : Bytes} {n : Nat}
    (h : length? bytes = some (n, rest)) : rest.length < bytes.length := by
  unfold length? at h
  split at h
  · cases h
  · split at h
    · cases h
      simp
    · split at h
      · cases h
        simp only [List.length_cons]
        omega
      · cases h

/-- A length that is all there is read alike, whatever is put behind it. -/
theorem length?_append {bytes rest : Bytes} {n : Nat} (h : length? bytes = some (n, rest))
    (tail : Bytes) : length? (bytes ++ tail) = some (n, rest ++ tail) := by
  cases bytes with
  | nil => cases h
  | cons b₀ bytes =>
    simp only [length?, List.cons_append] at h ⊢
    split at h
    next hshort =>
      cases h
      rw [if_pos hshort]
    next hlong =>
      rw [if_neg hlong]
      split at h
      · cases h
        rfl
      · cases h

/-- A length of at most 31 bits is read back from its bytes, whatever stands behind them. -/
theorem length?_lengthBytes {n : Nat} (h : n < 0x80000000) (rest : Bytes) :
    length? (lengthBytes n ++ rest) = some (n, rest) := by
  unfold lengthBytes
  split
  next hn =>
    have hlt : UInt8.ofNat n < 128 := UInt8.lt_iff_toNat_lt.2 (by simp; omega)
    have hmod : n % 256 = n := Nat.mod_eq_of_lt (by omega)
    simp [length?, hlt, hmod]
  next hn =>
    have hlt : ¬UInt8.ofNat (128 + n / 16777216 % 128) < 128 := fun hlt => by
      have := UInt8.lt_iff_toNat_lt.1 hlt
      simp only [UInt8.toNat_ofNat', UInt8.reduceToNat] at this
      omega
    simp only [List.cons_append, List.nil_append, length?, hlt, if_false, UInt8.toNat_ofNat',
      Option.some.injEq, Prod.mk.injEq, and_true]
    omega

/-! ## Pairs -/

/-- The bytes of one pair. -/
def encodePair (name value : Bytes) : Bytes :=
  lengthBytes name.length ++ (lengthBytes value.length ++ (name ++ value))

/-- The bytes of a list of pairs of texts. -/
def encode (pairs : List (String × String)) : Bytes :=
  pairs.flatMap fun (name, value) => encodePair (Bytes.ofString name) (Bytes.ofString value)

/-- Reads a complete pair off the front of a byte string. -/
def item? (bytes : Bytes) : Option ((Bytes × Bytes) × Bytes) :=
  match length? bytes with
  | none => none
  | some (nameLength, rest) =>
    match length? rest with
    | none => none
    | some (valueLength, rest) =>
      if Bytes.atLeast (nameLength + valueLength) rest then
        let afterName := rest.drop nameLength
        some ((rest.take nameLength, afterName.take valueLength), afterName.drop valueLength)
      else none

/-- Whether a byte string of some size ends inside its first pair, as told from the bytes at its
front. Nothing is said of a string in which the two lengths are not all there. -/
def cutsPair (front : Bytes) (size : Nat) : Bool :=
  match length? front with
  | none => false
  | some (nameLength, rest) =>
    match length? rest with
    | none => false
    | some (valueLength, rest) => size < front.length - rest.length + (nameLength + valueLength)

/-- No pair is read off a byte string that ends inside its first pair. -/
theorem item?_of_cutsPair {front tail : Bytes}
    (h : cutsPair front (front ++ tail).length = true) : item? (front ++ tail) = none := by
  unfold cutsPair at h
  split at h
  · cases h
  next nameLength afterName hname =>
    split at h
    · cases h
    next valueLength afterValue hvalue =>
      have hsize := of_decide_eq_true h
      have := length?_eq_some_length hname
      have := length?_eq_some_length hvalue
      have hcut : ¬Bytes.atLeast (nameLength + valueLength) (afterValue ++ tail) = true := by
        rw [Bytes.atLeast_iff]
        rw [List.length_append] at hsize ⊢
        omega
      simp only [item?, length?_append hname, length?_append hvalue, if_neg hcut]

/-- A pair takes two bytes at least, one for each of its lengths. -/
theorem item?_eq_some_length {bytes rest : Bytes} {item : Bytes × Bytes}
    (h : item? bytes = some (item, rest)) : rest.length + 2 ≤ bytes.length := by
  unfold item? at h
  split at h
  · cases h
  next h₁ =>
    have := length?_eq_some_length h₁
    split at h
    · cases h
    next h₂ =>
      have := length?_eq_some_length h₂
      split at h
      · cases h
        simp only [List.length_drop]
        omega
      · cases h

/-- A pair is read back whatever follows it. -/
theorem item?_encodePair {name value : Bytes} (hname : name.length < 0x80000000)
    (hvalue : value.length < 0x80000000) (rest : Bytes) :
    item? (encodePair name value ++ rest) = some ((name, value), rest) := by
  simp only [item?, encodePair, List.append_assoc, length?_lengthBytes hname,
    length?_lengthBytes hvalue]
  rw [if_pos (by simp)]
  simp

/-- The complete pairs at the front of a byte string, and the bytes after them. -/
def items (bytes : Bytes) : List (Bytes × Bytes) × Bytes :=
  match h : item? bytes with
  | none => ([], bytes)
  | some (item, rest) =>
    have : rest.length < bytes.length := by
      have := item?_eq_some_length h
      omega
    (item :: (items rest).1, (items rest).2)
termination_by bytes.length

/-- A byte string that holds no whole pair is left as it is. -/
theorem items_of_none {bytes : Bytes} (h : item? bytes = none) : items bytes = ([], bytes) := by
  rw [items]
  split
  · rfl
  next h' => rw [h] at h'; cases h'

/-- The first pair that is read is followed by those of the bytes behind it. -/
theorem items_of_some {bytes rest : Bytes} {item : Bytes × Bytes}
    (h : item? bytes = some (item, rest)) :
    items bytes = (item :: (items rest).1, (items rest).2) := by
  rw [items]
  split
  next h' => rw [h] at h'; cases h'
  next h' => rw [h] at h'; cases h'; rfl

/-- `items` with the pairs already read, newest first, in hand. -/
def itemsOnto (read : List (Bytes × Bytes)) (bytes : Bytes) : List (Bytes × Bytes) × Bytes :=
  match h : item? bytes with
  | none => (read.reverse, bytes)
  | some (item, rest) =>
    have : rest.length < bytes.length := by
      have := item?_eq_some_length h
      omega
    itemsOnto (item :: read) rest
termination_by bytes.length

/-- The loop with the pairs in hand reads the same pairs as the recursion, and leaves the same
bytes. -/
theorem itemsOnto_eq (read : List (Bytes × Bytes)) (bytes : Bytes) :
    itemsOnto read bytes = (read.reverse ++ (items bytes).1, (items bytes).2) := by
  induction bytes using items.induct generalizing read with
  | case1 bytes h =>
    rw [itemsOnto, items]
    split <;> simp_all
  | case2 bytes item rest h _ ih =>
    rw [itemsOnto, items]
    split <;> simp_all

/-- The texts of a pair. A peer may send bytes that are not UTF-8; they do not make a pair
unreadable. -/
def texts (item : Bytes × Bytes) : String × String := (Utf8.decode item.1, Utf8.decode item.2)

/-! ## Streams of pairs -/

/-- Reads a stream of pairs piece by piece. It holds the bytes that do not make a pair yet. -/
structure Decoder where
  held : Array UInt8
deriving DecidableEq, Repr

namespace Decoder

/-- The decoder before the first piece. -/
def new : Decoder := ⟨#[]⟩

/-- A decoder that holds some bytes. -/
def holding (bytes : Bytes) : Decoder := ⟨bytes.toArray⟩

/-- The bytes that do not make a pair yet. -/
def pending (decoder : Decoder) : Bytes := decoder.held.toList

@[simp]
theorem pending_new : new.pending = [] := rfl

@[simp]
theorem holding_nil : holding [] = new := rfl

@[simp]
theorem pending_holding (bytes : Bytes) : (holding bytes).pending = bytes := rfl

/-- Takes in the next piece, and gives every pair that it completes. The bytes held are only gone
through if the lengths at their front let a pair be complete. -/
def feed (decoder : Decoder) (piece : Bytes) : List (String × String) × Decoder :=
  let held := decoder.held ++ piece
  if cutsPair (held.take 8).toList held.size then ([], ⟨held⟩)
  else
    let (complete, left) := itemsOnto [] held.toList
    (complete.map texts, holding left)

/-- What the lengths at the front say does not change what is read: a piece completes the pairs that
the bytes held complete together with it. -/
theorem feed_eq (decoder : Decoder) (piece : Bytes) :
    decoder.feed piece =
      ((items (decoder.pending ++ piece)).1.map texts,
        holding (items (decoder.pending ++ piece)).2) := by
  have hheld : (decoder.held ++ piece).toList = decoder.pending ++ piece := by simp [pending]
  unfold feed
  generalize decoder.held ++ piece = held at hheld
  dsimp only
  rw [← hheld]
  split
  next hcut =>
    have hnone : item? held.toList = none := by
      rw [← List.take_append_drop 8 held.toList]
      refine item?_of_cutsPair ?_
      rw [List.take_append_drop, Array.length_toList]
      simpa using hcut
    rw [items_of_none hnone]
    rfl
  next =>
    rw [itemsOnto_eq]
    rfl

/-- Ends the stream. Bytes that are left over are a pair cut short. -/
def finish (decoder : Decoder) : Except ProtocolError Unit :=
  if decoder.pending.isEmpty then .ok () else .error (.truncatedNameValue decoder.pending.length)

end Decoder

/-- Reads a byte string that holds a whole list of pairs. -/
def decode (content : Bytes) : Except ProtocolError (List (String × String)) :=
  let (pairs, decoder) := Decoder.new.feed content
  decoder.finish.map fun _ => pairs

end FastCgi.NameValue
