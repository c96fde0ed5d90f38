import FastCgi.Record

/-!
# Reading records off the front of a byte string

`Record.decode` reads one record off the front of what has arrived so far, and says with `none` that
more has to arrive first. A header that cannot be read is refused as soon as its eight bytes are
there, and nothing is consumed, so the bytes refuse to be read from then on. `Record.decodeAll`
reads as many records as there are.

`decode_encode` says that an encoded record is read back whatever follows it, and
`decode_eq_some_length` that every record takes at least its header away, which is what makes
reading until nothing is left come to an end.
-/

namespace FastCgi.Record

/-- Reads the record at the front of a byte string, and gives the bytes after it. The answer is
`none` as long as the record has not arrived in full. -/
def decode : Bytes → Except ProtocolError (Option (Record × Bytes))
  | version :: type :: id₀ :: id₁ :: length₀ :: length₁ :: padding :: _ :: rest =>
    match Header.ofFields version type id₀ id₁ length₀ length₁ padding with
    | .error e => .error e
    | .ok header =>
      if Bytes.atLeast header.payloadLength rest then
        .ok (some (⟨header.version, header.type, header.id,
          rest.take header.contentLength.toNat, header.paddingLength⟩,
          rest.drop header.payloadLength))
      else .ok none
  | _ => .ok none

/-- To read a record takes a header at least. -/
theorem decode_eq_some_length {bytes rest : Bytes} {record : Record}
    (h : decode bytes = .ok (some (record, rest))) : rest.length + headerLength ≤ bytes.length := by
  unfold decode at h
  split at h
  · split at h
    · cases h
    · split at h
      · cases h
        simp [headerLength]
      · cases h
  · cases h

/-- To read a record takes bytes, so that reading comes to an end. -/
theorem length_lt_of_decode {bytes rest : Bytes} {record : Record}
    (h : decode bytes = .ok (some (record, rest))) : rest.length < bytes.length := by
  have := decode_eq_some_length h
  simp only [headerLength] at this
  omega

/-- The only fault of a byte string is a version that is not supported. -/
theorem eq_unsupportedVersion_of_decode {bytes : Bytes} {e : ProtocolError}
    (h : decode bytes = .error e) : ∃ version, e = .unsupportedVersion version := by
  unfold decode at h
  split at h
  next version _ _ _ _ _ _ _ _ =>
    simp only [Header.ofFields] at h
    split at h
    next hfields =>
      split at hfields
      · cases hfields
      · cases hfields
        cases h
        exact ⟨version, rfl⟩
    next hfields => split at h <;> cases h
  next => cases h

/-- What reading a byte string to its end gives: the records at its front, what was wrong with the
bytes after them, if anything, and those bytes themselves. -/
structure Reading where
  records : List Record
  fault : Option ProtocolError
  rest : Bytes

/-- Reads records until none is complete, or until the bytes cannot be read. -/
def decodeAll (bytes : Bytes) : Reading :=
  match h : decode bytes with
  | .error e => ⟨[], some e, bytes⟩
  | .ok none => ⟨[], none, bytes⟩
  | .ok (some (record, rest)) =>
    have : rest.length < bytes.length := length_lt_of_decode h
    let reading := decodeAll rest
    { reading with records := record :: reading.records }
termination_by bytes.length

/-- What is read behind a header. -/
theorem decode_header {header : Header} (hversion : header.version = version1)
    (htype : header.type.Readable) (rest : Bytes) :
    decode (header.toBytes ++ rest) =
      if Bytes.atLeast header.payloadLength rest then
        .ok (some (⟨header.version, header.type, header.id,
          rest.take header.contentLength.toNat, header.paddingLength⟩,
          rest.drop header.payloadLength))
      else .ok none := by
  obtain ⟨version, type, id, contentLength, padding⟩ := header
  simp only at hversion htype
  subst hversion
  simp only [Header.toBytes, BigEndian16.toBytes, List.cons_append, List.nil_append, decode,
    Header.ofFields, if_true, BigEndian16.ofBytes_toBytes, RecordType.ofCode_code htype]

/-- A record is read back whatever follows it. -/
theorem decode_encode {record : Record} (hversion : record.version = version1)
    (htype : record.type.Readable) (hlength : record.content.length ≤ maxContentLength)
    (rest : Bytes) : decode (record.encode ++ rest) = .ok (some (record, rest)) := by
  have hsize : (UInt16.ofNat record.content.length).toNat = record.content.length := by
    have : record.content.length < 65536 := Nat.lt_succ_of_le hlength
    simpa using this
  rw [encode, List.append_assoc, decode_header hversion htype]
  simp only [header, Header.payloadLength, hsize]
  rw [if_pos (by simp)]
  simp [List.drop_append]

end FastCgi.Record
