import FastCgi.Proofs.Wire

/-!
# Frames

A `Frame` is a record as any peer may put it on the wire: its padding and its reserved byte can be
anything, and the header says how long content and padding are. To decode a byte string is to tell
whether it begins with a frame (`decode_eq_some_iff`), is the front of one or too short for a header
(`decode_eq_none_iff`), or begins with a header of another version (`decode_eq_error_iff`). Nothing
in this looks further than the frame, so an answer stays the same when more bytes arrive
(`decode_append`).

What is encoded is a frame, with zeros for padding (`encode_record`), and so records that were
written one after another, and cut off somewhere behind them, are read back (`decodeAll_sent`).
-/

namespace FastCgi

/-! ## What stands on the wire -/

/-- A record as it stands on the wire, in the version that is read. -/
structure Frame where
  type : UInt8
  id : UInt16
  content : Bytes
  padding : Bytes
  reserved : UInt8
  length_content : content.length ≤ maxContentLength
  length_padding : padding.length ≤ 255

namespace Frame

/-- The header of a frame, which says how long its content and its padding are. -/
def header (frame : Frame) : Header :=
  ⟨version1, .ofCode frame.type, frame.id, UInt16.ofNat frame.content.length,
    UInt8.ofNat frame.padding.length⟩

/-- The bytes of a frame. -/
def bytes (frame : Frame) : Bytes :=
  [version1, frame.type] ++ BigEndian16.toBytes frame.id ++
    BigEndian16.toBytes (UInt16.ofNat frame.content.length) ++
    [UInt8.ofNat frame.padding.length, frame.reserved] ++ (frame.content ++ frame.padding)

/-- What a frame is read as. -/
def record (frame : Frame) : Record :=
  ⟨version1, .ofCode frame.type, frame.id, frame.content, UInt8.ofNat frame.padding.length⟩

/-- The frame with a zero in its reserved byte and in every byte of its padding. -/
def blank (frame : Frame) : Frame :=
  { frame with
    padding := List.replicate frame.padding.length 0
    reserved := 0
    length_padding := by simpa using frame.length_padding }

/-- A byte string that is cut off inside a frame: it is the front of one, and not all of it. -/
def Cut (front : Bytes) : Prop := ∃ frame : Frame, front <+: frame.bytes ∧ front ≠ frame.bytes

section

variable (frame : Frame)

/-- The header tells the length of the content, as that fits into its two bytes. -/
theorem toNat_contentLength : frame.header.contentLength.toNat = frame.content.length := by
  have : frame.content.length < 65536 := Nat.lt_succ_of_le frame.length_content
  simpa [header] using this

/-- The header tells the length of the padding, as that fits into its byte. -/
theorem toNat_paddingLength : frame.header.paddingLength.toNat = frame.padding.length := by
  have := frame.length_padding
  simp only [header, UInt8.toNat_ofNat']
  omega

/-- The header tells how many bytes stand behind it. -/
theorem payloadLength_header :
    frame.header.payloadLength = (frame.content ++ frame.padding).length := by
  rw [Header.payloadLength, toNat_contentLength, toNat_paddingLength, List.length_append]

/-- A frame is as long as its header says. -/
theorem length_bytes : frame.bytes.length = frame.header.frameLength := by
  rw [Header.frameLength, payloadLength_header]
  simp only [bytes, List.length_append, List.length_cons, List.length_nil,
    BigEndian16.length_toBytes, headerLength]

/-- What a frame is read as can be sent. -/
theorem wellFormed_record : frame.record.WellFormed :=
  ⟨rfl, RecordType.readable_ofCode _, frame.length_content⟩

/-- Encoding writes the blank frame. -/
theorem encode_record : frame.record.encode = frame.blank.bytes := by
  have hpadding := frame.toNat_paddingLength
  simp only [header] at hpadding
  simp [Record.encode, Record.header, record, Header.toBytes, bytes, blank, hpadding]

end

end Frame

/-! ## Reading the front of a byte string -/

namespace Record

/-- A header of another version is refused, whatever is behind it. -/
theorem decode_of_version {bytes : Bytes} (hlength : headerLength ≤ bytes.length) {version : UInt8}
    (hhead : bytes.head? = some version) (hne : version ≠ version1) :
    decode bytes = .error (.unsupportedVersion version) := by
  match bytes, hlength, hhead with
  | _ :: _ :: _ :: _ :: _ :: _ :: _ :: _ :: _, _, rfl =>
    simp only [decode, Header.ofFields, hne, if_false]

section

variable (type id₀ id₁ length₀ length₁ padding reserved : UInt8) (rest : Bytes) {size : Nat}
  (hsize : (BigEndian16.ofBytes length₀ length₁).toNat + padding.toNat = size)

include hsize

/-- Behind a header of the right version a record is read if as many bytes are there as it says, and
else more are waited for. -/
theorem decode_of_header :
    decode (version1 :: type :: id₀ :: id₁ :: length₀ :: length₁ :: padding :: reserved :: rest) =
      if size ≤ rest.length then
        .ok (some (⟨version1, .ofCode type, BigEndian16.ofBytes id₀ id₁,
          rest.take (BigEndian16.ofBytes length₀ length₁).toNat, padding⟩, rest.drop size))
      else .ok none := by
  simp only [decode, Header.ofFields, if_true, Header.payloadLength, hsize, Bytes.atLeast_iff]

/-- A header and as many bytes behind it as it says are a frame. -/
theorem exists_frame (hlength : rest.length = size) :
    ∃ frame : Frame, frame.bytes =
      version1 :: type :: id₀ :: id₁ :: length₀ :: length₁ :: padding :: reserved :: rest := by
  have hcontentLt := (BigEndian16.ofBytes length₀ length₁).toNat_lt
  have hpaddingLt := padding.toNat_lt
  have hcontent : (rest.take (BigEndian16.ofBytes length₀ length₁).toNat).length =
      (BigEndian16.ofBytes length₀ length₁).toNat := by
    rw [List.length_take]
    omega
  have hpadding : (rest.drop (BigEndian16.ofBytes length₀ length₁).toNat).length =
      padding.toNat := by
    rw [List.length_drop]
    omega
  refine ⟨⟨type, BigEndian16.ofBytes id₀ id₁, rest.take _, rest.drop _, reserved,
    Nat.le_of_lt_succ (hcontent ▸ hcontentLt), Nat.le_of_lt_succ (hpadding ▸ hpaddingLt)⟩, ?_⟩
  simp only [Frame.bytes, hcontent, hpadding, UInt16.ofNat_toNat, UInt8.ofNat_toNat,
    BigEndian16.toBytes_ofBytes, List.take_append_drop]
  rfl

end

/-- A frame is read off the front of a byte string. -/
theorem decode_frame (frame : Frame) (rest : Bytes) :
    decode (frame.bytes ++ rest) = .ok (some (frame.record, rest)) := by
  have hcontent := frame.toNat_contentLength
  have hpayload := frame.payloadLength_header
  simp only [Header.payloadLength, Frame.header] at hcontent hpayload
  rw [← BigEndian16.ofBytes_toBytes (UInt16.ofNat frame.content.length)] at hcontent hpayload
  simp only [Frame.bytes, BigEndian16.toBytes, List.append_assoc, List.cons_append,
    List.nil_append]
  rw [decode_of_header _ _ _ _ _ _ _ _ hpayload, hcontent, ← List.append_assoc,
    if_pos (by simp), List.drop_left, List.append_assoc, List.take_left,
    BigEndian16.ofBytes_toBytes]
  rfl

/-- Reading the front of a byte string finds too few bytes, a frame, or another version. -/
theorem decode_cases (bytes : Bytes) :
    (decode bytes = .ok none ∧ (bytes.length < headerLength ∨ Frame.Cut bytes)) ∨
      (∃ (frame : Frame) (rest : Bytes), bytes = frame.bytes ++ rest) ∨
      (headerLength ≤ bytes.length ∧
        ∃ version, bytes.head? = some version ∧ version ≠ version1) := by
  match bytes with
  | version :: type :: id₀ :: id₁ :: length₀ :: length₁ :: padding :: reserved :: rest =>
    by_cases hversion : version = version1
    · subst hversion
      generalize hsize : (BigEndian16.ofBytes length₀ length₁).toNat + padding.toNat = size
      rcases Nat.lt_or_ge rest.length size with hlt | hge
      · -- What is missing of the frame may be anything, such as zeros.
        have hdecode := decode_of_header type id₀ id₁ length₀ length₁ padding reserved rest hsize
        rw [if_neg (Nat.not_le.2 hlt)] at hdecode
        obtain ⟨frame, hframe⟩ := exists_frame type id₀ id₁ length₀ length₁ padding reserved
          (rest ++ List.replicate (size - rest.length) 0) hsize (by simp; omega)
        refine .inl ⟨hdecode, .inr ⟨frame, ⟨_, hframe.symm⟩, fun heq => ?_⟩⟩
        have := congrArg List.length (heq.trans hframe)
        simp at this
        omega
      · obtain ⟨frame, hframe⟩ := exists_frame type id₀ id₁ length₀ length₁ padding reserved
          (rest.take size) hsize (List.length_take_of_le hge)
        refine .inr (.inl ⟨frame, rest.drop size, ?_⟩)
        simp only [hframe, List.cons_append, List.take_append_drop]
    · exact .inr (.inr ⟨by simp [headerLength], version, rfl, hversion⟩)
  | [] | [_] | [_, _] | [_, _, _] | [_, _, _, _] | [_, _, _, _, _] | [_, _, _, _, _, _]
  | [_, _, _, _, _, _, _] => exact .inl ⟨rfl, .inl (by simp [headerLength])⟩

/-- What is read off the front of a byte string is a frame there. -/
theorem decode_eq_some_iff {bytes rest : Bytes} {record : Record} :
    decode bytes = .ok (some (record, rest)) ↔
      ∃ frame : Frame, bytes = frame.bytes ++ rest ∧ record = frame.record := by
  refine ⟨fun h => ?_, ?_⟩
  · rcases decode_cases bytes with ⟨hnone, -⟩ | ⟨frame, rest', rfl⟩ | ⟨hlength, _, hhead, hne⟩
    · rw [hnone] at h
      cases h
    · rw [decode_frame] at h
      cases h
      exact ⟨frame, rfl, rfl⟩
    · rw [decode_of_version hlength hhead hne] at h
      cases h
  · rintro ⟨frame, rfl, rfl⟩
    exact decode_frame frame rest

/-- Bytes that are no record and cannot become one begin with a header of another version. -/
theorem decode_eq_error_iff {bytes : Bytes} {e : ProtocolError} :
    decode bytes = .error e ↔ headerLength ≤ bytes.length ∧
      ∃ version, bytes.head? = some version ∧ version ≠ version1 ∧
        e = .unsupportedVersion version := by
  refine ⟨fun h => ?_, ?_⟩
  · rcases decode_cases bytes with ⟨hnone, -⟩ | ⟨frame, rest, rfl⟩ | ⟨hlength, version, hhead, hne⟩
    · rw [hnone] at h
      cases h
    · rw [decode_frame] at h
      cases h
    · rw [decode_of_version hlength hhead hne] at h
      cases h
      exact ⟨hlength, version, hhead, hne, rfl⟩
  · rintro ⟨hlength, version, hhead, hne, rfl⟩
    exact decode_of_version hlength hhead hne

/-- Bytes that are cut off inside a frame do not make a record. -/
theorem decode_of_cut {front : Bytes} (h : Frame.Cut front) : decode front = .ok none := by
  obtain ⟨frame, ⟨more, hmore⟩, hne⟩ := h
  rcases decode_cases front with ⟨hnone, -⟩ | ⟨frame', rest, rfl⟩ | ⟨-, version, hhead, hversion⟩
  · exact hnone
  · have hwhole := decode_frame frame []
    rw [List.append_nil, ← hmore, List.append_assoc, decode_frame] at hwhole
    have hnone : rest ++ more = [] := congrArg Prod.snd (Option.some.inj (Except.ok.inj hwhole))
    rw [(List.append_eq_nil_iff.1 hnone).2, List.append_nil] at hmore
    exact absurd hmore hne
  · have hfirst : frame.bytes.head? = some version := by
      rw [← hmore, List.head?_append, hhead, Option.some_or]
    exact absurd (Option.some.inj hfirst).symm hversion

/-- Bytes that are no record yet are too few for a header, or are cut off inside a frame. -/
theorem decode_eq_none_iff {bytes : Bytes} :
    decode bytes = .ok none ↔ bytes.length < headerLength ∨ Frame.Cut bytes := by
  refine ⟨fun h => ?_, ?_⟩
  · rcases decode_cases bytes with ⟨-, hshort⟩ | ⟨frame, rest, rfl⟩ | ⟨hlength, _, hhead, hne⟩
    · exact hshort
    · rw [decode_frame] at h
      cases h
    · rw [decode_of_version hlength hhead hne] at h
      cases h
  · rintro (hshort | hcut)
    · rcases decode_cases bytes with ⟨hnone, -⟩ | ⟨frame, rest, rfl⟩ | ⟨hlength, -⟩
      · exact hnone
      · rw [List.length_append, frame.length_bytes, Header.frameLength] at hshort
        omega
      · exact absurd hshort (Nat.not_lt.2 hlength)
    · exact decode_of_cut hcut

/-! More bytes behind. -/

/-- The record at the front of a byte string stays there when more bytes arrive. -/
theorem decode_append {bytes rest : Bytes} {record : Record}
    (h : decode bytes = .ok (some (record, rest))) (more : Bytes) :
    decode (bytes ++ more) = .ok (some (record, rest ++ more)) := by
  obtain ⟨frame, rfl, rfl⟩ := decode_eq_some_iff.1 h
  rw [List.append_assoc, decode_frame]

/-- Bytes that are no record do not become one when more bytes arrive. -/
theorem decode_append_of_error {bytes : Bytes} {e : ProtocolError} (h : decode bytes = .error e)
    (more : Bytes) : decode (bytes ++ more) = .error e := by
  obtain ⟨hlength, version, hhead, hne, rfl⟩ := decode_eq_error_iff.1 h
  refine decode_eq_error_iff.2 ⟨?_, version, ?_, hne, rfl⟩
  · rw [List.length_append]
    exact Nat.le_add_right_of_le hlength
  · rw [List.head?_append, hhead, Option.some_or]

/-! ## What is written -/

/-- A record that is encoded is a frame. -/
theorem WellFormed.exists_frame {record : Record} (h : record.WellFormed) :
    ∃ frame : Frame, frame.bytes = record.encode ∧ frame.record = record := by
  obtain ⟨version, type, id, content, paddingLength⟩ := record
  obtain ⟨rfl, htype, hlength⟩ := h
  have hpadding : (List.replicate paddingLength.toNat (0 : UInt8)).length ≤ 255 := by
    rw [List.length_replicate]
    exact Nat.le_of_lt_succ paddingLength.toNat_lt
  refine ⟨⟨type.code, id, content, .replicate paddingLength.toNat 0, 0, hlength, hpadding⟩, ?_, ?_⟩
  · simp [Frame.bytes, encode, header, Header.toBytes]
  · simp [Frame.record, RecordType.ofCode_code htype]

/-- The well-formed records are those that can be read. -/
theorem wellFormed_iff {record : Record} :
    record.WellFormed ↔ ∃ bytes rest, decode bytes = .ok (some (record, rest)) := by
  refine ⟨fun h => ⟨record.encode, [], ?_⟩, ?_⟩
  · have := h.decode []
    rwa [List.append_nil] at this
  · rintro ⟨bytes, rest, h⟩
    obtain ⟨frame, -, rfl⟩ := decode_eq_some_iff.1 h
    exact frame.wellFormed_record

/-- A record as a peer makes one of a content: the length of its encoding is as announced, and it is
padded with as little as brings that to a multiple of eight bytes. -/
structure LeastPadded (record : Record) : Prop where
  length : record.encode.length = record.encodedLength
  dvd : 8 ∣ record.encode.length
  least : ∀ padding : UInt8,
    8 ∣ ({ record with paddingLength := padding } : Record).encode.length →
      record.paddingLength ≤ padding

/-- A record takes up its header, its content and its padding. -/
theorem length_encode_eq (record : Record) : record.encode.length =
    headerLength + record.content.length + record.paddingLength.toNat := by
  simp only [encode, List.length_append, Header.length_toBytes, List.length_replicate,
    Nat.add_assoc]

/-- A record that is made of a content has the least padding. -/
theorem leastPadded_of_new {type : RecordType} {id : UInt16} {content : Bytes} {record : Record}
    (h : new type id content = .ok record) : record.LeastPadded := by
  obtain ⟨hlength, hrecord⟩ := new_eq_ok_iff.1 h
  have hencode : record.encode.length = record.encodedLength := by
    rw [length_encode]
    rw [hrecord]
    exact hlength
  refine ⟨hencode, hencode ▸ eight_dvd_encodedLength h, fun padding hdvd => ?_⟩
  rw [length_encode_eq, hrecord] at hdvd
  rw [hrecord, UInt8.le_iff_toNat_le, toNat_paddingFor]
  simp only [headerLength] at hdvd
  omega

/-- The record that ends a stream is the record of no content. -/
theorem new_nil (type : RecordType) (id : UInt16) : new type id [] = .ok (endOfStream type id) :=
  rfl

/-- A record is refused only to a content that is too long, and the refusal tells how long that
is. -/
theorem new_eq_error_iff {type : RecordType} {id : UInt16} {content : Bytes} {e : ProtocolError} :
    new type id content = .error e ↔
      maxContentLength < content.length ∧ e = .contentTooLong content.length := by
  unfold new
  split
  next hfits => exact ⟨nofun, fun ⟨hlong, _⟩ => absurd hfits (Nat.not_le.2 hlong)⟩
  next hlong =>
    rw [Except.error.injEq, eq_comm]
    exact ⟨fun h => ⟨Nat.not_le.1 hlong, h⟩, And.right⟩

/-- Bytes that are cut off inside a frame are left as they are. -/
theorem decodeAll_of_cut {front : Bytes} (h : Frame.Cut front) :
    decodeAll front = ⟨[], none, front⟩ := by
  rw [decodeAll_eq, decode_of_cut h]

/-- **Records that were written one after another are read back.** What stands behind them may be
cut off inside a frame: it is left as it is. A record that is made of a content, or to end a stream,
has as many bytes as it announces, which is a multiple of eight, and less padding would not do; and a
record is refused only to a content that is too long. -/
theorem decodeAll_sent {records : List Record} (hrecords : ∀ r ∈ records, r.WellFormed)
    {tail : Bytes} (htail : Frame.Cut tail) :
    decodeAll (encodeAll records ++ tail) = ⟨records, none, tail⟩ ∧
      (∀ type id content record, new type id content = .ok record → record.LeastPadded) ∧
      (∀ type id, (endOfStream type id).LeastPadded) ∧
      ∀ type id content e, new type id content = .error e ↔
        65535 < content.length ∧ e = .contentTooLong content.length := by
  refine ⟨?_, fun _ _ _ _ => leastPadded_of_new, fun type id => leastPadded_of_new (new_nil type id),
    fun _ _ _ _ => new_eq_error_iff⟩
  rw [decodeAll_encodeAll_append hrecords, decodeAll_of_cut htail, List.append_nil]

/-- A record with the most padding, one without content, and one of a type without a name, behind
which a record of two bytes is cut off. -/
theorem decodeAll_sent_padded :
    let records : List Record :=
      [⟨version1, .stdin, 1, [104], 255⟩, .endOfStream .stdin 1, ⟨version1, .other 42, 0, [7], 0⟩]
    let tail : Bytes := [1, 5, 0, 1, 0, 2, 0, 9, 104]
    (∀ r ∈ records, r.WellFormed) ∧ Frame.Cut tail ∧
      decodeAll (encodeAll records ++ tail) = ⟨records, none, tail⟩ := by
  intro records tail
  have hrecords : ∀ r ∈ records, r.WellFormed := by decide
  have htail : Frame.Cut tail :=
    ⟨⟨5, 1, [104, 105], [], 9, by decide, by decide⟩, ⟨[105], rfl⟩, by decide⟩
  exact ⟨hrecords, htail, (decodeAll_sent hrecords htail).1⟩

end Record

end FastCgi
