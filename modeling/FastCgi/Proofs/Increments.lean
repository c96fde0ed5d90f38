import FastCgi.Proofs.Frames

/-!
# Reading as bytes arrive

A reader puts every piece that arrives behind the bytes it has left over, and reads what it can
(`Reading.feed`). Any byte string falls into frames and a rest at which reading stops
(`exists_frames`), and what arrives later goes behind that rest, so the reader has at all times read
what there is in the bytes so far (`feed_decodeAll`). By induction on the pieces it does not matter
where they were cut. `readPieces_eq` says this of any bytes, and what reading makes of them: which
bytes it takes, what it forgets of them, and at what it stops.
-/

namespace FastCgi

/-- A byte string is cut off inside a frame if the frame's header says that it is longer. -/
theorem Frame.cut_iff {front : Bytes} :
    Cut front ↔
      ∃ frame : Frame, front <+: frame.bytes ∧ front.length < frame.header.frameLength := by
  refine exists_congr fun frame => and_congr_right fun hfront => ?_
  rw [← frame.length_bytes]
  refine ⟨fun hne => ?_, fun hlt heq => ?_⟩
  · exact Nat.lt_of_le_of_ne hfront.length_le fun hlength => hne (hfront.eq_of_length hlength)
  · rw [heq] at hlt
    exact Nat.lt_irrefl _ hlt

namespace Record

/-! ## Frames and a rest -/

/-- Reading takes frames off the front of a byte string, and leaves the rest of it. -/
theorem exists_frames (bytes : Bytes) :
    ∃ frames : List Frame, bytes = frames.flatMap Frame.bytes ++ (decodeAll bytes).rest ∧
      (decodeAll bytes).records = frames.map Frame.record := by
  induction bytes using decodeAll.induct with
  | case1 bytes e hdecode | case2 bytes hdecode =>
    rw [decodeAll_eq, hdecode]
    exact ⟨[], rfl, rfl⟩
  | case3 bytes record rest hdecode _ ih =>
    obtain ⟨frame, hbytes, hrecord⟩ := decode_eq_some_iff.1 hdecode
    obtain ⟨frames, hrest, hrecords⟩ := ih
    rw [decodeAll_eq, hdecode]
    refine ⟨frame :: frames, ?_, ?_⟩
    · rw [List.flatMap_cons, List.append_assoc, ← hrest]
      exact hbytes
    · rw [List.map_cons, ← hrecords, ← hrecord]

/-- Frames are read, whatever follows them. -/
theorem decodeAll_frames (frames : List Frame) (tail : Bytes) :
    decodeAll (frames.flatMap Frame.bytes ++ tail) =
      { decodeAll tail with records := frames.map Frame.record ++ (decodeAll tail).records } := by
  induction frames with
  | nil => rfl
  | cons frame frames ih =>
    rw [List.flatMap_cons, List.append_assoc, decodeAll_eq, decode_frame]
    simp only [ih, List.map_cons, List.cons_append]

/-- Records that were read are encoded as the frames that they were read off, with zeros for what
was not kept of these. -/
theorem encodeAll_record (frames : List Frame) :
    encodeAll (frames.map Frame.record) = frames.flatMap fun frame => frame.blank.bytes := by
  simp only [encodeAll, List.flatMap_map, Frame.encode_record]

/-- Where reading stops, it finds no record, and what it stops at is what it finds instead. -/
theorem decode_rest (bytes : Bytes) :
    decode (decodeAll bytes).rest = match (decodeAll bytes).fault with
      | some e => .error e
      | none => .ok none := by
  induction bytes using decodeAll.induct with
  | case1 bytes e hdecode | case2 bytes hdecode =>
    rw [decodeAll_eq, hdecode]
    exact hdecode
  | case3 bytes record rest hdecode _ ih =>
    rw [decodeAll_eq, hdecode]
    exact ih

/-- Reading on where reading has stopped changes nothing. -/
theorem decodeAll_rest (bytes : Bytes) :
    decodeAll (decodeAll bytes).rest = ⟨[], (decodeAll bytes).fault, (decodeAll bytes).rest⟩ := by
  have hrest := decode_rest bytes
  rw [decodeAll_eq]
  split at hrest
  next hfault => rw [hrest, hfault]
  next hfault => rw [hrest, hfault]

/-- What keeps bytes from being read is found where reading has stopped. -/
theorem fault_eq_some_iff {bytes : Bytes} {e : ProtocolError} :
    (decodeAll bytes).fault = some e ↔ decode (decodeAll bytes).rest = .error e := by
  rw [decode_rest]
  split
  next hfault => rw [hfault, Option.some.injEq, Except.error.injEq]
  next hfault => rw [hfault]; exact ⟨nofun, nofun⟩

/-- Reading that stops at no fault has come to where too few bytes are left. -/
theorem fault_eq_none_iff {bytes : Bytes} :
    (decodeAll bytes).fault = none ↔ decode (decodeAll bytes).rest = .ok none := by
  rw [decode_rest]
  split
  next hfault => rw [hfault]; exact ⟨nofun, nofun⟩
  next hfault => simp only [hfault]

/-! ## Piece by piece -/

/-- Takes in the next piece: it is put behind the bytes that are left, and what can be read of them
is read. -/
def Reading.feed (reading : Reading) (piece : Bytes) : Reading :=
  let next := decodeAll (reading.rest ++ piece)
  { next with records := reading.records ++ next.records }

/-- What has been read after some pieces have arrived one by one. -/
def readPieces (pieces : List Bytes) : Reading := pieces.foldl Reading.feed ⟨[], none, []⟩

/-- A piece that arrives later is read as if it had been there before. -/
theorem feed_decodeAll (bytes piece : Bytes) :
    (decodeAll bytes).feed piece = decodeAll (bytes ++ piece) := by
  obtain ⟨frames, hbytes, hrecords⟩ := exists_frames bytes
  calc (decodeAll bytes).feed piece
      = { decodeAll ((decodeAll bytes).rest ++ piece) with
          records := frames.map Frame.record ++
            (decodeAll ((decodeAll bytes).rest ++ piece)).records } := by
        rw [Reading.feed, hrecords]
    _ = decodeAll (frames.flatMap Frame.bytes ++ ((decodeAll bytes).rest ++ piece)) :=
        (decodeAll_frames frames _).symm
    _ = decodeAll (bytes ++ piece) := by rw [← List.append_assoc, ← hbytes]

/-- Pieces that arrive after some bytes are read as if they had been there before, by induction on
them. -/
theorem foldl_feed (pieces : List Bytes) (bytes : Bytes) :
    pieces.foldl Reading.feed (decodeAll bytes) = decodeAll (bytes ++ pieces.flatten) := by
  induction pieces generalizing bytes with
  | nil => rw [List.flatten_nil, List.append_nil]; rfl
  | cons piece pieces ih =>
    rw [List.foldl_cons, feed_decodeAll, ih, List.flatten_cons, List.append_assoc]

/-- Pieces are read as they are in one. -/
theorem readPieces_flatten (pieces : List Bytes) : readPieces pieces = decodeAll pieces.flatten := by
  have hnil : decodeAll [] = ⟨[], none, []⟩ := by rw [decodeAll_eq]; rfl
  rw [readPieces, ← hnil, foldl_feed, List.nil_append]

/-- What cannot be read stays in front of what arrives later. -/
theorem readPieces_of_fault {front : List Bytes} {e : ProtocolError}
    (h : (readPieces front).fault = some e) (later : List Bytes) :
    readPieces (front ++ later) =
      ⟨(readPieces front).records, some e, (readPieces front).rest ++ later.flatten⟩ := by
  rw [readPieces_flatten] at h ⊢
  have hrest := decode_append_of_error (fault_eq_some_iff.1 h) later.flatten
  rw [readPieces_flatten, List.flatten_append, ← feed_decodeAll, Reading.feed,
    decodeAll_eq (_ ++ _), hrest, List.append_nil]

/-- **Reading is incremental and exact.** In whatever pieces some bytes arrive, the same records are
read, and reading stops at the same place for the same reason. Once there is something that cannot be
read, nothing behind it is. The bytes that were taken are frames, which are what the records are
encoded as, but for the reserved byte and the padding of each, which become zeros. Reading stops at a
header of another version, or where too little has arrived for a header or for the frame that a
header announces, and it takes nothing of what it stops at. -/
theorem readPieces_eq (pieces : List Bytes) :
    let reading := decodeAll pieces.flatten
    readPieces pieces = reading ∧
      (∀ front later e, pieces = front ++ later → (readPieces front).fault = some e →
        reading = ⟨(readPieces front).records, some e,
          (readPieces front).rest ++ later.flatten⟩) ∧
      (∃ frames : List Frame, pieces.flatten = frames.flatMap Frame.bytes ++ reading.rest ∧
        reading.records = frames.map Frame.record ∧
        encodeAll reading.records = frames.flatMap fun frame => frame.blank.bytes) ∧
      (∀ e, reading.fault = some e ↔ 8 ≤ reading.rest.length ∧
        ∃ version, reading.rest.head? = some version ∧ version ≠ 1 ∧
          e = .unsupportedVersion version) ∧
      (reading.fault = none ↔ reading.rest.length < 8 ∨
        ∃ frame : Frame, reading.rest <+: frame.bytes ∧
          reading.rest.length < frame.header.frameLength) ∧
      decodeAll reading.rest = ⟨[], reading.fault, reading.rest⟩ := by
  intro reading
  refine ⟨readPieces_flatten pieces, ?_, ?_, fun e => ?_, ?_, decodeAll_rest _⟩
  · rintro front later e rfl hfault
    exact (readPieces_flatten _).symm.trans (readPieces_of_fault hfault later)
  · obtain ⟨frames, hbytes, hrecords⟩ := exists_frames pieces.flatten
    refine ⟨frames, hbytes, hrecords, ?_⟩
    rw [hrecords, encodeAll_record]
  · rw [fault_eq_some_iff, decode_eq_error_iff]
    rfl
  · rw [fault_eq_none_iff, decode_eq_none_iff, Frame.cut_iff]
    rfl

end Record

end FastCgi
