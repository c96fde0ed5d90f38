import FastCgi.Channel

/-!
# What is on the wire

A connection is reliable if it takes every byte that is written to it and every flush succeeds. On
an open channel over such a connection every operation that sends succeeds, and what it adds to the
wire are whole records: `Sends` is that relation between the channel before and after. Since every
record that is sent is well formed, the bytes on the wire are read back as exactly the records sent
(`Wrote.decodeAll`), which is what lets later modules speak of records instead of bytes.
-/

namespace FastCgi

/-! ## Reading back several records -/

namespace Record

/-- A record that reading can give: of version 1, of a type that a byte can be read as, and with a
content that a header can announce. -/
structure WellFormed (record : Record) : Prop where
  version : record.version = version1
  type : record.type.Readable
  length : record.content.length ≤ maxContentLength

instance (record : Record) : Decidable record.WellFormed :=
  decidable_of_iff (record.version = version1 ∧ record.type.Readable ∧
    record.content.length ≤ maxContentLength)
    ⟨fun ⟨hversion, htype, hlength⟩ => ⟨hversion, htype, hlength⟩,
      fun h => ⟨h.version, h.type, h.length⟩⟩

/-- A record that is encoded is read back, whatever follows it. -/
theorem WellFormed.decode {record : Record} (h : record.WellFormed) (rest : Bytes) :
    decode (record.encode ++ rest) = .ok (some (record, rest)) :=
  decode_encode h.version h.type h.length rest

/-- A record made by `Record.new` is well formed if its type can be read. -/
theorem wellFormed_of_new {type : RecordType} {id : UInt16} {content : Bytes} {record : Record}
    (htype : type.Readable) (h : new type id content = .ok record) : record.WellFormed := by
  obtain ⟨hlength, rfl⟩ := new_eq_ok_iff.1 h
  exact ⟨rfl, htype, hlength⟩

/-- The record that ends a request. -/
def endRequest (id : UInt16) (body : EndBody) : Record :=
  ⟨version1, .endRequest, id, body.toBytes, 0⟩

/-- The record that ends a request has room for its body. -/
theorem new_endRequest (id : UInt16) (body : EndBody) :
    new .endRequest id body.toBytes = .ok (endRequest id body) := by
  have hlength : body.toBytes.length = bodyLength := rfl
  refine new_eq_ok_iff.2 ⟨?_, ?_⟩
  · rw [hlength]
    decide
  · rw [hlength]
    rfl

/-- The record that ends a request can be sent. -/
theorem wellFormed_endRequest (id : UInt16) (body : EndBody) : (endRequest id body).WellFormed :=
  have htype : RecordType.endRequest.Readable := trivial
  wellFormed_of_new htype (new_endRequest id body)

/-- The record that ends a stream can be sent. -/
theorem wellFormed_endOfStream {type : RecordType} (htype : type.Readable) (id : UInt16) :
    (endOfStream type id).WellFormed := ⟨rfl, htype, Nat.zero_le _⟩

/-- A record takes bytes, if only for its header. -/
theorem encode_ne_nil (record : Record) : record.encode ≠ [] := List.cons_ne_nil _ _

/-- Records take bytes. -/
theorem encodeAll_ne_nil {records : List Record} (h : records ≠ []) : encodeAll records ≠ [] := by
  cases records with
  | nil => exact absurd rfl h
  | cons record records =>
    rw [encodeAll_cons]
    exact List.append_ne_nil_of_left_ne_nil record.encode_ne_nil _

/-- One record's worth of reading a byte string to its end. -/
theorem decodeAll_eq (bytes : Bytes) :
    decodeAll bytes =
      match decode bytes with
      | .error e => ⟨[], some e, bytes⟩
      | .ok none => ⟨[], none, bytes⟩
      | .ok (some (record, rest)) =>
        { decodeAll rest with records := record :: (decodeAll rest).records } := by
  rw [decodeAll]
  split
  next h => simp only [h]
  next h => simp only [h]
  next h => simp only [h]

/-- Records that were written are read back, whatever follows them. -/
theorem decodeAll_encodeAll_append {records : List Record} (h : ∀ r ∈ records, r.WellFormed)
    (tail : Bytes) :
    decodeAll (encodeAll records ++ tail) =
      { decodeAll tail with records := records ++ (decodeAll tail).records } := by
  induction records with
  | nil => rfl
  | cons record records ih =>
    have hrest := ih fun r hr => h r (.tail _ hr)
    rw [encodeAll_cons, List.append_assoc, decodeAll_eq, (h record (.head _)).decode]
    simp only [hrest, List.cons_append]

/-- Records that were written are read back, and nothing else is. -/
theorem decodeAll_encodeAll {records : List Record} (h : ∀ r ∈ records, r.WellFormed) :
    decodeAll (encodeAll records) = ⟨records, none, []⟩ := by
  have hnil : decodeAll [] = ⟨[], none, []⟩ := by rw [decodeAll_eq]; rfl
  have := decodeAll_encodeAll_append h []
  rwa [List.append_nil, hnil, List.append_nil] at this

end Record

/-! ## Reliable connections -/

namespace Connection

/-- A connection that takes all that is written to it. How much it takes at a time does not matter,
as long as it is not nothing. -/
structure Reliable (connection : Connection) : Prop where
  capacity : connection.capacity = none
  chunk : connection.chunk ≠ some 0
  flushing : connection.flushing = .succeeds

/-- A new connection takes all that is sent. -/
theorem reliable_new (script : List Event) : (new script).Reliable where
  capacity := rfl
  chunk h := by cases h
  flushing := rfl

/-- A connection that has taken some more bytes. -/
def accept (connection : Connection) (bytes : Bytes) : Connection :=
  { connection with sent := connection.sent ++ bytes }

/-- Bytes that are accepted stand behind those written before. -/
@[simp]
theorem sent_accept (connection : Connection) (bytes : Bytes) :
    (connection.accept bytes).sent.toList = connection.sent.toList ++ bytes := by
  simp [accept]

/-- Bytes that are accepted take up as much room as they are. -/
theorem size_accept (connection : Connection) (bytes : Bytes) :
    (connection.accept bytes).sent.size = connection.sent.size + bytes.length := by
  have := congrArg List.length (connection.sent_accept bytes)
  rwa [List.length_append, Array.length_toList, Array.length_toList] at this

@[simp]
theorem accept_nil (connection : Connection) : connection.accept [] = connection := by
  simp [accept]

/-- Bytes may be accepted in two goes. -/
@[simp]
theorem accept_accept (connection : Connection) (bytes bytes' : Bytes) :
    (connection.accept bytes).accept bytes' = connection.accept (bytes ++ bytes') := by
  have : connection.sent ++ bytes ++ bytes' = connection.sent ++ (bytes ++ bytes') := by
    apply Array.toList_inj.1
    simp
  simp only [accept, this]

/-- A connection that takes all that is sent goes on doing so. -/
theorem Reliable.accept {connection : Connection} (h : connection.Reliable) (bytes : Bytes) :
    (connection.accept bytes).Reliable := ⟨h.capacity, h.chunk, h.flushing⟩

/-! One call's worth of writing. -/

section

variable (connection : Connection) (limit : Duration) {bytes : Bytes}

/-- To write nothing is to flush. -/
theorem write_nil :
    connection.write limit [] = connection.perform limit connection.flushing := by
  rw [write, dif_pos rfl]

variable (hbytes : bytes ≠ [])

include hbytes

/-- Without a bound on what is accepted, all bytes are written and then flushed. -/
theorem write_of_unbounded (h : connection.allowance = none) :
    connection.write limit bytes =
      (connection.accept bytes).perform limit connection.flushing := by
  rw [write]
  simp only [hbytes, h, dif_neg, not_false_eq_true]
  rfl

/-- If no byte is accepted, the write comes to the refusal. -/
theorem write_of_refused (h : connection.allowance = some 0) :
    connection.write limit bytes = connection.perform limit connection.refusal := by
  rw [write]
  simp only [hbytes, h, dif_neg, not_false_eq_true]

/-- If some bytes are accepted, they are on the wire, and the write goes on with the others. -/
theorem write_of_accepted {n : Nat} (h : connection.allowance = some (n + 1)) :
    connection.write limit bytes =
      (connection.accept (bytes.take (n + 1))).write limit (bytes.drop (n + 1)) := by
  rw [write]
  simp only [hbytes, h, dif_neg, not_false_eq_true]
  rfl

end

/-- A connection that cannot take so many bytes in all. -/
def Short (connection : Connection) (size : Nat) : Prop :=
  connection.chunk = some 0 ∨ ∃ capacity, connection.capacity = some capacity ∧ capacity < size

/-- A connection that takes all that is sent has room for any number of bytes. -/
theorem Reliable.not_short {connection : Connection} (h : connection.Reliable) (size : Nat) :
    ¬connection.Short size := by
  rintro (hchunk | ⟨capacity, hcapacity, -⟩)
  · exact h.chunk hchunk
  · rw [h.capacity] at hcapacity
    cases hcapacity

/-- If nothing is accepted of a write, then there is no room for another byte. -/
theorem allowance_eq_zero_iff {connection : Connection} :
    connection.allowance = some 0 ↔ connection.Short (connection.sent.size + 1) := by
  unfold allowance Short
  cases connection.chunk <;> cases connection.capacity <;> simp <;> omega

/-- A write that there is room for puts its bytes behind those written before, and comes to what the
flush after it comes to. -/
theorem write_eq_perform {connection : Connection} (limit : Duration) {bytes : Bytes}
    (hroom : ¬connection.Short (connection.sent.size + bytes.length)) :
    connection.write limit bytes =
      (connection.accept bytes).perform limit connection.flushing := by
  induction connection, bytes using write.induct with
  | case1 connection => rw [write_nil, accept_nil]
  | case2 connection bytes hbytes hall => rw [write_of_unbounded _ _ hbytes hall]
  | case3 connection bytes hbytes hzero =>
    have hpos := List.length_pos_iff.2 hbytes
    rcases allowance_eq_zero_iff.1 hzero with hchunk | ⟨capacity, hcapacity, hlt⟩
    · exact absurd (.inl hchunk) hroom
    · exact absurd (.inr ⟨capacity, hcapacity, by omega⟩) hroom
  | case4 connection bytes hbytes n hsome _ ih =>
    have hsize : (connection.accept (bytes.take (n + 1))).sent.size +
        (bytes.drop (n + 1)).length = connection.sent.size + bytes.length := by
      rw [size_accept, Nat.add_assoc, ← List.length_append, List.take_append_drop]
    have hrest : (connection.accept (bytes.take (n + 1))).write limit (bytes.drop (n + 1)) =
        ((connection.accept (bytes.take (n + 1))).accept (bytes.drop (n + 1))).perform limit
          connection.flushing := by
      refine ih fun hshort => hroom ?_
      rw [← hsize]
      exact hshort
    rw [write_of_accepted _ _ hbytes hsome, hrest, accept_accept, List.take_append_drop]

/-- A write succeeds that there is room for, and puts its bytes behind those written before. -/
theorem write_of_room {connection : Connection} (hflush : connection.flushing = .succeeds)
    (limit : Duration) {bytes : Bytes}
    (hroom : ¬connection.Short (connection.sent.size + bytes.length)) :
    connection.write limit bytes = (.done, connection.accept bytes) := by
  rw [write_eq_perform limit hroom, hflush]
  rfl

/-- On a reliable connection a write succeeds, and puts its bytes behind those written before. -/
theorem write_of_reliable {connection : Connection} (h : connection.Reliable) (limit : Duration)
    (bytes : Bytes) : connection.write limit bytes = (.done, connection.accept bytes) :=
  write_of_room h.flushing limit (h.not_short _)

end Connection

namespace Channel

/-! ## The pieces of a stream -/

/-- There are no pieces of no data. -/
theorem pieces_nil : pieces [] = [] := by
  rw [pieces, if_pos rfl]

/-- The first piece is as long as a content may be, and the others are those of the data behind
it. -/
theorem pieces_of_ne_nil {data : Bytes} (h : data ≠ []) :
    pieces data = data.take maxContentLength :: pieces (data.drop maxContentLength) := by
  rw [pieces, if_neg h]

/-- Every piece of a stream is a content that a record can hold, and none of them is empty. -/
theorem length_of_mem_pieces {data piece : Bytes} (h : piece ∈ pieces data) :
    0 < piece.length ∧ piece.length ≤ maxContentLength := by
  induction data using pieces.induct with
  | case1 => rw [pieces_nil] at h; cases h
  | case2 data hdata ih =>
    rw [pieces_of_ne_nil hdata] at h
    rcases List.mem_cons.1 h with rfl | h
    · have := List.length_pos_iff.2 hdata
      have := maxContentLength_pos
      simp only [List.length_take]
      omega
    · exact ih h

/-- The pieces of a stream make it up. -/
theorem flatten_pieces (data : Bytes) : (pieces data).flatten = data := by
  induction data using pieces.induct with
  | case1 => rw [pieces_nil]; rfl
  | case2 data hdata ih =>
    rw [pieces_of_ne_nil hdata, List.flatten_cons, ih, List.take_append_drop]

/-- The contents of the records of a stream make up its data. -/
theorem content_streamRecords (type : RecordType) (id : UInt16) (data : Bytes) :
    (streamRecords type id data).flatMap Record.content = data := by
  rw [streamRecords, List.flatMap_map]
  exact List.flatMap_id'.trans (flatten_pieces data)

/-- No data takes no record. -/
theorem streamRecords_nil (type : RecordType) (id : UInt16) : streamRecords type id [] = [] := by
  rw [streamRecords, pieces_nil]
  rfl

/-- The records of a stream can be sent if their type can be read. -/
theorem wellFormed_of_mem_streamRecords {type : RecordType} (htype : type.Readable) {id : UInt16}
    {data : Bytes} {record : Record} (h : record ∈ streamRecords type id data) :
    record.WellFormed := by
  obtain ⟨piece, hpiece, rfl⟩ := List.mem_map.1 h
  exact ⟨rfl, htype, (length_of_mem_pieces hpiece).2⟩

/-! ## Sending -/

@[simp]
theorem Outcome.andThen_ok {α β : Type} (a : α) (channel : Channel)
    (next : α → Channel → Outcome β) :
    Outcome.andThen (.ok a, channel) next = next a channel := rfl

/-- Operations in turn succeed only if each of them does. -/
theorem andThen_eq_ok {α β : Type} {outcome : Outcome α} {next : α → Channel → Outcome β} {b : β}
    {channel' : Channel} (h : outcome.andThen next = (.ok b, channel')) :
    ∃ a between, outcome = (.ok a, between) ∧ next a between = (.ok b, channel') := by
  obtain ⟨_ | a, between⟩ := outcome
  · cases h
  · exact ⟨a, between, rfl, h⟩

/-- A channel on which sending succeeds: it is open, and its connection is reliable. -/
structure Ready (channel : Channel) : Prop where
  reliable : channel.connection.Reliable
  opened : channel.closed = false

/-- The second channel comes from the first by sending some records: their bytes are all that is new
on the connection, and what is to be read has not changed. -/
structure Sends (channel : Channel) (records : List Record) (channel' : Channel) : Prop where
  wellFormed : ∀ r ∈ records, r.WellFormed
  connection : channel'.connection = channel.connection.accept (Record.encodeAll records)
  buffer : channel'.buffer = channel.buffer
  timeout : channel'.timeout = channel.timeout
  closed : channel'.closed = channel.closed

namespace Sends

variable {channel channel' channel'' : Channel} {records records' : List Record}

theorem refl (channel : Channel) : channel.Sends [] channel :=
  ⟨nofun, by simp, rfl, rfl, rfl⟩

/-- Sending some records and then others is sending all of them. -/
theorem trans (h : channel.Sends records channel') (h' : channel'.Sends records' channel'') :
    channel.Sends (records ++ records') channel'' where
  wellFormed r hr := (List.mem_append.1 hr).elim (h.wellFormed r) (h'.wellFormed r)
  connection := by
    rw [h'.connection, h.connection, Connection.accept_accept, Record.encodeAll_append]
  buffer := h'.buffer.trans h.buffer
  timeout := h'.timeout.trans h.timeout
  closed := h'.closed.trans h.closed

/-- The records that were sent are what is new on the wire. -/
theorem sent (h : channel.Sends records channel') :
    channel'.connection.sent.toList =
      channel.connection.sent.toList ++ Record.encodeAll records := by
  rw [h.connection, Connection.sent_accept]

/-- A channel on which records were sent can have more sent. -/
theorem ready (h : channel.Sends records channel') (hready : channel.Ready) : channel'.Ready :=
  ⟨h.connection ▸ hready.reliable.accept _, h.closed.trans hready.opened⟩

end Sends

/-- A log entry sends nothing. -/
theorem sends_tell (channel : Channel) (level : Level) (topic : Topic) (message : String) :
    channel.Sends [] (channel.tell level topic message) :=
  ⟨nofun, by simp [tell], rfl, rfl, rfl⟩

section

variable {channel : Channel} (hready : channel.Ready)

include hready

/-- On a channel that can send, a write succeeds, and its bytes are on the wire. -/
theorem write_of_ready (bytes : Bytes) :
    channel.write bytes =
      (.ok (), { channel with connection := channel.connection.accept bytes }) := by
  simp [write, hready.opened, Connection.write_of_reliable hready.reliable]

/-- A well-formed record is sent as it is. -/
theorem sendRecord_of_ready {record : Record} (hrecord : record.WellFormed) :
    ∃ channel', channel.sendRecord record = (.ok (), channel') ∧
      channel.Sends [record] channel' ∧ channel'.openStreams = channel.openStreams := by
  have hwrite := write_of_ready ((sends_tell channel .trace .channel
    s!"{channel.peer} -> {record.type.name} id={record.id} len={record.content.length}").ready
    hready) record.encode
  refine ⟨_, hwrite, ⟨?_, ?_, rfl, rfl, rfl⟩, rfl⟩
  · simpa using hrecord
  · simp [tell]

/-- A record that can be made of a content is what is sent. -/
theorem send_of_ready {type : RecordType} (htype : type.Readable) {id : UInt16} {content : Bytes}
    {record : Record} (hnew : Record.new type id content = .ok record) :
    ∃ channel', channel.send type id content = (.ok (), channel') ∧
      channel.Sends [record] channel' ∧ channel'.openStreams = channel.openStreams := by
  rw [send, hnew]
  exact sendRecord_of_ready hready (Record.wellFormed_of_new htype hnew)

/-- The end of a request is one record, after which the channel is closed unless it is kept. -/
theorem sendEnd_of_ready (id : UInt16) (status : ProtocolStatus) (exitCode : Int32) (keep : Bool) :
    ∃ channel', channel.sendEnd id status exitCode keep =
        (.ok (), if keep then channel' else channel'.close) ∧
      channel.Sends [.endRequest id ⟨status, exitCode⟩] channel' ∧
      channel'.openStreams = channel.openStreams := by
  have htype : RecordType.endRequest.Readable := trivial
  obtain ⟨sent, hsend, hsends, hstreams⟩ :=
    send_of_ready hready htype (Record.new_endRequest id ⟨status, exitCode⟩)
  rw [sendEnd, hsend, Outcome.andThen_ok]
  exact ⟨_, rfl, hsends.trans (sends_tell ..), hstreams⟩

/-- The data of a stream is sent in as many records as it takes. -/
theorem sendStream_of_ready {type : RecordType} (htype : type.Readable) (id : UInt16)
    (data : Bytes) :
    ∃ channel', channel.sendStream type id data = (.ok (), channel') ∧
      channel.Sends (streamRecords type id data) channel' ∧
      channel'.openStreams =
        if data.isEmpty then channel.openStreams else opened channel.openStreams type id := by
  cases hdata : data.isEmpty with
  | true =>
    obtain rfl := List.isEmpty_iff.1 hdata
    refine ⟨channel, by simp [sendStream], ?_, rfl⟩
    rw [streamRecords_nil]
    exact .refl channel
  | false =>
    simp only [sendStream, hdata, Bool.false_eq_true, if_false]
    generalize htold : channel.tell .trace .channel _ = told
    have htells : channel.Sends [] told := htold ▸ sends_tell ..
    rw [write_of_ready (htells.ready hready), Outcome.andThen_ok]
    refine ⟨_, rfl, ⟨fun _ => wellFormed_of_mem_streamRecords htype, ?_, htells.buffer,
      htells.timeout, htells.closed⟩, by rw [← htold]; rfl⟩
    simp [htells.connection]

/-- A stream is ended by one record without content. -/
theorem endStream_of_ready {type : RecordType} (htype : type.Readable) (id : UInt16) :
    ∃ channel', channel.endStream type id = (.ok (), channel') ∧
      channel.Sends [.endOfStream type id] channel' ∧
      channel'.openStreams = channel.openStreams.filter (· ≠ (type, id)) := by
  obtain ⟨channel', hsend, hsends, hstreams⟩ :=
    sendRecord_of_ready hready (Record.wellFormed_endOfStream htype id)
  rw [endStream, hsend, Outcome.andThen_ok]
  exact ⟨_, rfl,
    ⟨hsends.wellFormed, hsends.connection, hsends.buffer, hsends.timeout, hsends.closed⟩,
    by rw [hstreams]⟩

end

/-! ## What has been sent -/

/-- Some records make up all that has been written. -/
structure Wrote (channel : Channel) (records : List Record) : Prop where
  wellFormed : ∀ r ∈ records, r.WellFormed
  sent : channel.connection.sent.toList = Record.encodeAll records

/-- On a new channel nothing has been written. -/
theorem wrote_new {connection : Connection} (hsent : connection.sent = #[]) (timeout : Duration)
    (peer : String) : (new connection timeout peer).Wrote [] where
  wellFormed := nofun
  sent := congrArg Array.toList hsent

/-- Records that are sent stand behind those written before. -/
theorem Wrote.sends {channel channel' : Channel} {records records' : List Record}
    (h : channel.Wrote records) (h' : channel.Sends records' channel') :
    channel'.Wrote (records ++ records') where
  wellFormed r hr := (List.mem_append.1 hr).elim (h.wellFormed r) (h'.wellFormed r)
  sent := by rw [h'.sent, h.sent, Record.encodeAll_append]

/-- The records that are read off what has been written. -/
def frames (channel : Channel) : List Record :=
  (Record.decodeAll channel.connection.sent.toList).records

/-- What has been written is read back as the records that were sent, and nothing is left over. -/
theorem Wrote.decodeAll {channel : Channel} {records : List Record} (h : channel.Wrote records) :
    Record.decodeAll channel.connection.sent.toList = ⟨records, none, []⟩ := by
  rw [h.sent, Record.decodeAll_encodeAll h.wellFormed]

/-- The records that are read off what has been written are those that were sent. -/
theorem Wrote.frames {channel : Channel} {records : List Record} (h : channel.Wrote records) :
    channel.frames = records := by
  rw [Channel.frames, h.decodeAll]

/-! ## Closing -/

/-- Closing writes nothing. -/
theorem sent_close (channel : Channel) :
    channel.close.connection.sent = channel.connection.sent := by
  unfold close
  split
  · rfl
  · have hsent : (channel.connection.close channel.timeout).2.sent = channel.connection.sent := by
      unfold Connection.close
      cases channel.connection.closing <;> rfl
    split <;> next h => rw [← hsent, h]; rfl

/-- Closing a channel that is open asks for the stream to be closed. -/
theorem shutdowns_close {channel : Channel} (h : channel.closed = false) :
    channel.close.connection.shutdowns = channel.connection.shutdowns + 1 := by
  have hcount : (channel.connection.close channel.timeout).2.shutdowns =
      channel.connection.shutdowns + 1 := by
    unfold Connection.close
    cases channel.connection.closing <;> rfl
  rw [close, if_neg (by simp [h])]
  split <;> next hclose => rw [hclose] at hcount; exact hcount

/-- A channel that was open and is closed has asked for the stream to be closed. -/
theorem shutdown_close {channel : Channel} (h : channel.closed = false) :
    channel.close.connection.shutdown = true := by
  rw [Connection.shutdown, shutdowns_close h]
  rfl

/-- Closing ends no stream. -/
theorem openStreams_close (channel : Channel) :
    channel.close.openStreams = channel.openStreams := by
  unfold close
  split
  · rfl
  · split <;> rfl

/-- A channel that has been closed is closed. -/
theorem closed_close (channel : Channel) : channel.close.closed = true := by
  unfold close
  split
  · assumption
  · split <;> rfl

/-- To close a channel again does nothing. -/
theorem close_close (channel : Channel) : channel.close.close = channel.close := by
  rw [close, if_pos channel.closed_close]

/-- Closing leaves what has been written. -/
theorem Wrote.close {channel : Channel} {records : List Record} (h : channel.Wrote records) :
    channel.close.Wrote records := ⟨h.wellFormed, by rw [sent_close, h.sent]⟩

end Channel

end FastCgi
