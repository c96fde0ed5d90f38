import FastCgi.Body
import FastCgi.Connection
import FastCgi.Journal
import FastCgi.Record.Decode
import FastCgi.TransportError

/-!
# Channels

A channel carries records over one connection. What has arrived is held back until it makes a whole
record, so the places at which the connection cuts its bytes are not seen. What is sent goes out as
one write, be it a record or the many records of a long stream. A channel knows which streams it
has begun and not ended, and once it is closed nothing is read or written any more.

Every operation takes the channel and gives what came of it together with the channel after it.
`receive_unread_lt` says that each record received leaves fewer bytes to read, and `Keeps` that no
other operation touches what is to be read: whatever reads records until there are none is
therefore bound to end.
-/

namespace FastCgi

/-- A channel for records. -/
structure Channel where
  connection : Connection
  /-- The bytes that have been read and do not make a record yet. -/
  buffer : Bytes
  /-- How long a read, a write or the closing of the stream may take. -/
  timeout : Duration
  /-- What the peer is called in log entries. -/
  peer : String
  /-- Whether this side has closed the connection, or has seen the peer close it. -/
  closed : Bool
  /-- The streams on which data has been sent since they were last ended, the oldest first. -/
  openStreams : List (RecordType × UInt16)
  journal : Journal
deriving Inhabited

namespace Channel

/-- The channel over a fresh connection. -/
def new (connection : Connection) (timeout : Duration) (peer : String := "unknown") : Channel :=
  ⟨connection, [], timeout, peer, false, [], .empty⟩

/-- Makes a log entry. -/
def tell (channel : Channel) (level : Level) (topic : Topic) (message : String) : Channel :=
  { channel with journal := channel.journal.note ⟨level, topic, message⟩ }

/-- The number of bytes that records may still be made of. -/
def unread (channel : Channel) : Nat := channel.buffer.length + channel.connection.unread

/-- What an operation on a channel comes to, and the channel after it. -/
abbrev Outcome (α : Type) := Except TransportError α × Channel

/-- Goes on with the result of an operation that succeeded. -/
def Outcome.andThen {α β : Type} (outcome : Outcome α) (next : α → Channel → Outcome β) :
    Outcome β :=
  match outcome with
  | (.error e, channel) => (.error e, channel)
  | (.ok a, channel) => next a channel

/-! ## Receiving -/

/-- Waits until a whole record has been read. -/
def await (channel : Channel) : Outcome Record :=
  match Record.decode channel.buffer with
  | .error e => (.error (.protocol e), channel)
  | .ok (some (record, rest)) =>
    (.ok record, { channel with buffer := rest }.tell .trace .channel
      s!"{channel.peer} <- {record.type.name} id={record.id} len={record.content.length}")
  | .ok none =>
    match h : channel.connection.read channel.timeout with
    | (.data bytes, connection) =>
      have := Connection.read_script_lt h
      { channel with connection, buffer := channel.buffer ++ bytes }.await
    | (.endOfStream, connection) =>
      let midFrame := !channel.buffer.isEmpty
      (.error (.closed midFrame), { channel with connection, closed := true }.tell .debug .channel
        s!"Peer {channel.peer} closed the connection (mid-frame: {truth midFrame})")
    | (.fault reason, connection) => (.error (.io reason), { channel with connection })
    | (.timedOut, connection) => (.error (.timeout channel.timeout), { channel with connection })
termination_by channel.connection.script.length

/-- One read's worth of waiting for a record. -/
theorem await_eq (channel : Channel) :
    channel.await =
      match Record.decode channel.buffer with
      | .error e => (.error (.protocol e), channel)
      | .ok (some (record, rest)) =>
        (.ok record, { channel with buffer := rest }.tell .trace .channel
          s!"{channel.peer} <- {record.type.name} id={record.id} len={record.content.length}")
      | .ok none =>
        match channel.connection.read channel.timeout with
        | (.data bytes, connection) =>
          { channel with connection, buffer := channel.buffer ++ bytes }.await
        | (.endOfStream, connection) =>
          let midFrame := !channel.buffer.isEmpty
          (.error (.closed midFrame), { channel with connection, closed := true }.tell .debug
            .channel s!"Peer {channel.peer} closed the connection (mid-frame: {truth midFrame})")
        | (.fault reason, connection) => (.error (.io reason), { channel with connection })
        | (.timedOut, connection) =>
          (.error (.timeout channel.timeout), { channel with connection }) := by
  rw [await]
  split
  · rfl
  · rfl
  · split
    next h => simp only [h]
    next h => simp only [h]
    next h => simp only [h]
    next h => simp only [h]

/-- Receives the next record. A channel that is closed receives none, whatever it has read
before. -/
def receive (channel : Channel) : Outcome Record :=
  if channel.closed then (.error (.closed false), channel) else channel.await

/-! ## Sending -/

/-- Writes the bytes of some records and flushes them. -/
def write (channel : Channel) (bytes : Bytes) : Outcome Unit :=
  if channel.closed then (.error (.closed false), channel)
  else match channel.connection.write channel.timeout bytes with
    | (.done, connection) => (.ok (), { channel with connection })
    | (.fault reason, connection) => (.error (.io reason), { channel with connection })
    | (.timedOut, connection) => (.error (.timeout channel.timeout), { channel with connection })

/-- Sends a record as it is. -/
def sendRecord (channel : Channel) (record : Record) : Outcome Unit :=
  (channel.tell .trace .channel
    s!"{channel.peer} -> {record.type.name} id={record.id} len={record.content.length}").write
    record.encode

/-- Sends a record with the least padding. A content too long for a record is refused before the
connection is looked at. -/
def send (channel : Channel) (type : RecordType) (id : UInt16) (content : Bytes) : Outcome Unit :=
  match Record.new type id content with
  | .error e => (.error (.protocol e), channel)
  | .ok record => channel.sendRecord record

/-- The data of a stream cut into contents for records, all of them full but the last one. -/
def pieces (data : Bytes) : List Bytes :=
  if data = [] then []
  else data.take maxContentLength :: pieces (data.drop maxContentLength)
termination_by data.length
decreasing_by
  next h =>
    have := List.length_pos_iff.2 h
    have := maxContentLength_pos
    rw [List.length_drop]
    omega

/-- The records that carry the data of a stream. -/
def streamRecords (type : RecordType) (id : UInt16) (data : Bytes) : List Record :=
  (pieces data).map fun piece => ⟨version1, type, id, piece, paddingFor piece.length⟩

/-- The open streams once data has been sent on one of them. -/
def opened (streams : List (RecordType × UInt16)) (type : RecordType) (id : UInt16) :
    List (RecordType × UInt16) :=
  if (type, id) ∈ streams then streams else streams ++ [(type, id)]

/-- Sends data on a stream, in as many records as it takes and in one write. The stream is open
from then on. Without data nothing is sent. -/
def sendStream (channel : Channel) (type : RecordType) (id : UInt16) (data : Bytes) :
    Outcome Unit :=
  if data.isEmpty then (.ok (), channel)
  else
    let channel := channel.tell .trace .channel
      s!"{channel.peer} -> {type.name} id={id} len={data.length} (stream)"
    (channel.write (Record.encodeAll (streamRecords type id data))).andThen fun _ channel =>
      (.ok (), { channel with openStreams := opened channel.openStreams type id })

/-- Ends a stream with a record that has no content. -/
def endStream (channel : Channel) (type : RecordType) (id : UInt16) : Outcome Unit :=
  (channel.sendRecord (.endOfStream type id)).andThen fun _ channel =>
    (.ok (), { channel with openStreams := channel.openStreams.filter (· ≠ (type, id)) })

/-- Ends the streams of some types, one after another, until one cannot be ended. -/
def endStreams (channel : Channel) (id : UInt16) : List RecordType → Outcome Unit
  | [] => (.ok (), channel)
  | type :: types =>
    (channel.endStream type id).andThen fun _ channel => channel.endStreams id types

/-- Ends every stream of a request that is open, in the order in which they were begun. -/
def endOpenStreams (channel : Channel) (id : UInt16) : Outcome Unit :=
  channel.endStreams id ((channel.openStreams.filter (·.2 = id)).map Prod.fst)

/-! ## Closing -/

/-- Closes the connection, unless it is closed already. That closing the stream fails or takes too
long is only worth a log entry. -/
def close (channel : Channel) : Channel :=
  if channel.closed then channel
  else match channel.connection.close channel.timeout with
    | (.done, connection) => { channel with closed := true, connection }.tell .debug .channel
        s!"Closed connection to {channel.peer}"
    | (.fault reason, connection) => { channel with closed := true, connection }.tell .debug .channel
        s!"Error closing connection to {channel.peer}: {reason}"
    | (.timedOut, connection) => { channel with closed := true, connection }.tell .debug .channel
        s!"Timed out closing connection to {channel.peer}"

/-- Sends the record that ends a request, and closes the connection unless it is to be kept. -/
def sendEnd (channel : Channel) (id : UInt16) (status : ProtocolStatus) (exitCode : Int32)
    (keep : Bool) : Outcome Unit :=
  (channel.send .endRequest id (EndBody.toBytes ⟨status, exitCode⟩)).andThen fun _ channel =>
    let channel := channel.tell .debug .channel
      s!"{channel.peer} END_REQUEST id={id} status={status.name} app={exitCode}"
    (.ok (), if keep then channel else channel.close)

/-- A channel as it is shown in messages. -/
def summary (channel : Channel) : String :=
  let streams := bracketed (channel.openStreams.map fun (type, id) => s!"({type.name}, {id})")
  "Transceiver \x7b peer: " ++ quoted channel.peer ++
    s!", buffered: {channel.buffer.length}, closed: {truth channel.closed}" ++
    s!", open_streams: {streams} " ++ "\x7d"

/-! ## What is left to read -/

/-- Of two channels, the second has as much to read as the first, and from the same script. -/
structure Keeps (channel channel' : Channel) : Prop where
  buffer : channel'.buffer = channel.buffer
  script : channel'.connection.script = channel.connection.script

namespace Keeps

theorem refl (channel : Channel) : channel.Keeps channel := ⟨rfl, rfl⟩

/-- What is kept by one operation and by the next is kept by both. -/
theorem trans {channel channel' channel'' : Channel} (h : channel.Keeps channel')
    (h' : channel'.Keeps channel'') : channel.Keeps channel'' :=
  ⟨h'.buffer.trans h.buffer, h'.script.trans h.script⟩

/-- A channel that is kept has as many bytes left for records. -/
theorem unread {channel channel' : Channel} (h : channel.Keeps channel') :
    channel'.unread = channel.unread := by
  simp [Channel.unread, Connection.unread, h.buffer, h.script]

end Keeps

/-- Operations in turn leave what is to be read, if each of them does. -/
theorem Keeps.andThen {α β : Type} {channel : Channel} {outcome : Outcome α}
    {next : α → Channel → Outcome β} (h : channel.Keeps outcome.2)
    (hnext : ∀ (a : α) (channel : Channel), channel.Keeps (next a channel).2) :
    channel.Keeps (outcome.andThen next).2 := by
  obtain ⟨_ | a, channel'⟩ := outcome
  · exact h
  · exact h.trans (hnext a channel')

/-- A log entry leaves what is to be read. -/
theorem keeps_tell (channel : Channel) (level : Level) (topic : Topic) (message : String) :
    channel.Keeps (channel.tell level topic message) := ⟨rfl, rfl⟩

/-- Writing reads nothing, also if the channel is closed or the write fails. -/
theorem keeps_write (channel : Channel) (bytes : Bytes) :
    channel.Keeps (channel.write bytes).2 := by
  unfold write
  split
  · exact .refl _
  · have hscript := channel.connection.write_script channel.timeout bytes
    split <;> next h => exact ⟨rfl, by simpa [h] using hscript⟩

/-- Sending a record reads nothing. -/
theorem keeps_sendRecord (channel : Channel) (record : Record) :
    channel.Keeps (channel.sendRecord record).2 :=
  (keeps_tell _ _ _ _).trans (keeps_write _ _)

/-- Sending a content reads nothing, also if no record can hold it. -/
theorem keeps_send (channel : Channel) (type : RecordType) (id : UInt16) (content : Bytes) :
    channel.Keeps (channel.send type id content).2 := by
  unfold send
  split
  · exact .refl _
  · exact keeps_sendRecord _ _

/-- Sending data on a stream reads nothing, in however many records it goes. -/
theorem keeps_sendStream (channel : Channel) (type : RecordType) (id : UInt16) (data : Bytes) :
    channel.Keeps (channel.sendStream type id data).2 := by
  unfold sendStream
  split
  · exact .refl _
  · exact (keeps_tell _ _ _ _).trans ((keeps_write _ _).andThen fun _ _ => ⟨rfl, rfl⟩)

/-- Ending a stream reads nothing. -/
theorem keeps_endStream (channel : Channel) (type : RecordType) (id : UInt16) :
    channel.Keeps (channel.endStream type id).2 :=
  (keeps_sendRecord _ _).andThen fun _ _ => ⟨rfl, rfl⟩

/-- Ending several streams reads nothing, also if one of them cannot be ended. -/
theorem keeps_endStreams (channel : Channel) (id : UInt16) (types : List RecordType) :
    channel.Keeps (channel.endStreams id types).2 := by
  induction types generalizing channel with
  | nil => exact .refl _
  | cons type types ih => exact (keeps_endStream _ _ _).andThen fun _ _ => ih _

theorem keeps_endOpenStreams (channel : Channel) (id : UInt16) :
    channel.Keeps (channel.endOpenStreams id).2 := keeps_endStreams _ _ _

/-- Closing reads nothing, neither from the connection nor from what is held back. -/
theorem keeps_close (channel : Channel) : channel.Keeps channel.close := by
  unfold close
  split
  · exact .refl _
  · have hscript := channel.connection.close_script channel.timeout
    split <;> next h => exact ⟨rfl, by simpa [h, tell] using hscript⟩

/-- Ending a request reads nothing, whether or not the connection is kept. -/
theorem keeps_sendEnd (channel : Channel) (id : UInt16) (status : ProtocolStatus)
    (exitCode : Int32) (keep : Bool) :
    channel.Keeps (channel.sendEnd id status exitCode keep).2 := by
  refine (keeps_send _ _ _ _).andThen fun _ channel => ?_
  cases keep
  · exact (keeps_tell channel .debug .channel _).trans (keeps_close _)
  · exact keeps_tell channel .debug .channel _

/-- A record that is received leaves fewer bytes to read, and nothing that is received leaves
more. -/
theorem await_unread (channel : Channel) :
    channel.await.2.unread + (if channel.await.1.isOk then headerLength else 0) ≤
      channel.unread := by
  induction channel using await.induct with
  | case1 channel e hdecode => simp [await_eq, hdecode, Except.isOk, Except.toBool]
  | case2 channel record rest hdecode =>
    have := Record.decode_eq_some_length hdecode
    simp only [await_eq, hdecode, Except.isOk, Except.toBool, unread, tell, if_true]
    omega
  | case3 channel hdecode bytes connection hread _ ih =>
    have hbytes := Connection.read_unread_le hread
    rw [await_eq]
    simp only [hdecode, hread]
    refine Nat.le_trans ih ?_
    simp only [unread, List.length_append, Connection.Arrival.size] at hbytes ⊢
    omega
  | case4 channel hdecode connection hread | case5 channel hdecode reason connection hread
  | case6 channel hdecode connection hread =>
    have hbytes := Connection.read_unread_le hread
    rw [await_eq]
    simp only [hdecode, hread, unread, tell, Except.isOk, Except.toBool, Connection.Arrival.size,
      Bool.false_eq_true, if_false] at hbytes ⊢
    omega

/-- A record that is received leaves fewer bytes to read. -/
theorem receive_unread_lt {channel channel' : Channel} {record : Record}
    (h : channel.receive = (.ok record, channel')) : channel'.unread < channel.unread := by
  unfold receive at h
  split at h
  · cases h
  · have := channel.await_unread
    rw [h] at this
    simp only [Except.isOk, Except.toBool, if_true, headerLength] at this
    omega

/-- What cannot be received leaves nothing to go on with. -/
theorem preservesFraming_of_await {channel channel' : Channel} {e : ProtocolError}
    (h : channel.await = (.error (.protocol e), channel')) : e.preservesFraming = false := by
  induction channel using await.induct with
  | case1 channel e' hdecode =>
    rw [await_eq, hdecode] at h
    cases h
    obtain ⟨version, rfl⟩ := Record.eq_unsupportedVersion_of_decode hdecode
    rfl
  | case2 channel record rest hdecode =>
    rw [await_eq, hdecode] at h
    cases h
  | case3 channel hdecode bytes connection hread _ ih =>
    rw [await_eq] at h
    simp only [hdecode, hread] at h
    exact ih h
  | case4 channel hdecode connection hread | case5 channel hdecode reason connection hread
  | case6 channel hdecode connection hread =>
    rw [await_eq] at h
    simp only [hdecode, hread] at h
    cases h

/-- What cannot be received leaves nothing to go on with. -/
theorem preservesFraming_of_receive {channel channel' : Channel} {e : ProtocolError}
    (h : channel.receive = (.error (.protocol e), channel')) : e.preservesFraming = false := by
  unfold receive at h
  split at h
  · cases h
  · exact preservesFraming_of_await h

end Channel

end FastCgi
