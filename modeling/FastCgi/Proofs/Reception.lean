import FastCgi.Proofs.Reassembly
import FastCgi.Proofs.Actions

/-!
# Receiving in spite of faults

A read may fail or time out, also in the middle of a record, and a later one may go on. Nothing is
lost over it: the stream of a channel (`Channel.stream`) is what is in its buffer and what its
script still brings, and a read moves bytes from the one to the other. To receive from an open
channel is therefore either put off, which leaves the stream alone, or gives what comes first in it
(`Channel.hears_receive`). By induction on what is done to a channel, in which records may also be
sent, the records received are at all times the first ones of the stream it began with
(`Channel.Received.use`). `received_in_order` puts this together with the two ways in which it comes
to an end: bytes that are no record stay where they are, and a channel whose peer has closed the
connection stays closed. In both, the channel is stuck at an error (`use_of_stuck`).
-/

namespace FastCgi

/-! ## Bytes still to come -/

/-- The bytes that an event brings. -/
def Event.bytes : Event → Bytes
  | data bytes => bytes
  | fault _ | pause _ | silence => []

namespace Connection

/-- The bytes that a script brings. -/
def incoming (script : List Event) : Bytes := script.flatMap Event.bytes

/-- The bytes that a read brings. -/
def Arrival.bytes : Arrival → Bytes
  | data bytes => bytes
  | endOfStream | fault _ | timedOut => []

/-- What a wait brings comes off the front of the script, of which nothing else is lost. It comes to
the end of the stream only when the script is over. -/
theorem await_bytes {patience pause : Nat} {script script' : List Event} {arrival : Arrival}
    (h : await patience script = (arrival, pause, script')) :
    arrival.bytes ++ incoming script' = incoming script ∧
      (arrival = .endOfStream → script' = []) := by
  induction script generalizing patience with
  | nil =>
    cases h
    exact ⟨rfl, fun _ => rfl⟩
  | cons event rest ih =>
    cases event with
    | data bytes =>
      cases bytes with
      | nil => exact ih h
      | cons b bytes =>
        cases h
        exact ⟨rfl, nofun⟩
    | fault reason =>
      cases h
      exact ⟨rfl, nofun⟩
    | silence =>
      cases h
      exact ⟨rfl, nofun⟩
    | pause duration =>
      simp only [await] at h
      split at h
      · exact ih h
      · cases h
        exact ⟨rfl, nofun⟩

/-- What a read brings comes off the front of what is to come, also if a pause is cut short by
it. -/
theorem read_bytes {connection connection' : Connection} {limit : Duration} {arrival : Arrival}
    (h : connection.read limit = (arrival, connection')) :
    arrival.bytes ++ incoming connection'.script = incoming connection.script ∧
      (arrival = .endOfStream → connection'.script = []) := by
  unfold read at h
  split at h
  · cases h
    exact await_bytes rfl
  · cases h
    exact ⟨rfl, nofun⟩

/-- A connection over which nothing but bytes is still to arrive, with no pause or fault in
between. -/
structure Steady (connection : Connection) : Prop where
  pause : connection.pause = 0
  script : ∃ pieces : List Bytes, connection.script = pieces.map .data

/-- On a steady connection, a read brings bytes or the end of the stream. -/
theorem Steady.read {connection connection' : Connection} (h : connection.Steady) {limit : Duration}
    {arrival : Arrival} (hread : connection.read limit = (arrival, connection')) :
    connection'.Steady ∧ (arrival = .endOfStream ∨ ∃ piece, arrival = .data piece) := by
  obtain ⟨pieces, hscript⟩ := h.script
  rw [Connection.read, h.pause, if_pos (Nat.zero_le _), hscript] at hread
  rcases await_pieces (limit.nanoseconds - 0) pieces with ⟨hawait, -⟩ | ⟨piece, later, hawait, -⟩
  · rw [hawait] at hread
    cases hread
    exact ⟨⟨rfl, [], rfl⟩, .inl rfl⟩
  · rw [hawait] at hread
    cases hread
    exact ⟨⟨rfl, later, rfl⟩, .inr ⟨piece, rfl⟩⟩

end Connection

/-- An error that says nothing of the bytes of a connection: the next attempt may go better. -/
def TransportError.PutsOff (e : TransportError) : Prop :=
  (∃ reason, e = .io reason) ∨ ∃ limit, e = .timeout limit

namespace Channel

/-- The bytes of a channel that have not made a record yet: those that have been read, and those
that are still to arrive. -/
def stream (channel : Channel) : Bytes :=
  channel.buffer ++ Connection.incoming channel.connection.script

/-! ## Receiving once -/

/-- What receiving from an open channel comes to. -/
inductive Hears (channel : Channel) : Outcome Record → Prop
  /-- The first record of the stream. -/
  | record {record : Record} {channel' : Channel}
      (decode : Record.decode channel.stream = .ok (some (record, channel'.stream)))
      (opened : channel'.closed = false) : Hears channel (.ok record, channel')
  /-- The stream begins with bytes that are no record, and they stay. -/
  | refused {e : ProtocolError} {channel' : Channel}
      (decode : Record.decode channel'.buffer = .error e)
      (stream : channel'.stream = channel.stream) (opened : channel'.closed = false) :
      Hears channel (.error (.protocol e), channel')
  /-- The stream is over, perhaps inside a record. -/
  | ended {midFrame : Bool} {channel' : Channel} (decode : Record.decode channel.stream = .ok none)
      (inside : midFrame = !channel.stream.isEmpty) (stream : channel'.stream = channel.stream)
      (closed : channel'.closed = true) : Hears channel (.error (.closed midFrame), channel')
  /-- Reading was put off, by a pause or a fault. -/
  | putOff {e : TransportError} {channel' : Channel} (puts : e.PutsOff)
      (unsteady : ¬channel.connection.Steady) (stream : channel'.stream = channel.stream)
      (opened : channel'.closed = false) : Hears channel (.error e, channel')

/-- What receiving comes to is the same when some of the stream has been read already. -/
theorem Hears.of_stream {channel channel' : Channel} {outcome : Outcome Record}
    (h : channel'.Hears outcome) (hstream : channel'.stream = channel.stream)
    (hsteady : channel.connection.Steady → channel'.connection.Steady) : channel.Hears outcome := by
  cases h with
  | record decode opened => exact .record (hstream ▸ decode) opened
  | refused decode stream opened => exact .refused decode (stream.trans hstream) opened
  | ended decode inside stream closed =>
    exact .ended (hstream ▸ decode) (hstream ▸ inside) (stream.trans hstream) closed
  | putOff puts unsteady stream opened =>
    exact .putOff puts (fun steady => unsteady (hsteady steady)) (stream.trans hstream) opened

/-- Waiting on an open channel brings what comes first in its stream, or is put off. The bytes that
were read until then are kept, so that the stream is the same for the next attempt. -/
theorem hears_await {channel : Channel} (hopen : channel.closed = false) :
    channel.Hears channel.await := by
  induction channel using await.induct with
  | case1 channel e hdecode =>
    rw [await_eq, hdecode]
    exact .refused hdecode rfl hopen
  | case2 channel record rest hdecode =>
    rw [await_eq, hdecode]
    exact .record (Record.decode_append hdecode _) hopen
  | case3 channel hdecode bytes connection hread _ ih =>
    obtain ⟨hbytes, -⟩ := Connection.read_bytes hread
    rw [await_eq]
    simp only [hdecode, hread]
    refine (ih hopen).of_stream ?_ fun hsteady => (hsteady.read hread).1
    rw [stream, List.append_assoc]
    exact congrArg (channel.buffer ++ ·) hbytes
  | case4 channel hdecode connection hread =>
    obtain ⟨hbytes, hover⟩ := Connection.read_bytes hread
    have hbuffer : channel.stream = channel.buffer := by
      rw [stream, ← hbytes, hover rfl]
      exact List.append_nil _
    rw [await_eq]
    simp only [hdecode, hread]
    refine .ended (by rw [hbuffer, hdecode]) (by rw [hbuffer]) ?_ rfl
    exact congrArg (channel.buffer ++ ·) hbytes
  | case5 channel hdecode reason connection hread =>
    obtain ⟨hbytes, -⟩ := Connection.read_bytes hread
    rw [await_eq]
    simp only [hdecode, hread]
    -- A steady connection puts nothing off: each read brings bytes or the end.
    refine .putOff (.inl ⟨reason, rfl⟩) (fun hsteady => ?_)
      (congrArg (channel.buffer ++ ·) hbytes) hopen
    rcases (hsteady.read hread).2 with hend | ⟨_, hdata⟩
    · cases hend
    · cases hdata
  | case6 channel hdecode connection hread =>
    obtain ⟨hbytes, -⟩ := Connection.read_bytes hread
    rw [await_eq]
    simp only [hdecode, hread]
    refine .putOff (.inr ⟨_, rfl⟩) (fun hsteady => ?_)
      (congrArg (channel.buffer ++ ·) hbytes) hopen
    rcases (hsteady.read hread).2 with hend | ⟨_, hdata⟩
    · cases hend
    · cases hdata

/-- To receive from an open channel is put off, or gives what comes first in its stream. -/
theorem hears_receive {channel : Channel} (hopen : channel.closed = false) :
    channel.Hears channel.receive := by
  rw [receive, if_neg (by simp [hopen])]
  exact hears_await hopen

/-! ## Sending in between -/

/-- Something that is sent on a channel which is to stay open. -/
inductive Sending where
  | content (type : RecordType) (id : UInt16) (content : Bytes)
  | record (record : Record)
  | stream (type : RecordType) (id : UInt16) (data : Bytes)
  | endStream (type : RecordType) (id : UInt16)
  | endOpenStreams (id : UInt16)
  | endRequest (id : UInt16) (status : ProtocolStatus) (exitCode : Int32)
deriving DecidableEq, Repr

/-- Sends it. -/
def perform (channel : Channel) : Sending → Outcome Unit
  | .content type id content => channel.send type id content
  | .record record => channel.sendRecord record
  | .stream type id data => channel.sendStream type id data
  | .endStream type id => channel.endStream type id
  | .endOpenStreams id => channel.endOpenStreams id
  | .endRequest id status exitCode => channel.sendEnd id status exitCode true

/-- What leaves the input alone leaves the stream as it is. -/
theorem Keeps.stream {channel channel' : Channel} (h : channel.Keeps channel') :
    channel'.stream = channel.stream := by
  rw [Channel.stream, h.buffer, h.script, Channel.stream]

/-- Writing does not close a channel, also if it fails. -/
theorem closed_write (channel : Channel) (bytes : Bytes) :
    (channel.write bytes).2.closed = channel.closed := by
  obtain ⟨_, _, -, hwrite⟩ := channel.write_eq_with bytes
  rw [hwrite]

/-- Sending a record does not close a channel. -/
theorem closed_sendRecord (channel : Channel) (record : Record) :
    (channel.sendRecord record).2.closed = channel.closed := closed_write ..

/-- Sending a content does not close a channel. -/
theorem closed_send (channel : Channel) (type : RecordType) (id : UInt16) (content : Bytes) :
    (channel.send type id content).2.closed = channel.closed := by
  unfold send
  split
  · rfl
  · exact closed_sendRecord ..

/-- Operations in turn do not close a channel, if the later ones do not. -/
theorem closed_andThen {α β : Type} {outcome : Outcome α} {next : α → Channel → Outcome β}
    (hnext : ∀ a channel, (next a channel).2.closed = channel.closed) :
    (outcome.andThen next).2.closed = outcome.2.closed := by
  obtain ⟨_ | a, channel⟩ := outcome
  · rfl
  · exact hnext a channel

/-- Ending a stream does not close a channel. -/
theorem closed_endStream (channel : Channel) (type : RecordType) (id : UInt16) :
    (channel.endStream type id).2.closed = channel.closed :=
  (closed_andThen fun _ _ => rfl).trans (closed_sendRecord ..)

/-- Ending several streams does not close a channel. -/
theorem closed_endStreams (channel : Channel) (id : UInt16) (types : List RecordType) :
    (channel.endStreams id types).2.closed = channel.closed := by
  induction types generalizing channel with
  | nil => rfl
  | cons type types ih => exact (closed_andThen fun _ _ => ih _).trans (closed_endStream ..)

/-- Sending data on a stream does not close a channel. -/
theorem closed_sendStream (channel : Channel) (type : RecordType) (id : UInt16) (data : Bytes) :
    (channel.sendStream type id data).2.closed = channel.closed := by
  unfold sendStream
  split
  · rfl
  · exact (closed_andThen fun _ _ => rfl).trans (closed_write ..)

/-- Whether it succeeds or not, to send something touches nothing of what is to be received. -/
theorem keeps_perform (channel : Channel) (sending : Sending) :
    channel.Keeps (channel.perform sending).2 := by
  cases sending with
  | content => exact keeps_send ..
  | record => exact keeps_sendRecord ..
  | stream => exact keeps_sendStream ..
  | endStream => exact keeps_endStream ..
  | endOpenStreams => exact keeps_endOpenStreams ..
  | endRequest => exact keeps_sendEnd ..

/-- Whether it succeeds or not, to send something leaves a channel open, or closed. -/
theorem closed_perform (channel : Channel) (sending : Sending) :
    (channel.perform sending).2.closed = channel.closed := by
  cases sending with
  | content => exact closed_send ..
  | record => exact closed_sendRecord ..
  | stream => exact closed_sendStream ..
  | endStream => exact closed_endStream ..
  | endOpenStreams => exact closed_endStreams ..
  | endRequest id status exitCode =>
    exact (closed_andThen fun _ channel => rfl).trans (closed_send ..)

/-! ## Receiving again and again -/

/-- One use of a channel. -/
inductive Use where
  | receive
  | send (sending : Sending)
deriving DecidableEq, Repr

/-- Uses a channel for a while. It gives what every receive came to, the first one first. -/
def use (channel : Channel) : List Use → List (Except TransportError Record) × Channel
  | [] => ([], channel)
  | .receive :: uses =>
    (channel.receive.1 :: (channel.receive.2.use uses).1, (channel.receive.2.use uses).2)
  | .send sending :: uses => (channel.perform sending).2.use uses

/-- The records among what receives came to. -/
def received (results : List (Except TransportError Record)) : List Record :=
  results.filterMap Except.toOption

@[simp]
theorem received_ok (record : Record) (results : List (Except TransportError Record)) :
    received (.ok record :: results) = record :: received results := rfl

@[simp]
theorem received_error (e : TransportError) (results : List (Except TransportError Record)) :
    received (.error e :: results) = received results := rfl

@[simp]
theorem received_nil : received [] = [] := rfl

/-- The records of results in a row are those of the first ones, and then those of the others. -/
theorem received_append (results results' : List (Except TransportError Record)) :
    received (results ++ results') = received results ++ received results' :=
  List.filterMap_append

/-- What a delivery comes to at some place: the record that stands there, or how it ends. -/
def Delivery.get (delivery : Delivery) (place : Nat) : Except TransportError Record :=
  match delivery.records[place]? with
  | some record => .ok record
  | none => .error delivery.failure

/-- Some records are all that has been received of a byte string: reading the stream that is left
gives the rest. -/
structure Received (bytes : Bytes) (records : List Record) (channel : Channel) : Prop where
  reading : Record.decodeAll bytes =
    { Record.decodeAll channel.stream with
      records := records ++ (Record.decodeAll channel.stream).records }
  /-- If the channel is closed, then because there was nothing left. -/
  closed : channel.closed = true → Record.decode channel.stream = .ok none

namespace Received

variable {bytes : Bytes} {records : List Record} {channel channel' : Channel}

/-- At the beginning nothing has been received. -/
theorem start (hopen : channel.closed = false) : Received channel.stream [] channel := by
  refine ⟨rfl, fun hclosed => ?_⟩
  rw [hopen] at hclosed
  cases hclosed

/-- What has been received is the same for a channel with the same stream. If it is closed, then the
stream must not hold another record. -/
theorem of_stream (h : Received bytes records channel) (hstream : channel'.stream = channel.stream)
    (hclosed : channel'.closed = true → Record.decode channel.stream = .ok none) :
    Received bytes records channel' := by
  refine ⟨?_, fun hclosed' => ?_⟩
  · rw [hstream]
    exact h.reading
  · rw [hstream]
    exact hclosed hclosed'

/-- Sending in between receives nothing, and loses nothing of what is to be received. -/
theorem sending (h : Received bytes records channel) (sending : Sending) :
    Received bytes records (channel.perform sending).2 := by
  refine h.of_stream (keeps_perform channel sending).stream fun hclosed => h.closed ?_
  rwa [closed_perform] at hclosed

/-- One more receive adds its record, if it gives one. -/
theorem receive (h : Received bytes records channel) :
    Received bytes (records ++ received [channel.receive.1]) channel.receive.2 := by
  cases hclosed : channel.closed with
  | true =>
    rw [Channel.receive, if_pos hclosed]
    simpa using h
  | false =>
    have hhears := hears_receive hclosed
    generalize hreceive : channel.receive = outcome at hhears
    cases hhears with
    | @record record channel' hdecode hopened =>
      refine ⟨?_, fun hclosed' => ?_⟩
      · rw [h.reading, Record.decodeAll_eq channel.stream, hdecode]
        simp
      · rw [hopened] at hclosed'
        cases hclosed'
    | refused _ hstream hopened | putOff _ _ hstream hopened =>
      have hnone := h.of_stream hstream fun hclosed' => by
        rw [hopened] at hclosed'
        cases hclosed'
      simpa using hnone
    | ended hdecode _ hstream _ =>
      have hnone := h.of_stream hstream fun _ => hdecode
      simpa using hnone

/-- However a channel is used, the records received of its bytes come one after another. -/
theorem use (h : Received bytes records channel) (uses : List Use) :
    Received bytes (records ++ received (channel.use uses).1) (channel.use uses).2 := by
  induction uses generalizing records channel with
  | nil => simpa [Channel.use] using h
  | cons use uses ih =>
    cases use with
    | receive =>
      have hrest := ih h.receive
      rw [List.append_assoc, ← received_append] at hrest
      exact hrest
    | send sending => exact ih (h.sending sending)

/-- What an open channel receives next is what comes next in the bytes, unless it is put off. -/
theorem next (h : Received bytes records channel) (hopen : channel.closed = false) :
    (∃ e, channel.receive.1 = .error e ∧ e.PutsOff ∧ ¬channel.connection.Steady) ∨
      channel.receive.1 = (Delivery.ofBytes bytes).get records.length := by
  have hget : (Delivery.ofBytes bytes).get records.length = firstOf channel.stream := by
    rw [Delivery.get, Delivery.ofBytes, h.reading, Record.decodeAll_eq channel.stream, firstOf]
    cases hdecode : Record.decode channel.stream with
    | error e => simp
    | ok first =>
      cases first with
      | none => simp
      | some first => simp
  have hhears := hears_receive hopen
  generalize channel.receive = outcome at hhears
  cases hhears with
  | record hdecode _ => exact .inr (by rw [hget, firstOf, hdecode])
  | ended hdecode hinside _ _ => exact .inr (by rw [hget, firstOf, hdecode, hinside])
  | putOff hputs hunsteady _ _ => exact .inl ⟨_, rfl, hputs, hunsteady⟩
  | @refused e channel' hdecode hstream _ =>
    have hall : Record.decode channel.stream = .error e := by
      rw [← hstream]
      exact Record.decode_append_of_error hdecode _
    exact .inr (by rw [hget, firstOf, hall])

/-- Behind the records received, the bytes are no record if those in the buffer are not. -/
theorem refused (h : Received bytes records channel) {e : ProtocolError}
    (hdecode : Record.decode channel.buffer = .error e) :
    Record.decodeAll bytes = ⟨records, some e, channel.stream⟩ := by
  have hall : Record.decode channel.stream = .error e := Record.decode_append_of_error hdecode _
  rw [h.reading, Record.decodeAll_eq, hall, List.append_nil]

/-- Nothing but part of a record is left behind the records received if the end is met. -/
theorem ended (h : Received bytes records channel) (hopen : channel.closed = false)
    {midFrame : Bool} (hreceive : channel.receive.1 = .error (.closed midFrame)) :
    Record.decodeAll bytes = ⟨records, none, channel.stream⟩ ∧
      midFrame = !channel.stream.isEmpty ∧ channel.receive.2.closed = true := by
  have hhears := hears_receive hopen
  generalize channel.receive = outcome at hhears hreceive
  cases hhears with
  | record | refused => cases hreceive
  | putOff hputs =>
    cases hreceive
    rcases hputs with ⟨_, hputs⟩ | ⟨_, hputs⟩ <;> cases hputs
  | ended hdecode hinside _ hclosed =>
    cases hreceive
    refine ⟨?_, hinside, hclosed⟩
    rw [h.reading, Record.decodeAll_eq, hdecode, List.append_nil]

end Received

/-! ## Nothing more -/

/-- A channel that is stuck at an error, whatever is sent on it, gives that error to every receive. -/
theorem use_of_stuck (stuck : Channel → Prop) {e : TransportError}
    (hreceive : ∀ channel, stuck channel → channel.receive = (.error e, channel))
    (hsend : ∀ channel sending, stuck channel → stuck (channel.perform sending).2)
    {channel : Channel} (hstuck : stuck channel) (uses : List Use) :
    ∀ result ∈ (channel.use uses).1, result = .error e := by
  induction uses generalizing channel with
  | nil => exact nofun
  | cons use uses ih =>
    cases use with
    | receive =>
      rw [Channel.use, hreceive channel hstuck]
      intro result hresult
      rcases List.mem_cons.1 hresult with rfl | hresult
      · rfl
      · exact ih hstuck result hresult
    | send sending => exact ih (hsend channel sending hstuck)

/-- Bytes that are no record are refused again and again, and nothing behind them is received. -/
theorem use_of_refused {channel : Channel} (hopen : channel.closed = false) {e : ProtocolError}
    (hdecode : Record.decode channel.buffer = .error e) :
    ∀ uses, ∀ result ∈ (channel.use uses).1, result = .error (.protocol e) := by
  refine use_of_stuck (fun channel => channel.closed = false ∧
    Record.decode channel.buffer = .error e) ?_ ?_ ⟨hopen, hdecode⟩
  · intro channel ⟨hopen, hdecode⟩
    rw [receive, if_neg (by simp [hopen]), await_eq, hdecode]
  · intro channel sending ⟨hopen, hdecode⟩
    rw [closed_perform, (keeps_perform channel sending).buffer]
    exact ⟨hopen, hdecode⟩

/-- From a channel that is closed nothing is received. -/
theorem use_of_closed {channel : Channel} (hclosed : channel.closed = true) :
    ∀ uses, ∀ result ∈ (channel.use uses).1, result = .error (.closed false) := by
  refine use_of_stuck (fun channel => channel.closed = true) ?_ ?_ hclosed
  · intro channel hclosed
    rw [receive, if_pos hclosed]
  · intro channel sending hclosed
    rw [closed_perform, hclosed]

/-- **Nothing is lost, doubled or put out of order.** Whatever a peer sends, in whatever pieces, with
whatever pauses and faults in between, and whatever is sent to it meanwhile: the records received so
far are the first ones that all of its bytes make, and the next receive gives the next one, unless
it is put off by a pause or a fault. Once the bytes at the front are no record, every receive says
so, and none gives a record from behind them. Once the end is met, all records have been received;
the first receive to meet it says whether it is inside a record, and every later one only that the
channel is closed. -/
theorem received_in_order (connection : Connection) (timeout : Duration) (peer : String)
    (uses : List Use) :
    let start : Channel := .new connection timeout peer
    let bytes := Connection.incoming connection.script
    let reading := Record.decodeAll bytes
    let records := received (start.use uses).1
    let channel := (start.use uses).2
    records <+: reading.records ∧
      (channel.closed = false →
        (∃ e, channel.receive.1 = .error e ∧ e.PutsOff ∧ ¬channel.connection.Steady) ∨
          channel.receive.1 = (Delivery.ofBytes bytes).get records.length) ∧
      (∀ e, channel.closed = false → Record.decode channel.buffer = .error e →
        reading.records = records ∧ reading.fault = some e ∧
          ∀ later, ∀ result ∈ (channel.use later).1, result = .error (.protocol e)) ∧
      (∀ midFrame, channel.closed = false → channel.receive.1 = .error (.closed midFrame) →
        reading.records = records ∧ reading.fault = none ∧
          (midFrame = true ↔ reading.rest ≠ []) ∧ channel.receive.2.closed = true ∧
          ∀ later, ∀ result ∈ (channel.receive.2.use later).1, result = .error (.closed false)) := by
  intro start bytes reading records channel
  have hstart : Received start.stream [] start := .start rfl
  have hreceived : Received bytes records channel := hstart.use uses
  refine ⟨?_, fun hopen => hreceived.next hopen, ?_, ?_⟩
  · have hreading : reading.records = records ++ (Record.decodeAll channel.stream).records :=
      congrArg Record.Reading.records hreceived.reading
    rw [hreading]
    exact List.prefix_append ..
  · intro e hopen hdecode
    have hreading : reading = ⟨records, some e, channel.stream⟩ := hreceived.refused hdecode
    rw [hreading]
    exact ⟨rfl, rfl, use_of_refused hopen hdecode⟩
  · intro midFrame hopen hreceive
    obtain ⟨hreading, hinside, hclosed⟩ := hreceived.ended hopen hreceive
    have hreading : reading = ⟨records, none, channel.stream⟩ := hreading
    rw [hreading]
    refine ⟨rfl, rfl, ?_, hclosed, use_of_closed hclosed⟩
    rw [hinside]
    simp

/-- A record in two pieces with a fault and a pause between them, another record, and the beginning
of a third. -/
def interrupted : List Event :=
  [.data [1, 5, 0, 7, 0], .fault "reset", .pause ⟨3⟩,
    .data ([1, 0, 0, 104] ++ [1, 5, 0, 7, 0, 0, 0, 0] ++ [1, 5])]

/-- The fault and the pause put off two receives, and nothing is lost by it. The beginning of the
third record is told of once. -/
theorem received_in_order_interrupted :
    let uses : List Use := [.receive, .receive, .send (.endStream .stdout 7), .receive, .receive]
    let start : Channel := .new (.new interrupted) ⟨2⟩
    let channel := (start.use uses).2
    let piece : Record := ⟨version1, .stdin, 7, [104], 0⟩
    (start.use uses).1 =
        [.error (.io "reset"), .error (.timeout ⟨2⟩), .ok piece, .ok (.endOfStream .stdin 7)] ∧
      (Record.decodeAll (Connection.incoming interrupted)).records =
        [piece, .endOfStream .stdin 7] ∧
      channel.receive.1 = .error (.closed true) ∧
      (channel.receive.2.use [.receive, .receive]).1 =
        [.error (.closed false), .error (.closed false)] := by
  intro uses start channel piece
  have hresults : (start.use uses).1 =
      [.error (.io "reset"), .error (.timeout ⟨2⟩), .ok piece, .ok (.endOfStream .stdin 7)] := by
    decide +kernel
  have hreceive : channel.receive.1 = .error (.closed true) := by decide +kernel
  have hopen : channel.closed = false := by decide +kernel
  obtain ⟨-, -, -, hend⟩ := received_in_order (.new interrupted) ⟨2⟩ "unknown" uses
  obtain ⟨hrecords, -, -, -, hlater⟩ := hend true hopen hreceive
  refine ⟨hresults, ?_, hreceive, ?_⟩
  · rw [hresults] at hrecords
    exact hrecords
  · have hfirst := hlater [.receive, .receive]
    exact List.eq_replicate_of_mem hfirst

end Channel

end FastCgi
