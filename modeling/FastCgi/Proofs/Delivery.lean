import FastCgi.Proofs.Wire

/-!
# What a channel delivers

Received one after another, the records of a channel come to an end in a failure: the peer closes
the connection, falls silent, or sends what is no record. `Channel.delivery` is those records and
that failure. It depends on nothing but what is left to read (`delivery_congr`), so sending in
between does not change it, and whatever reads from a channel can be described by what it does to
the list of records delivered.
-/

namespace FastCgi

/-! ## Reading -/

namespace Connection

/-- Reading changes what is left of the script, and nothing else. -/
theorem read_eq_with (connection : Connection) (limit : Duration) :
    (connection.read limit).2 =
      { connection with
        pause := (connection.read limit).2.pause, script := (connection.read limit).2.script } := by
  unfold read
  split <;> rfl

/-- What a read brings, and what it leaves, is a matter of the script alone. -/
theorem read_congr {connection connection' : Connection}
    (hscript : connection'.script = connection.script)
    (hpause : connection'.pause = connection.pause) (limit : Duration) :
    (connection'.read limit).1 = (connection.read limit).1 ∧
      (connection'.read limit).2.script = (connection.read limit).2.script ∧
      (connection'.read limit).2.pause = (connection.read limit).2.pause := by
  unfold read
  rw [hscript, hpause]
  split
  · exact ⟨rfl, rfl, rfl⟩
  · exact ⟨rfl, hscript, by rw [elapse, elapse, hpause]⟩

end Connection

namespace Channel

/-- The second channel comes from the first by receiving, and by sending some records in between. No
stream has been begun or ended. -/
structure Exchanges (channel : Channel) (records : List Record) (channel' : Channel) : Prop where
  wellFormed : ∀ r ∈ records, r.WellFormed
  connection : ∃ pause script, channel'.connection =
    { channel.connection.accept (Record.encodeAll records) with pause, script }
  timeout : channel'.timeout = channel.timeout
  openStreams : channel'.openStreams = channel.openStreams

namespace Exchanges

variable {channel channel' channel'' : Channel} {records records' : List Record}

/-- A channel to which nothing was done has exchanged nothing. -/
theorem refl (channel : Channel) : channel.Exchanges [] channel :=
  ⟨nofun, ⟨_, _, by rw [Record.encodeAll_nil, Connection.accept_nil]⟩, rfl, rfl⟩

/-- An exchange and another one make an exchange of all their records. -/
theorem trans (h : channel.Exchanges records channel')
    (h' : channel'.Exchanges records' channel'') :
    channel.Exchanges (records ++ records') channel'' where
  wellFormed r hr := (List.mem_append.1 hr).elim (h.wellFormed r) (h'.wellFormed r)
  connection := by
    obtain ⟨pause, script, hconnection⟩ := h.connection
    obtain ⟨pause', script', hconnection'⟩ := h'.connection
    refine ⟨pause', script', ?_⟩
    rw [hconnection', hconnection, Record.encodeAll_append, ← Connection.accept_accept]
    rfl
  timeout := h'.timeout.trans h.timeout
  openStreams := h'.openStreams.trans h.openStreams

/-- A connection that takes all that is sent goes on doing so. -/
theorem reliable (h : channel.Exchanges records channel')
    (hreliable : channel.connection.Reliable) : channel'.connection.Reliable := by
  obtain ⟨_, _, hconnection⟩ := h.connection
  rw [hconnection]
  exact ⟨hreliable.capacity, hreliable.chunk, hreliable.flushing⟩

/-- The records of an exchange are what is new on the wire. -/
theorem sent (h : channel.Exchanges records channel') :
    channel'.connection.sent.toList =
      channel.connection.sent.toList ++ Record.encodeAll records := by
  obtain ⟨_, _, hconnection⟩ := h.connection
  rw [hconnection]
  exact Connection.sent_accept ..

/-- An exchange does not ask for the stream to be closed. -/
theorem shutdowns (h : channel.Exchanges records channel') :
    channel'.connection.shutdowns = channel.connection.shutdowns := by
  obtain ⟨_, _, hconnection⟩ := h.connection
  rw [hconnection]
  rfl

/-- Whether closing the stream was ever asked for does not change with an exchange. -/
theorem shutdown (h : channel.Exchanges records channel') :
    channel'.connection.shutdown = channel.connection.shutdown := by
  rw [Connection.shutdown, h.shutdowns, Connection.shutdown]

/-- What was written before an exchange stands in front of its records. -/
theorem wrote (h : channel.Exchanges records' channel') (hwrote : channel.Wrote records) :
    channel'.Wrote (records ++ records') where
  wellFormed r hr := (List.mem_append.1 hr).elim (hwrote.wellFormed r) (h.wellFormed r)
  sent := by rw [h.sent, Record.encodeAll_append, hwrote.sent]

/-- Reading changes what is left of the script, and nothing else. -/
theorem of_connection {connection : Connection} {pause : Nat} {script : List Event}
    (h : connection = { channel.connection with pause, script })
    (hconnection : channel'.connection = connection) (htimeout : channel'.timeout = channel.timeout)
    (hstreams : channel'.openStreams = channel.openStreams) : channel.Exchanges [] channel' :=
  ⟨nofun, ⟨pause, script, by rw [hconnection, h, Record.encodeAll_nil, Connection.accept_nil]⟩,
    htimeout, hstreams⟩

end Exchanges

/-- Sending is an exchange if no stream is begun or ended by it. -/
theorem Sends.exchanges {channel channel' : Channel} {records : List Record}
    (h : channel.Sends records channel') (hstreams : channel'.openStreams = channel.openStreams) :
    channel.Exchanges records channel' :=
  ⟨h.wellFormed, ⟨_, _, h.connection⟩, h.timeout, hstreams⟩

/-- Waiting for a record sends nothing. -/
theorem exchanges_await (channel : Channel) : channel.Exchanges [] channel.await.2 := by
  induction channel using await.induct with
  | case1 channel e hdecode => rw [await_eq, hdecode]; exact .refl _
  | case2 channel record rest hdecode =>
    rw [await_eq, hdecode]
    exact .of_connection rfl rfl rfl rfl
  | case3 channel hdecode bytes connection hread _ ih =>
    have hconnection := channel.connection.read_eq_with channel.timeout
    rw [hread] at hconnection
    have hbytes : channel.Exchanges []
        { channel with connection, buffer := channel.buffer ++ bytes } :=
      .of_connection hconnection rfl rfl rfl
    rw [await_eq]
    simp only [hdecode, hread]
    exact hbytes.trans ih
  | case4 channel hdecode connection hread | case5 channel hdecode reason connection hread
  | case6 channel hdecode connection hread =>
    have hconnection := channel.connection.read_eq_with channel.timeout
    rw [hread] at hconnection
    rw [await_eq]
    simp only [hdecode, hread]
    exact .of_connection hconnection rfl rfl rfl

/-- Receiving a record sends nothing. -/
theorem exchanges_receive (channel : Channel) : channel.Exchanges [] channel.receive.2 := by
  unfold receive
  split
  · exact .refl _
  · exact exchanges_await _

/-- Waiting for a record closes a channel only if the peer has closed the connection. -/
theorem closed_await {channel : Channel}
    (h : ∀ midFrame, channel.await.1 ≠ .error (.closed midFrame)) :
    channel.await.2.closed = channel.closed := by
  induction channel using await.induct with
  | case1 channel e hdecode => rw [await_eq, hdecode]
  | case2 channel record rest hdecode => rw [await_eq, hdecode]; rfl
  | case3 channel hdecode bytes connection hread _ ih =>
    rw [await_eq] at h ⊢
    simp only [hdecode, hread] at h ⊢
    exact ih h
  | case4 channel hdecode connection hread =>
    rw [await_eq] at h
    simp [hdecode, hread] at h
  | case5 channel hdecode reason connection hread | case6 channel hdecode connection hread =>
    rw [await_eq]
    simp only [hdecode, hread]

/-- A channel from which something other than its end was received is open, before and after. -/
theorem closed_receive {channel : Channel}
    (h : ∀ midFrame, channel.receive.1 ≠ .error (.closed midFrame)) :
    channel.closed = false ∧ channel.receive.2.closed = false := by
  unfold receive at h ⊢
  cases hclosed : channel.closed with
  | true => simp [hclosed] at h
  | false =>
    simp only [hclosed, Bool.false_eq_true, if_false, true_and] at h ⊢
    exact (closed_await h).trans hclosed

/-- A channel from which a record was received is open, before and after. -/
theorem closed_of_receive_ok {channel channel' : Channel} {record : Record}
    (h : channel.receive = (.ok record, channel')) :
    channel.closed = false ∧ channel'.closed = false := by
  have := @closed_receive channel (by simp [h])
  rwa [h] at this

/-- A channel on which bytes have arrived that are no record is open, before and after. -/
theorem closed_of_receive_protocol {channel channel' : Channel} {e : ProtocolError}
    (h : channel.receive = (.error (.protocol e), channel')) :
    channel.closed = false ∧ channel'.closed = false := by
  have := @closed_receive channel (by simp [h])
  rwa [h] at this

/-! ## What is left to read -/

/-- Two channels from which the same is still to be read. -/
structure SameInput (channel channel' : Channel) : Prop where
  script : channel'.connection.script = channel.connection.script
  pause : channel'.connection.pause = channel.connection.pause
  buffer : channel'.buffer = channel.buffer
  timeout : channel'.timeout = channel.timeout
  closed : channel'.closed = channel.closed

/-- Sending leaves what is to be read. -/
theorem Sends.sameInput {channel channel' : Channel} {records : List Record}
    (h : channel.Sends records channel') : channel.SameInput channel' :=
  ⟨by rw [h.connection]; rfl, by rw [h.connection]; rfl, h.buffer, h.timeout, h.closed⟩

/-- What a read brings is the same on two such channels, and what it leaves is too. -/
theorem SameInput.read {channel channel' : Channel} (h : channel.SameInput channel')
    {arrival : Connection.Arrival} {connection : Connection}
    (hread : channel.connection.read channel.timeout = (arrival, connection)) :
    ∃ connection', channel'.connection.read channel'.timeout = (arrival, connection') ∧
      connection'.script = connection.script ∧ connection'.pause = connection.pause := by
  have hcongr := Connection.read_congr h.script h.pause channel.timeout
  rw [hread] at hcongr
  exact ⟨_, Prod.ext (by rw [h.timeout, hcongr.1]) rfl, by rw [h.timeout]; exact hcongr.2⟩

/-- Waiting for a record comes to the same on two such channels, read by read. -/
theorem SameInput.await {channel channel' : Channel} (h : channel.SameInput channel') :
    channel'.await.1 = channel.await.1 ∧ channel.await.2.SameInput channel'.await.2 := by
  induction channel using await.induct generalizing channel' with
  | case1 channel e hdecode =>
    rw [await_eq channel, await_eq channel', h.buffer, hdecode]
    exact ⟨rfl, h⟩
  | case2 channel record rest hdecode =>
    rw [await_eq channel, await_eq channel', h.buffer, hdecode]
    exact ⟨rfl, h.script, h.pause, rfl, h.timeout, h.closed⟩
  | case3 channel hdecode bytes connection hread _ ih =>
    obtain ⟨connection', hread', hscript, hpause⟩ := h.read hread
    rw [await_eq channel, await_eq channel', h.buffer]
    simp only [hdecode, hread, hread']
    exact ih ⟨hscript, hpause, rfl, h.timeout, h.closed⟩
  | case4 channel hdecode connection hread =>
    obtain ⟨connection', hread', hscript, hpause⟩ := h.read hread
    rw [await_eq channel, await_eq channel', h.buffer]
    simp only [hdecode, hread, hread', true_and]
    exact ⟨hscript, hpause, rfl, h.timeout, rfl⟩
  | case5 channel hdecode reason connection hread | case6 channel hdecode connection hread =>
    obtain ⟨connection', hread', hscript, hpause⟩ := h.read hread
    rw [await_eq channel, await_eq channel', h.buffer, h.timeout]
    rw [h.timeout] at hread'
    simp only [hdecode, hread, hread', true_and]
    exact ⟨hscript, hpause, rfl, rfl, h.closed⟩

/-- Receiving comes to the same on two such channels, also if both are closed. -/
theorem SameInput.receive {channel channel' : Channel} (h : channel.SameInput channel') :
    channel'.receive.1 = channel.receive.1 ∧ channel.receive.2.SameInput channel'.receive.2 := by
  unfold Channel.receive
  rw [h.closed]
  split
  · exact ⟨rfl, h⟩
  · exact h.await

/-! ## Delivery -/

/-- Records that are received one after another, and the failure that ends them. -/
structure Delivery where
  records : List Record
  failure : TransportError

/-- What a channel delivers. -/
def delivery (channel : Channel) : Delivery :=
  match h : channel.receive with
  | (.error e, _) => ⟨[], e⟩
  | (.ok record, channel) =>
    have := receive_unread_lt h
    let rest := channel.delivery
    { rest with records := record :: rest.records }
termination_by channel.unread

/-- A channel from which nothing can be received delivers no record. -/
theorem delivery_eq_of_error {channel channel' : Channel} {e : TransportError}
    (h : channel.receive = (.error e, channel')) : channel.delivery = ⟨[], e⟩ := by
  rw [delivery]
  split
  next h' => rw [h] at h'; cases h'; rfl
  next h' => rw [h] at h'; cases h'

/-- A record that is received is delivered, and then what the channel delivers after it. -/
theorem delivery_eq_of_ok {channel channel' : Channel} {record : Record}
    (h : channel.receive = (.ok record, channel')) :
    channel.delivery =
      ⟨record :: channel'.delivery.records, channel'.delivery.failure⟩ := by
  rw [delivery]
  split
  next h' => rw [h] at h'; cases h'
  next h' => rw [h] at h'; cases h'; rfl

/-- What is delivered begins with what is received next. -/
theorem delivery_of_receive_eq {channel channel' : Channel} (h : channel'.receive = channel.receive) :
    channel'.delivery = channel.delivery := by
  cases hreceive : channel.receive with
  | mk result after =>
    rw [hreceive] at h
    cases result with
    | error e => rw [delivery_eq_of_error hreceive, delivery_eq_of_error h]
    | ok record => rw [delivery_eq_of_ok hreceive, delivery_eq_of_ok h]

/-- A channel that delivers no record fails at once. -/
theorem receive_of_delivery_nil {channel : Channel} {failure : TransportError}
    (h : channel.delivery = ⟨[], failure⟩) :
    ∃ channel', channel.receive = (.error failure, channel') := by
  cases hreceive : channel.receive with
  | mk result channel' =>
    cases result with
    | error e =>
      rw [delivery_eq_of_error hreceive] at h
      cases h
      exact ⟨channel', rfl⟩
    | ok record => rw [delivery_eq_of_ok hreceive] at h; cases h

/-- A channel that delivers a record gives it first, and delivers the others after it. -/
theorem receive_of_delivery_cons {channel : Channel} {record : Record} {records : List Record}
    {failure : TransportError} (h : channel.delivery = ⟨record :: records, failure⟩) :
    ∃ channel', channel.receive = (.ok record, channel') ∧
      channel'.delivery = ⟨records, failure⟩ := by
  cases hreceive : channel.receive with
  | mk result channel' =>
    cases result with
    | error e => rw [delivery_eq_of_error hreceive] at h; cases h
    | ok first =>
      rw [delivery_eq_of_ok hreceive] at h
      cases h
      exact ⟨channel', rfl, rfl⟩

/-- What is delivered depends on what is left to read alone. -/
theorem SameInput.delivery {channel channel' : Channel} (h : channel.SameInput channel') :
    channel'.delivery = channel.delivery := by
  induction channel using delivery.induct generalizing channel' with
  | case1 channel e after hreceive =>
    obtain ⟨hresult, -⟩ := h.receive
    obtain ⟨after', hreceive'⟩ : ∃ after', channel'.receive = (.error e, after') :=
      ⟨_, Prod.ext (by rw [hresult, hreceive]) rfl⟩
    rw [delivery_eq_of_error hreceive, delivery_eq_of_error hreceive']
  | case2 channel record after hreceive _ ih =>
    obtain ⟨hresult, hafter⟩ := h.receive
    obtain ⟨after', hreceive'⟩ : ∃ after', channel'.receive = (.ok record, after') :=
      ⟨_, Prod.ext (by rw [hresult, hreceive]) rfl⟩
    rw [hreceive, hreceive'] at hafter
    rw [delivery_eq_of_ok hreceive, delivery_eq_of_ok hreceive', ih hafter]

/-- Where records end in bytes that are no record, there is nothing to go on with. -/
theorem preservesFraming_of_delivery {channel : Channel} {e : ProtocolError}
    (h : channel.delivery.failure = .protocol e) : e.preservesFraming = false := by
  induction channel using delivery.induct with
  | case1 channel failure after hreceive =>
    rw [delivery_eq_of_error hreceive] at h
    obtain rfl : failure = .protocol e := h
    exact preservesFraming_of_receive hreceive
  | case2 channel record after hreceive _ ih =>
    rw [delivery_eq_of_ok hreceive] at h
    exact ih h

/-! ## Delivering what was written -/

/-- A record that has arrived in full is received next. -/
theorem receive_of_buffer {channel : Channel} (hopen : channel.closed = false) {record : Record}
    (hrecord : record.WellFormed) {rest : Bytes} (hbuffer : channel.buffer = record.encode ++ rest) :
    ∃ received, channel.receive = (.ok record, received) ∧
      { channel with buffer := rest }.SameInput received := by
  have hdecode : Record.decode channel.buffer = .ok (some (record, rest)) := by
    rw [hbuffer, hrecord.decode]
  obtain ⟨received, hawait, hsame⟩ : ∃ received, channel.await = (.ok record, received) ∧
      { channel with buffer := rest }.SameInput received := by
    rw [await_eq, hdecode]
    exact ⟨_, rfl, rfl, rfl, rfl, rfl, rfl⟩
  exact ⟨received, by rw [receive, if_neg (by simp [hopen]), hawait], hsame⟩

/-- Records that have arrived in full are delivered, and then what comes behind them. -/
theorem delivery_of_buffer {records : List Record} (hrecords : ∀ r ∈ records, r.WellFormed)
    {channel : Channel} (hopen : channel.closed = false) {rest : Bytes}
    (hbuffer : channel.buffer = Record.encodeAll records ++ rest) :
    channel.delivery =
      ⟨records ++ { channel with buffer := rest }.delivery.records,
        { channel with buffer := rest }.delivery.failure⟩ := by
  induction records generalizing channel with
  | nil =>
    obtain rfl : rest = channel.buffer := hbuffer.symm
    rfl
  | cons record records ih =>
    rw [Record.encodeAll_cons, List.append_assoc] at hbuffer
    obtain ⟨received, hreceive, hsame⟩ := receive_of_buffer hopen (hrecords record (.head _)) hbuffer
    have hrest := ih (fun r hr => hrecords r (.tail _ hr)) (hsame.closed.trans hopen) hsame.buffer
    have hbehind : { channel with buffer := rest }.SameInput { received with buffer := rest } :=
      ⟨hsame.script, hsame.pause, rfl, hsame.timeout, hsame.closed⟩
    rw [delivery_eq_of_ok hreceive, hrest, hbehind.delivery]
    rfl

/-- A peer that has closed the connection has nothing delivered any more. -/
theorem delivery_of_script_nil {channel : Channel} (hopen : channel.closed = false)
    (hbuffer : channel.buffer = []) (hscript : channel.connection.script = [])
    (hpause : channel.connection.pause = 0) : channel.delivery = ⟨[], .closed false⟩ := by
  have hdecode : Record.decode [] = .ok none := rfl
  have hread : channel.connection.read channel.timeout =
      (.endOfStream, { channel.connection with pause := 0, script := [] }) := by
    rw [Connection.read, hpause, if_pos (Nat.zero_le _), hscript]
    rfl
  obtain ⟨channel', hreceive⟩ : ∃ channel', channel.receive = (.error (.closed false), channel') := by
    rw [receive, if_neg (by simp [hopen]), await_eq]
    simp only [hbuffer, hdecode, hread]
    exact ⟨_, rfl⟩
  exact delivery_eq_of_error hreceive

/-- A peer that sends some records in one go and then closes the connection has them delivered. -/
theorem delivery_new {record : Record} {records : List Record}
    (hrecords : ∀ r ∈ record :: records, r.WellFormed) (timeout : Duration) :
    (new (.new [.data (Record.encodeAll (record :: records))]) timeout).delivery =
      ⟨record :: records, .closed false⟩ := by
  have hnone : Record.decode [] = .ok none := rfl
  obtain ⟨b, bytes, hbytes⟩ : ∃ b bytes, Record.encodeAll (record :: records) = b :: bytes :=
    ⟨_, _, rfl⟩
  have hread : (Connection.new [.data (b :: bytes)]).read timeout =
      (.data (b :: bytes), .new []) := by
    rw [Connection.read, Connection.new, if_pos (Nat.zero_le _)]
    rfl
  let filled : Channel := { new (.new []) timeout with buffer := b :: bytes }
  have hempty : { filled with buffer := [] }.delivery = ⟨[], .closed false⟩ :=
    delivery_of_script_nil rfl rfl rfl rfl
  have hbuffer : filled.buffer = Record.encodeAll (record :: records) ++ [] := by
    rw [List.append_nil, hbytes]
  have hfilled : filled.delivery = ⟨record :: records, .closed false⟩ := by
    rw [delivery_of_buffer hrecords rfl hbuffer, hempty, List.append_nil]
  have hsame : (new (.new [.data (b :: bytes)]) timeout).receive = filled.receive := by
    rw [receive, receive, await_eq]
    simp only [new, hnone, hread]
    rfl
  rw [hbytes, ← hfilled]
  exact delivery_of_receive_eq hsame

end Channel

end FastCgi
