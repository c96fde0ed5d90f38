import FastCgi.Proofs.Texts
import FastCgi.Proofs.Cutting
import FastCgi.Proofs.Listings
import FastCgi.Proofs.Reassembly
import FastCgi.Proofs.Room

/-!
# Requests carried from one channel to another

A request that is sent over one channel is received over another as it was. The two halves of this
meet at the records in between. A sender that succeeds puts the records of the request on its wire
and nothing else (`Channel.sends_sendRequest`), and these cut its parameters and its body as a
submission does (`requestRecords_cuts`). A receiver to which their bytes arrive, in whatever pieces
and whatever comes behind them, has the records delivered (`Channel.Arriving.delivers`). What runs
make of a submission is known, and the pairs are read back as they were written, so what is left to
see is that the order of the pairs does not matter (`Dictionary.ofList_of_perm`).
-/

namespace FastCgi

/-- A body that was made with the flag to keep the connection has it, and one made without it has
not. -/
theorem BeginBody.keep_new (role : UInt16) (keep : Bool) : (new role keep).keep = keep := by
  cases keep
  · show ((0 : UInt8) &&& 1 != 0) = false
    decide
  · show ((1 : UInt8) &&& 1 != 0) = true
    decide

namespace Channel

/-! ## Sending that succeeds -/

section

variable {channel channel' : Channel} (hfirm : channel.connection.whenFull ≠ .succeeds)

include hfirm

/-- A write that succeeds has written all of its bytes. -/
theorem write_eq_ok {bytes : Bytes} (hne : bytes ≠ [])
    (h : channel.write bytes = (.ok (), channel')) :
    channel' = { channel with connection := channel.connection.accept bytes } := by
  unfold write at h
  split at h
  · cases h
  by_cases htakes : channel.connection.Takes (channel.connection.sent.toList ++ bytes)
  · rw [Connection.write_of_takes _ hne htakes] at h
    cases h
    rfl
  · obtain ⟨hfails, -⟩ := Connection.write_of_not_takes hfirm channel.timeout hne htakes
    split at h
    next hdone => rw [hdone] at hfails; exact absurd rfl hfails
    next => cases h
    next => cases h

/-- A record whose sending succeeds is on the wire. -/
theorem sends_sendRecord {record : Record} (hrecord : record.WellFormed)
    (h : channel.sendRecord record = (.ok (), channel')) : channel.Sends [record] channel' := by
  obtain rfl := @write_eq_ok (channel.tell .trace .channel _) _ hfirm _ record.encode_ne_nil h
  refine ⟨by simpa using hrecord, ?_, rfl, rfl, rfl⟩
  simp [tell]

/-- A content whose sending succeeds is on the wire as its record. -/
theorem sends_send {type : RecordType} (htype : type.Readable) {id : UInt16} {content : Bytes}
    {record : Record} (hnew : Record.new type id content = .ok record)
    (h : channel.send type id content = (.ok (), channel')) : channel.Sends [record] channel' := by
  rw [send, hnew] at h
  exact sends_sendRecord hfirm (Record.wellFormed_of_new htype hnew) h

/-- Data whose sending succeeds is on the wire, in all of its records. -/
theorem sends_sendStream {type : RecordType} (htype : type.Readable) {id : UInt16} {data : Bytes}
    (h : channel.sendStream type id data = (.ok (), channel')) :
    channel.Sends (streamRecords type id data) channel' := by
  unfold sendStream at h
  split at h
  next hdata =>
    cases h
    obtain rfl := List.isEmpty_iff.1 hdata
    rw [streamRecords_nil]
    exact .refl channel
  next hdata =>
    have hpieces : streamRecords type id data ≠ [] :=
      streamRecords_ne_nil (fun hnil => hdata (List.isEmpty_iff.2 hnil)) type id
    obtain ⟨_, between, hwrite, hopened⟩ := andThen_eq_ok h
    obtain rfl := @write_eq_ok (channel.tell .trace .channel _) _ hfirm _
      (Record.encodeAll_ne_nil hpieces) hwrite
    cases hopened
    exact ⟨fun _ => wellFormed_of_mem_streamRecords htype, rfl, rfl, rfl, rfl⟩

/-- A stream whose ending succeeds has its last record on the wire. -/
theorem sends_endStream {type : RecordType} (htype : type.Readable) {id : UInt16}
    (h : channel.endStream type id = (.ok (), channel')) :
    channel.Sends [.endOfStream type id] channel' := by
  obtain ⟨_, between, hsend, hended⟩ := andThen_eq_ok h
  have hsends := sends_sendRecord hfirm (Record.wellFormed_endOfStream htype id) hsend
  cases hended
  exact ⟨hsends.wellFormed, hsends.connection, hsends.buffer, hsends.timeout, hsends.closed⟩

end

/-! ## Requests -/

/-- Sends a request: its BEGIN record, its parameters as one stream, and its body as another. -/
def sendRequest (channel : Channel) (id role : UInt16) (keep : Bool)
    (pairs : List (String × String)) (body : Bytes) : Outcome Unit :=
  (channel.send .beginRequest id (BeginBody.new role keep).toBytes).andThen fun _ channel =>
  (channel.sendStream .params id (NameValue.encode pairs)).andThen fun _ channel =>
  (channel.endStream .params id).andThen fun _ channel =>
  (channel.sendStream .stdin id body).andThen fun _ channel =>
  channel.endStream .stdin id

end Channel

/-- The records of a request. -/
def requestRecords (id role : UInt16) (keep : Bool) (pairs : List (String × String))
    (body : Bytes) : List Record :=
  ⟨version1, .beginRequest, id, (BeginBody.new role keep).toBytes, 0⟩ ::
    (Channel.streamRecords .params id (NameValue.encode pairs) ++ .endOfStream .params id ::
      (Channel.streamRecords .stdin id body ++ [.endOfStream .stdin id]))

/-- The body of a BEGIN record fills its record up to a multiple of eight, so that there is no
padding. -/
theorem Record.new_begin (id role : UInt16) (keep : Bool) :
    Record.new .beginRequest id (BeginBody.new role keep).toBytes =
      .ok ⟨version1, .beginRequest, id, (BeginBody.new role keep).toBytes, 0⟩ := by
  have hlength : (BeginBody.new role keep).toBytes.length = 8 := rfl
  refine Record.new_eq_ok_iff.2 ⟨?_, ?_⟩
  · rw [hlength]
    decide
  · rw [hlength]
    rfl

namespace Channel

section

variable {sender sender' : Channel} (id role : UInt16) (keep : Bool)
  (pairs : List (String × String)) (body : Bytes)

/-- On a channel over a reliable connection a request can be sent. -/
theorem sendRequest_of_ready (hready : sender.Ready) :
    (sender.sendRequest id role keep pairs body).1 = .ok () := by
  have hbegin : RecordType.beginRequest.Readable := trivial
  have htype : RecordType.params.Readable := trivial
  have hstdin : RecordType.stdin.Readable := trivial
  obtain ⟨_, hopening, hopened, -⟩ := send_of_ready hready hbegin (Record.new_begin id role keep)
  have hready := hopened.ready hready
  obtain ⟨_, hparams, hsent, -⟩ := sendStream_of_ready hready htype id (NameValue.encode pairs)
  have hready := hsent.ready hready
  obtain ⟨_, hendParams, hended, -⟩ := endStream_of_ready hready htype id
  have hready := hended.ready hready
  obtain ⟨_, hbody, hfilled, -⟩ := sendStream_of_ready hready hstdin id body
  obtain ⟨_, hendBody, -, -⟩ := endStream_of_ready (hfilled.ready hready) hstdin id
  rw [sendRequest, hopening, Outcome.andThen_ok, hparams, Outcome.andThen_ok, hendParams,
    Outcome.andThen_ok, hbody, Outcome.andThen_ok, hendBody]

/-- A request that has been sent is on the wire with all of its records, and nothing else is new
there. -/
theorem sends_sendRequest (hfirm : sender.connection.whenFull ≠ .succeeds)
    {id role : UInt16} {keep : Bool} {pairs : List (String × String)} {body : Bytes}
    (h : sender.sendRequest id role keep pairs body = (.ok (), sender')) :
    sender.Sends (requestRecords id role keep pairs body) sender' := by
  have hbegin : RecordType.beginRequest.Readable := trivial
  have hparams : RecordType.params.Readable := trivial
  have hstdin : RecordType.stdin.Readable := trivial
  have hkept : ∀ {records : List Record} {channel : Channel}, sender.Sends records channel →
      channel.connection.whenFull ≠ .succeeds := fun hsends => by
    rw [hsends.connection]
    exact hfirm
  obtain ⟨_, _, hopens, h⟩ := andThen_eq_ok h
  have hsends := sends_send hfirm hbegin (Record.new_begin id role keep) hopens
  obtain ⟨_, _, hfills, h⟩ := andThen_eq_ok h
  have hsends := hsends.trans (sends_sendStream (hkept hsends) hparams hfills)
  obtain ⟨_, _, hends, h⟩ := andThen_eq_ok h
  have hsends := hsends.trans (sends_endStream (hkept hsends) hparams hends)
  obtain ⟨_, _, hfills, h⟩ := andThen_eq_ok h
  have hsends := hsends.trans (sends_sendStream (hkept hsends) hstdin hfills)
  have hsends := hsends.trans (sends_endStream (hkept hsends) hstdin h)
  simpa only [requestRecords, List.append_assoc, List.cons_append, List.nil_append] using hsends

end

/-! ## Pieces of a stream -/

/-- The records of a stream have its pieces for contents. -/
theorem map_part_streamRecords (type : RecordType) (id : UInt16) (data : Bytes) :
    (streamRecords type id data).map Request.part = (pieces data).map (type, ·) := by
  rw [streamRecords, List.map_map]
  rfl

/-- No piece of a stream is empty. An empty record would end the stream. -/
theorem ne_nil_of_mem_pieces {data piece : Bytes} (h : piece ∈ pieces data) : piece ≠ [] :=
  List.ne_nil_of_length_pos (length_of_mem_pieces h).1

end Channel

namespace Request

/-- What the records of a request are meant to make. -/
def submission (id role : UInt16) (keep : Bool) (pairs : List (String × String)) (body : Bytes) :
    Submission where
  before := []
  opening := ⟨version1, .beginRequest, id, (BeginBody.new role keep).toBytes, 0⟩
  after := (requestRecords id role keep pairs body).tail
  params := Channel.pieces (NameValue.encode pairs)
  body := Channel.pieces body

/-- The records of a request cut its parameters and its body. -/
theorem submission_cuts {id : UInt16} (hid : id ≠ managementId) (role : UInt16) (keep : Bool)
    (pairs : List (String × String)) (body : Bytes) :
    (submission id role keep pairs body).Cuts (NameValue.encode pairs) body where
  before := rfl
  opening_type := rfl
  opening_id := hid
  opening_length := rfl
  own r hr := by
    simp only [submission, requestRecords, List.tail_cons, List.mem_append, List.mem_cons,
      List.not_mem_nil, or_false] at hr
    rcases hr with hr | rfl | hr | rfl
    · exact (Channel.of_mem_streamRecords hr).2.1
    · rfl
    · exact (Channel.of_mem_streamRecords hr).2.1
    · rfl
  parts := by
    simp only [submission, requestRecords, List.tail_cons, List.map_append, List.map_cons,
      List.map_nil, Channel.map_part_streamRecords, parts]
    rfl
  params_ne_nil _ := Channel.ne_nil_of_mem_pieces
  params_flatten := Channel.flatten_pieces _
  body_ne_nil _ := Channel.ne_nil_of_mem_pieces
  body_flatten := Channel.flatten_pieces _

end Request

/-! ## Arriving -/

/-- What is awaited of a peer that sends some pieces, and whatever comes behind them: the next piece
that is not empty, unless there is none. -/
theorem Connection.await_pieces_append (patience : Nat) {pieces : List Bytes}
    (hne : pieces.flatten ≠ []) (behind : List Event) :
    ∃ (piece : Bytes) (later : List Bytes),
      await patience (pieces.map .data ++ behind) =
        (.data piece, 0, later.map .data ++ behind) ∧
      pieces.flatten = piece ++ later.flatten := by
  induction pieces with
  | nil => exact absurd rfl hne
  | cons piece later ih =>
    cases piece with
    | nil => exact ih hne
    | cons b bytes => exact ⟨b :: bytes, later, rfl, rfl⟩

namespace Channel

/-- Some bytes are the next to be read from an open channel. Those that have not been read yet
arrive without a pause, in whatever pieces. It is left open what comes behind them. -/
structure Arriving (channel : Channel) (bytes : Bytes) : Prop where
  opened : channel.closed = false
  pause : channel.connection.pause = 0
  arrives : ∃ (pieces : List Bytes) (behind : List Event),
    channel.connection.script = pieces.map .data ++ behind ∧
      channel.buffer ++ pieces.flatten = bytes

namespace Arriving

variable {channel : Channel} {bytes rest : Bytes} {record : Record}

/-- As long as there is not enough to read in the buffer, a read brings more. -/
theorem read (h : channel.Arriving bytes) (hmore : channel.buffer ≠ bytes)
    {arrival : Connection.Arrival} {connection : Connection}
    (hread : channel.connection.read channel.timeout = (arrival, connection)) :
    ∃ piece, arrival = .data piece ∧
      { channel with connection, buffer := channel.buffer ++ piece }.Arriving bytes := by
  obtain ⟨pieces, behind, hscript, hbytes⟩ := h.arrives
  have hne : pieces.flatten ≠ [] := fun hnil => hmore (by rw [← hbytes, hnil, List.append_nil])
  obtain ⟨piece, later, hawait, hpieces⟩ :=
    Connection.await_pieces_append (channel.timeout.nanoseconds - 0) hne behind
  rw [Connection.read, h.pause, if_pos (Nat.zero_le _), hscript, hawait] at hread
  cases hread
  refine ⟨piece, rfl, h.opened, rfl, later, behind, rfl, ?_⟩
  rw [← hbytes, hpieces, List.append_assoc]

/-- A record at the front of the bytes is received, and then come those behind it. -/
theorem await (h : channel.Arriving bytes)
    (hdecodes : Record.decode bytes = .ok (some (record, rest))) :
    channel.await.1 = .ok record ∧ channel.await.2.Arriving rest := by
  induction channel using Channel.await.induct with
  | case1 channel e hdecode =>
    obtain ⟨pieces, _, -, hbytes⟩ := h.arrives
    have hall := Record.decode_append_of_error hdecode pieces.flatten
    rw [hbytes, hdecodes] at hall
    cases hall
  | case2 channel record' rest' hdecode =>
    obtain ⟨pieces, behind, hscript, hbytes⟩ := h.arrives
    have hall := Record.decode_append hdecode pieces.flatten
    rw [hbytes, hdecodes] at hall
    cases hall
    rw [await_eq, hdecode]
    exact ⟨rfl, h.opened, h.pause, pieces, behind, hscript, rfl⟩
  | case3 channel hdecode bytes' connection hread _ ih =>
    have hmore : channel.buffer ≠ bytes := by
      intro heq
      rw [heq, hdecodes] at hdecode
      cases hdecode
    obtain ⟨piece, hpiece, harriving⟩ := h.read hmore hread
    cases hpiece
    rw [await_eq]
    simp only [hdecode, hread]
    exact ih harriving
  | case4 channel hdecode connection hread | case5 channel hdecode reason connection hread
  | case6 channel hdecode connection hread =>
    have hmore : channel.buffer ≠ bytes := by
      intro heq
      rw [heq, hdecodes] at hdecode
      cases hdecode
    obtain ⟨piece, hpiece, -⟩ := h.read hmore hread
    cases hpiece

/-- Records that arrive are delivered. -/
theorem delivers {records : List Record} (hrecords : ∀ r ∈ records, r.WellFormed)
    (h : channel.Arriving (Record.encodeAll records)) : records <+: channel.delivery.records := by
  induction records generalizing channel with
  | nil => exact List.nil_prefix
  | cons record records ih =>
    obtain ⟨hreceived, harriving⟩ := h.await ((hrecords record (.head _)).decode _)
    have hreceive : channel.receive = (.ok record, channel.await.2) := by
      rw [Channel.receive, if_neg (by simp [h.opened])]
      exact Prod.ext hreceived rfl
    rw [delivery_eq_of_ok hreceive]
    exact List.cons_prefix_cons.2 ⟨rfl, ih (fun r hr => hrecords r (.tail _ hr)) harriving⟩

end Arriving

end Channel

/-! ## The whole way -/

namespace Request

/-- The verdict on parameters that were written and that fit, with a body that fits. -/
theorem verdict_encode {limits : Limits} {pairs : List (String × String)} {body : Bytes}
    (hshort : ∀ pair ∈ pairs, NameValue.Short pair)
    (hparams : (NameValue.encode pairs).length ≤ limits.params)
    (hbody : body.length ≤ limits.body) :
    limits.verdict (NameValue.encode pairs) body = .complete := by
  rw [Limits.verdict, if_neg (Nat.not_lt.2 hparams), NameValue.decode_encode hshort]
  exact if_neg (Nat.not_lt.2 hbody)

/-- **A request is received as it was sent.** On a channel that takes all that is sent, a request
with any id but that of management records can be sent, and whenever that succeeds, some bytes are
new on its wire. To whatever open channel they arrive, cut into whatever pieces and with anything
behind them, a run on it completes the request, with the id, the role and the flag that were sent,
with the parameters of the dictionary whose entries were sent, in whatever order, and with the
body. It only takes that the names and values are short enough for their lengths to be written, and
that the limits allow for the two streams. -/
theorem run_sendRequest {id : UInt16} (hid : id ≠ managementId) (role : UInt16) (keep : Bool)
    {env : Dictionary String} (hshort : ∀ pair ∈ env.entries, NameValue.Short pair)
    {pairs : List (String × String)} (horder : pairs.Perm env.entries) {body : Bytes}
    {limits : Limits} (hparams : (NameValue.encode pairs).length ≤ limits.params)
    (hbody : body.length ≤ limits.body) (info : ServerInfo) (previousId : Option UInt16)
    {sender : Channel} (hfirm : sender.connection.whenFull ≠ .succeeds) :
    (sender.Ready → (sender.sendRequest id role keep pairs body).1 = .ok ()) ∧
      ∀ sender', sender.sendRequest id role keep pairs body = (.ok (), sender') →
        ∃ wire, sender'.connection.sent.toList = sender.connection.sent.toList ++ wire ∧
          ∀ receiver : Channel, receiver.Arriving wire →
            let run := (new limits info previousId).run receiver
            run.1 = .ok .complete ∧
              run.2.1.context = ⟨id, role, keep, env, body.toArray, .complete⟩ := by
  refine ⟨Channel.sendRequest_of_ready id role keep pairs body, fun sender' hsent => ?_⟩
  have hsends := Channel.sends_sendRequest hfirm hsent
  refine ⟨_, hsends.sent, fun receiver harriving => ?_⟩
  have hshort' : ∀ pair ∈ pairs, NameValue.Short pair :=
    fun pair hpair => hshort pair (horder.mem_iff.1 hpair)
  have hverdict := verdict_encode hshort' hparams hbody
  obtain ⟨houtcome, hcontext⟩ := (submission_cuts hid role keep pairs body).run limits info
    previousId (harriving.delivers hsends.wellFormed)
  rw [hverdict] at houtcome hcontext
  obtain ⟨asks, pairs', hasks, hpairs, hrun⟩ := hcontext rfl
  obtain rfl : BeginBody.new role keep = asks :=
    Except.ok.inj ((BeginBody.ofBytes_toBytes _).symm.trans hasks)
  obtain rfl : pairs = pairs' :=
    Except.ok.inj ((NameValue.decode_encode hshort').symm.trans hpairs)
  rw [BeginBody.keep_new, Dictionary.ofList_of_perm horder] at hrun
  exact ⟨houtcome, hrun⟩

/-- A request whose second value is empty, sent five bytes at a time with its parameters in another
order, is received as it was wherever its bytes are cut. -/
theorem run_sendRequest_twoPairs :
    let env := Dictionary.ofList [("LANG", "\u00fc"), ("EMPTY", "")]
    let pairs := [("LANG", "\u00fc"), ("EMPTY", "")]
    let sender : Channel := .new { Connection.new [] with chunk := some 5 } ⟨1⟩
    let sending := sender.sendRequest 1 7 true pairs [104, 105]
    let wire := sending.2.connection.sent.toList
    let receiver (cut : Nat) : Channel :=
      .new (.new [.data (wire.take cut), .data [], .data (wire.drop cut), .silence]) ⟨1⟩
    let run (cut : Nat) := (new ⟨15, 2⟩ ⟨1, 1⟩).run (receiver cut)
    pairs.Perm env.entries ∧ sending.1 = .ok () ∧
      ∀ cut, (run cut).1 = .ok .complete ∧
        (run cut).2.1.context = ⟨1, 7, true, env, #[104, 105], .complete⟩ := by
  intro env pairs sender sending wire receiver run
  have horder : pairs.Perm env.entries := List.Perm.swap ..
  have hshort : ∀ pair ∈ env.entries, NameValue.Short pair := by
    intro pair hpair
    rcases List.mem_pair.1 (horder.mem_iff.2 hpair) with rfl | rfl <;> constructor <;> decide
  have hready : sender.Ready := ⟨⟨rfl, by decide, rfl⟩, rfl⟩
  have hid : (1 : UInt16) ≠ managementId := by decide
  have hparams : (NameValue.encode pairs).length ≤ (⟨15, 2⟩ : Limits).params := by decide
  have hbody : ([104, 105] : Bytes).length ≤ (⟨15, 2⟩ : Limits).body := Nat.le_refl 2
  have hfirm : sender.connection.whenFull ≠ .succeeds := nofun
  obtain ⟨hsends, hreceives⟩ :=
    run_sendRequest hid 7 true hshort horder hparams hbody ⟨1, 1⟩ none hfirm
  have hsent : sending = (.ok (), sending.2) := Prod.ext (hsends hready) rfl
  obtain ⟨bytes, hwire, hreceives⟩ := hreceives _ hsent
  obtain rfl : wire = bytes := hwire
  refine ⟨horder, hsends hready, fun cut => ?_⟩
  refine hreceives (receiver cut)
    ⟨rfl, rfl, [wire.take cut, [], wire.drop cut], [.silence], rfl, ?_⟩
  show [] ++ [wire.take cut, [], wire.drop cut].flatten = wire
  simp

end Request

end FastCgi
