import FastCgi.Proofs.Cycles
import FastCgi.Proofs.Moves

/-!
# One END record for each BEGIN record

A request that is being received is owed one END record, and nothing but the arrival of a BEGIN
record can have brought that about: `Takes.owes` counts this out for one record, and
`Concludes.owes` for the end of a request. So there are never more END records for an id than there
were BEGIN records (`ends_le_begins`). There is one exception. Only the id of the request that ended
last is remembered, so a record that belongs to no request, and begins none, may be one of a request
that was ended before. It is answered with an END record all the same, and the connection is closed.
-/

namespace FastCgi

/-! ## Counting -/

namespace Record

/-- The number of records of one type and one id. -/
def count (type : RecordType) (id : UInt16) (records : List Record) : Nat :=
  records.countP fun record => record.type = type ∧ record.id = id

variable {type : RecordType} {id : UInt16} {record : Record} {records : List Record}

/-- Records are counted list by list. -/
theorem count_append (type : RecordType) (id : UInt16) (records records' : List Record) :
    count type id (records ++ records') = count type id records + count type id records' :=
  List.countP_append

@[simp]
theorem count_nil (type : RecordType) (id : UInt16) : count type id [] = 0 := rfl

/-- A record of the type counts for its own id. -/
theorem count_singleton (htype : record.type = type) :
    count type id [record] = if record.id = id then 1 else 0 := by
  simp [count, List.countP_cons, htype]

/-- An END record counts for the id that it is sent to. -/
theorem count_endRequest (id own : UInt16) (body : EndBody) :
    count .endRequest id [endRequest own body] = if own = id then 1 else 0 := count_singleton rfl

/-- Records of other types do not count. -/
theorem count_eq_zero (h : ∀ r ∈ records, r.type ≠ type) : count type id records = 0 := by
  refine List.countP_eq_zero.2 fun r hr => ?_
  simp [h r hr]

end Record

/-! ## What a request is owed -/

namespace Request

/-- A record that belongs to no request and begins none, and does not come from the last request
either. -/
structure Stray (request : Request) (record : Record) : Prop where
  fresh : request.Fresh
  id : record.id ≠ managementId
  type : record.type ≠ .beginRequest
  previous : request.previousId ≠ some record.id

/-- A record that is astray has the request given up that it does not begin. -/
theorem Stray.process {request : Request} {record : Record} (h : request.Stray record) :
    request.process record = (.error (.protocol (.unexpectedRecord record.type .awaitingBegin)),
      { request with replyId := some record.id }) := by
  have htakes := takes_process (.inl h.fresh) record
  generalize request.process record = outcome at htakes
  cases htakes with
  | stray => rfl
  | answered hid | unanswered hid => exact absurd hid h.id
  | trailing _ _ _ hprevious => exact absurd hprevious h.previous
  | malformed _ _ htype | begins _ _ htype => exact absurd htype h.type
  | refused _ hopen | foreign _ hopen | own _ hopen => exact absurd hopen h.fresh.not_open

/-- The number of END records that a request may still be answered with, for an id. -/
def owed (request : Request) (id : UInt16) : Nat := if request.replyId = some id then 1 else 0

/-- A request that has not begun is owed nothing. -/
theorem Fresh.owed {request : Request} (h : request.Fresh) (id : UInt16) : request.owed id = 0 := by
  simp [Request.owed, h.replyId]

/-- Going on with a request does not change what it is owed. -/
theorem Continues.owed {request request' : Request} (h : request.Continues request')
    (id : UInt16) : request'.owed id = request.owed id := by
  simp [Request.owed, h.replyId]

/-- What is sent at once about a record that was taken. -/
def answers : Except AbortReason Step → List Record
  | .ok (.reply reply) => [reply]
  | _ => []

/-- The answer to a management record ends no request. -/
theorem type_of_managementReply {info : ServerInfo} {record reply : Record}
    (h : managementReply info record = .ok reply) : reply.type ≠ .endRequest := by
  rw [managementReply_eq] at h
  obtain ⟨-, rfl⟩ := Record.new_eq_ok_iff.1 h
  unfold answerType
  split <;> exact nofun

/-- A record that is not astray makes a request owed no more END records than it asks to begin
requests, the ones that are sent at once included. -/
theorem Takes.owes {request : Request} {record : Record} {outcome : Outcome}
    (h : request.Takes record outcome) (hstray : ¬request.Stray record) (id : UInt16) :
    Record.count .endRequest id (answers outcome.1) + outcome.2.owed id ≤
      request.owed id + Record.count .beginRequest id [record] := by
  cases h with
  | answered _ hreply =>
    have hnone : Record.count .endRequest id (answers (.ok (.reply _))) = 0 :=
      Record.count_eq_zero fun r hr => by
        rw [List.mem_singleton.1 hr]
        exact type_of_managementReply hreply
    rw [hnone, Nat.zero_add]
    exact Nat.le_add_right ..
  | unanswered | trailing | foreign =>
    simp [answers]
  | stray hid hfresh htype hprevious => exact absurd ⟨hfresh, hid, htype, hprevious⟩ hstray
  | malformed _ _ htype | begins _ _ htype =>
    rw [Record.count_singleton htype]
    simp [answers, owed, begun]
  | refused _ _ _ htype =>
    simp only [Record.count_singleton htype, answers, Record.count_endRequest]
    omega
  | own hid hopen hsame htakes =>
    have hcontinues := continues (.own hid hopen hsame htakes) hopen
    have hnone : Record.count .endRequest id (answers outcome.1) = 0 := by
      cases htakes <;> rfl
    rw [hnone, hcontinues.owed, Nat.zero_add]
    exact Nat.le_add_right ..

end Request

/-- What the server sends about a request that has ended holds no END record that was not owed. -/
theorem Server.Concludes.owes {server : Server} {request : Request} {outcome : RunOutcome}
    {channel channel' : Channel} {role : Option RoleOutcome} {output : List Record}
    (h : server.Concludes request outcome channel role output channel') (id : UInt16) :
    Record.count .endRequest id (output ++ (completion? request outcome role).toList) ≤
      request.owed id := by
  have houtput : Record.count .endRequest id output = 0 := Record.count_eq_zero fun r hr => by
    rcases (h.own r hr).type with htype | htype <;> rw [htype] <;> decide
  rw [Record.count_append, houtput, Nat.zero_add, completion?]
  cases endBody? outcome role with
  | none => exact Nat.zero_le _
  | some body =>
    unfold Request.owed
    cases request.replyId with
    | none => exact Nat.zero_le _
    | some own =>
      simp only [Option.bind_some, Option.map_some, Option.toList_some, Record.count_endRequest,
        Option.some.injEq]
      exact Nat.le_refl _

/-! ## What is covered -/

/-- The END records sent on a channel, and those still owed, are covered by the BEGIN records
received. -/
structure Channel.Covers (channel : Channel) (received : List Record) (owed : UInt16 → Nat) :
    Prop where
  wrote : channel.Wrote channel.frames
  le : ∀ id, Record.count .endRequest id channel.frames + owed id ≤
    Record.count .beginRequest id received

/-- What is sent on a channel stays covered if no END record is sent that was not owed, or that no
BEGIN record has come for in the meantime. -/
theorem Channel.Covers.of_wrote {channel channel' : Channel} {received records more : List Record}
    {owed owed' : UInt16 → Nat} (h : channel.Covers received owed)
    (hwrote : channel'.Wrote (channel.frames ++ records))
    (howes : ∀ id, Record.count .endRequest id records + owed' id ≤
      owed id + Record.count .beginRequest id more) :
    channel'.Covers (received ++ more) owed' where
  wrote := by rwa [hwrote.frames]
  le id := by
    have hle := h.le id
    have hmore := howes id
    rw [hwrote.frames, Record.count_append, Record.count_append]
    omega

/-- What is sent stays covered if the END records in it were owed. -/
theorem Channel.Covers.of_ends {channel channel' : Channel} {received records : List Record}
    {owed owed' : UInt16 → Nat} (h : channel.Covers received owed)
    (hwrote : channel'.Wrote (channel.frames ++ records))
    (howes : ∀ id, Record.count .endRequest id records + owed' id ≤ owed id) :
    channel'.Covers received owed' := by
  rw [← List.append_nil received]
  exact h.of_wrote hwrote howes

/-- A channel on which nothing new was sent stays covered. -/
theorem Channel.Covers.of_sent {channel channel' : Channel} {received : List Record}
    {owed owed' : UInt16 → Nat} (h : channel.Covers received owed)
    (hsent : channel'.connection.sent = channel.connection.sent)
    (howed : ∀ id, owed' id ≤ owed id) : channel'.Covers received owed' := by
  have hwrote : channel'.Wrote (channel.frames ++ []) := by
    rw [List.append_nil]
    exact ⟨h.wrote.wellFormed, by rw [hsent, h.wrote.sent]⟩
  refine h.of_ends hwrote fun id => ?_
  rw [Record.count_nil, Nat.zero_add]
  exact howed id

/-- A session that is in balance: all that was sent and is owed is covered. The records of its input
that have not been received are still to come. -/
structure Session.Balanced (session : Session) (input received : List Record) : Prop where
  ready : session.channel.Ready
  only : session.channel.OutputOnly
  receiving : session.request.Receiving
  covers : session.channel.Covers received session.request.owed
  delivery : received ++ session.channel.delivery.records = input

/-- A move after which all that was sent is covered. -/
def Move.Balanced (input received : List Record) : Move → Prop
  | .on session => session.Balanced input received
  | .off _ channel => channel.Covers received fun _ => 0

namespace Server

/-- Serving begins in balance: nothing has been sent, nothing is owed, and all input is still to
come. -/
theorem balanced_firstSession (server : Server) {connection : Connection}
    (hreliable : connection.Reliable) (hsent : connection.sent = #[]) (timeout : Duration)
    (peer : String) :
    (server.firstSession (.new connection timeout peer)).Balanced
      (Channel.new connection timeout peer).delivery.records [] := by
  have hwrote := Channel.wrote_new hsent timeout peer
  have hfresh : (server.newRequest none).Fresh := Request.fresh_new ..
  refine ⟨⟨hreliable, rfl⟩, Channel.outputOnly_new connection timeout peer, .inl hfresh,
    ⟨?_, fun id => ?_⟩, rfl⟩
  · rw [firstSession, hwrote.frames]
    exact hwrote
  · rw [firstSession, hwrote.frames, hfresh.owed]
    exact Nat.le_refl 0

/-- Leaving a connection sends nothing. -/
theorem balanced_abandon {request : Request} {channel : Channel} {input received : List Record}
    (hcovers : channel.Covers received request.owed) (e : TransportError) :
    (abandon e request channel).Balanced input received :=
  hcovers.of_sent (sent_leave e request channel) fun _ => Nat.zero_le _

section

variable {server : Server} {request : Request} {channel : Channel} {input received : List Record}
  (hready : channel.Ready) (honly : channel.OutputOnly)

include hready honly

/-- The end of a request is covered by what it was owed. -/
theorem balanced_settle (hcovers : channel.Covers received request.owed) (outcome : RunOutcome)
    (hreply : outcome = .complete → request.replyId = some request.context.id)
    (hdelivery : outcome.preservesFraming = true →
      received ++ channel.delivery.records = input) :
    (server.settle request outcome channel).Balanced input received := by
  obtain ⟨output, channel', hconcludes⟩ := server.concludes hready honly outcome hreply
  have hcovered : channel'.Covers received fun _ => 0 :=
    hcovers.of_ends (hcovers.wrote.sends hconcludes.sends) fun id => hconcludes.owes id
  have hnext := hconcludes.conclude
  unfold settle
  split at hnext
  next =>
    have hfresh : (server.newRequest request.replyId).Fresh := Request.fresh_new ..
    simp only [hnext, Move.Balanced]
    refine ⟨hconcludes.sends.ready hready, hconcludes.only, .inl hfresh, ?_, ?_⟩
    · exact hcovered.of_sent rfl fun id => Nat.le_of_eq (hfresh.owed id)
    · rw [hconcludes.sends.sameInput.delivery]
      exact hdelivery (conclude_eq_next hnext).1
  next =>
    obtain ⟨result, final, hlast, hfinal, -⟩ := hnext
    simp only [hlast, Move.Balanced]
    exact hcovered.of_sent hfinal fun _ => Nat.le_refl _

/-- What is done with a record that is not astray is covered, if what was sent before is. -/
theorem balanced_handle (hrequest : request.Receiving)
    (hcovers : channel.Covers received request.owed) {record : Record}
    (hstray : ¬request.Stray record)
    (hdelivery : received ++ [record] ++ channel.delivery.records = input) :
    (server.handle request record channel).Balanced input (received ++ [record]) := by
  obtain ⟨htell, hstreams⟩ := request.sends_tellRemark record channel
  have htold := htell.ready hready
  have honly' := honly.of_openStreams hstreams
  have hwrote := hcovers.wrote.sends htell
  rw [← htell.sameInput.delivery] at hdelivery
  have htakes := Request.takes_process hrequest record
  have howes := htakes.owes hstray
  unfold handle
  cases hprocess : request.process record with
  | mk step request' =>
    rw [hprocess] at htakes howes
    rcases step with reason | _ | reply | _
    · refine balanced_settle htold honly' (hcovers.of_wrote hwrote fun id => ?_) _ nofun
        fun _ => hdelivery
      rw [(Request.continues_abort request').owed]
      exact howes id
    · exact ⟨htold, honly', htakes.receiving, hcovers.of_wrote hwrote howes, hdelivery⟩
    · obtain ⟨rfl, hreply⟩ := htakes.answer
      obtain ⟨sent, hsend, hsends, hstreams'⟩ := Channel.sendRecord_of_ready htold hreply
      rw [← hsends.sameInput.delivery] at hdelivery
      simp only [hsend]
      exact ⟨hsends.ready htold, honly'.of_openStreams hstreams', hrequest,
        hcovers.of_wrote (hcovers.wrote.sends (htell.trans hsends)) howes, hdelivery⟩
    · refine balanced_settle htold honly' (hcovers.of_wrote hwrote howes) _ (fun _ => ?_)
        fun _ => hdelivery
      obtain ⟨hopen, -, hcontinues, -⟩ := htakes.complete
      rw [hcontinues.replyId, hcontinues.id]
      exact hopen.replyId

/-- A record that is astray is answered with an END record, behind which the channel is closed. -/
theorem handle_of_stray {record : Record} (hstray : request.Stray record) {sent : List Record}
    (hwrote : channel.Wrote sent) :
    ∃ result final, server.handle request record channel = .off result final ∧
      final.Wrote (sent ++ [.endRequest record.id ⟨.requestComplete, failureExitCode⟩]) ∧
      final.closed = true := by
  obtain ⟨htell, hstreams⟩ := request.sends_tellRemark record channel
  have htold := htell.ready hready
  have honly' := honly.of_openStreams hstreams
  let reason : AbortReason := .protocol (.unexpectedRecord record.type .awaitingBegin)
  let given := { request with replyId := some record.id }.abort
  have hreply : given.replyId = some record.id := (Request.continues_abort _).replyId
  have hkeep : given.context.keep = false := by
    rw [(Request.continues_abort _).keep, hstray.fresh.context]
    rfl
  obtain ⟨channel', hemits, hconclude⟩ :=
    @conclude_eq_account server _ htold honly' given (.aborted reason) nofun
  have hkeeps : keeps given (.aborted reason) none = false := by simp [keeps, hkeep]
  have hsaid : ∀ streams, server.said given (.aborted reason) streams =
      [.endRequest record.id ⟨.requestComplete, failureExitCode⟩] := by
    intro streams
    rw [said, completion?, hreply]
    rfl
  rw [hsaid] at hemits
  rw [sequel, closes, ending?, hkeeps] at hconclude
  have hwrote' := (hwrote.sends htell).sends hemits.sends
  rw [List.append_nil] at hwrote'
  refine ⟨.ok (), channel'.close, ?_, hwrote'.close, Channel.closed_close channel'⟩
  simp only [handle, hstray.process, settle]
  rw [hconclude]
  rfl

end

/-- A move on a session in balance keeps it so, unless a record is astray. -/
theorem balanced_move {server : Server} {session : Session} {input received : List Record}
    (h : session.Balanced input received) {record? : Option Record} {after : Move}
    (hmove : server.move session = (record?, after)) :
    after.Balanced input (received ++ record?.toList) ∨
      ∃ record result final, record? = some record ∧ session.request.Stray record ∧
        after = .off result final ∧
        final.frames = session.channel.frames ++
          [.endRequest record.id ⟨.requestComplete, failureExitCode⟩] ∧
        final.closed = true := by
  have hexchanges := session.channel.exchanges_receive
  unfold move at hmove
  cases hreceive : session.channel.receive with
  | mk result next =>
    rw [hreceive] at hexchanges hmove
    have hreliable := hexchanges.reliable h.ready.reliable
    have hwrote := hexchanges.wrote h.covers.wrote
    have honly := h.only.of_openStreams hexchanges.openStreams
    have hcovers : next.Covers received session.request.owed := by
      refine h.covers.of_ends hwrote fun id => Nat.le_of_eq ?_
      rw [Record.count_nil, Nat.zero_add]
    cases result with
    | error e =>
      left
      cases e with
      | protocol e =>
        obtain ⟨rfl, rfl⟩ := Prod.mk.inj hmove
        -- A header that cannot be read ends the session, so nothing is asked of what is left.
        have hready : next.Ready := ⟨hreliable, (Channel.closed_of_receive_protocol hreceive).2⟩
        rw [Option.toList_none, List.append_nil]
        refine balanced_settle hready honly
          (hcovers.of_sent rfl fun id => Nat.le_of_eq ((Request.continues_abort _).owed id)) _ nofun
          fun hframing => ?_
        rw [RunOutcome.preservesFraming, AbortReason.preservesFraming,
          Channel.preservesFraming_of_receive hreceive] at hframing
        cases hframing
      | closed | timeout | io =>
        obtain ⟨rfl, rfl⟩ := Prod.mk.inj hmove
        rw [Option.toList_none, List.append_nil]
        exact balanced_abandon hcovers _
    | ok record =>
      obtain ⟨rfl, rfl⟩ := Prod.mk.inj hmove
      have hready : next.Ready := ⟨hreliable, (Channel.closed_of_receive_ok hreceive).2⟩
      by_cases hstray : session.request.Stray record
      · right
        obtain ⟨result, final, hoff, hfinal, hclosed⟩ :=
          @handle_of_stray server _ _ hready honly _ hstray _ hwrote
        rw [List.append_nil] at hfinal
        exact ⟨record, result, final, rfl, hstray, hoff, hfinal.frames, hclosed⟩
      · left
        refine balanced_handle hready honly h.receiving hcovers hstray ?_
        rw [List.append_assoc, ← h.delivery, Channel.delivery_eq_of_ok hreceive]
        rfl

/-- Every session that is gone on with is in balance. -/
theorem balanced_of_reaches {server : Server} {start session : Session}
    {input received : List Record} (hstart : start.Balanced input [])
    (h : server.Reaches start received session) : session.Balanced input received := by
  induction h with
  | start => exact hstart
  | move _ hmove ih =>
    rcases balanced_move ih hmove with hbalanced | ⟨_, _, _, -, -, hoff, -⟩
    · exact hbalanced
    · cases hoff

/-- **One END record for each BEGIN record.** On a fresh connection that takes all that is sent, the
END records sent for an id are never more than the BEGIN records received for it, whichever move of
serving has just been made. A last move that finds a record astray is the only one that goes beyond
that: it sends one END record, for the id of that record, and closes the channel. -/
theorem ends_le_begins (server : Server) {connection : Connection}
    (hreliable : connection.Reliable) (hsent : connection.sent = #[]) (timeout : Duration)
    (peer : String) :
    let channel := Channel.new connection timeout peer
    (∀ received session, server.Reaches (server.firstSession channel) received session →
      received <+: channel.delivery.records ∧
        ∀ id, Record.count .endRequest id session.channel.frames ≤
          Record.count .beginRequest id received) ∧
    ∃ received session record? result final, server.serve channel = (result, final) ∧
      server.Stops (server.firstSession channel) received session record? result final ∧
      received ++ record?.toList <+: channel.delivery.records ∧
      ((∀ id, Record.count .endRequest id final.frames ≤
          Record.count .beginRequest id (received ++ record?.toList)) ∨
        ∃ record, record? = some record ∧ session.request.Stray record ∧
          final.frames = session.channel.frames ++
            [.endRequest record.id ⟨.requestComplete, failureExitCode⟩] ∧
          final.closed = true) := by
  intro channel
  have hbalanced : ∀ {received session}, server.Reaches (server.firstSession channel) received
      session → session.Balanced channel.delivery.records received :=
    balanced_of_reaches (server.balanced_firstSession hreliable hsent timeout peer)
  refine ⟨fun received session hreaches => ⟨⟨_, (hbalanced hreaches).delivery⟩, fun id => ?_⟩, ?_⟩
  · exact Nat.le_trans (Nat.le_add_right ..) ((hbalanced hreaches).covers.le id)
  · obtain ⟨received, session, record?, hstops⟩ := server.exists_stop_serve channel
    have hbefore := hbalanced hstops.reaches
    refine ⟨received, session, record?, _, _, rfl, hstops, ?_, ?_⟩
    · rw [← hbefore.delivery]
      exact (List.prefix_append_right_inj received).2 (prefix_of_move hstops.move)
    rcases balanced_move hbefore hstops.move with
      hcovers | ⟨record, _, _, hrecord, hstray, hoff, hframes, hclosed⟩
    · exact .inl fun id => hcovers.le id
    · obtain ⟨rfl, rfl⟩ := Move.off.inj hoff
      exact .inr ⟨record, hrecord, hstray, hframes, hclosed⟩

/-- A peer that begins a request while another one is open, and sends a record for it once that one
has been answered. -/
def overlapping : List Record :=
  [⟨version1, .beginRequest, 1, [0, 99, 1, 0, 0, 0, 0, 0], 0⟩,
    ⟨version1, .beginRequest, 2, [0, 99, 1, 0, 0, 0, 0, 0], 0⟩,
    ⟨version1, .params, 1, [], 0⟩, ⟨version1, .stdin, 1, [], 0⟩, ⟨version1, .params, 2, [], 0⟩]

/-- The overlapping requests are covered up to the last move, which is the one that goes beyond. -/
theorem ends_le_begins_overlapping :
    let channel := Channel.new (.new [.data (Record.encodeAll overlapping)]) ⟨1⟩
    channel.connection.Reliable ∧ channel.connection.sent = #[] ∧
      ∀ received session, bare.Reaches (bare.firstSession channel) received session → ∀ id,
        Record.count .endRequest id session.channel.frames ≤
          Record.count .beginRequest id received := by
  intro channel
  have hreliable : channel.connection.Reliable := Connection.reliable_new _
  have hends := (ends_le_begins bare hreliable rfl ⟨1⟩ "unknown").1
  exact ⟨hreliable, rfl, fun received session hreaches => (hends received session hreaches).2⟩

/-- Two END records may be sent for one BEGIN record, though every record that begins no request
comes after one that begins a request of its id. -/
theorem ends_twice_overlapping :
    (∀ i, ∀ hi : i < overlapping.length, overlapping[i].type = .beginRequest ∨
      ∃ r ∈ overlapping.take i, r.type = .beginRequest ∧ r.id = overlapping[i].id) ∧
    (∀ r ∈ overlapping, r.WellFormed) ∧
    Record.count .beginRequest 2 overlapping = 1 ∧
    Record.count .endRequest 2 (bare.serve
      (.new (.new [.data (Record.encodeAll overlapping)]) ⟨1⟩)).2.frames = 2 := by
  refine ⟨by decide, ?_, by decide, by decide +kernel⟩
  intro r hr
  simp only [overlapping, List.mem_cons, List.not_mem_nil, or_false] at hr
  rcases hr with rfl | rfl | rfl | rfl | rfl <;> exact ⟨rfl, trivial, by decide⟩

end Server

end FastCgi
