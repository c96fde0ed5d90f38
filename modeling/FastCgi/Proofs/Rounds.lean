import FastCgi.Proofs.Cycles
import FastCgi.Proofs.Evolution
import FastCgi.Proofs.Moves
import FastCgi.Proofs.Reception

/-!
# How often serving goes round

Neither of the two loops of serving counts anything. `Request.Gathers` says what one run does, record
by record, and `Server.Rounds` what serving does, run by run; both end, and in one way only
(`exists_gathers`, `exists_rounds`). A run may receive nothing but records that it passes over, so
it is not the input that bounds the rounds of serving, but this: a connection is kept after a request
only if the request asks for it, and it is its BEGIN record that does (`Gathers.begin_mem`). Bytes
that are no record stay where they are, and would be refused for ever: `serve_rounds` also says that
they end serving the first time they are.
-/

namespace FastCgi

/-- The number of BEGIN records. -/
def Record.begins (records : List Record) : Nat := records.countP (·.type = .beginRequest)

/-- BEGIN records are counted list by list. -/
theorem Record.begins_append (records records' : List Record) :
    begins (records ++ records') = begins records + begins records' := List.countP_append

/-- One BEGIN record counts. -/
theorem Record.begins_pos {records : List Record} (h : ∃ r ∈ records, r.type = .beginRequest) :
    0 < begins records := by
  obtain ⟨record, hrecord, htype⟩ := h
  exact List.countP_pos_iff.2 ⟨record, hrecord, decide_eq_true htype⟩

/-! ## Receiving -/

namespace Channel

/-- A record that is received is the first one in the stream, and leaves the others. -/
theorem records_of_receive_ok {channel channel' : Channel} {record : Record}
    (h : channel.receive = (.ok record, channel')) :
    (Record.decodeAll channel.stream).records =
      record :: (Record.decodeAll channel'.stream).records := by
  have hhears := hears_receive (closed_of_receive_ok h).1
  rw [h] at hhears
  cases hhears with
  | record hdecode => rw [Record.decodeAll_eq channel.stream, hdecode]

/-- A receive that gives no record leaves the stream as it was. -/
theorem stream_of_receive_error {channel channel' : Channel} {e : TransportError}
    (h : channel.receive = (.error e, channel')) : channel'.stream = channel.stream := by
  cases hclosed : channel.closed with
  | true =>
    rw [receive, if_pos hclosed] at h
    cases h
    rfl
  | false =>
    have hhears := hears_receive hclosed
    rw [h] at hhears
    cases hhears with
    | refused _ hstream | ended _ _ hstream | putOff _ _ hstream => exact hstream

/-- Bytes that were refused once are refused again, and nothing changes. -/
theorem receive_of_refused {channel channel' : Channel} {e : ProtocolError}
    (h : channel.receive = (.error (.protocol e), channel')) :
    channel'.receive = (.error (.protocol e), channel') := by
  obtain ⟨hopen, hopen'⟩ := closed_of_receive_protocol h
  have hhears := hears_receive hopen
  rw [h] at hhears
  cases hhears with
  | refused hdecode => rw [receive, if_neg (by simp [hopen']), await_eq, hdecode]
  | putOff hputs => rcases hputs with ⟨_, hputs⟩ | ⟨_, hputs⟩ <;> cases hputs

end Channel

/-! ## One run -/

namespace Request

/-- What a run on a channel does: the records that it receives, and what it comes to. -/
inductive Gathers : Request → Channel → List Record →
    Except TransportError RunOutcome × Request × Channel → Prop
  /-- What arrives is not a record. -/
  | unreadable {request : Request} {channel channel' : Channel} {e : ProtocolError} :
    channel.receive = (.error (.protocol e), channel') →
      Gathers request channel [] (.ok (.aborted (.protocol e)), request.abort, channel')
  /-- Nothing arrives. -/
  | fails {request : Request} {channel channel' : Channel} {e : TransportError} :
    channel.receive = (.error e, channel') → (∀ e', e ≠ .protocol e') →
      Gathers request channel [] (.error e, request, channel')
  /-- A record has the request given up. -/
  | givesUp {request request' : Request} {channel channel' : Channel} {record : Record}
      {reason : AbortReason} :
    channel.receive = (.ok record, channel') → request.process record = (.error reason, request') →
      Gathers request channel [record]
        (.ok (.aborted reason), request'.abort, request.tellRemark record channel')
  /-- A record completes the request. -/
  | completes {request request' : Request} {channel channel' : Channel} {record : Record} :
    channel.receive = (.ok record, channel') →
    request.process record = (.ok .complete, request') →
      Gathers request channel [record]
        (.ok .complete, request', request.tellRemark record channel')
  /-- A record is taken, and more are needed. -/
  | takes {request request' : Request} {channel channel' : Channel} {record : Record}
      {records : List Record} {final : Except TransportError RunOutcome × Request × Channel} :
    channel.receive = (.ok record, channel') → request.process record = (.ok .more, request') →
    Gathers request' (request.tellRemark record channel') records final →
      Gathers request channel (record :: records) final
  /-- A record is answered, and more are needed. -/
  | answers {request request' : Request} {channel channel' sent : Channel}
      {record reply : Record} {records : List Record}
      {final : Except TransportError RunOutcome × Request × Channel} :
    channel.receive = (.ok record, channel') →
    request.process record = (.ok (.reply reply), request') →
    (request.tellRemark record channel').sendRecord reply = (.ok (), sent) →
    Gathers request' sent records final → Gathers request channel (record :: records) final
  /-- A record cannot be answered. -/
  | unanswered {request request' : Request} {channel channel' sent : Channel}
      {record reply : Record} {e : TransportError} :
    channel.receive = (.ok record, channel') →
    request.process record = (.ok (.reply reply), request') →
    (request.tellRemark record channel').sendRecord reply = (.error e, sent) →
      Gathers request channel [record] (.error e, request', sent)

/-- Every run comes to an end. -/
theorem exists_gathers (request : Request) (channel : Channel) :
    ∃ records, request.Gathers channel records (request.run channel) := by
  induction request, channel using run.induct with
  | case1 request channel e channel₁ hreceive =>
    rw [run_eq, hreceive]
    exact ⟨[], .unreadable hreceive⟩
  | case2 request channel e channel₁ hnot hreceive =>
    have hrun : request.run channel = (.error e, request, channel₁) := by
      rw [run_eq, hreceive]
      simp
    rw [hrun]
    exact ⟨[], .fails hreceive hnot⟩
  | case3 request channel record channel₁ hreceive hlt told hremark reason request₁ hprocess =>
    rw [run_eq, hreceive]
    simp only [hprocess]
    exact ⟨[record], .givesUp hreceive hprocess⟩
  | case4 request channel record channel₁ hreceive hlt told hremark request₁ hprocess =>
    rw [run_eq, hreceive]
    simp only [hprocess]
    exact ⟨[record], .completes hreceive hprocess⟩
  | case5 request channel record channel₁ hreceive hlt told hremark request₁ hprocess ih =>
    obtain ⟨records, hgathers⟩ := ih
    rw [run_eq, hreceive]
    simp only [hprocess]
    exact ⟨record :: records, .takes hreceive hprocess hgathers⟩
  | case6 request channel record channel₁ hreceive hlt told hremark reply request₁ hprocess e
      channel₂ hsend =>
    rw [run_eq, hreceive]
    simp only [hprocess]
    rw [show (request.tellRemark record channel₁).sendRecord reply = _ from hsend]
    exact ⟨[record], .unanswered hreceive hprocess hsend⟩
  | case7 request channel record channel₁ hreceive hlt told hremark reply request₁ hprocess
      channel₂ hsend hkeeps ih =>
    obtain ⟨records, hgathers⟩ := ih
    rw [run_eq, hreceive]
    simp only [hprocess]
    rw [show (request.tellRemark record channel₁).sendRecord reply = _ from hsend]
    exact ⟨record :: records, .answers hreceive hprocess hsend hgathers⟩

namespace Gathers

variable {request : Request} {channel : Channel} {records : List Record}
  {final : Except TransportError RunOutcome × Request × Channel}

/-- A run comes to nothing else. -/
theorem run_eq (h : request.Gathers channel records final) : request.run channel = final := by
  induction h with
  | unreadable hreceive => rw [Request.run_eq, hreceive]
  | fails hreceive hnot =>
    rw [Request.run_eq, hreceive]
    simp
  | givesUp hreceive hprocess | completes hreceive hprocess =>
    rw [Request.run_eq, hreceive]
    simp only [hprocess]
  | takes hreceive hprocess _ ih =>
    rw [Request.run_eq, hreceive]
    simp only [hprocess]
    exact ih
  | answers hreceive hprocess hsend _ ih =>
    rw [Request.run_eq, hreceive]
    simp only [hprocess, hsend]
    exact ih
  | unanswered hreceive hprocess hsend =>
    rw [Request.run_eq, hreceive]
    simp only [hprocess, hsend]

/-- The records of a run are the first ones in the stream, and it leaves the others. -/
theorem stream (h : request.Gathers channel records final) :
    (Record.decodeAll channel.stream).records =
      records ++ (Record.decodeAll final.2.2.stream).records := by
  induction h with
  | unreadable hreceive | fails hreceive =>
    rw [Channel.stream_of_receive_error hreceive, List.nil_append]
  | givesUp hreceive | completes hreceive =>
    rw [Channel.records_of_receive_ok hreceive, (keeps_tellRemark ..).stream]
    rfl
  | takes hreceive _ _ ih =>
    rw [Channel.records_of_receive_ok hreceive, ← (keeps_tellRemark ..).stream, ih]
    rfl
  | @answers request _ _ channel' _ record reply _ _ hreceive _ hsend _ ih =>
    have hkeeps := (request.tellRemark record channel').keeps_sendRecord reply
    rw [hsend] at hkeeps
    rw [Channel.records_of_receive_ok hreceive,
      ← ((request.keeps_tellRemark record channel').trans hkeeps).stream, ih]
    rfl
  | @unanswered request _ _ channel' _ record reply _ hreceive _ hsend =>
    have hkeeps := (request.tellRemark record channel').keeps_sendRecord reply
    rw [hsend] at hkeeps
    rw [Channel.records_of_receive_ok hreceive,
      ← ((request.keeps_tellRemark record channel').trans hkeeps).stream]
    rfl

end Gathers

/-- Only a BEGIN record can make a request ask to keep the connection. -/
theorem keep_of_process {request : Request} {record : Record} {outcome : Outcome}
    (h : request.process record = outcome) (hbefore : request.context.keep = false)
    (htype : record.type ≠ .beginRequest) : outcome.2.context.keep = false := by
  cases alters_of_process h with
  | keeps | params | allParams | body | completes => exact hbefore
  | begins _ _ hbegin => exact absurd hbegin htype
  | fails hcontext => rw [hcontext, hbefore]

/-- A request that asks to keep the connection after a run, but did not before it, has received a
BEGIN record. -/
theorem Gathers.begin_mem {request : Request} {channel : Channel} {records : List Record}
    {final : Except TransportError RunOutcome × Request × Channel}
    (h : request.Gathers channel records final) (hbefore : request.context.keep = false)
    (hafter : final.2.1.context.keep = true) : ∃ r ∈ records, r.type = .beginRequest := by
  induction h with
  | @unreadable request =>
    rw [(continues_abort request).keep, hbefore] at hafter
    cases hafter
  | fails => cases hbefore.symm.trans hafter
  | @givesUp request request' _ _ record _ _ hprocess =>
    refine ⟨record, List.mem_singleton_self _, Decidable.byContradiction fun htype => ?_⟩
    rw [(continues_abort request').keep, keep_of_process hprocess hbefore htype] at hafter
    cases hafter
  | @completes _ _ _ _ record _ hprocess | @unanswered _ _ _ _ _ record _ _ _ hprocess =>
    refine ⟨record, List.mem_singleton_self _, Decidable.byContradiction fun htype => ?_⟩
    cases (keep_of_process hprocess hbefore htype).symm.trans hafter
  | @takes _ _ _ _ record _ _ _ hprocess _ ih | @answers _ _ _ _ _ record _ _ _ _ hprocess _ _ ih =>
    by_cases htype : record.type = .beginRequest
    · exact ⟨record, List.mem_cons_self, htype⟩
    · obtain ⟨begin, hbegin, hbeginType⟩ := ih (keep_of_process hprocess hbefore htype) hafter
      exact ⟨begin, List.mem_cons_of_mem record hbegin, hbeginType⟩

end Request

namespace Server

/-! ## Going round -/

/-- A connection is kept only after a request that asks for it. -/
theorem keep_of_answer {server : Server} {request : Request} {outcome : RunOutcome}
    {channel channel' : Channel}
    (h : server.answer request outcome channel = (.ok true, channel')) :
    request.context.keep = true := by
  cases outcome with
  | complete =>
    simp only [answer, dispatch] at h
    split at h
    next =>
      obtain ⟨_, _, -, hkeep⟩ := Channel.andThen_eq_ok h
      exact Except.ok.inj (Prod.mk.inj hkeep).1
    next =>
      split at h
      next =>
        obtain ⟨_, _, -, hkeep⟩ := Channel.andThen_eq_ok h
        exact Except.ok.inj (Prod.mk.inj hkeep).1
      next => cases h
      next =>
        obtain ⟨_, _, -, hlast⟩ := Channel.andThen_eq_ok h
        cases hlast
      next =>
        obtain ⟨_, _, -, hfailed⟩ := Channel.andThen_eq_ok h
        obtain ⟨_, _, -, hlast⟩ := Channel.andThen_eq_ok hfailed
        cases hlast
  | aborted reason =>
    simp only [answer, refuse] at h
    split at h
    next => cases h
    next =>
      obtain ⟨_, _, -, hkeep⟩ := Channel.andThen_eq_ok h
      exact (Bool.and_eq_true_iff.1 (Except.ok.inj (Prod.mk.inj hkeep).1)).1

/-- Another request follows only one that asks to keep the connection. -/
theorem keep_of_conclude {server : Server} {request : Request} {outcome : RunOutcome}
    {nextId : Option UInt16} {channel channel' : Channel}
    (h : server.conclude request outcome channel = (.next nextId, channel')) :
    request.context.keep = true := by
  unfold conclude at h
  split at h
  next => cases h
  next hanswer => exact keep_of_answer hanswer
  next => cases h

/-- To conclude a request reads nothing. -/
theorem keeps_conclude {server : Server} {request : Request} {outcome : RunOutcome}
    {nextId : Option UInt16} {channel channel' : Channel}
    (h : server.conclude request outcome channel = (.next nextId, channel')) :
    channel.Keeps channel' := by
  have hkeeps := server.keeps_answer request outcome channel
  unfold conclude at h
  split at h
  next => cases h
  next hanswer =>
    cases h
    rwa [hanswer] at hkeeps
  next => cases h

/-- What serving a channel does, after a request of the given id: the records that each round
receives, and what it comes to. A round makes one request, and runs it. -/
inductive Rounds (server : Server) : Option UInt16 → Channel → List (List Record) →
    Except TransportError Unit × Channel → Prop
  /-- The request is not received to its end. -/
  | leaves {previousId : Option UInt16} {channel channel' : Channel} {records : List Record}
      {request : Request} {e : TransportError} :
    (server.newRequest previousId).Gathers channel records (.error e, request, channel') →
      Rounds server previousId channel [records] (leave e request channel')
  /-- The connection is not kept after the request. -/
  | last {previousId : Option UInt16} {channel between channel' : Channel} {records : List Record}
      {request : Request} {outcome : RunOutcome} {result : Except TransportError Unit} :
    (server.newRequest previousId).Gathers channel records (.ok outcome, request, between) →
    server.conclude request outcome between = (.last result, channel') →
      Rounds server previousId channel [records] (result, channel')
  /-- Another round comes after the request. -/
  | next {previousId nextId : Option UInt16} {channel between channel' : Channel}
      {records : List Record} {rounds : List (List Record)} {request : Request}
      {outcome : RunOutcome} {final : Except TransportError Unit × Channel} :
    (server.newRequest previousId).Gathers channel records (.ok outcome, request, between) →
    server.conclude request outcome between = (.next nextId, channel') →
    Rounds server nextId channel' rounds final →
      Rounds server previousId channel (records :: rounds) final

/-- Serving comes to an end. -/
theorem exists_rounds (server : Server) (previousId : Option UInt16) (channel : Channel) :
    ∃ rounds, server.Rounds previousId channel rounds (server.serveAfter previousId channel) := by
  induction previousId, channel using serveAfter.induct server with
  | case1 previousId channel result channel' hturn =>
    obtain ⟨records, hgathers⟩ := (server.newRequest previousId).exists_gathers channel
    rw [serveAfter_eq, hturn]
    refine ⟨[records], ?_⟩
    unfold turn at hturn
    split at hturn
    next hrun =>
      rw [hrun] at hgathers
      cases hturn
      exact .leaves hgathers
    next hrun =>
      rw [hrun] at hgathers
      exact .last hgathers hturn
  | case2 previousId channel nextId channel' hturn _ ih =>
    obtain ⟨records, hgathers⟩ := (server.newRequest previousId).exists_gathers channel
    obtain ⟨rounds, hrounds⟩ := ih
    rw [serveAfter_eq, hturn]
    refine ⟨records :: rounds, ?_⟩
    unfold turn at hturn
    split at hturn
    next => cases hturn
    next hrun =>
      rw [hrun] at hgathers
      exact .next hgathers hturn hrounds

namespace Rounds

variable {server : Server} {previousId : Option UInt16} {channel : Channel}
  {rounds : List (List Record)} {final : Except TransportError Unit × Channel}

/-- Serving comes to nothing else. -/
theorem serveAfter_eq (h : server.Rounds previousId channel rounds final) :
    server.serveAfter previousId channel = final := by
  induction h with
  | leaves hgathers => simp only [Server.serveAfter_eq, turn, hgathers.run_eq]
  | last hgathers hconclude => simp only [Server.serveAfter_eq, turn, hgathers.run_eq, hconclude]
  | next hgathers hconclude _ ih =>
    rw [Server.serveAfter_eq]
    simp only [turn, hgathers.run_eq, hconclude]
    exact ih

/-- The records of all rounds, one after another, are the first ones in the stream. -/
theorem flatten_prefix (h : server.Rounds previousId channel rounds final) :
    rounds.flatten <+: (Record.decodeAll channel.stream).records := by
  induction h with
  | leaves hgathers | last hgathers =>
    rw [hgathers.stream, List.flatten_singleton]
    exact List.prefix_append ..
  | next hgathers hconclude _ ih =>
    rw [hgathers.stream, List.flatten_cons]
    refine (List.prefix_append_right_inj _).2 ?_
    rwa [(keeps_conclude hconclude).stream] at ih

/-- Every round but the last one has received a BEGIN record. -/
theorem length_le (h : server.Rounds previousId channel rounds final) :
    rounds.length ≤ Record.begins rounds.flatten + 1 := by
  induction h with
  | leaves | last => exact Nat.le_add_left ..
  | next hgathers hconclude _ ih =>
    have hpos := Record.begins_pos (hgathers.begin_mem rfl (keep_of_conclude hconclude))
    rw [List.flatten_cons, Record.begins_append, List.length_cons]
    omega

end Rounds

/-! ## What cannot be read -/

/-- A move that meets bytes which are no record is the last one, whatever the request asks for. -/
theorem move_of_refused (server : Server) {session : Session} {channel : Channel}
    {e : ProtocolError} (h : session.channel.receive = (.error (.protocol e), channel)) :
    ∃ result final, server.move session = (none, .off result final) := by
  rw [move, h]
  simp only [settle]
  split
  next result final _ => exact ⟨result, final, rfl⟩
  next hnext =>
    have hframing := (conclude_eq_next hnext).1
    rw [RunOutcome.preservesFraming, AbortReason.preservesFraming,
      Channel.preservesFraming_of_receive h] at hframing
    cases hframing

/-- **Serving ends, after no more rounds than there were BEGIN records, and one.** Whatever a peer
does, however the connection takes what is written to it, and whatever the applications are: serving
goes through finitely many rounds. The records that they receive are the first ones that the bytes
of the peer make, and at most one round is not accounted for by a BEGIN record among them. Wherever
serving meets bytes that are no record, it ends at once, though the request that is being received
may ask to keep the connection: another receive would give the same error again. -/
theorem serve_rounds (server : Server) (channel : Channel) :
    (∃ rounds, server.Rounds none channel rounds (server.serve channel)) ∧
    (∀ rounds final, server.Rounds none channel rounds final →
      final = server.serve channel ∧
      rounds.flatten <+: (Record.decodeAll channel.stream).records ∧
      rounds.length ≤ Record.begins rounds.flatten + 1) ∧
    ∀ received session e refused,
      server.Reaches (server.firstSession channel) received session →
      session.channel.receive = (.error (.protocol e), refused) →
      refused.receive = (.error (.protocol e), refused) ∧
        ∃ result final, server.move session = (none, .off result final) ∧
          server.serve channel = (result, final) := by
  refine ⟨server.exists_rounds none channel, fun rounds final h =>
    ⟨h.serveAfter_eq.symm, h.flatten_prefix, h.length_le⟩, ?_⟩
  intro received session e refused hreaches hreceive
  obtain ⟨result, final, hmove⟩ := server.move_of_refused hreceive
  refine ⟨Channel.receive_of_refused hreceive, result, final, hmove, ?_⟩
  rw [serve_eq_of_reaches hreaches, hmove]
  rfl

/-- A request that asks to keep the connection, in the middle of which comes a header of a version
that there is not. -/
def garbled : List Event := [
  .data (Record.encode ⟨version1, .beginRequest, 7, [0, 1, 1, 0, 0, 0, 0, 0], 0⟩),
  .data [2, 4, 0, 7, 0, 0, 0, 0]]

/-- Serving ends at the header that cannot be read, though the request asks to keep the
connection. -/
theorem serve_rounds_garbled :
    let channel := Channel.new (.new garbled) ⟨1⟩
    ∃ session refused,
      bare.Reaches (bare.firstSession channel)
        [⟨version1, .beginRequest, 7, [0, 1, 1, 0, 0, 0, 0, 0], 0⟩] session ∧
      session.request.context.keep = true ∧
      session.channel.receive = (.error (.protocol (.unsupportedVersion 2)), refused) ∧
      ∃ result final, bare.move session = (none, .off result final) ∧
        bare.serve channel = (result, final) := by
  intro channel
  let record : Record := ⟨version1, .beginRequest, 7, [0, 1, 1, 0, 0, 0, 0, 0], 0⟩
  let first := bare.newRequest none
  let session : Session :=
    ⟨(first.process record).2, first.tellRemark record channel.receive.2⟩
  have hreceive : channel.receive = (.ok record, channel.receive.2) :=
    Prod.ext (by decide +kernel) rfl
  have hprocess : first.process record = (.ok .more, session.request) := Prod.ext (by decide) rfl
  have hreaches : bare.Reaches (bare.firstSession channel) [record] session :=
    .move .start (move_of_more hreceive hprocess)
  have hrefused : session.channel.receive =
      (.error (.protocol (.unsupportedVersion 2)), session.channel.receive.2) :=
    Prod.ext (by decide +kernel) rfl
  have hends := (serve_rounds bare channel).2.2 _ _ _ _ hreaches hrefused
  exact ⟨session, _, hreaches, rfl, hrefused, hends.2⟩

end Server

end FastCgi
