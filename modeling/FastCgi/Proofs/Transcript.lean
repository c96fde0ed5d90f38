import FastCgi.Proofs.Answering
import FastCgi.Proofs.Fate

/-!
# The transcript of a connection

What a server makes of a connection that takes all that is sent is settled by the records that the
connection delivers and the failure behind them. `Server.transcript` says so without a channel: the
result of serving, the records sent, and whether the server closes the connection. It is a recursion
on the records that are left, one request at a time, and `describes_serve` that serving comes to it.
What is to be shown of whole connections can then be shown by induction on lists.
-/

namespace FastCgi

/-- What becomes of a request that is received and answered. -/
structure TurnAccount where
  after : Server.Turn
  /-- The records that are sent. -/
  sent : List Record
  /-- Whether the connection is closed. -/
  closes : Bool
  /-- The records after the end of the request. -/
  rest : List Record
  /-- The streams that are open then. -/
  streams : List (RecordType × UInt16)

/-- What becomes of a connection that is served. -/
structure Transcript where
  result : Except TransportError Unit
  /-- The records that are sent. -/
  sent : List Record
  /-- Whether the server closes the connection. -/
  closes : Bool

namespace Server

/-! ## One turn -/

/-- What comes of leaving a connection on which a request could not be received to its end, and
whether it is closed. -/
def departure (error : TransportError) (request : Request) : Except TransportError Unit × Bool :=
  match error with
  | .closed _ => (.ok (), false)
  | .timeout limit =>
    if request.replyId.isSome then (.error (.timeout limit), false) else (.ok (), true)
  | .io reason => (.error (.io reason), false)
  | .protocol e => (.error (.protocol e), false)

/-- To leave a connection comes to its departure. The stream is shut down only if time is up before
a request has begun. -/
theorem departure_of_leave (error : TransportError) (request : Request) {channel : Channel}
    (hopened : (∀ midFrame, error ≠ .closed midFrame) → channel.closed = false) :
    (leave error request channel).1 = (departure error request).1 ∧
      (leave error request channel).2.connection.shutdown =
        (channel.connection.shutdown || (departure error request).2) := by
  cases error with
  | closed midFrame => exact ⟨rfl, (Bool.or_false _).symm⟩
  | timeout limit =>
    unfold leave departure
    cases request.replyId.isSome with
    | true => exact ⟨rfl, (Bool.or_false _).symm⟩
    | false =>
      refine ⟨rfl, ?_⟩
      have hclosed : (channel.tell .debug .dispatch
          s!"{channel.peer} idle for {limit.text}, closing").closed = false := hopened nofun
      exact (Channel.shutdown_close hclosed).trans (Bool.or_true _).symm
  | io reason => exact ⟨rfl, (Bool.or_false _).symm⟩
  | protocol e => exact ⟨rfl, (Bool.or_false _).symm⟩

/-- What becomes of a request that takes some records one after another and then meets a failure, on
a connection with some streams open. -/
def turnAccount (server : Server) (request : Request) (records : List Record)
    (failure : TransportError) (streams : List (RecordType × UInt16)) : TurnAccount :=
  let intake := request.intake records
  match intake.result failure with
  | (.error e, request) =>
    ⟨.last (departure e request).1, intake.replies, (departure e request).2, [], streams⟩
  | (.ok outcome, request) =>
    ⟨server.sequel request outcome, intake.replies ++ server.said request outcome streams,
      server.closes request outcome, intake.rest,
      Channel.openAll streams (server.said request outcome streams)⟩

/-- A channel is left as the account of a turn has it. -/
structure Accords (account : TurnAccount) (channel : Channel) (failure : TransportError)
    (channel' : Channel) : Prop where
  sent : channel'.connection.sent.toList =
    channel.connection.sent.toList ++ Record.encodeAll account.sent
  wellFormed : ∀ r ∈ account.sent, r.WellFormed
  shutdown : channel'.connection.shutdown = (channel.connection.shutdown || account.closes)
  /-- If there is to be another request, its records are delivered next. -/
  next : ∀ nextId, account.after = .next nextId → channel'.Ready ∧ channel'.OutputOnly ∧
    channel'.openStreams = account.streams ∧ channel'.delivery = ⟨account.rest, failure⟩

section

variable {channel between : Channel} {replies rest : List Record} {failure : TransportError}
  (hexchanges : channel.Exchanges replies between)

include hexchanges

/-- To leave a connection sends nothing beside what has been answered before. -/
theorem accords_leave {request : Request} {e : TransportError}
    (hopened : (∀ midFrame, e ≠ .closed midFrame) → between.closed = false)
    (streams : List (RecordType × UInt16)) :
    (leave e request between).1 = (departure e request).1 ∧
      Accords ⟨.last (departure e request).1, replies, (departure e request).2, rest, streams⟩
        channel failure (leave e request between).2 := by
  obtain ⟨hresult, hshutdown⟩ := departure_of_leave e request hopened
  refine ⟨hresult, ?_, hexchanges.wellFormed, ?_, nofun⟩
  · rw [sent_leave, hexchanges.sent]
  · rw [hshutdown, hexchanges.shutdown]

/-- To conclude a request sends what is said about it behind what has been answered before. -/
theorem accords_conclude {server : Server} {request : Request} {outcome : RunOutcome}
    (hready : between.Ready) (honly : channel.OutputOnly)
    (hreply : outcome = .complete → request.replyId = some request.context.id)
    (hrest : outcome.preservesFraming = true → between.delivery = ⟨rest, failure⟩) :
    ∃ channel',
      server.conclude request outcome between = (server.sequel request outcome, channel') ∧
      Accords ⟨server.sequel request outcome,
        replies ++ server.said request outcome channel.openStreams, server.closes request outcome,
        rest, Channel.openAll channel.openStreams (server.said request outcome channel.openStreams)⟩
        channel failure channel' := by
  have honly' := honly.of_openStreams hexchanges.openStreams
  obtain ⟨channel', hemits, hconclude⟩ := server.conclude_eq_account hready honly' outcome hreply
  rw [hexchanges.openStreams] at hemits
  have hsent : channel'.connection.sent.toList = channel.connection.sent.toList ++
      Record.encodeAll (replies ++ server.said request outcome channel.openStreams) := by
    rw [hemits.sends.sent, hexchanges.sent, Record.encodeAll_append, List.append_assoc]
  have hwellFormed : ∀ r ∈ replies ++ server.said request outcome channel.openStreams,
      r.WellFormed := by
    intro r hr
    rcases List.mem_append.1 hr with hr | hr
    · exact hexchanges.wellFormed r hr
    · exact hemits.sends.wellFormed r hr
  have hshutdown : channel'.connection.shutdown = channel.connection.shutdown := by
    rw [hemits.sends.connection, ← hexchanges.shutdown]
    rfl
  have hready' := hemits.ready hready
  refine ⟨_, hconclude, ?_⟩
  cases hcloses : server.closes request outcome with
  | true =>
    rw [if_pos rfl]
    refine ⟨?_, hwellFormed, ?_, ?_⟩
    · rw [Channel.sent_close, hsent]
    · rw [Channel.shutdown_close hready'.opened, Bool.or_true]
    · intro nextId hnext
      -- A channel that is closed has no next turn, so there is nothing to say of what is left.
      obtain ⟨-, -, hopen⟩ := of_sequel_eq_next hnext
      rw [hcloses] at hopen
      cases hopen
  | false =>
    rw [if_neg (by decide)]
    refine ⟨hsent, hwellFormed, ?_, ?_⟩
    · rw [hshutdown, Bool.or_false]
    · intro nextId hnext
      rw [hcloses, if_neg (by decide)] at hconclude
      have hsequel : server.sequel request outcome = .next nextId := hnext
      rw [hsequel] at hconclude
      have hframing := (conclude_eq_next hconclude).1
      refine ⟨hready', ?_, ?_, ?_⟩
      · exact hemits.outputOnly (fun r hr htype => isOutput_of_mem_said honly hr htype) honly'
      · rw [hemits.openStreams, hexchanges.openStreams]
      · rw [hemits.sends.sameInput.delivery, hrest hframing]

end

/-- A turn comes to its account. -/
theorem turn_eq_account (server : Server) {request : Request} (hrequest : request.Receiving)
    {channel : Channel} (hreliable : channel.connection.Reliable) (honly : channel.OutputOnly)
    {records : List Record} {failure : TransportError}
    (hdelivery : channel.delivery = ⟨records, failure⟩) :
    ∃ channel', server.turn request channel =
        ((server.turnAccount request records failure channel.openStreams).after, channel') ∧
      Accords (server.turnAccount request records failure channel.openStreams) channel failure
        channel' := by
  obtain ⟨between, hruns⟩ := Request.run_eq_intake hrequest hreliable hdelivery
  have hrun := hruns.run
  have hopened := hruns.opened
  have hrest := @Request.Runs.delivery_of_ok _ _ _ _ _ hruns hdelivery
  have hreply := @Request.replyId_of_result_complete _ hrequest records failure
  rw [turn, hrun, turnAccount]
  cases hresult : (request.intake records).result failure with
  | mk result request' =>
    rw [hresult] at hopened hrest hreply
    cases result with
    | error e =>
      have hopened' : (∀ midFrame, e ≠ .closed midFrame) → between.closed = false := fun hnot =>
        hopened fun midFrame hclosed => hnot midFrame (Except.error.inj hclosed)
      obtain ⟨hleave, haccords⟩ := accords_leave hruns.exchanges hopened' channel.openStreams
      exact ⟨_, Prod.ext (congrArg Turn.last hleave) rfl, haccords⟩
    | ok outcome =>
      have hready : between.Ready := ⟨hruns.exchanges.reliable hreliable, hopened nofun⟩
      refine accords_conclude hruns.exchanges hready honly ?_ (hrest rfl)
      rintro rfl
      exact hreply rfl

/-- There is another turn only after a request that was received to its end. -/
theorem of_turnAccount_eq_next {server : Server} {request : Request} {records : List Record}
    {failure : TransportError} {streams : List (RecordType × UInt16)} {nextId : Option UInt16}
    (h : (server.turnAccount request records failure streams).after = .next nextId) :
    ∃ outcome request',
      (request.intake records).result failure = (.ok outcome, request') ∧
      server.sequel request' outcome = .next nextId ∧
      (server.turnAccount request records failure streams).closes =
        server.closes request' outcome ∧
      (server.turnAccount request records failure streams).rest =
        (request.intake records).rest := by
  unfold turnAccount at h ⊢
  cases hresult : (request.intake records).result failure with
  | mk result request' =>
    simp only [hresult] at h ⊢
    cases result with
    | error e => cases h
    | ok outcome => exact ⟨outcome, request', rfl, h, rfl, rfl⟩

/-- A turn after which there is another one has the connection open, and has taken a record. -/
theorem turnAccount_eq_next {server : Server} {previousId : Option UInt16} {records : List Record}
    {failure : TransportError} {streams : List (RecordType × UInt16)} {nextId : Option UInt16}
    (h : (server.turnAccount (server.newRequest previousId) records failure streams).after =
      .next nextId) :
    (server.turnAccount (server.newRequest previousId) records failure streams).closes = false ∧
      (server.turnAccount (server.newRequest previousId) records failure streams).rest.length <
        records.length := by
  obtain ⟨outcome, request, hresult, hsequel, hcloses, hrest⟩ := of_turnAccount_eq_next h
  obtain ⟨-, hkeeps, hopen⟩ := of_sequel_eq_next hsequel
  refine ⟨hcloses.trans hopen, ?_⟩
  rw [hrest]
  cases houtcome : ((server.newRequest previousId).intake records).outcome with
  | some _ => exact Request.length_rest_lt houtcome
  | none =>
    -- Bytes that are no record leave nothing, and end no request of which nothing has arrived.
    rw [Request.rest_of_fate_eq_none houtcome]
    cases records with
    | cons record records => exact Nat.succ_pos _
    | nil =>
      rcases Request.Intake.of_result_ok (congrArg Prod.fst hresult) with hsome | ⟨e, -, rfl⟩
      · rw [houtcome] at hsome
        cases hsome
      · have hreply := ((server.newRequest previousId).intake []).replyId_result failure
        rw [hresult] at hreply
        have hnone : request.replyId = none := hreply
        rw [keeps, hnone] at hkeeps
        cases hkeeps

/-- Where records end in bytes that are no record, there is no turn after one that met them. -/
theorem exists_outcome_of_next {server : Server} {request : Request} {records : List Record}
    {failure : TransportError} (hlost : ∀ e, failure = .protocol e → e.preservesFraming = false)
    {streams : List (RecordType × UInt16)} {nextId : Option UInt16}
    (h : (server.turnAccount request records failure streams).after = .next nextId) :
    ∃ outcome, (request.intake records).outcome = some outcome ∧
      server.sequel (request.intake records).request outcome = .next nextId := by
  obtain ⟨outcome, request', hresult, hsequel, -⟩ := of_turnAccount_eq_next h
  rcases Request.Intake.of_result_ok (congrArg Prod.fst hresult) with hsome | ⟨e, hprotocol, rfl⟩
  · rw [Request.Intake.result_of_some hsome] at hresult
    obtain ⟨-, rfl⟩ := Prod.mk.inj hresult
    exact ⟨outcome, hsome, hsequel⟩
  · obtain ⟨-, hkeeps, -⟩ := of_sequel_eq_next hsequel
    rw [keeps, AbortReason.preservesFraming, hlost e hprotocol, Bool.and_false,
      Bool.and_false] at hkeeps
    cases hkeeps

/-! ## All turns -/

/-- What becomes of a connection that delivers some records and then fails, with some streams open,
after a request of the given id. -/
def transcript (server : Server) (previousId : Option UInt16) (records : List Record)
    (failure : TransportError) (streams : List (RecordType × UInt16)) : Transcript :=
  let account := server.turnAccount (server.newRequest previousId) records failure streams
  match h : account.after with
  | .last result => ⟨result, account.sent, account.closes⟩
  | .next nextId =>
    have := (turnAccount_eq_next h).2
    let later := server.transcript nextId account.rest failure account.streams
    { later with sent := account.sent ++ later.sent }
termination_by records.length

section

variable {server : Server} {previousId : Option UInt16} {records : List Record}
  {failure : TransportError} {streams : List (RecordType × UInt16)}

/-- The transcript of a turn after which there is no other is its account. -/
theorem transcript_of_last {result : Except TransportError Unit}
    (h : (server.turnAccount (server.newRequest previousId) records failure streams).after =
      .last result) :
    server.transcript previousId records failure streams =
      ⟨result, (server.turnAccount (server.newRequest previousId) records failure streams).sent,
        (server.turnAccount (server.newRequest previousId) records failure streams).closes⟩ := by
  rw [transcript]
  split
  next h' => rw [h] at h'; cases h'; rfl
  next h' => rw [h] at h'; cases h'

/-- The transcript of a turn after which there is another one is its account, and behind it the
transcript of what is left. -/
theorem transcript_of_next {nextId : Option UInt16}
    (h : (server.turnAccount (server.newRequest previousId) records failure streams).after =
      .next nextId) :
    server.transcript previousId records failure streams =
      let account := server.turnAccount (server.newRequest previousId) records failure streams
      let later := server.transcript nextId account.rest failure account.streams
      { later with sent := account.sent ++ later.sent } := by
  rw [transcript]
  split
  next h' => rw [h] at h'; cases h'
  next h' => rw [h] at h'; cases h'; rfl

end

end Server

/-- A connection has been served as a transcript says. -/
structure Transcript.Describes (transcript : Transcript) (channel : Channel)
    (served : Except TransportError Unit × Channel) : Prop where
  result : served.1 = transcript.result
  sent : served.2.connection.sent.toList =
    channel.connection.sent.toList ++ Record.encodeAll transcript.sent
  wellFormed : ∀ r ∈ transcript.sent, r.WellFormed
  shutdown : served.2.connection.shutdown = (channel.connection.shutdown || transcript.closes)

namespace Server

/-- A request that is made for a turn has received nothing. -/
theorem receiving_newRequest (server : Server) (previousId : Option UInt16) :
    (server.newRequest previousId).Receiving := .inl (Request.fresh_new ..)

/-- A connection that takes all that is sent is served as its transcript says. -/
theorem describes_serveAfter (server : Server) (previousId : Option UInt16) {channel : Channel}
    (hreliable : channel.connection.Reliable) (honly : channel.OutputOnly) {records : List Record}
    {failure : TransportError} (hdelivery : channel.delivery = ⟨records, failure⟩) :
    (server.transcript previousId records failure channel.openStreams).Describes channel
      (server.serveAfter previousId channel) := by
  induction previousId, channel using serveAfter.induct server generalizing records with
  | case1 previousId channel result final hturn =>
    obtain ⟨_, haccount, haccords⟩ :=
      server.turn_eq_account (server.receiving_newRequest previousId) hreliable honly hdelivery
    obtain ⟨hafter, rfl⟩ := Prod.mk.inj (hturn.symm.trans haccount)
    rw [serveAfter_eq, hturn, transcript_of_last hafter.symm]
    exact ⟨rfl, haccords.sent, haccords.wellFormed, haccords.shutdown⟩
  | case2 previousId channel nextId between hturn _ ih =>
    obtain ⟨_, haccount, haccords⟩ :=
      server.turn_eq_account (server.receiving_newRequest previousId) hreliable honly hdelivery
    obtain ⟨hafter, rfl⟩ := Prod.mk.inj (hturn.symm.trans haccount)
    obtain ⟨hready, honly', hstreams, hrest⟩ := haccords.next nextId hafter.symm
    have hlater := ih hready.reliable honly' hrest
    rw [hstreams] at hlater
    rw [serveAfter_eq, hturn, transcript_of_next hafter.symm]
    refine ⟨hlater.result, ?_, ?_, ?_⟩
    · rw [hlater.sent, haccords.sent, Record.encodeAll_append, List.append_assoc]
    · intro r hr
      exact (List.mem_append.1 hr).elim (haccords.wellFormed r) (hlater.wellFormed r)
    · rw [hlater.shutdown, haccords.shutdown, (turnAccount_eq_next hafter.symm).1, Bool.or_false]

/-- A connection that takes all that is sent is served from its first request on as its transcript
says. -/
theorem describes_serve (server : Server) {channel : Channel}
    (hreliable : channel.connection.Reliable) (honly : channel.OutputOnly) :
    (server.transcript none channel.delivery.records channel.delivery.failure
      channel.openStreams).Describes channel (server.serve channel) :=
  server.describes_serveAfter none hreliable honly rfl

end Server

end FastCgi
