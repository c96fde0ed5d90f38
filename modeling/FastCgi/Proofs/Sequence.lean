import FastCgi.Proofs.Terminators
import FastCgi.Proofs.Transcript

/-!
# Requests one after another

A channel outlives a request: what is left to read, the streams that are open and the id of the
request pass from one turn to the next. None of that matters if every request takes all that was
sent for it, leaves no stream open, and the next one begins with a BEGIN record. `serve_sequence`
says so: the connection is then served as if each request had had one of its own. It is shown for
transcripts, by induction on the requests.
-/

namespace FastCgi

namespace Request

/-! ## The request before -/

/-- Of the records that concern a request the first one begins it. -/
def LedByBegin (records : List Record) : Prop :=
  ∀ record, records.find? (!·.isManagement) = some record → record.type = .beginRequest

/-- A request that comes after one of the given id. -/
def following (request : Request) (previousId : Option UInt16) : Request :=
  { request with previousId }

section

variable (request : Request) (previousId : Option UInt16) (record : Record)

/-- Giving a request up does not look at the one before it. -/
theorem abort_following :
    (request.following previousId).abort = request.abort.following previousId := by
  rw [abort_eq, abort_eq, apply_ite (following · previousId)]
  rfl

/-- The end of the parameters is taken without a look at the request before. -/
theorem endParams_following :
    (request.following previousId).endParams =
      (request.endParams.1, request.endParams.2.following previousId) := by
  simp only [endParams, following]
  cases request.decoder.finish with
  | error e => rfl
  | ok => cases request.context.advance .streamingBody <;> rfl

/-- A piece of the parameters is taken without a look at the request before. -/
theorem addParams_following (piece : Bytes) :
    (request.following previousId).addParams piece =
      ((request.addParams piece).1, (request.addParams piece).2.following previousId) := by
  simp only [addParams, following]
  by_cases hlimit : request.limits.params < request.paramsBytes + piece.length
  · simp only [if_pos hlimit]
    exact if_pos hlimit
  · simp only [if_neg hlimit]
    exact if_neg hlimit

/-- The end of the body is taken without a look at the request before. -/
theorem endBody_following :
    (request.following previousId).endBody =
      (request.endBody.1, request.endBody.2.following previousId) := by
  simp only [endBody, following]
  cases request.context.advance .complete <;> rfl

/-- A piece of the body is taken without a look at the request before. -/
theorem addBody_following (piece : Bytes) :
    (request.following previousId).addBody piece =
      ((request.addBody piece).1, (request.addBody piece).2.following previousId) := by
  simp only [addBody, following]
  by_cases hlimit : request.limits.body < request.context.stdin.size + piece.length
  · simp only [if_pos hlimit]
    exact if_pos hlimit
  · simp only [if_neg hlimit]
    exact if_neg hlimit

/-- Once a request has begun, the one before it does not matter. -/
theorem processOwn_following :
    (request.following previousId).processOwn record =
      ((request.processOwn record).1, (request.processOwn record).2.following previousId) := by
  have hstage : (request.following previousId).stage = request.stage := rfl
  unfold processOwn
  rw [hstage]
  split
  next => rfl
  next =>
    split
    · exact request.endParams_following previousId
    · exact request.addParams_following previousId record.content
  next =>
    split
    · exact request.endBody_following previousId
    · exact request.addBody_following previousId record.content
  next => rfl

/-- A record of another id is judged without a look at the request before. -/
theorem processForeign_following :
    (request.following previousId).processForeign record =
      ((request.processForeign record).1,
        (request.processForeign record).2.following previousId) := by
  unfold processForeign
  split
  · rw [Record.new_endRequest]
  · rfl

/-- A BEGIN record is taken without a look at the request before. Any other first record may be a
leftover of it. -/
theorem processFirst_following (h : record.type = .beginRequest) :
    (request.following previousId).processFirst record =
      ((request.processFirst record).1, (request.processFirst record).2.following previousId) := by
  simp only [processFirst, isTrailing, h, ne_eq, not_true_eq_false, decide_false, Bool.false_and,
    Bool.false_eq_true, if_false]
  cases BeginBody.ofBytes record.content with
  | error e => rfl
  | ok body =>
    simp only [following]
    cases request.context.start record.id body <;> rfl

/-- A request that has begun, or does so now, does not depend on the one before it. -/
theorem process_following (h : record.isManagement = false → request.stage = .awaitingBegin →
      record.type = .beginRequest) :
    (request.following previousId).process record =
      ((request.process record).1, (request.process record).2.following previousId) := by
  have hstage : (request.following previousId).stage = request.stage := rfl
  have hcontext : (request.following previousId).context = request.context := rfl
  have hinfo : (request.following previousId).info = request.info := rfl
  unfold process
  rw [hstage, hcontext, hinfo]
  split
  next => cases managementReply request.info record <;> rfl
  next hmanagement =>
    split
    next hawaiting =>
      exact request.processFirst_following previousId record
        (h (Bool.eq_false_iff.2 hmanagement) hawaiting)
    next =>
      split
      · exact request.processForeign_following previousId record
      · exact request.processOwn_following previousId record

end

/-- Of records that are led by a BEGIN record, the first one that is for a request is that. -/
theorem LedByBegin.type {record : Record} {records : List Record}
    (h : LedByBegin (record :: records)) (hrecord : record.isManagement = false) :
    record.type = .beginRequest := by
  apply h
  rw [List.find?_cons, hrecord]
  rfl

/-- A management record in front does not matter. -/
theorem LedByBegin.tail {record : Record} {records : List Record}
    (h : LedByBegin (record :: records)) (hrecord : record.isManagement = true) :
    LedByBegin records := by
  intro first hfirst
  apply h
  rw [List.find?_cons, hrecord]
  exact hfirst

/-- A request that has begun, or does so with the first record that concerns it. -/
def Led (request : Request) (records : List Record) : Prop :=
  request.Open ∨ request.Fresh ∧ LedByBegin records

section

variable {request request' : Request} {record : Record} {records : List Record}

/-- A request that is led by a BEGIN record is being received. -/
theorem Led.receiving (h : request.Led records) : request.Receiving :=
  h.elim .inr fun hfresh => .inl hfresh.1

/-- The first record that is for a request which has not begun is its BEGIN record. -/
theorem Led.type (h : request.Led (record :: records)) (hrecord : record.isManagement = false)
    (hstage : request.stage = .awaitingBegin) : record.type = .beginRequest := by
  rcases h with hopen | ⟨-, hled⟩
  · exact absurd hstage hopen.stage_ne
  · exact hled.type hrecord

/-- A request that takes a record and goes on has begun. -/
theorem Led.opened (h : request.Led (record :: records))
    (htakes : request.Takes record (.ok .more, request')) : request'.Open := by
  rcases h with hopen | ⟨hfresh, hled⟩
  · exact htakes.opened hopen
  cases htakes with
  | trailing hid _ htype => exact absurd (hled.type (by simp [Record.isManagement, hid])) htype
  | begins hid => exact open_begun _ hid _
  | foreign _ hopen | own _ hopen => exact absurd hopen hfresh.not_open

/-- An answer leaves a request as it was, so that its own records are still to come. -/
theorem Led.answered (h : request.Led (record :: records)) {reply : Record}
    (htakes : request.Takes record (.ok (.reply reply), request)) : request.Led records := by
  rcases h with hopen | ⟨hfresh, hled⟩
  · exact .inl hopen
  cases htakes with
  | answered hid => exact .inr ⟨hfresh, hled.tail (by simp [Record.isManagement, hid])⟩
  | refused _ hopen | own _ hopen => exact absurd hopen hfresh.not_open

/-- What a request takes does not depend on the one before it. -/
theorem intake_following (h : request.Led records) (previousId : Option UInt16) :
    (request.following previousId).intake records =
      { request.intake records with
        request := (request.intake records).request.following previousId } := by
  induction records generalizing request with
  | nil => rfl
  | cons record records ih =>
    have htakes := takes_process h.receiving record
    have hsame := request.process_following previousId record h.type
    cases hprocess : request.process record with
    | mk result request' =>
      rw [hprocess] at htakes hsame
      rcases result with reason | _ | reply | _
      · rw [intake_of_error _ hprocess, intake_of_error _ hsame, abort_following]
      · rw [intake_of_more _ hprocess, intake_of_more _ hsame, ih (.inl (h.opened htakes))]
        rfl
      · obtain ⟨rfl, -⟩ := htakes.answer
        rw [intake_of_reply _ hprocess, intake_of_reply _ hsame, ih (h.answered htakes)]
        rfl
      · rw [intake_of_complete _ hprocess, intake_of_complete _ hsame]

/-- What a run comes to does not depend on the request before, however it ends. -/
theorem result_following (h : request.Led records) (previousId : Option UInt16)
    (failure : TransportError) :
    ((request.following previousId).intake records).result failure =
      (((request.intake records).result failure).1,
        ((request.intake records).result failure).2.following previousId) := by
  rw [intake_following h]
  unfold Intake.result
  dsimp only
  split
  next => rfl
  next => rw [abort_following]
  next => rfl

end

/-- Records that are led by a BEGIN record may be put behind each other. -/
theorem LedByBegin.append {records later : List Record} (h : LedByBegin records)
    (hlater : LedByBegin later) : LedByBegin (records ++ later) := by
  intro first hfirst
  rw [List.find?_append] at hfirst
  cases hfind : records.find? (!·.isManagement) with
  | none =>
    rw [hfind] at hfirst
    exact hlater first hfirst
  | some record =>
    rw [hfind] at hfirst
    obtain rfl := Option.some.inj hfirst
    exact h record hfind

/-- So may several of them, by induction on their number. -/
theorem LedByBegin.flatMap {α : Type} {items : List α} {records : α → List Record}
    (h : ∀ a ∈ items, LedByBegin (records a)) {later : List Record} (hlater : LedByBegin later) :
    LedByBegin (items.flatMap records ++ later) := by
  induction items with
  | nil => exact hlater
  | cons first items ih =>
    rw [List.flatMap_cons, List.append_assoc]
    exact (h first (.head _)).append (ih fun a ha => h a (.tail _ ha))

end Request

namespace Server

/-! ## Transcripts one after another -/

section

variable (server : Server) {records : List Record} (failure : TransportError)
  (streams : List (RecordType × UInt16))

/-- What a turn comes to does not depend on the request before, if its own begins with the first
record that is for one. -/
theorem turnAccount_following (hled : Request.LedByBegin records) (previousId : Option UInt16) :
    server.turnAccount (server.newRequest previousId) records failure streams =
      server.turnAccount (server.newRequest none) records failure streams := by
  have hnew : server.newRequest previousId = (server.newRequest none).following previousId := rfl
  have hled' : (server.newRequest none).Led records := .inr ⟨Request.fresh_new .., hled⟩
  rw [hnew, turnAccount, turnAccount, Request.result_following hled',
    Request.intake_following hled']
  cases ((server.newRequest none).intake records).result failure with
  | mk result request => cases result <;> rfl

/-- What becomes of records that begin with a new request does not depend on the one before it. -/
theorem transcript_following (hled : Request.LedByBegin records) (previousId : Option UInt16) :
    server.transcript previousId records failure streams =
      server.transcript none records failure streams := by
  have hsame := server.turnAccount_following failure streams hled previousId
  cases hafter : (server.turnAccount (server.newRequest none) records failure streams).after with
  | last result =>
    rw [transcript_of_last hafter, transcript_of_last (hsame ▸ hafter), hsame]
  | next nextId =>
    rw [transcript_of_next hafter, transcript_of_next (hsame ▸ hafter), hsame]

/-- A peer that sends no record is sent none. -/
theorem sent_transcript_nil (previousId : Option UInt16) :
    (server.transcript previousId [] failure streams).sent = [] := by
  cases hafter : (server.turnAccount (server.newRequest previousId) [] failure streams).after with
  | next nextId => exact absurd (turnAccount_eq_next hafter).2 (Nat.not_lt_zero _)
  | last result =>
    rw [transcript_of_last hafter]
    cases failure <;> rfl

/-- What a turn comes to in which records end the request: the failure behind them does not
matter. -/
theorem turnAccount_of_some {request : Request} {outcome : RunOutcome}
    (h : (request.intake records).outcome = some outcome) :
    server.turnAccount request records failure streams =
      ⟨server.sequel (request.intake records).request outcome,
        (request.intake records).replies ++
          server.said (request.intake records).request outcome streams,
        server.closes (request.intake records).request outcome, (request.intake records).rest,
        Channel.openAll streams
          (server.said (request.intake records).request outcome streams)⟩ := by
  rw [turnAccount, Request.Intake.result_of_some h]

/-- A request that has ended is answered in the same way whatever comes later. -/
theorem turnAccount_append {request : Request} {outcome : RunOutcome}
    (h : (request.intake records).outcome = some outcome) (later : List Record)
    (failure' : TransportError) :
    server.turnAccount request (records ++ later) failure' streams =
      { server.turnAccount request records failure streams with
        rest := (request.intake records).rest ++ later } := by
  have happend := Request.intake_append h later
  have houtcome : (request.intake (records ++ later)).outcome = some outcome := by
    rw [happend]
    exact h
  rw [turnAccount_of_some _ _ _ h, turnAccount_of_some _ _ _ houtcome, happend]

end

/-- A request that takes all of some records and leaves the connection for another one. -/
structure Fills (server : Server) (records : List Record) : Prop where
  ends : ∃ outcome nextId, ((server.newRequest none).intake records).outcome = some outcome ∧
    server.sequel ((server.newRequest none).intake records).request outcome = .next nextId
  rest : ((server.newRequest none).intake records).rest = []

/-- What comes after such a request is sent behind what is sent for it, and is what would be sent if
the request had not been there. -/
theorem transcript_append {server : Server} (hdelegates : server.Delegates) {records : List Record}
    (hfills : server.Fills records) {later : List Record}
    (hled : Request.LedByBegin later) (failure failure' : TransportError) :
    server.transcript none (records ++ later) failure' [] =
      { server.transcript none later failure' [] with
        sent := (server.transcript none records failure []).sent ++
          (server.transcript none later failure' []).sent } := by
  -- Both transcripts begin with the same turn, which leaves nothing behind but the id.
  obtain ⟨outcome, nextId, houtcome, hsequel⟩ := hfills.ends
  have haccount := server.turnAccount_of_some failure [] houtcome
  have happend := server.turnAccount_append failure [] houtcome later failure'
  have hclosed : Channel.openAll [] (server.said ((server.newRequest none).intake records).request
      outcome []) = [] := (server.orderly_nil.conclude _ outcome).none hdelegates
  rw [hclosed, hsequel, hfills.rest] at haccount
  rw [haccount, hfills.rest, List.nil_append] at happend
  have hfirst := transcript_of_next (congrArg TurnAccount.after haccount)
  have hboth := transcript_of_next (congrArg TurnAccount.after happend)
  rw [haccount] at hfirst
  rw [happend] at hboth
  rw [hfirst, hboth]
  simp only [sent_transcript_nil, List.append_nil, transcript_following _ _ _ hled]

end Server

/-! ## Connections -/

/-- A channel on a connection that takes all that is sent, to which nothing has been sent. -/
structure Channel.Pristine (channel : Channel) : Prop where
  ready : channel.Ready
  openStreams : channel.openStreams = []
  sent : channel.connection.sent = #[]
  shutdown : channel.connection.shutdown = false

/-- On a pristine channel no stream is open, so none but those of output. -/
theorem Channel.Pristine.outputOnly {channel : Channel} (h : channel.Pristine) :
    channel.OutputOnly := by
  intro s hs
  rw [h.openStreams] at hs
  cases hs

namespace Server

section

variable {server : Server} {channel : Channel} (hchannel : channel.Pristine)

include hchannel

/-- Serving a pristine channel comes to the transcript of what it delivers. -/
theorem describes_pristine :
    (server.transcript none channel.delivery.records channel.delivery.failure []).Describes channel
      (server.serve channel) := by
  have hdescribes := server.describes_serve hchannel.ready.reliable hchannel.outputOnly
  rwa [hchannel.openStreams] at hdescribes

/-- All that is on the wire of a pristine channel after serving is what its transcript sends. -/
theorem sent_serve :
    (server.serve channel).2.connection.sent.toList = Record.encodeAll
      (server.transcript none channel.delivery.records channel.delivery.failure []).sent := by
  rw [(describes_pristine hchannel).sent, hchannel.sent]
  rfl

/-- The stream of a pristine channel is shut down if its transcript says so. -/
theorem shutdown_serve :
    (server.serve channel).2.connection.shutdown =
      (server.transcript none channel.delivery.records channel.delivery.failure []).closes := by
  rw [(describes_pristine hchannel).shutdown, hchannel.shutdown]
  rfl

end

/-- To serve the channel takes one turn that is followed by another, and in which all records are
received. -/
def ServesOne (server : Server) (channel : Channel) : Prop :=
  ∃ nextId between, server.turn (server.newRequest none) channel = (.next nextId, between) ∧
    between.delivery.records = []

/-- To be served in one turn is to be filled by one request. -/
theorem fills_of_servesOne {server : Server} {channel : Channel} (hchannel : channel.Pristine)
    (h : server.ServesOne channel) : server.Fills channel.delivery.records := by
  obtain ⟨nextId, between, hturn, hrecords⟩ := h
  obtain ⟨_, haccount, haccords⟩ := server.turn_eq_account (server.receiving_newRequest none)
    hchannel.ready.reliable hchannel.outputOnly rfl
  obtain ⟨hafter, rfl⟩ := Prod.mk.inj (hturn.symm.trans haccount)
  obtain ⟨outcome, houtcome, hsequel⟩ := exists_outcome_of_next
    (fun e hprotocol => Channel.preservesFraming_of_delivery hprotocol) hafter.symm
  obtain ⟨_, _, -, -, -, hrest⟩ := of_turnAccount_eq_next hafter.symm
  obtain ⟨-, -, -, hdelivery⟩ := haccords.next nextId hafter.symm
  refine ⟨⟨outcome, nextId, houtcome, hsequel⟩, ?_⟩
  rw [hdelivery, hrest] at hrecords
  exact hrecords

/-- The transcript of requests that come one after another is made up of those that each of them has
by itself. -/
theorem transcript_sequence {server : Server} (hdelegates : server.Delegates)
    {channels : List Channel} (hpristine : ∀ c ∈ channels, c.Pristine)
    (hone : ∀ c ∈ channels, server.ServesOne c)
    (hled : ∀ c ∈ channels, Request.LedByBegin c.delivery.records) {channel : Channel}
    (hlast : Request.LedByBegin channel.delivery.records) :
    server.transcript none (channels.flatMap (·.delivery.records) ++ channel.delivery.records)
        channel.delivery.failure [] =
      { server.transcript none channel.delivery.records channel.delivery.failure [] with
        sent := channels.flatMap (fun c =>
            (server.transcript none c.delivery.records c.delivery.failure []).sent) ++
          (server.transcript none channel.delivery.records channel.delivery.failure []).sent } := by
  induction channels with
  | nil => rfl
  | cons first channels ih =>
    have hrest := ih (fun c hc => hpristine c (.tail _ hc)) (fun c hc => hone c (.tail _ hc))
      fun c hc => hled c (.tail _ hc)
    have hled' : Request.LedByBegin (channels.flatMap (·.delivery.records) ++
        channel.delivery.records) := .flatMap (fun c hc => hled c (.tail _ hc)) hlast
    have hfills := fills_of_servesOne (hpristine first (.head _)) (hone first (.head _))
    simp only [List.flatMap_cons, List.append_assoc]
    rw [transcript_append hdelegates hfills hled' first.delivery.failure, hrest]

/-- **Each request as on a connection of its own.** If requests come one after another on one
connection, each with all its records before the next one begins, then what is sent is what would be
sent if each had a connection of its own, and serving ends as it does for the last of them. All
applications have to leave flushing to their output, as those at hand do
(`RoleTable.delegates_standard`). -/
theorem serve_sequence (server : Server) (hdelegates : server.Delegates) (channels : List Channel)
    (channel joint : Channel) (hpristine : ∀ c ∈ joint :: channel :: channels, c.Pristine)
    (hled : ∀ c ∈ channel :: channels, Request.LedByBegin c.delivery.records)
    (hone : ∀ c ∈ channels, server.ServesOne c)
    (hrecords : joint.delivery.records =
      channels.flatMap (·.delivery.records) ++ channel.delivery.records)
    (hfailure : joint.delivery.failure = channel.delivery.failure) :
    (server.serve joint).2.connection.sent.toList =
        channels.flatMap (fun c => (server.serve c).2.connection.sent.toList) ++
          (server.serve channel).2.connection.sent.toList ∧
      (server.serve joint).1 = (server.serve channel).1 ∧
      (server.serve joint).2.connection.shutdown =
        (server.serve channel).2.connection.shutdown := by
  have hjoint := hpristine joint (.head _)
  have hchannel := hpristine channel (.tail _ (.head _))
  have hchannels : ∀ c ∈ channels, c.Pristine := fun c hc => hpristine c (.tail _ (.tail _ hc))
  have hsequence := transcript_sequence hdelegates hchannels hone (fun c hc => hled c (.tail _ hc))
    (hled channel (.head _))
  rw [← hrecords] at hsequence
  have htranscript :=
    (congrArg (server.transcript none joint.delivery.records · []) hfailure).trans hsequence
  have heach : Record.encodeAll (channels.flatMap fun c =>
        (server.transcript none c.delivery.records c.delivery.failure []).sent) =
      channels.flatMap fun c => (server.serve c).2.connection.sent.toList := by
    rw [Record.encodeAll, List.flatMap_assoc]
    refine List.flatMap_congr fun c hc => ?_
    exact (sent_serve (hchannels c hc)).symm
  refine ⟨?_, ?_, ?_⟩
  · rw [sent_serve hjoint, sent_serve hchannel, htranscript, Record.encodeAll_append, heach]
  · rw [(describes_pristine hjoint).result, (describes_pristine hchannel).result, htranscript]
  · rw [shutdown_serve hjoint, shutdown_serve hchannel, htranscript]

/-- A server with the applications at hand. -/
def standardServer : Server := ⟨.ofChanges RoleTable.standard, .empty, .default, ⟨1, 1⟩⟩

/-- A request for the echo responder, with a body. -/
def echo (keep : UInt8) (body : Bytes) : List Record :=
  [⟨version1, .beginRequest, 7, [0, 1, keep, 0, 0, 0, 0, 0], 0⟩, ⟨version1, .params, 7, [], 0⟩,
    ⟨version1, .stdin, 7, body, 0⟩, ⟨version1, .stdin, 7, [], 0⟩]

deriving instance DecidableEq for Turn

/-- Two requests for the responder on one connection are answered as each is on its own. -/
theorem serve_sequence_echo :
    let channel (records : List Record) : Channel :=
      .new (.new [.data (Record.encodeAll records)]) ⟨1⟩
    let served (records : List Record) := standardServer.serve (channel records)
    standardServer.ServesOne (channel (echo 1 [104])) ∧
      (served (echo 1 [104] ++ echo 0 [105])).2.connection.sent.toList =
        (served (echo 1 [104])).2.connection.sent.toList ++
          (served (echo 0 [105])).2.connection.sent.toList ∧
      (served (echo 1 [104] ++ echo 0 [105])).1 = .ok () ∧
      (served (echo 1 [104] ++ echo 0 [105])).2.connection.shutdown = true := by
  intro channel served
  have hformed : ∀ r ∈ echo 1 [104] ++ echo 0 [105], r.WellFormed := by decide +kernel
  have hone : standardServer.ServesOne (channel (echo 1 [104])) :=
    ⟨some 7, _, Prod.ext (by decide +kernel) rfl, by decide +kernel⟩
  have hfirst : (channel (echo 1 [104])).delivery = ⟨echo 1 [104], .closed false⟩ :=
    Channel.delivery_new (fun r hr => hformed r (List.mem_append_left _ hr)) ⟨1⟩
  have hlast : (channel (echo 0 [105])).delivery = ⟨echo 0 [105], .closed false⟩ :=
    Channel.delivery_new (fun r hr => hformed r (List.mem_append_right _ hr)) ⟨1⟩
  have hjoint : (channel (echo 1 [104] ++ echo 0 [105])).delivery =
      ⟨echo 1 [104] ++ echo 0 [105], .closed false⟩ := Channel.delivery_new hformed ⟨1⟩
  have hpristine : ∀ records, (channel records).Pristine :=
    fun records => ⟨⟨Connection.reliable_new _, rfl⟩, rfl, rfl, rfl⟩
  have hled : ∀ keep body, Request.LedByBegin (echo keep body) := by
    intro keep body record hrecord
    cases hrecord
    rfl
  obtain ⟨hsent, hresult, hshutdown⟩ := serve_sequence standardServer RoleTable.delegates_standard
    [channel (echo 1 [104])] (channel (echo 0 [105])) (channel (echo 1 [104] ++ echo 0 [105]))
    (by simp [hpristine]) (by simp [hfirst, hlast, hled]) (by simp [hone])
    (by simp [hfirst, hlast, hjoint]) (by rw [hjoint, hlast])
  refine ⟨hone, ?_, ?_, ?_⟩
  · rwa [List.flatMap_singleton] at hsent
  · rw [hresult]
    decide +kernel
  · rw [hshutdown]
    decide +kernel

end Server

end FastCgi
