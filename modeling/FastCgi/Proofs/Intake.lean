import FastCgi.Proofs.Delivery
import FastCgi.Proofs.Process

/-!
# What receiving comes to

`Request.intake` is what becomes of a request that takes some records one after another, with no
channel in sight: how it ends, the records it took, the answers to them, and the records that are
left. On a channel that takes all that is sent, `Request.run` comes to the intake of the records
that the channel delivers (`run_eq_intake`), so that what a run does can be shown by induction on a
list of records.
-/

namespace FastCgi.Request

/-! ## Intake -/

/-- What becomes of a request that takes records one after another. -/
structure Intake where
  /-- How it ends, unless it needs more records. -/
  outcome : Option RunOutcome
  request : Request
  /-- The records it took. -/
  taken : List Record
  /-- What they were answered. -/
  replies : List Record
  /-- The records after its end. -/
  rest : List Record

/-- The intake that begins with one more record. -/
def Intake.after (intake : Intake) (record : Record) (replies : List Record) : Intake :=
  { intake with taken := record :: intake.taken, replies := replies ++ intake.replies }

/-- What becomes of a request that takes the records of a list until it ends. -/
def intake (request : Request) : List Record → Intake
  | [] => ⟨none, request, [], [], []⟩
  | record :: records =>
    match request.process record with
    | (.error reason, request) => ⟨some (.aborted reason), request.abort, [record], [], records⟩
    | (.ok .complete, request) => ⟨some .complete, request, [record], [], records⟩
    | (.ok .more, request) => (request.intake records).after record []
    | (.ok (.reply reply), request) => (request.intake records).after record [reply]

/-- What a run comes to that takes some records and then meets a failure. A failure to read a record
is one of the request, any other one is passed on. -/
def Intake.result (intake : Intake) (failure : TransportError) :
    Except TransportError RunOutcome × Request :=
  match intake.outcome, failure with
  | some outcome, _ => (.ok outcome, intake.request)
  | none, .protocol e => (.ok (.aborted (.protocol e)), intake.request.abort)
  | none, failure => (.error failure, intake.request)

@[simp]
theorem result_after (intake : Intake) (record : Record) (replies : List Record)
    (failure : TransportError) :
    (intake.after record replies).result failure = intake.result failure := rfl

/-- A run is complete exactly if a record completes the request: no failure does. -/
theorem Intake.result_eq_complete_iff {intake : Intake} {failure : TransportError} :
    (intake.result failure).1 = .ok .complete ↔ intake.outcome = some .complete := by
  unfold result
  cases intake.outcome with
  | none => cases failure <;> simp
  | some outcome => simp

/-- Once a record has ended the request, no failure makes a difference. -/
theorem Intake.result_of_some {intake : Intake} {outcome : RunOutcome}
    (h : intake.outcome = some outcome) (failure : TransportError) :
    intake.result failure = (.ok outcome, intake.request) := by
  simp only [result, h]

/-- What a request answers to does not depend on the failure that a run meets. -/
theorem Intake.replyId_result (intake : Intake) (failure : TransportError) :
    (intake.result failure).2.replyId = intake.request.replyId := by
  unfold result
  split
  · rfl
  · exact (continues_abort _).replyId
  · rfl

/-- A run ends with an outcome because of a record, or because of bytes that are no record. -/
theorem Intake.of_result_ok {intake : Intake} {failure : TransportError} {outcome : RunOutcome}
    (h : (intake.result failure).1 = .ok outcome) :
    intake.outcome = some outcome ∨
      ∃ e, failure = .protocol e ∧ outcome = .aborted (.protocol e) := by
  unfold result at h
  split at h
  next houtcome =>
    obtain rfl := Except.ok.inj h
    exact .inl houtcome
  next e _ => exact .inr ⟨e, rfl, (Except.ok.inj h).symm⟩
  next => cases h

section

variable {request request' : Request} {record : Record} (records : List Record)

/-- A record that has the request given up is the last that is taken. -/
theorem intake_of_error {reason : AbortReason}
    (h : request.process record = (.error reason, request')) :
    request.intake (record :: records) =
      ⟨some (.aborted reason), request'.abort, [record], [], records⟩ := by
  rw [intake, h]

/-- A record that completes the request is the last that is taken. -/
theorem intake_of_complete (h : request.process record = (.ok .complete, request')) :
    request.intake (record :: records) = ⟨some .complete, request', [record], [], records⟩ := by
  rw [intake, h]

/-- A record that is taken in is followed by what the request takes then. -/
theorem intake_of_more (h : request.process record = (.ok .more, request')) :
    request.intake (record :: records) = (request'.intake records).after record [] := by
  rw [intake, h]

/-- A record that is answered is followed by what the request takes then, behind the answer. -/
theorem intake_of_reply {reply : Record}
    (h : request.process record = (.ok (.reply reply), request')) :
    request.intake (record :: records) = (request'.intake records).after record [reply] := by
  rw [intake, h]

end

/-- Every record is either taken or left. -/
theorem taken_append_rest (request : Request) (records : List Record) :
    (request.intake records).taken ++ (request.intake records).rest = records := by
  induction records generalizing request with
  | nil => rfl
  | cons record records ih =>
    rw [intake]
    split
    · rfl
    · rfl
    · exact congrArg (record :: ·) (ih _)
    · exact congrArg (record :: ·) (ih _)

/-- A request that has ended has taken a record. -/
theorem length_rest_lt {request : Request} {records : List Record} {outcome : RunOutcome}
    (h : (request.intake records).outcome = some outcome) :
    (request.intake records).rest.length < records.length := by
  induction records generalizing request with
  | nil => cases h
  | cons record records ih =>
    cases hprocess : request.process record with
    | mk result request' =>
      rcases result with reason | _ | reply | _
      · rw [intake_of_error _ hprocess]
        exact Nat.lt_succ_self _
      · rw [intake_of_more _ hprocess] at h ⊢
        exact Nat.lt_succ_of_lt (ih h)
      · rw [intake_of_reply _ hprocess] at h ⊢
        exact Nat.lt_succ_of_lt (ih h)
      · rw [intake_of_complete _ hprocess]
        exact Nat.lt_succ_self _

/-- A request that has ended leaves the records that come later. -/
theorem intake_append {request : Request} {records : List Record} {outcome : RunOutcome}
    (h : (request.intake records).outcome = some outcome) (later : List Record) :
    request.intake (records ++ later) =
      { request.intake records with rest := (request.intake records).rest ++ later } := by
  induction records generalizing request with
  | nil => cases h
  | cons record records ih =>
    rw [List.cons_append]
    cases hprocess : request.process record with
    | mk result request' =>
      rcases result with reason | _ | reply | _
      · rw [intake_of_error _ hprocess, intake_of_error _ hprocess]
      · rw [intake_of_more _ hprocess] at h ⊢
        rw [intake_of_more _ hprocess, ih h]
        rfl
      · rw [intake_of_reply _ hprocess] at h ⊢
        rw [intake_of_reply _ hprocess, ih h]
        rfl
      · rw [intake_of_complete _ hprocess, intake_of_complete _ hprocess]

/-- A request that has begun keeps its id, its role and all that it answers with until it ends. -/
theorem continues_intake {request : Request} (h : request.Open) (records : List Record) :
    request.Continues (request.intake records).request := by
  induction records generalizing request with
  | nil => exact .refl _
  | cons record records ih =>
    have htakes := takes_process (.inr h) record
    cases hprocess : request.process record with
    | mk result request' =>
      rw [hprocess] at htakes
      have hcontinues := htakes.continues h
      rcases result with reason | _ | reply | _
      · rw [intake_of_error records hprocess]
        exact hcontinues.trans (continues_abort _)
      · rw [intake_of_more records hprocess]
        exact hcontinues.trans (ih (htakes.opened h))
      · obtain ⟨rfl, -⟩ := htakes.answer
        rw [intake_of_reply records hprocess]
        exact ih h
      · rw [intake_of_complete records hprocess]
        exact hcontinues

/-- The id that answers go to stays the same once there is one. -/
theorem replyId_intake {request : Request} (h : request.Receiving) (records : List Record)
    (id : UInt16) (hid : request.replyId = some id) :
    (request.intake records).request.replyId = some id := by
  rcases h with hfresh | hopen
  · rw [hfresh.replyId] at hid
    cases hid
  · rw [(continues_intake hopen records).replyId, hid]

/-- One answer is sent for each record that calls for one, in the order of the records. -/
theorem replies_intake {request : Request} (h : request.Receiving) (records : List Record) :
    (request.intake records).replies =
      (request.intake records).taken.filterMap
        (reply? request.info (request.intake records).request.replyId) := by
  induction records generalizing request with
  | nil => rfl
  | cons record records ih =>
    have htakes := takes_process h record
    cases hprocess : request.process record with
    | mk result request' =>
      rw [hprocess] at htakes
      have hreply := htakes.reply?_eq
      have hinfo := htakes.info
      rcases result with reason | _ | reply | _
      · rw [intake_of_error records hprocess]
        have hnone := hreply request'.abort.replyId fun id hid => by
          rw [(continues_abort request').replyId, hid]
        simp [hnone]
      · rw [intake_of_more records hprocess]
        have hnone := hreply _ (replyId_intake htakes.receiving records)
        simp only [Intake.after, List.nil_append, List.filterMap_cons, hnone]
        rw [ih htakes.receiving, hinfo]
      · obtain ⟨rfl, -⟩ := htakes.answer
        rw [intake_of_reply records hprocess]
        have hsome := hreply _ (replyId_intake h records)
        simp only [Intake.after, List.singleton_append, List.filterMap_cons, hsome]
        rw [ih h]
      · rw [intake_of_complete records hprocess]
        have hnone := hreply request'.replyId fun _ hid => hid
        simp [hnone]

/-- The records of a request that has begun are not answered. -/
theorem replies_of_own {request : Request} (h : request.Open) {records : List Record}
    (hids : ∀ r ∈ records, r.id = request.context.id) :
    (request.intake records).replies = [] := by
  have hreplyId := (continues_intake h records).replyId.trans h.replyId
  rw [replies_intake (.inr h)]
  refine List.filterMap_eq_nil_iff.2 fun r hr => ?_
  have hid : r.id = request.context.id := by
    refine hids r ?_
    rw [← taken_append_rest request records]
    exact List.mem_append_left _ hr
  simp [reply?, Record.isManagement, hreplyId, hid, h.id]

/-- A request that is complete has begun: it has an id of its own, to which answers go. -/
theorem replyId_of_complete {request : Request} (h : request.Receiving) {records : List Record}
    (hcomplete : (request.intake records).outcome = some .complete) :
    (request.intake records).request.replyId =
      some (request.intake records).request.context.id := by
  induction records generalizing request with
  | nil => cases hcomplete
  | cons record records ih =>
    have htakes := takes_process h record
    cases hprocess : request.process record with
    | mk result request' =>
      rw [hprocess] at htakes
      rcases result with reason | _ | reply | _
      · rw [intake_of_error records hprocess] at hcomplete
        cases hcomplete
      · rw [intake_of_more records hprocess] at hcomplete ⊢
        exact ih htakes.receiving hcomplete
      · obtain ⟨rfl, -⟩ := htakes.answer
        rw [intake_of_reply records hprocess] at hcomplete ⊢
        exact ih h hcomplete
      · obtain ⟨hopen, -, hcontinues, -⟩ := htakes.complete
        rw [intake_of_complete records hprocess]
        exact hcontinues.replyId.trans (hopen.replyId.trans (congrArg some hcontinues.id.symm))

/-- What is complete at the end of a run has an id of its own, to which answers go. -/
theorem replyId_of_result_complete {request : Request} (h : request.Receiving)
    {records : List Record} {failure : TransportError}
    (hcomplete : ((request.intake records).result failure).1 = .ok .complete) :
    ((request.intake records).result failure).2.replyId =
      some ((request.intake records).result failure).2.context.id := by
  have houtcome := Intake.result_eq_complete_iff.1 hcomplete
  rw [Intake.result_of_some houtcome]
  exact replyId_of_complete h houtcome

/-! ## Running is taking what is delivered -/

/-- Remarks about a record send nothing, and begin or end no stream. -/
theorem sends_tellRemark (request : Request) (record : Record) (channel : Channel) :
    channel.Sends [] (request.tellRemark record channel) ∧
      (request.tellRemark record channel).openStreams = channel.openStreams := by
  unfold tellRemark
  split
  · exact ⟨Channel.sends_tell .., rfl⟩
  · exact ⟨.refl _, rfl⟩

/-- A run on a channel that takes all that is sent, and delivers some records before it fails. -/
structure Runs (request : Request) (channel : Channel) (records : List Record)
    (failure : TransportError) (channel' : Channel) : Prop where
  run : request.run channel =
    (((request.intake records).result failure).1, ((request.intake records).result failure).2,
      channel')
  /-- The channel has sent the answers and nothing else. -/
  exchanges : channel.Exchanges (request.intake records).replies channel'
  /-- The channel is still open unless its end was met. -/
  opened : (∀ midFrame, ((request.intake records).result failure).1 ≠ .error (.closed midFrame)) →
    channel'.closed = false
  /-- The records after the end of the request have not been touched. -/
  delivery : (request.intake records).outcome.isSome = true →
    channel'.delivery = ⟨(request.intake records).rest, failure⟩

/-- What is done between receiving a record and receiving the next one does not change what is
delivered. -/
theorem Runs.of_sends {request request' : Request} {channel received between channel' : Channel}
    {record : Record} {records replies : List Record} {failure : TransportError}
    (hreceived : channel.Exchanges [] received) (hsends : received.Sends replies between)
    (hstreams : between.openStreams = received.openStreams)
    (hrun : request.run channel = request'.run between)
    (hintake : request.intake (record :: records) = (request'.intake records).after record replies)
    (h : request'.Runs between records failure channel') :
    request.Runs channel (record :: records) failure channel' where
  run := by rw [hintake, hrun]; exact h.run
  exchanges := by
    rw [hintake]
    exact hreceived.trans ((hsends.exchanges hstreams).trans h.exchanges)
  opened := by rw [hintake]; exact h.opened
  delivery := by rw [hintake]; exact h.delivery

/-- A run ends with the record that ends the request. -/
theorem Runs.of_end {request request' : Request} {channel received between : Channel}
    {record : Record} {records : List Record} {failure : TransportError} {outcome : RunOutcome}
    (hreceived : channel.Exchanges [] received) (hsends : received.Sends [] between)
    (hstreams : between.openStreams = received.openStreams) (hopened : between.closed = false)
    (hrest : between.delivery = ⟨records, failure⟩)
    (hrun : request.run channel = (.ok outcome, request', between))
    (hintake : request.intake (record :: records) =
      ⟨some outcome, request', [record], [], records⟩) :
    request.Runs channel (record :: records) failure between where
  run := by rw [hintake]; exact hrun
  exchanges := by
    rw [hintake]
    exact hreceived.trans (hsends.exchanges hstreams)
  opened _ := hopened
  delivery _ := by rw [hintake]; exact hrest

/-- Running a request comes to the intake of the records that are delivered. The channel has to take
what is sent, if anything is. -/
theorem exists_runs {request : Request} {channel : Channel} {records : List Record}
    {failure : TransportError} (hrequest : request.Receiving)
    (hreliable : (request.intake records).replies ≠ [] → channel.connection.Reliable)
    (hdelivery : channel.delivery = ⟨records, failure⟩) :
    ∃ channel', request.Runs channel records failure channel' := by
  -- By induction on the records that are still to be received. Only a reply needs a channel that
  -- takes it, so what is known of the channel is asked for where one is due.
  induction records generalizing request channel with
  | nil =>
    obtain ⟨channel', hreceive⟩ := Channel.receive_of_delivery_nil hdelivery
    have hexchanges := channel.exchanges_receive
    rw [hreceive] at hexchanges
    have hrun := request.run_eq channel
    rw [hreceive] at hrun
    refine ⟨channel', ?_, hexchanges, fun hnot => ?_, nofun⟩
    · cases failure <;> exact hrun
    · have hopened := @Channel.closed_receive channel
      rw [hreceive] at hopened
      refine (hopened fun midFrame hclosed => ?_).2
      obtain rfl := Except.error.inj hclosed
      exact hnot midFrame rfl
  | cons record records ih =>
    obtain ⟨received, hreceive, hrest⟩ := Channel.receive_of_delivery_cons hdelivery
    have hreceived := channel.exchanges_receive
    rw [hreceive] at hreceived
    obtain ⟨htell, hstreams⟩ := request.sends_tellRemark record received
    have hopened : received.closed = false := (Channel.closed_of_receive_ok hreceive).2
    have hready : (request.intake (record :: records)).replies ≠ [] →
        (request.tellRemark record received).Ready :=
      fun hreplies => htell.ready ⟨hreceived.reliable (hreliable hreplies), hopened⟩
    have hrest' := htell.sameInput.delivery.trans hrest
    have htakes := takes_process hrequest record
    have hrun := request.run_eq channel
    cases hprocess : request.process record with
    | mk result request' =>
      rw [hprocess] at htakes
      simp only [hreceive, hprocess] at hrun
      rcases result with reason | _ | reply | _
      · exact ⟨_, .of_end hreceived htell hstreams (htell.closed.trans hopened) hrest' hrun
          (intake_of_error records hprocess)⟩
      · have hintake := intake_of_more records hprocess
        rw [hintake] at hready
        obtain ⟨channel', hruns⟩ :=
          ih htakes.receiving (fun hreplies => (hready hreplies).reliable) hrest'
        exact ⟨channel', .of_sends hreceived htell hstreams hrun hintake hruns⟩
      · obtain ⟨rfl, hreply⟩ := htakes.answer
        have hintake := intake_of_reply records hprocess
        have hready := hready (by rw [hintake]; exact List.cons_ne_nil _ _)
        obtain ⟨sent, hsend, hsends, hstreams'⟩ := Channel.sendRecord_of_ready hready hreply
        simp only [hsend] at hrun
        obtain ⟨channel', hruns⟩ := ih hrequest (fun _ => (hsends.ready hready).reliable)
          (hsends.sameInput.delivery.trans hrest')
        exact ⟨channel', .of_sends hreceived (htell.trans hsends) (hstreams'.trans hstreams) hrun
          hintake hruns⟩
      · exact ⟨_, .of_end hreceived htell hstreams (htell.closed.trans hopened) hrest' hrun
          (intake_of_complete records hprocess)⟩

/-- Where records can still be read after a run, those after the end of the request are. -/
theorem Runs.delivery_of_ok {request : Request} {channel channel' : Channel} {records : List Record}
    {failure : TransportError} (h : request.Runs channel records failure channel')
    (hdelivery : channel.delivery = ⟨records, failure⟩) {outcome : RunOutcome}
    (hok : ((request.intake records).result failure).1 = .ok outcome)
    (hframing : outcome.preservesFraming = true) :
    channel'.delivery = ⟨(request.intake records).rest, failure⟩ := by
  rcases Intake.of_result_ok hok with hsome | ⟨e, rfl, rfl⟩
  · exact h.delivery (by rw [hsome]; rfl)
  · have hlost : e.preservesFraming = false :=
      Channel.preservesFraming_of_delivery (congrArg Channel.Delivery.failure hdelivery)
    rw [RunOutcome.preservesFraming, AbortReason.preservesFraming, hlost] at hframing
    cases hframing

/-- On a channel that takes all that is sent, running a request comes to the intake of the records
that are delivered. -/
theorem run_eq_intake {request : Request} {channel : Channel} {records : List Record}
    {failure : TransportError} (hrequest : request.Receiving)
    (hreliable : channel.connection.Reliable) (hdelivery : channel.delivery = ⟨records, failure⟩) :
    ∃ channel', request.Runs channel records failure channel' :=
  exists_runs hrequest (fun _ => hreliable) hdelivery

/-- What a run comes to on a channel that takes all that is sent, in terms of the records that it
received. -/
structure RunsTo (start : Request) (channel : Channel) (received : List Record)
    (outcome : Except TransportError RunOutcome) (request : Request) (channel' : Channel) :
    Prop where
  taken : received = (start.intake channel.delivery.records).taken
  run : start.run channel = (outcome, request, channel')
  /-- One answer has been sent for each record that calls for one. -/
  exchanges : channel.Exchanges (received.filterMap (reply? start.info request.replyId)) channel'
  opened : outcome.isOk = true → channel'.closed = false
  complete : outcome = .ok .complete → request.replyId = some request.context.id
  /-- Where records can still be read, the records after the end of the request are. -/
  rest : ∀ o, outcome = .ok o → o.preservesFraming = true →
    channel.delivery.records = received ++ channel'.delivery.records

/-- Every run on a channel that takes all that is sent can be told by the records that it
received. -/
theorem exists_runsTo {start : Request} (hstart : start.Receiving) {channel : Channel}
    (hreliable : channel.connection.Reliable) :
    ∃ received outcome request channel',
      start.RunsTo channel received outcome request channel' := by
  obtain ⟨channel', hruns⟩ := run_eq_intake hstart hreliable rfl
  have hreply := (start.intake channel.delivery.records).replyId_result channel.delivery.failure
  refine ⟨_, _, _, channel', rfl, hruns.run, ?_, fun hok => ?_, fun hcomplete => ?_,
    fun o ho hframing => ?_⟩
  · rw [hreply, ← replies_intake hstart]
    exact hruns.exchanges
  · refine hruns.opened fun midFrame hclosed => ?_
    rw [hclosed] at hok
    cases hok
  · exact replyId_of_result_complete hstart hcomplete
  · rw [hruns.delivery_of_ok rfl ho hframing, taken_append_rest]

end FastCgi.Request
