import FastCgi.Proofs.Actions
import FastCgi.Proofs.Sequence

/-!
# What is left of an aborted request

A peer that has a request aborted may have sent more of it already. Those records arrive while the
next request is awaited, and must neither be answered nor taken for the beginning of that request.
`intake_append_of_skips` says so of one request, by induction on the records that are passed over,
and `transcript_leftovers` of all that is served from there on. `serve_after_abort` puts this
together with the end of the aborted request: behind it, apart from the answers to management
records, the connection is served as a fresh one.
-/

namespace FastCgi

namespace Request

/-! ## Requests that ask to keep the connection -/

/-- If a request asks to keep the connection, then it has an id of its own, to which answers go. -/
def KeepsOwn (request : Request) : Prop :=
  request.context.keep = true →
    request.replyId = some request.context.id ∧ request.context.id ≠ managementId

/-- A request that has not begun asks for nothing. -/
theorem Fresh.keep {request : Request} (h : request.Fresh) : request.context.keep = false := by
  rw [h.context]
  rfl

/-- A request that is being received and asks to keep the connection has begun, so that it has an
id. -/
theorem keepsOwn_of_receiving {request : Request} (h : request.Receiving) : request.KeepsOwn := by
  intro hkeep
  rcases h with hfresh | hopen
  · rw [hfresh.keep] at hkeep
    cases hkeep
  · exact ⟨hopen.replyId, hopen.id⟩

/-- Going on with a request changes neither what it asks for nor its id. -/
theorem Continues.keepsOwn {request request' : Request} (h : request.Continues request')
    (hkeeps : request.KeepsOwn) : request'.KeepsOwn := by
  intro hkeep
  rw [h.keep] at hkeep
  rw [h.replyId, h.id]
  exact hkeeps hkeep

/-- Nothing but its own BEGIN record makes a request ask to keep the connection. -/
theorem Takes.keepsOwn {request : Request} {record : Record} {outcome : Outcome}
    (h : request.Takes record outcome) (hrequest : request.Receiving) : outcome.2.KeepsOwn := by
  cases h with
  | answered | unanswered | trailing | refused | foreign => exact keepsOwn_of_receiving hrequest
  | stray _ hfresh | malformed _ hfresh =>
    intro hkeep
    cases hfresh.keep.symm.trans hkeep
  | begins hid => exact keepsOwn_of_receiving (.inr (open_begun _ hid _))
  | own hid hopen hown htakes =>
    have hcontinues := Takes.continues (.own hid hopen hown htakes) hopen
    exact hcontinues.keepsOwn (keepsOwn_of_receiving hrequest)

/-- However many records a request takes, one that asks to keep the connection has an id of its
own. -/
theorem keepsOwn_intake {request : Request} (h : request.Receiving) (records : List Record) :
    (request.intake records).request.KeepsOwn := by
  induction records generalizing request with
  | nil => exact keepsOwn_of_receiving h
  | cons record records ih =>
    have htakes := takes_process h record
    cases hprocess : request.process record with
    | mk result request' =>
      rw [hprocess] at htakes
      have hkeeps := htakes.keepsOwn h
      rcases result with reason | _ | reply | _
      · rw [intake_of_error records hprocess]
        exact (continues_abort request').keepsOwn hkeeps
      · rw [intake_of_more records hprocess]
        exact ih htakes.receiving
      · obtain ⟨rfl, -⟩ := htakes.answer
        rw [intake_of_reply records hprocess]
        exact ih h
      · rw [intake_of_complete records hprocess]
        exact hkeeps

/-- However a run ends, a request that asks to keep the connection then has an id of its own. -/
theorem keepsOwn_result {request : Request} (h : request.Receiving) (records : List Record)
    (failure : TransportError) :
    ((request.intake records).result failure).2.KeepsOwn := by
  have hkeeps := keepsOwn_intake h records
  unfold Intake.result
  split
  · exact hkeeps
  · exact (continues_abort _).keepsOwn hkeeps
  · exact hkeeps

/-! ## Records that are passed over -/

/-- A record that may arrive after the end of a request without beginning another one: one more
record of that request, or a management record that can be answered. -/
def Leftover (info : ServerInfo) (id : UInt16) (record : Record) : Prop :=
  (record.id = id ∧ record.type ≠ .beginRequest) ∨
    (record.id = managementId ∧ Answerable info record)

instance (info : ServerInfo) (id : UInt16) (record : Record) :
    Decidable (Leftover info id record) := inferInstanceAs (Decidable (_ ∨ _))

/-- A leftover changes nothing as long as no request has begun. -/
theorem skips_of_leftover {request : Request} (h : request.Fresh) {id : UInt16}
    (hid : id ≠ managementId) (hprevious : request.previousId = some id) {record : Record}
    (hleft : Leftover request.info id record) : request.Skips record := by
  rcases hleft with ⟨rfl, htype⟩ | ⟨hmanagement, hanswer⟩
  · exact skips_of_trailing h hid htype hprevious
  · exact skips_of_management hmanagement hanswer

/-- Records that a fresh request skips are answered, if they call for it, and otherwise come to
nothing. -/
theorem intake_append_of_skips {request : Request} (h : request.Fresh) {before : List Record}
    (hskips : ∀ r ∈ before, request.Skips r) (records : List Record) :
    request.intake (before ++ records) =
      { request.intake records with
        taken := before ++ (request.intake records).taken
        replies := before.filterMap (reply? request.info none) ++
          (request.intake records).replies } := by
  induction before with
  | nil => rfl
  | cons record before ih =>
    have hreply := (takes_process (.inl h) record).reply?_eq none
    rw [List.cons_append]
    rcases hskips record (.head _) with hmore | ⟨reply, hanswer⟩
    · rw [hmore] at hreply
      have hnone := hreply fun id hid => h.replyId.symm.trans hid
      rw [intake_of_more _ hmore, ih fun r hr => hskips r (.tail _ hr), List.filterMap_cons, hnone]
      rfl
    · rw [hanswer] at hreply
      have hsome := hreply fun id hid => h.replyId.symm.trans hid
      rw [intake_of_reply _ hanswer, ih fun r hr => hskips r (.tail _ hr), List.filterMap_cons,
        hsome]
      rfl

/-- Records that begin with a BEGIN record are led by one. -/
theorem ledByBegin_cons {record : Record} (htype : record.type = .beginRequest)
    (hid : record.id ≠ managementId) (records : List Record) :
    LedByBegin (record :: records) := by
  intro first hfirst
  rw [List.find?_cons_of_pos (by simp [Record.isManagement, hid])] at hfirst
  obtain rfl := Option.some.inj hfirst
  exact htype

end Request

namespace Server

section

variable (server : Server) {id : UInt16} (hid : id ≠ managementId) {tail : List Record}
  (htail : ∀ r ∈ tail, Request.Leftover server.info id r) (records : List Record)
  (failure : TransportError) (streams : List (RecordType × UInt16))

include hid htail

/-- Leftovers in front of a turn cost it nothing but the answers to them, which come before its
own. -/
theorem turnAccount_leftovers :
    server.turnAccount (server.newRequest (some id)) (tail ++ records) failure streams =
      { server.turnAccount (server.newRequest (some id)) records failure streams with
        sent := tail.filterMap (Request.reply? server.info none) ++
          (server.turnAccount (server.newRequest (some id)) records failure streams).sent } := by
  have hfresh : (server.newRequest (some id)).Fresh := Request.fresh_new ..
  have hskips : ∀ r ∈ tail, (server.newRequest (some id)).Skips r := fun r hr =>
    Request.skips_of_leftover hfresh hid rfl (htail r hr)
  have hintake := Request.intake_append_of_skips hfresh hskips records
  have hresult : ((server.newRequest (some id)).intake (tail ++ records)).result failure =
      ((server.newRequest (some id)).intake records).result failure := by
    rw [hintake]
    rfl
  rw [turnAccount, turnAccount, hresult, hintake]
  cases ((server.newRequest (some id)).intake records).result failure with
  | mk result request =>
    cases result with
    | error e => rfl
    | ok outcome => simp only [List.append_assoc]; rfl

/-- What is left of the request before, and management records in between, cost nothing but the
answers to the latter. -/
theorem transcript_leftovers :
    server.transcript (some id) (tail ++ records) failure streams =
      { server.transcript (some id) records failure streams with
        sent := tail.filterMap (Request.reply? server.info none) ++
          (server.transcript (some id) records failure streams).sent } := by
  have hsame := server.turnAccount_leftovers hid htail records failure streams
  cases hafter : (server.turnAccount (server.newRequest (some id)) records failure streams).after
    with
  | last result =>
    rw [transcript_of_last hafter, transcript_of_last (by rw [hsame]; exact hafter), hsame]
  | next nextId =>
    rw [transcript_of_next hafter, transcript_of_next (by rw [hsame]; exact hafter), hsame]
    simp only [List.append_assoc]

end

/-! ## After an abort -/

/-- To end a request that was aborted and asks to keep the connection is to send one record. -/
theorem conclude_of_aborted (server : Server) {request : Request} {reason : AbortReason}
    (hframing : reason.preservesFraming = true) (hkeep : request.context.keep = true)
    (hreply : request.replyId = some request.context.id) {channel : Channel}
    (hready : channel.Ready) (honly : channel.OutputOnly) :
    ∃ channel',
      channel.Emits [.endRequest request.context.id ⟨.requestComplete, failureExitCode⟩] channel' ∧
      server.conclude request (.aborted reason) channel =
        (.next (some request.context.id), channel') := by
  have hkeeps : keeps request (.aborted reason) none = true := by
    rw [keeps, hreply, hkeep, hframing]
    rfl
  obtain ⟨channel', hemits, hconclude⟩ :=
    server.conclude_eq_account hready honly (.aborted reason) fun _ => hreply
  refine ⟨channel', ?_, ?_⟩
  · rw [said, completion?, hreply] at hemits
    exact hemits
  · rw [hconclude, sequel, closes, ending?, hkeeps, hreply]
    rfl

/-- On a pristine channel serving begins in order, as no stream is open. -/
theorem orderly_of_pristine (server : Server) {channel : Channel} (h : channel.Pristine) :
    (server.firstSession channel).Orderly server where
  reliable := h.ready.reliable
  receiving := server.receiving_newRequest none
  streams := by
    rw [firstSession, h.openStreams]
    exact server.orderly_nil

section

variable {server : Server} {start : Channel} (hstart : start.Pristine) {received : List Record}
  {session : Session} (hreaches : server.Reaches (server.firstSession start) received session)
  (hstreams : server.Delegates ∨ session.channel.openStreams = []) {reason : AbortReason}
  {request : Request} {between : Channel}
  (hrun : session.request.run session.channel = (.ok (.aborted reason), request, between))
  (hframing : reason.preservesFraming = true) (hkeep : request.context.keep = true)

include hstart hreaches hstreams hrun hframing hkeep

/-- Behind the record that ends an aborted request, serving goes on after a request of its id, and
with no stream open. -/
theorem exists_serveAfter_of_aborted :
    request.context.id ≠ managementId ∧ ∃ ended : Channel,
      between.Sends [.endRequest request.context.id ⟨.requestComplete, failureExitCode⟩] ended ∧
      ended.Ready ∧ ended.openStreams = [] ∧ ended.connection.shutdown = false ∧
      server.serve start = server.serveAfter (some request.context.id) ended := by
  have hordered := orderly_of_reaches (server.orderly_of_pristine hstart) hreaches
  have hnone : session.channel.openStreams = [] := hstreams.elim hordered.streams.none id
  obtain ⟨_, hruns⟩ := Request.run_eq_intake hordered.receiving hordered.reliable rfl
  obtain ⟨hresult, hafter⟩ := Prod.mk.inj (hrun.symm.trans hruns.run)
  obtain ⟨hrequest, rfl⟩ := Prod.mk.inj hafter
  -- What is aborted and can be kept has an id, so one record is sent, and it goes to that id.
  have hown : request.KeepsOwn := by
    rw [hrequest]
    exact Request.keepsOwn_result hordered.receiving _ _
  obtain ⟨hreply, hid⟩ := hown hkeep
  have hready : between.Ready := by
    refine ⟨hruns.exchanges.reliable hordered.reliable, hruns.opened ?_⟩
    rw [← hresult]
    exact nofun
  have hled : start.Leads between := by
    have hled := session.request.leads_run session.channel
    rw [hrun] at hled
    exact (leads_of_reaches hreaches).trans hled
  have hstreams' : between.openStreams = [] := hruns.exchanges.openStreams.trans hnone
  have honly : between.OutputOnly := fun s hs => by
    rw [hstreams'] at hs
    cases hs
  obtain ⟨ended, hemits, hconclude⟩ :=
    server.conclude_of_aborted hframing hkeep hreply hready honly
  refine ⟨hid, ended, hemits.sends, hemits.ready hready, ?_, ?_, ?_⟩
  · rw [hemits.openStreams, hstreams']
    exact Channel.openAll_of_endRequest fun r hr => by rw [List.mem_singleton.1 hr]; rfl
  · rw [hemits.sends.connection]
    have hbetween := hled.shutdown_of_opened (fun _ => hstart.shutdown) hready.opened
    rwa [Connection.accept]
  · have hturn : server.turn session.request session.channel =
        (.next (some request.context.id), ended) := by
      rw [turn, hrun]
      exact hconclude
    have hserve : server.serve start = server.finish (.on session) :=
      (server.serve_eq_proceed start).trans (finish_of_reaches hreaches).symm
    rw [hserve, finish, final_proceed, hturn]

/-- **An aborted request costs only itself.** Say a request is aborted at any point of serving, for
a reason after which records can still be read, and had asked to keep the connection. One record
ends it. Further records of the same request are passed over, and management records among them
answered. From the next BEGIN record on, whatever its id, the connection is served as if it were
fresh.

A stream that an earlier application left open would be ended on behalf of a later one that breaks
down. There is none if all applications leave flushing to their output, nor before the first
request. -/
theorem serve_after_abort {tail later : List Record} {next : Record}
    (hrecords : between.delivery.records = tail ++ next :: later)
    (htail : ∀ r ∈ tail, Request.Leftover server.info request.context.id r)
    (hnext : next.type = .beginRequest) (hnextId : next.id ≠ managementId)
    {fresh : Channel} (hfresh : fresh.Pristine)
    (hdelivery : fresh.delivery = ⟨next :: later, between.delivery.failure⟩) :
    (server.serve start).2.connection.sent.toList =
        between.connection.sent.toList ++
          Record.encodeAll (.endRequest request.context.id ⟨.requestComplete, failureExitCode⟩ ::
            tail.filterMap (Request.reply? server.info none)) ++
          (server.serve fresh).2.connection.sent.toList ∧
      (server.serve start).1 = (server.serve fresh).1 ∧
      (server.serve start).2.connection.shutdown =
        (server.serve fresh).2.connection.shutdown := by
  obtain ⟨hid, ended, hsends, hready, hnone, hshutdown, hserve⟩ :=
    exists_serveAfter_of_aborted hstart hreaches hstreams hrun hframing hkeep
  have honly : ended.OutputOnly := fun s hs => by
    rw [hnone] at hs
    cases hs
  have hended : ended.delivery = ⟨tail ++ next :: later, between.delivery.failure⟩ := by
    rw [hsends.sameInput.delivery, ← hrecords]
  -- Both connections are described by the same transcript, up to what is left over.
  have hdescribes := server.describes_serveAfter (some request.context.id) hready.reliable honly
    hended
  rw [hnone, transcript_leftovers server hid htail,
    transcript_following _ _ _ (Request.ledByBegin_cons hnext hnextId _), ← hserve] at hdescribes
  have hfresh' := @describes_pristine server _ hfresh
  rw [hdelivery] at hfresh'
  refine ⟨?_, ?_, ?_⟩
  · rw [hdescribes.sent, hsends.sent, hfresh'.sent, hfresh.sent, Record.encodeAll_append,
      Record.encodeAll_cons, Record.encodeAll_cons, Record.encodeAll_nil]
    simp only [List.append_assoc, List.append_nil, List.nil_append]
  · rw [hdescribes.result, hfresh'.result]
  · rw [hdescribes.shutdown, hfresh'.shutdown, hshutdown, hfresh.shutdown]

end

/-- A request for the echo responder that is aborted before its body is complete. -/
def abortedEcho : List Record :=
  [⟨version1, .beginRequest, 7, [0, 1, 1, 0, 0, 0, 0, 0], 0⟩, ⟨version1, .params, 7, [], 0⟩,
    ⟨version1, .abortRequest, 7, [], 0⟩]

/-- What the peer has sent before it learns that the request is over, and a query. -/
def lateRecords : List Record :=
  [⟨version1, .stdin, 7, [104], 0⟩, ⟨version1, .getValues, managementId, [], 0⟩,
    ⟨version1, .stdin, 7, [], 0⟩]

/-- Another request for the responder is answered behind an aborted one, its late records and a
query as it would be first on a connection. -/
theorem serve_after_abort_echo :
    let channel (records : List Record) : Channel :=
      .new (.new [.data (Record.encodeAll records)]) ⟨1⟩
    let served (records : List Record) := standardServer.serve (channel records)
    (served (abortedEcho ++ lateRecords ++ echo 0 [105])).2.connection.sent.toList =
        Record.encodeAll [.endRequest 7 ⟨.requestComplete, failureExitCode⟩,
          ⟨version1, .getValuesResult, managementId, [], 0⟩] ++
        (served (echo 0 [105])).2.connection.sent.toList ∧
      (served (abortedEcho ++ lateRecords ++ echo 0 [105])).1 = .ok () ∧
      (served (abortedEcho ++ lateRecords ++ echo 0 [105])).2.connection.shutdown = true := by
  intro channel served
  have hpristine : ∀ records, (channel records).Pristine :=
    fun records => ⟨⟨Connection.reliable_new _, rfl⟩, rfl, rfl, rfl⟩
  have hfresh : (channel (echo 0 [105])).delivery = ⟨echo 0 [105], .closed false⟩ :=
    Channel.delivery_new (by decide +kernel) ⟨1⟩
  let session := standardServer.firstSession (channel (abortedEcho ++ lateRecords ++ echo 0 [105]))
  let run := session.request.run session.channel
  have hrun : run = (.ok (.aborted .abortRequested), run.2.1, run.2.2) :=
    Prod.ext (by decide +kernel) rfl
  have hid : run.2.1.context.id = 7 := by decide +kernel
  have hrecords : run.2.2.delivery.records = lateRecords ++ echo 0 [105] := by decide +kernel
  have hfailure : run.2.2.delivery.failure = .closed false := by decide +kernel
  have hsilent : run.2.2.connection.sent.toList = [] := by decide +kernel
  have htail : ∀ r ∈ lateRecords,
      Request.Leftover standardServer.info run.2.1.context.id r := by
    rw [hid]
    decide +kernel
  have hreplies : lateRecords.filterMap (Request.reply? standardServer.info none) =
      [⟨version1, .getValuesResult, managementId, [], 0⟩] := by decide +kernel
  obtain ⟨hsent, hresult, hshutdown⟩ := serve_after_abort (hpristine _)
    (.start : standardServer.Reaches session [] session) (.inl RoleTable.delegates_standard) hrun rfl
    (by decide +kernel) hrecords htail rfl (by decide) (hpristine (echo 0 [105]))
    (by rw [hfresh, hfailure]; rfl)
  refine ⟨?_, ?_, ?_⟩
  · rw [hid, hsilent, hreplies] at hsent
    exact hsent
  · rw [hresult]
    decide +kernel
  · rw [hshutdown]
    decide +kernel

end Server

end FastCgi
