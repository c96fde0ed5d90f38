import FastCgi.Proofs.Acceptance
import FastCgi.Proofs.Answering

/-!
# Complete requests and their answers

A channel that takes all that is sent, and on which a submission of the right shape comes next,
brings a complete request (`Server.Receives`): the run of the request ends with what the submission
says, and all that has been sent by then is answers to records of other ids
(`Receives.exists_run`). From there on the request is answered by what its application comes to, and
`Receives.responds` follows that to the bytes on the connection.
-/

namespace FastCgi

/-- Answers to other records go to other ids than that of the request. -/
theorem Request.id_ne_of_reply? {info : ServerInfo} {id : UInt16} {record reply : Record}
    (hid : id ≠ managementId) (h : reply? info (some id) record = some reply) : reply.id ≠ id := by
  unfold reply? at h
  split at h
  next hmanagement =>
    have hrecord : record.id = managementId := by simpa [Record.isManagement] using hmanagement
    cases hreply : managementReply info record with
    | error e =>
      rw [hreply] at h
      cases h
    | ok answer =>
      rw [hreply] at h
      cases h
      rw [managementReply_eq] at hreply
      obtain ⟨-, rfl⟩ := Record.new_eq_ok_iff.1 hreply
      exact fun heq => hid (heq.symm.trans hrecord)
  next =>
    split at h
    next hbegin =>
      cases h
      exact fun heq => hbegin.2 (congrArg some heq.symm)
    next => cases h

/-- What a complete request knows that has received a submission. -/
def Request.Submission.context (s : Request.Submission) (asks : BeginBody)
    (pairs : List (String × String)) : Context :=
  ⟨s.opening.id, asks.role, asks.keep, .ofList pairs, s.body.flatten.toArray, .complete⟩

/-- A request that receives a submission is complete, and knows what that says. -/
theorem Request.fate_of_submission {request : Request} (hfresh : request.Fresh)
    {s : Request.Submission}
    (hanswers : ∀ r ∈ s.records, r.id = managementId → Request.Answerable request.info r)
    (haccepted : s.Accepted request.limits request.previousId) {asks : BeginBody}
    (hasks : BeginBody.ofBytes s.opening.content = .ok asks) {pairs : List (String × String)}
    (hpairs : NameValue.decode s.params.flatten = .ok pairs) :
    (request.fate s.records).1 = some .complete ∧
      (request.fate s.records).2.context = s.context asks pairs := by
  have hfate := fate_of_accepted hfresh hanswers haccepted hasks (List.prefix_refl _)
  refine ⟨congrArg Prod.fst hfate, ?_⟩
  rw [Submission.context, (NameValue.decode_eq_ok_iff.1 hpairs).2, ← context_afterBody hfresh asks]
  exact congrArg (·.2.context) hfate

namespace Server

/-- A channel takes all that is sent, and brings a complete request next: one that asks for a role,
with some pairs for parameters. -/
structure Receives (server : Server) (previousId : Option UInt16) (channel : Channel)
    (s : Request.Submission) (asks : BeginBody) (pairs : List (String × String)) : Prop where
  reliable : channel.connection.Reliable
  only : channel.OutputOnly
  accepted : s.Accepted server.limits previousId
  answers : ∀ r ∈ s.records, r.id = managementId → Request.Answerable server.info r
  asks : BeginBody.ofBytes s.opening.content = .ok asks
  pairs : NameValue.decode s.params.flatten = .ok pairs
  begins : s.records <+: channel.delivery.records

namespace Receives

variable {server : Server} {previousId : Option UInt16} {channel : Channel}
  {s : Request.Submission} {asks : BeginBody} {pairs : List (String × String)}

/-- A peer that sends a submission in one go brings a complete request. -/
theorem of_sent (haccepted : s.Accepted server.limits previousId)
    (hrecords : ∀ r ∈ s.records, r.WellFormed ∧ r.id ≠ managementId)
    (hasks : BeginBody.ofBytes s.opening.content = .ok asks)
    (hpairs : NameValue.decode s.params.flatten = .ok pairs) (timeout : Duration) :
    server.Receives previousId (.new (.new [.data (Record.encodeAll s.records)]) timeout) s asks
      pairs where
  reliable := Connection.reliable_new _
  only := Channel.outputOnly_new _ _ _
  accepted := haccepted
  answers r hr hid := absurd hid (hrecords r hr).2
  asks := hasks
  pairs := hpairs
  begins :=
    ⟨[], by rw [Request.Submission.delivery (fun r hr => (hrecords r hr).1) timeout,
      List.append_nil]⟩

/-- The run of a request to which a submission is sent, and what has been sent by its end. -/
theorem exists_run (h : server.Receives previousId channel s asks pairs) :
    ∃ request replies between,
      (server.newRequest previousId).run channel = (.ok .complete, request, between) ∧
      request.context = s.context asks pairs ∧ request.replyId = some s.opening.id ∧
      channel.Exchanges replies between ∧ (∀ r ∈ replies, r.id ≠ s.opening.id) ∧
      between.Ready := by
  have hfresh : (server.newRequest previousId).Fresh :=
    Request.fresh_new server.limits server.info previousId
  obtain ⟨houtcome, hcontext⟩ :=
    Request.fate_of_submission hfresh h.answers h.accepted h.asks h.pairs
  obtain ⟨_, hrun, -⟩ := Request.run_of_fate (.inl hfresh) houtcome (fun _ => h.reliable) h.begins
  obtain ⟨received, outcome, request, between, hruns⟩ :=
    Request.exists_runsTo (.inl hfresh) h.reliable
  obtain ⟨rfl, rfl, rfl⟩ : outcome = .ok .complete ∧ request = _ ∧ between = _ := by
    simpa using hruns.run.symm.trans hrun
  have hreply := hruns.complete rfl
  rw [hcontext] at hreply
  refine ⟨_, _, between, hruns.run, hcontext, hreply, hruns.exchanges, fun r hr => ?_,
    hruns.exchanges.reliable h.reliable, hruns.opened rfl⟩
  obtain ⟨record, -, hrecord⟩ := List.mem_filterMap.1 hr
  rw [hreply] at hrecord
  exact Request.id_ne_of_reply? h.accepted.opening_id hrecord

end Receives

end Server

end FastCgi
