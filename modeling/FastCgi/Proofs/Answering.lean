import FastCgi.Proofs.Account

/-!
# How a request is answered

An application can write, flush and make log entries, and nothing else. On a channel that takes all
that is sent, whatever it does therefore comes to records of the two output streams, all of them
with the id of its request (`Role.account`). `conclude_eq_account` puts together what the server
sends about one request behind its management answers: the output of the application if there is
one, then at most one record that ends the request, and it says after which requests the connection
is kept. `concludes` is the same without saying which records the output is made of.
-/

namespace FastCgi

namespace Server

/-! ## Ending a request -/

/-- How the application of a request ends, if the request is complete and its role has one. -/
def roleOutcome? (server : Server) (request : Request) (outcome : RunOutcome) (channel : Channel) :
    Option RoleOutcome :=
  match outcome with
  | .complete => (server.roles.resolve? request.context.role).map fun factory =>
      (invoke (factory request.context server.services) request.context.id channel).1
  | .aborted _ => none

/-- What the record says that ends a request. There is none if the application could not send. -/
def endBody? : RunOutcome → Option RoleOutcome → Option EndBody
  | .complete, none => some ⟨.unknownRole, 0⟩
  | .complete, some (.finished exitCode) => some ⟨.requestComplete, exitCode⟩
  | .complete, some (.failed (.transport _)) => none
  | .complete, some (.failed _) => some ⟨.requestComplete, failureExitCode⟩
  | .complete, some (.crashed _) => some ⟨.requestComplete, failureExitCode⟩
  | .aborted _, _ => some ⟨.requestComplete, failureExitCode⟩

/-- The record that ends a request, if there is one. It goes to the id that answers go to. -/
def completion? (request : Request) (outcome : RunOutcome) (role : Option RoleOutcome) :
    Option Record :=
  (endBody? outcome role).bind fun body => request.replyId.map (.endRequest · body)

/-- Whether the connection is kept after a request. The request has to ask for it, and to have come
to an end after which records can still be read. -/
def keeps (request : Request) : RunOutcome → Option RoleOutcome → Bool
  | .complete, none => request.context.keep
  | .complete, some (.finished _) => request.context.keep
  | .complete, some _ => false
  | .aborted reason, _ =>
    request.replyId.isSome && (request.context.keep && reason.preservesFraming)

/-- What the server sends about a request that has ended, and what comes after it. -/
structure Concludes (server : Server) (request : Request) (outcome : RunOutcome)
    (channel : Channel) (role : Option RoleOutcome) (output : List Record) (channel' : Channel) :
    Prop where
  /-- The output comes first, and then the record that ends the request. -/
  sends : channel.Sends (output ++ (completion? request outcome role).toList) channel'
  own : ∀ r ∈ output, r.OutputOf request.context.id
  /-- Without an application there is no output. -/
  silent : role = none → output = []
  only : channel'.OutputOnly
  conclude :
    if keeps request outcome role then
      server.conclude request outcome channel = (.next request.replyId, channel')
    else ∃ result final, server.conclude request outcome channel = (.last result, final) ∧
      final.connection.sent = channel'.connection.sent ∧
      ((completion? request outcome role).isSome = true → final.closed = true)

/-! ## What it comes to -/

/-- How the application of a request ends, if its role has one, on a channel that takes all that is
sent. -/
def roleEnding? (server : Server) (context : Context) : Option RoleOutcome :=
  (server.roles.resolve? context.role).map fun factory =>
    ((factory context server.services).account context.id).2

/-- The output of a complete request, by the streams that were open before. -/
def roleOutput (server : Server) (context : Context) (streams : List (RecordType × UInt16)) :
    List Record :=
  match server.roles.resolve? context.role with
  | none => []
  | some factory => (factory context server.services).output context.id streams

/-- How the application of a request ends that has ended, if it was let answer. -/
def ending? (server : Server) (request : Request) : RunOutcome → Option RoleOutcome
  | .complete => server.roleEnding? request.context
  | .aborted _ => none

/-- The output of a request that has ended. -/
def output (server : Server) (request : Request) (streams : List (RecordType × UInt16)) :
    RunOutcome → List Record
  | .complete => server.roleOutput request.context streams
  | .aborted _ => []

/-- Whether the connection is kept after an application has ended. -/
def keepsRole (keep : Bool) : Option RoleOutcome → Bool
  | none => keep
  | some (.finished _) => keep
  | some _ => false

/-- The failure of an application that could not send. -/
def transportFailure? : Option RoleOutcome → Option TransportError
  | some (.failed (.transport e)) => some e
  | _ => none

/-- All that is sent about a request that has ended: the output of its application, and the record
that ends it. -/
def said (server : Server) (request : Request) (outcome : RunOutcome)
    (streams : List (RecordType × UInt16)) : List Record :=
  server.output request streams outcome ++
    (completion? request outcome (server.ending? request outcome)).toList

/-- What comes after a request that has ended. -/
def sequel (server : Server) (request : Request) (outcome : RunOutcome) : Turn :=
  if keeps request outcome (server.ending? request outcome) then .next request.replyId
  else match transportFailure? (server.ending? request outcome) with
    | some e => .last (.error e)
    | none => .last (.ok ())

/-- Whether the connection is closed after a request that has ended. It is not if it is kept, or if
the application could not send. -/
def closes (server : Server) (request : Request) (outcome : RunOutcome) : Bool :=
  !keeps request outcome (server.ending? request outcome) &&
    (transportFailure? (server.ending? request outcome)).isNone

/-- An application that could not send has its connection given up. -/
theorem keepsRole_of_transportFailure {keep : Bool} {ending : Option RoleOutcome}
    {e : TransportError} (h : transportFailure? ending = some e) :
    keepsRole keep ending = false := by
  unfold transportFailure? at h
  split at h
  next => rfl
  next => cases h

/-- An application that could not send has its request ended without a record. -/
theorem completion?_of_transportFailure {server : Server} {request : Request}
    {outcome : RunOutcome} {e : TransportError}
    (h : transportFailure? (server.ending? request outcome) = some e) :
    completion? request outcome (server.ending? request outcome) = none := by
  cases outcome with
  | aborted reason => cases h
  | complete =>
    generalize server.ending? request .complete = ending at h ⊢
    unfold transportFailure? at h
    split at h
    next => rfl
    next => cases h

/-- Without an application there is no output. -/
theorem output_of_ending?_eq_none {server : Server} {request : Request} {outcome : RunOutcome}
    (h : server.ending? request outcome = none) (streams : List (RecordType × UInt16)) :
    server.output request streams outcome = [] := by
  cases outcome with
  | aborted reason => rfl
  | complete =>
    have hnone : server.roles.resolve? request.context.role = none := Option.map_eq_none_iff.1 h
    rw [output, roleOutput, hnone]

/-- All output of a request that has ended is about that request, since only output was open
before. -/
theorem outputOf_of_mem_output {server : Server} {streams : List (RecordType × UInt16)}
    (honly : ∀ s ∈ streams, s.1.IsOutput) {request : Request} {outcome : RunOutcome}
    {record : Record} (h : record ∈ server.output request streams outcome) :
    record.OutputOf request.context.id := by
  cases outcome with
  | aborted reason => cases h
  | complete =>
    simp only [output, roleOutput] at h
    split at h
    next => cases h
    next => exact Role.outputOf_of_mem_output honly h

/-- The record that ends a request says so by its type. -/
theorem type_of_completion? {request : Request} {outcome : RunOutcome}
    {ending : Option RoleOutcome} {record : Record}
    (h : completion? request outcome ending = some record) : record.type = .endRequest := by
  obtain ⟨body, -, hrecord⟩ := Option.bind_eq_some_iff.1 h
  obtain ⟨id, -, rfl⟩ := Option.map_eq_some_iff.1 hrecord
  rfl

/-- Besides the record that ends the request, all that is said is output. -/
theorem isOutput_of_mem_said {server : Server} {streams : List (RecordType × UInt16)}
    (honly : ∀ s ∈ streams, s.1.IsOutput) {request : Request} {outcome : RunOutcome}
    {record : Record} (h : record ∈ server.said request outcome streams)
    (htype : record.type ≠ .endRequest) : record.type.IsOutput := by
  rcases List.mem_append.1 h with h | h
  · exact (outputOf_of_mem_output honly h).type
  · exact absurd (type_of_completion? (Option.mem_toList.1 h)) htype

/-- The connection is kept for another request only if it was asked for. -/
theorem of_sequel_eq_next {server : Server} {request : Request} {outcome : RunOutcome}
    {nextId : Option UInt16} (h : server.sequel request outcome = .next nextId) :
    nextId = request.replyId ∧ keeps request outcome (server.ending? request outcome) = true ∧
      server.closes request outcome = false := by
  unfold sequel at h
  split at h
  next hkeeps =>
    refine ⟨(Turn.next.inj h).symm, hkeeps, ?_⟩
    rw [closes, hkeeps]
    rfl
  next => split at h <;> cases h

/-- After an answer the connection is either kept for another request, or closed and not served any
more. -/
theorem conclude_of_answer {server : Server} {request : Request} {outcome : RunOutcome}
    {channel channel' : Channel}
    (hfailure : transportFailure? (server.ending? request outcome) = none)
    (h : server.answer request outcome channel =
      (.ok (keeps request outcome (server.ending? request outcome)),
        if keeps request outcome (server.ending? request outcome) then channel'
        else channel'.close)) :
    server.conclude request outcome channel =
      (server.sequel request outcome,
        if server.closes request outcome then channel'.close else channel') := by
  rw [conclude, h, sequel, closes, hfailure]
  cases keeps request outcome (server.ending? request outcome) with
  | true => rfl
  | false => simp only [Bool.false_eq_true, if_false, Channel.close_close]; rfl

/-- On a channel that takes all that is sent, how the application ends does not depend on the
channel. -/
theorem roleOutcome?_of_ready (server : Server) (request : Request) (outcome : RunOutcome)
    {channel : Channel} (hready : channel.Ready) :
    server.roleOutcome? request outcome channel = server.ending? request outcome := by
  cases outcome with
  | aborted reason => rfl
  | complete =>
    refine congrArg (fun f => (server.roles.resolve? request.context.role).map f) ?_
    funext factory
    obtain ⟨channel', hinvoke, -⟩ :=
      invoke_eq_account (factory request.context server.services) request.context.id hready
    rw [hinvoke]

section

variable (server : Server) {channel : Channel} (hready : channel.Ready) (honly : channel.OutputOnly)

include hready honly

/-- A complete request is answered by its application and ended as that did. A request whose role
has no application is told so. -/
theorem dispatch_eq_account (context : Context) :
    ∃ channel', channel.Emits (server.roleOutput context channel.openStreams ++
        ((endBody? .complete (server.roleEnding? context)).map (.endRequest context.id)).toList)
        channel' ∧
      server.dispatch context channel =
        match transportFailure? (server.roleEnding? context) with
        | some e => (.error e, channel')
        | none => (.ok (keepsRole context.keep (server.roleEnding? context)),
            if keepsRole context.keep (server.roleEnding? context) then channel'
            else channel'.close) := by
  cases hfactory : server.roles.resolve? context.role with
  | none =>
    have hending : server.roleEnding? context = none := by rw [roleEnding?, hfactory]; rfl
    have houtput : server.roleOutput context channel.openStreams = [] := by
      rw [roleOutput, hfactory]
    have htell := (Channel.Emits.refl channel).tell .warn .dispatch
      s!"{channel.peer} requested unsupported role {context.role}"
    obtain ⟨channel', hend, hemits⟩ := Channel.emits_sendEnd (htell.ready hready) context.id
      ⟨.unknownRole, 0⟩ context.keep
    rw [hending, houtput]
    refine ⟨channel', htell.trans hemits, ?_⟩
    simp only [dispatch, hfactory, hend]
    rfl
  | some factory =>
    generalize hrole : factory context server.services = role
    obtain ⟨invoked, hinvoke, hemits⟩ := invoke_eq_account role context.id hready
    have hending : server.roleEnding? context = some (role.account context.id).2 := by
      rw [roleEnding?, hfactory, Option.map_some, hrole]
    have houtput : server.roleOutput context channel.openStreams =
        role.output context.id channel.openStreams := by
      rw [← hrole, roleOutput, hfactory]
    rw [hending, houtput, Role.output]
    simp only [dispatch, hfactory, hrole, hinvoke]
    -- Every ending but a failure to send is told in a record behind the output.
    cases (role.account context.id).2 with
    | finished exitCode =>
      have htold := hemits.tell .debug .dispatch
        s!"{invoked.peer} request {context.id} finished with exit code {exitCode}"
      obtain ⟨channel', hend, hends⟩ := Channel.emits_sendEnd (htold.ready hready) context.id
        ⟨.requestComplete, exitCode⟩ context.keep
      refine ⟨channel', htold.trans hends, ?_⟩
      simp only [hend]
      rfl
    | failed error =>
      have htold := hemits.tell .error .dispatch
        s!"{invoked.peer} role failed on request {context.id}: {error.message}"
      obtain ⟨channel', hend, hends⟩ := Channel.emits_sendEnd (htold.ready hready) context.id
        ⟨.requestComplete, failureExitCode⟩ false
      cases error with
      | transport e =>
        refine ⟨invoked, ?_, rfl⟩
        rw [endBody?, Option.map_none, Option.toList_none, List.append_nil]
        exact hemits
      | application | missingService =>
        refine ⟨channel', htold.trans hends, ?_⟩
        simp only [endFailed, hend]
        rfl
    | crashed reason =>
      have htold := hemits.tell .error .dispatch
        s!"{invoked.peer} role panicked on request {context.id}: {reason}"
      have hready' := htold.ready hready
      have honly' := htold.outputOnly (fun r hr _ => (Role.outputOf_of_mem_account hr).type) honly
      obtain ⟨ended, hended, hemits'⟩ := Channel.emits_endOpenStreams hready'
        (fun s hs => (honly' s hs).isStream) context.id
      obtain ⟨channel', hend, hends⟩ := Channel.emits_sendEnd (hemits'.ready hready') context.id
        ⟨.requestComplete, failureExitCode⟩ false
      rw [htold.openStreams] at hemits'
      refine ⟨channel', (htold.trans hemits').trans hends, ?_⟩
      simp only [hended, Channel.Outcome.andThen_ok, endFailed, hend]
      rfl

/-- What the server makes of a request that has ended, and where it leaves the channel. -/
theorem conclude_eq_account {request : Request} (outcome : RunOutcome)
    (hreply : outcome = .complete → request.replyId = some request.context.id) :
    ∃ channel', channel.Emits (server.said request outcome channel.openStreams) channel' ∧
      server.conclude request outcome channel =
        (server.sequel request outcome,
          if server.closes request outcome then channel'.close else channel') := by
  cases outcome with
  | complete =>
    obtain ⟨channel', hemits, hdispatch⟩ := server.dispatch_eq_account hready honly request.context
    -- The record that ends the request goes to its own id, which is the one that is answered.
    have hcompletion : completion? request .complete (server.roleEnding? request.context) =
        (endBody? .complete (server.roleEnding? request.context)).map
          (.endRequest request.context.id) := by
      rw [completion?, hreply rfl]
      cases endBody? .complete (server.roleEnding? request.context) <;> rfl
    have hkeeps : keepsRole request.context.keep (server.roleEnding? request.context) =
        keeps request .complete (server.roleEnding? request.context) := by
      unfold keeps keepsRole
      cases server.roleEnding? request.context with
      | none => rfl
      | some ending => cases ending <;> rfl
    refine ⟨channel', ?_, ?_⟩
    · rw [said, ending?, hcompletion]
      exact hemits
    rw [hkeeps] at hdispatch
    cases hfailure : transportFailure? (server.roleEnding? request.context) with
    | none =>
      rw [hfailure] at hdispatch
      exact conclude_of_answer hfailure hdispatch
    | some e =>
      rw [hfailure] at hdispatch
      have hlast : keeps request .complete (server.roleEnding? request.context) = false :=
        hkeeps ▸ keepsRole_of_transportFailure hfailure
      rw [conclude, answer, hdispatch, sequel, closes, ending?, hlast, hfailure]
      rfl
  | aborted reason =>
    let told := channel.tell .warn .dispatch s!"{channel.peer} aborted request: {reason.message}"
    have htell : channel.Emits [] told := (Channel.Emits.refl channel).tell ..
    cases hid : request.replyId with
    | none =>
      -- A request that has no id yet is given up without a word.
      have hlast : keeps request (.aborted reason) none = false := by
        rw [keeps, hid]
        rfl
      refine ⟨told, ?_, ?_⟩
      · rw [said, completion?, hid]
        exact htell
      · rw [sequel, closes, ending?, hlast]
        simp only [conclude, answer, refuse, hid]
        rfl
    | some id =>
      have hkeeps : keeps request (.aborted reason) none =
          (request.context.keep && reason.preservesFraming) := by
        rw [keeps, hid]
        rfl
      obtain ⟨channel', hend, hends⟩ := Channel.emits_sendEnd (htell.ready hready) id
        ⟨.requestComplete, failureExitCode⟩ (request.context.keep && reason.preservesFraming)
      refine ⟨channel', ?_, conclude_of_answer rfl ?_⟩
      · rw [said, completion?, hid]
        exact htell.trans hends
      · rw [ending?, hkeeps]
        simp only [answer, refuse, hid]
        rw [hend]
        rfl

/-- Whatever a request came to, the server concludes it, if a complete one has an id of its own to
answer to. -/
theorem concludes {request : Request} (outcome : RunOutcome)
    (hreply : outcome = .complete → request.replyId = some request.context.id) :
    ∃ output channel', server.Concludes request outcome channel
      (server.roleOutcome? request outcome channel) output channel' := by
  rw [server.roleOutcome?_of_ready request outcome hready]
  obtain ⟨channel', hemits, hconclude⟩ := server.conclude_eq_account hready honly outcome hreply
  refine ⟨_, channel', hemits.sends, fun r hr => outputOf_of_mem_output honly hr,
    fun hnone => output_of_ending?_eq_none hnone _,
    hemits.outputOnly (fun r hr htype => isOutput_of_mem_said honly hr htype) honly, ?_⟩
  rw [hconclude, sequel, closes]
  split
  next hkeeps => rw [hkeeps]; rfl
  next hkeeps =>
    rw [Bool.not_eq_true] at hkeeps
    rw [hkeeps]
    cases hfailure : transportFailure? (server.ending? request outcome) with
    | none =>
      exact ⟨_, _, rfl, Channel.sent_close channel', fun _ => Channel.closed_close channel'⟩
    | some e =>
      refine ⟨_, _, rfl, rfl, fun hsome => ?_⟩
      rw [completion?_of_transportFailure hfailure] at hsome
      cases hsome

end

/-- To leave a connection nothing is sent. -/
theorem sent_leave (error : TransportError) (request : Request) (channel : Channel) :
    (leave error request channel).2.connection.sent = channel.connection.sent := by
  unfold leave
  split
  · rfl
  · split
    · rfl
    · rw [Channel.sent_close]
      rfl
  · rfl
  · rfl

end Server

end FastCgi
