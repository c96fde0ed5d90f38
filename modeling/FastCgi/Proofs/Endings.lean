import FastCgi.Proofs.Actions
import FastCgi.Proofs.Balance
import FastCgi.Proofs.Sequence
import FastCgi.Proofs.Transcript

/-!
# How a connection ends

On a connection that takes all that is sent, and with the applications at hand, serving ends in one
of five ways. Four of them are reads that bring nothing more: the end of the stream, a fault, and
silence, either in the middle of a request or between two of them. The fifth is a request after
which the connection is not kept. `Session.Ends` lists what each comes to; a session that stands at
one of them ends with the next move (`exists_move_of_ends`), and one that does not goes on
(`ends_or_goes_on`). Since serving comes to what its last move does, it comes to the result of the
one session that it passes through and that ends (`serve_iff_ends`).
-/

namespace FastCgi

namespace Channel

/-! ## The last read -/

/-- The read with which waiting for a record comes to an end that brings none. -/
inductive EndsIn : Channel → Connection.Arrival → Prop
  /-- There is no record yet, and nothing more arrives. -/
  | last {channel : Channel} {arrival : Connection.Arrival} {connection : Connection}
      (hdecode : Record.decode channel.buffer = .ok none)
      (hread : channel.connection.read channel.timeout = (arrival, connection))
      (hnone : ∀ bytes, arrival ≠ .data bytes) : EndsIn channel arrival
  /-- There is no record yet, and it is waited on when some bytes have arrived. -/
  | more {channel : Channel} {arrival : Connection.Arrival} {connection : Connection}
      {bytes : Bytes} (hdecode : Record.decode channel.buffer = .ok none)
      (hread : channel.connection.read channel.timeout = (.data bytes, connection))
      (h : EndsIn { channel with connection, buffer := channel.buffer ++ bytes } arrival) :
    EndsIn channel arrival

/-- The error that tells of a read which brings no bytes, by the time that it may take. -/
inductive Reports (limit : Duration) : Connection.Arrival → TransportError → Prop
  | endOfStream (midFrame : Bool) : Reports limit .endOfStream (.closed midFrame)
  | fault (reason : String) : Reports limit (.fault reason) (.io reason)
  | timedOut : Reports limit .timedOut (.timeout limit)

/-- A wait that ends in some read fails with the error that tells of it. -/
theorem EndsIn.await {channel : Channel} {arrival : Connection.Arrival}
    (h : channel.EndsIn arrival) :
    ∃ e, channel.await.1 = .error e ∧ Reports channel.timeout arrival e := by
  induction h with
  | @last channel arrival connection hdecode hread hnone =>
    rw [await_eq]
    simp only [hdecode, hread]
    cases arrival with
    | data bytes => exact absurd rfl (hnone bytes)
    | endOfStream => exact ⟨_, rfl, .endOfStream _⟩
    | fault reason => exact ⟨_, rfl, .fault reason⟩
    | timedOut => exact ⟨_, rfl, .timedOut⟩
  | more hdecode hread _ ih =>
    rw [await_eq]
    simp only [hdecode, hread]
    exact ih

/-- A wait that fails, other than for bytes that are no record, has ended in the read of which the
error tells. -/
theorem endsIn_of_await {channel : Channel} {e : TransportError} (h : channel.await.1 = .error e)
    (hnot : ∀ e', e ≠ .protocol e') :
    ∃ arrival, channel.EndsIn arrival ∧ Reports channel.timeout arrival e := by
  induction channel using await.induct with
  | case1 channel e' hdecode =>
    rw [await_eq, hdecode] at h
    cases h
    exact absurd rfl (hnot e')
  | case2 channel record rest hdecode =>
    rw [await_eq, hdecode] at h
    cases h
  | case3 channel hdecode bytes connection hread _ ih =>
    rw [await_eq] at h
    simp only [hdecode, hread] at h
    obtain ⟨arrival, hends, hreports⟩ := ih h
    exact ⟨arrival, .more hdecode hread hends, hreports⟩
  | case4 channel hdecode connection hread =>
    rw [await_eq] at h
    simp only [hdecode, hread] at h
    cases h
    exact ⟨_, .last hdecode hread (by simp), .endOfStream _⟩
  | case5 channel hdecode reason connection hread =>
    rw [await_eq] at h
    simp only [hdecode, hread] at h
    cases h
    exact ⟨_, .last hdecode hread (by simp), .fault reason⟩
  | case6 channel hdecode connection hread =>
    rw [await_eq] at h
    simp only [hdecode, hread] at h
    cases h
    exact ⟨_, .last hdecode hread (by simp), .timedOut⟩

/-! ## Shutting the stream down -/

/-- One step: only a channel that is open asks for its stream to be closed, and it is closed with
it. -/
theorem Action.shutdowns {channel channel' : Channel} (h : channel.Action channel') :
    channel'.connection.shutdowns = channel.connection.shutdowns ∨
      channel.closed = false ∧
        channel'.connection.shutdowns = channel.connection.shutdowns + 1 := by
  cases h with
  | receive => exact .inl channel.exchanges_receive.shutdowns
  | write bytes =>
    obtain ⟨_, _, -, hwrite⟩ := channel.write_eq_with bytes
    rw [hwrite]
    exact .inl rfl
  | close =>
    cases hclosed : channel.closed with
    | true => exact .inl (by rw [Channel.close, if_pos hclosed])
    | false => exact .inr ⟨rfl, shutdowns_close hclosed⟩
  | tell | track => exact .inl rfl

/-- Many steps: a stream is shut down once at most. -/
theorem Leads.shutdowns_le_one {start channel : Channel} (h : start.Leads channel)
    (hstart : start.connection.shutdown = false) :
    channel.connection.shutdowns ≤ 1 ∧
      (channel.connection.shutdowns = 1 ↔ channel.connection.shutdown = true) := by
  have hone : channel.connection.shutdowns ≤ 1 := by
    induction h with
    | refl =>
      rw [Connection.shutdowns_eq_zero_iff.2 hstart]
      exact Nat.zero_le 1
    | @tail between after hbetween haction ih =>
      rcases haction.shutdowns with hsame | ⟨hopened, hmore⟩
      · rwa [hsame]
      · -- A channel that is still open has not asked before.
        have hnever := Leads.shutdown_of_opened hbetween (fun _ => hstart) hopened
        rw [Connection.shutdowns_eq_zero_iff.2 hnever] at hmore
        exact Nat.le_of_eq hmore
  refine ⟨hone, ?_⟩
  rw [Connection.shutdown, bne_iff_ne]
  omega

/-- The time that a channel waits for is never changed. -/
theorem Leads.timeout {channel channel' : Channel} (h : channel.Leads channel') :
    channel'.timeout = channel.timeout := by
  induction h with
  | refl => rfl
  | @tail between _ _ haction ih =>
    cases haction with
    | receive => exact between.exchanges_receive.timeout.trans ih
    | write bytes =>
      obtain ⟨_, _, -, hwrite⟩ := between.write_eq_with bytes
      rw [hwrite]
      exact ih
    | close =>
      cases hclosed : between.closed with
      | true => rwa [close, if_pos hclosed]
      | false =>
        obtain ⟨_, hclose⟩ := close_eq_with hclosed
        rw [hclose]
        exact ih
    | tell | track => exact ih

end Channel

/-! ## The applications at hand -/

/-- A table in whose places there is nothing but the applications at hand. -/
def RoleTable.BuiltIn (table : RoleTable) : Prop :=
  ∀ kind factory, table.factory? kind = some factory →
    factory = Responder.role ∨ factory = Authorizer.role

/-- The table that a server begins with has nothing in it but the applications at hand. -/
theorem RoleTable.builtIn_standard : (RoleTable.ofChanges RoleTable.standard).BuiltIn := by
  intro kind factory h
  cases kind with
  | responder => exact .inl (Option.some.inj h).symm
  | authorizer => exact .inr (Option.some.inj h).symm
  | filter => cases h

namespace Server

/-- An application that leaves flushing to its output, and does not say of itself that it could not
send, could send. -/
theorem transportFailure?_of_flushOutput {role : Role} (hflush : role.flush = Program.flushOutput)
    {id : UInt16} (hrun : ∀ e, (role.run.account (.new id)).ending ≠ .failed (.transport e)) :
    transportFailure? (some (role.account id).2) = none := by
  have hlast : ((role.flush true).account (role.run.account (.new id)).output).ending =
      .done () := by
    rw [hflush]
    rfl
  unfold Role.account
  dsimp only
  rw [hlast]
  cases hending : (role.run.account (.new id)).ending with
  | done | crashed => rfl
  | failed error =>
    cases error with
    | application | missingService => rfl
    | transport e => exact absurd hending (hrun e)

/-- The authorizer writes and makes log entries, so that it never says of itself that it could not
send. -/
theorem ending_authorizer (context : Context) (services : Services) (output : Output)
    (e : TransportError) :
    ((Authorizer.run context services).account output).ending ≠ .failed (.transport e) := by
  unfold Authorizer.run
  split
  next => exact nofun
  next list _ =>
    unfold Authorizer.decide
    dsimp only
    split <;> exact nofun

/-- The applications at hand do not fail of themselves as if they could not send. -/
theorem transportFailure?_of_builtIn {server : Server} (hroles : server.roles.BuiltIn)
    (request : Request) (outcome : RunOutcome) :
    transportFailure? (server.ending? request outcome) = none := by
  cases outcome with
  | aborted reason => rfl
  | complete =>
    rw [ending?, roleEnding?]
    cases hfactory : server.roles.resolve? request.context.role with
    | none => rfl
    | some factory =>
      obtain ⟨kind, -, hkind⟩ := Option.bind_eq_some_iff.1 hfactory
      rcases hroles kind factory hkind with rfl | rfl
      · exact transportFailure?_of_flushOutput rfl (by intro e h; cases h)
      · exact transportFailure?_of_flushOutput rfl fun e => ending_authorizer _ _ _ e

end Server

/-! ## Sessions -/

namespace Session

/-- A session as serving passes through it: on a channel that is open and takes all that is sent. -/
structure Underway (session : Session) : Prop where
  ready : session.channel.Ready
  only : session.channel.OutputOnly
  receiving : session.request.Receiving
  shutdown : session.channel.connection.shutdown = false

/-- A record that is received leaves the channel as it was, but for a log entry. -/
theorem Underway.told {session : Session} (h : session.Underway) {record : Record}
    {received : Channel} (hreceive : session.channel.receive = (.ok record, received)) :
    (session.request.tellRemark record received).Ready ∧
      (session.request.tellRemark record received).OutputOnly := by
  have hexchanges := session.channel.exchanges_receive
  rw [hreceive] at hexchanges
  obtain ⟨htell, hstreams⟩ := session.request.sends_tellRemark record received
  exact ⟨htell.ready ⟨hexchanges.reliable h.ready.reliable,
      (Channel.closed_of_receive_ok hreceive).2⟩,
    h.only.of_openStreams (hstreams.trans hexchanges.openStreams)⟩

/-- The request of a session ends with what is received next, and comes to an outcome. -/
inductive Finishes (session : Session) : Request → RunOutcome → Prop
  /-- What is received is no record. -/
  | unreadable {e : ProtocolError} {channel : Channel}
      (hreceive : session.channel.receive = (.error (.protocol e), channel)) :
    Finishes session session.request.abort (.aborted (.protocol e))
  /-- The record that is received has the request given up. -/
  | givesUp {record : Record} {channel : Channel} {reason : AbortReason} {request : Request}
      (hreceive : session.channel.receive = (.ok record, channel))
      (hprocess : session.request.process record = (.error reason, request)) :
    Finishes session request.abort (.aborted reason)
  /-- The record that is received completes the request. -/
  | completes {record : Record} {channel : Channel} {request : Request}
      (hreceive : session.channel.receive = (.ok record, channel))
      (hprocess : session.request.process record = (.ok .complete, request)) :
    Finishes session request .complete

/-- The ends of serving: its result, and whether the stream is shut down. -/
inductive Ends (session : Session) (server : Server) : Except TransportError Unit → Bool → Prop
  /-- Nothing more arrives, and the connection is left as the error asks for. -/
  | leaves {arrival : Connection.Arrival} {e : TransportError}
      (hends : session.channel.EndsIn arrival)
      (hreports : Channel.Reports session.channel.timeout arrival e) :
    Ends session server (Server.departure e session.request).1
      (Server.departure e session.request).2
  /-- The request ends, and the connection is not kept after it. -/
  | finishes {request : Request} {outcome : RunOutcome} (h : session.Finishes request outcome)
      (hkeeps : Server.keeps request outcome (server.ending? request outcome) = false) :
    Ends session server (.ok ()) true

section

variable {session : Session} {server : Server}

/-- Serving succeeds and leaves the stream open if the stream of the peer is at its end. -/
theorem ends_ok_false_iff :
    session.Ends server (.ok ()) false ↔ session.channel.EndsIn .endOfStream := by
  constructor
  · generalize hresult : (Except.ok () : Except TransportError Unit) = result
    generalize hshutdown : false = shutdown
    rintro (⟨hends, midFrame | reason | -⟩ | -)
    · exact hends
    · cases hresult
    · rw [Server.departure] at hresult hshutdown
      split at hresult
      · cases hresult
      next hnone => rw [if_neg hnone] at hshutdown; cases hshutdown
    · cases hshutdown
  · exact fun h => .leaves h (.endOfStream false)

/-- Serving fails, and leaves the stream open, if a read meets a fault, or if a request that has
begun is waited for in vain. -/
theorem ends_error_iff {e : TransportError} {shutdown : Bool} :
    session.Ends server (.error e) shutdown ↔ shutdown = false ∧
      ((∃ reason, e = .io reason ∧ session.channel.EndsIn (.fault reason)) ∨
        e = .timeout session.channel.timeout ∧ session.channel.EndsIn .timedOut ∧
          session.request.replyId.isSome = true) := by
  constructor
  · generalize hresult : (Except.error e : Except TransportError Unit) = result
    rintro (⟨hends, midFrame | reason | -⟩ | -)
    · cases hresult
    · cases hresult
      exact ⟨rfl, .inl ⟨reason, rfl, hends⟩⟩
    · rw [Server.departure] at hresult ⊢
      split at hresult
      next hsome =>
        cases hresult
        exact ⟨if_pos hsome ▸ rfl, .inr ⟨rfl, hends, hsome⟩⟩
      · cases hresult
    · cases hresult
  · rintro ⟨rfl, ⟨reason, rfl, hends⟩ | ⟨rfl, hends, hsome⟩⟩
    · exact .leaves hends (.fault reason)
    · have h : session.Ends server _ _ := .leaves hends .timedOut
      rwa [Server.departure, if_pos hsome] at h

/-- Serving succeeds and shuts the stream down if no request is waited for in vain, or if a request
ends after which the connection is not kept. -/
theorem ends_ok_true_iff :
    session.Ends server (.ok ()) true ↔
      (session.channel.EndsIn .timedOut ∧ session.request.replyId = none) ∨
        ∃ request outcome, session.Finishes request outcome ∧
          Server.keeps request outcome (server.ending? request outcome) = false := by
  constructor
  · generalize hresult : (Except.ok () : Except TransportError Unit) = result
    generalize hshutdown : true = shutdown
    rintro (⟨hends, midFrame | reason | -⟩ | ⟨hfinishes, hkeeps⟩)
    · cases hshutdown
    · cases hshutdown
    · rw [Server.departure] at hresult
      split at hresult
      · cases hresult
      next hnone => exact .inl ⟨hends, by simpa using hnone⟩
    · exact .inr ⟨_, _, hfinishes, hkeeps⟩
  · rintro (⟨hends, hnone⟩ | ⟨request, outcome, hfinishes, hkeeps⟩)
    · have h : session.Ends server _ _ := .leaves hends .timedOut
      rwa [Server.departure, if_neg (by simp [hnone])] at h
    · exact .finishes hfinishes hkeeps

end

end Session

namespace Server

/-- To leave a connection does not depend on which of the errors tells that it is closed. -/
theorem departure_of_reports {limit : Duration} {arrival : Connection.Arrival}
    {e e' : TransportError} (h : Channel.Reports limit arrival e)
    (h' : Channel.Reports limit arrival e') (request : Request) :
    departure e request = departure e' request := by
  cases h <;> cases h' <;> rfl

/-- If nothing more arrives, then the connection is left, and nothing is sent any more. -/
theorem move_of_endsIn (server : Server) {session : Session} (hunderway : session.Underway)
    {arrival : Connection.Arrival} (h : session.channel.EndsIn arrival) :
    ∃ e final, Channel.Reports session.channel.timeout arrival e ∧
      server.move session = (none, .off (departure e session.request).1 final) ∧
      final.connection.shutdown = (departure e session.request).2 ∧
      final.connection.sent = session.channel.connection.sent := by
  obtain ⟨e, he, hreports⟩ := h.await
  have hexchanges := session.channel.exchanges_receive
  have hresult : session.channel.receive.1 = .error e := by
    rw [Channel.receive, if_neg (by simp [hunderway.ready.opened])]
    exact he
  cases hreceive : session.channel.receive with
  | mk result between =>
    rw [hreceive] at hexchanges hresult
    obtain rfl : result = .error e := hresult
    have hopened : (∀ midFrame, e ≠ .closed midFrame) → between.closed = false := by
      intro hnot
      have hclosed := @Channel.closed_receive session.channel (by
        rw [hreceive]
        exact fun midFrame h => hnot midFrame (Except.error.inj h))
      rw [hreceive] at hclosed
      exact hclosed.2
    obtain ⟨hleave, hshutdown⟩ := departure_of_leave e session.request hopened
    have hsent : (leave e session.request between).2.connection.sent =
        session.channel.connection.sent := by
      rw [sent_leave, ← Array.toList_inj, hexchanges.sent]
      simp
    refine ⟨e, (leave e session.request between).2, hreports, ?_, ?_, hsent⟩
    · rw [← hleave, move, hreceive]
      cases hreports <;> rfl
    · rw [hshutdown, hexchanges.shutdown, hunderway.shutdown, Bool.false_or]

section

variable {server : Server} (hroles : server.roles.BuiltIn)

include hroles

/-- When a request has ended, serving goes on if the connection is kept. Otherwise it ends without
an error, and shuts the stream down. -/
theorem settle_of_builtIn {request : Request} {outcome : RunOutcome} {channel : Channel}
    (hready : channel.Ready) (honly : channel.OutputOnly)
    (hreply : outcome = .complete → request.replyId = some request.context.id) :
    if keeps request outcome (server.ending? request outcome) then
      ∃ session, server.settle request outcome channel = .on session
    else ∃ final, server.settle request outcome channel = .off (.ok ()) final ∧
      final.connection.shutdown = true := by
  obtain ⟨channel', hemits, hconclude⟩ :=
    server.conclude_eq_account hready honly outcome hreply
  have hfailure := transportFailure?_of_builtIn hroles request outcome
  rw [settle, hconclude, sequel, closes, hfailure]
  split
  next hkeeps => exact ⟨_, by rw [hkeeps]⟩
  next hkeeps =>
    rw [Bool.not_eq_true] at hkeeps
    refine ⟨channel'.close, by rw [hkeeps]; rfl, ?_⟩
    exact Channel.shutdown_close (hemits.ready hready).opened

variable {session : Session} (hunderway : session.Underway)

include hunderway

/-- A request that ends is settled. -/
theorem move_of_finishes {request : Request} {outcome : RunOutcome}
    (h : session.Finishes request outcome) :
    ∃ record? after, server.move session = (record?, after) ∧
      if keeps request outcome (server.ending? request outcome) then ∃ session, after = .on session
      else ∃ final, after = .off (.ok ()) final ∧ final.connection.shutdown = true := by
  have hexchanges := session.channel.exchanges_receive
  cases h with
  | @unreadable e received hreceive =>
    rw [hreceive] at hexchanges
    have hready : received.Ready := ⟨hexchanges.reliable hunderway.ready.reliable,
      (Channel.closed_of_receive_protocol hreceive).2⟩
    refine ⟨none, _, by rw [move, hreceive], ?_⟩
    exact settle_of_builtIn hroles hready (hunderway.only.of_openStreams hexchanges.openStreams)
      (by simp)
  | @givesUp record received reason request hreceive hprocess =>
    obtain ⟨hready, honly⟩ := hunderway.told hreceive
    refine ⟨some record, _, by rw [move, hreceive], ?_⟩
    simp only [handle, hprocess]
    exact settle_of_builtIn hroles hready honly (by simp)
  | @completes record received request hreceive hprocess =>
    obtain ⟨hready, honly⟩ := hunderway.told hreceive
    have htakes := Request.takes_process hunderway.receiving record
    rw [hprocess] at htakes
    obtain ⟨hopen, -, hcontinues, -⟩ := htakes.complete
    refine ⟨some record, _, by rw [move, hreceive], ?_⟩
    simp only [handle, hprocess]
    refine settle_of_builtIn hroles hready honly fun _ => ?_
    rw [hcontinues.replyId, hcontinues.id]
    exact hopen.replyId

/-- A session that stands at an end comes to it with the next move. -/
theorem exists_move_of_ends {result : Except TransportError Unit} {shutdown : Bool}
    (h : session.Ends server result shutdown) :
    ∃ record? final, server.move session = (record?, .off result final) ∧
      final.connection.shutdown = shutdown := by
  cases h with
  | leaves hends hreports =>
    obtain ⟨e, final, hreports', hmove, hshutdown, -⟩ := server.move_of_endsIn hunderway hends
    rw [departure_of_reports hreports hreports']
    exact ⟨none, final, hmove, hshutdown⟩
  | finishes hfinishes hkeeps =>
    obtain ⟨record?, after, hmove, hafter⟩ := move_of_finishes hroles hunderway hfinishes
    rw [hkeeps, if_neg (by decide)] at hafter
    obtain ⟨final, rfl, hshutdown⟩ := hafter
    exact ⟨record?, final, hmove, hshutdown⟩

/-- A session stands at an end, or else it goes on. -/
theorem ends_or_goes_on :
    (∃ result shutdown, session.Ends server result shutdown) ∨
      ∃ record? session', server.move session = (record?, .on session') := by
  have hfinishes : ∀ {request outcome}, session.Finishes request outcome →
      (∃ result shutdown, session.Ends server result shutdown) ∨
        ∃ record? session', server.move session = (record?, .on session') := by
    intro request outcome h
    cases hkeeps : keeps request outcome (server.ending? request outcome) with
    | false => exact .inl ⟨_, _, .finishes h hkeeps⟩
    | true =>
      obtain ⟨record?, after, hmove, hafter⟩ := move_of_finishes hroles hunderway h
      rw [hkeeps, if_pos rfl] at hafter
      obtain ⟨session', rfl⟩ := hafter
      exact .inr ⟨record?, session', hmove⟩
  rcases hreceive : session.channel.receive with ⟨e | record, received⟩
  · cases e with
    | protocol e => exact hfinishes (.unreadable hreceive)
    | closed | io | timeout =>
      have hawait := congrArg Prod.fst hreceive
      rw [Channel.receive, if_neg (by simp [hunderway.ready.opened])] at hawait
      obtain ⟨arrival, hends, hreports⟩ := Channel.endsIn_of_await hawait (by simp)
      exact .inl ⟨_, _, .leaves hends hreports⟩
  · rcases hprocess : session.request.process record with ⟨reason | _ | reply | _, request⟩
    · exact hfinishes (.givesUp hreceive hprocess)
    · exact .inr ⟨_, _, move_of_more hreceive hprocess⟩
    · have htakes := Request.takes_process hunderway.receiving record
      rw [hprocess] at htakes
      obtain ⟨rfl, hreply⟩ := htakes.answer
      obtain ⟨hready, -⟩ := hunderway.told hreceive
      obtain ⟨sent, hsend, -⟩ := Channel.sendRecord_of_ready hready hreply
      refine .inr ⟨some record, ⟨session.request, sent⟩, ?_⟩
      rw [move, hreceive]
      simp only [handle, hprocess, hsend]
    · exact hfinishes (.completes hreceive hprocess)

end

/-! ## Serving -/

/-- Serving a channel passes through a session. -/
def Passes (server : Server) (channel : Channel) (session : Session) : Prop :=
  ∃ received, server.Reaches (server.firstSession channel) received session

section

variable {server : Server} {connection : Connection} (hreliable : connection.Reliable)
  (hsent : connection.sent = #[]) (hshutdown : connection.shutdown = false) {timeout : Duration}
  {peer : String}

include hreliable hsent hshutdown

/-- Serving passes through no session but on an open channel, whose time to wait is that of the
first. -/
theorem Passes.underway {session : Session}
    (h : server.Passes (.new connection timeout peer) session) :
    session.Underway ∧ session.channel.timeout = timeout := by
  obtain ⟨received, hreaches⟩ := h
  have hbalanced := balanced_of_reaches
    (server.balanced_firstSession hreliable hsent timeout peer) hreaches
  have hleads := leads_of_reaches hreaches
  exact ⟨⟨hbalanced.ready, hbalanced.only, hbalanced.receiving,
    hleads.shutdown_of_opened (fun _ => hshutdown) hbalanced.ready.opened⟩, hleads.timeout⟩

/-- Serving comes to the end of the one session that it passes through and that stands at an end. -/
theorem serve_iff_ends (hroles : server.roles.BuiltIn) {result : Except TransportError Unit}
    {shutdown : Bool} :
    ((server.serve (.new connection timeout peer)).1 = result ∧
        (server.serve (.new connection timeout peer)).2.connection.shutdown = shutdown) ↔
      ∃ session, server.Passes (.new connection timeout peer) session ∧
        session.Ends server result shutdown := by
  constructor
  · rintro ⟨rfl, rfl⟩
    obtain ⟨received, session, record?, hstops⟩ :=
      server.exists_stop_serve (.new connection timeout peer)
    have hpasses : server.Passes (.new connection timeout peer) session :=
      ⟨received, hstops.reaches⟩
    obtain ⟨hunderway, -⟩ := hpasses.underway hreliable hsent hshutdown
    refine ⟨session, hpasses, ?_⟩
    rcases ends_or_goes_on hroles hunderway with ⟨result, shutdown, hends⟩ | ⟨_, _, hon⟩
    · obtain ⟨_, final, hmove, rfl⟩ := exists_move_of_ends hroles hunderway hends
      obtain ⟨rfl, rfl⟩ := Move.off.inj (Prod.mk.inj (hmove.symm.trans hstops.move)).2
      exact hends
    · cases hon.symm.trans hstops.move
  · rintro ⟨session, hpasses, hends⟩
    obtain ⟨hunderway, -⟩ := hpasses.underway hreliable hsent hshutdown
    obtain ⟨received, hreaches⟩ := hpasses
    obtain ⟨_, final, hmove, rfl⟩ := exists_move_of_ends hroles hunderway hends
    rw [serve_eq_of_reaches hreaches, hmove]
    exact ⟨rfl, rfl⟩

/-- An error is the end of one session as well: it leaves the stream open. -/
theorem serve_error_iff (hroles : server.roles.BuiltIn) {e : TransportError} :
    (server.serve (.new connection timeout peer)).1 = .error e ↔
      ∃ session, server.Passes (.new connection timeout peer) session ∧
        session.Ends server (.error e) false := by
  have hiff {shutdown : Bool} :=
    @serve_iff_ends server connection hreliable hsent hshutdown timeout peer hroles (.error e)
      shutdown
  constructor
  · intro hresult
    obtain ⟨session, hpasses, hends⟩ := hiff.1 ⟨hresult, rfl⟩
    obtain ⟨hopen, -⟩ := Session.ends_error_iff.1 hends
    exact ⟨session, hpasses, hopen ▸ hends⟩
  · intro h
    exact (hiff.2 h).1

/-- Where nothing more arrives, nothing more is sent. -/
theorem sent_serve_of_endsIn {session : Session}
    (hpasses : server.Passes (.new connection timeout peer) session)
    {arrival : Connection.Arrival} (hends : session.channel.EndsIn arrival) :
    (server.serve (.new connection timeout peer)).2.connection.sent =
      session.channel.connection.sent := by
  obtain ⟨hunderway, -⟩ := hpasses.underway hreliable hsent hshutdown
  obtain ⟨e, left, -, hmove, -, hleft⟩ := server.move_of_endsIn hunderway hends
  obtain ⟨received, hreaches⟩ := hpasses
  rw [serve_eq_of_reaches hreaches, hmove]
  exact hleft

omit hshutdown hsent in
/-- How closing the stream goes makes no difference to what is reported or sent. -/
theorem serve_closing (closing : Behaviour) :
    let served := server.serve (.new connection timeout peer)
    let served' := server.serve (.new { connection with closing } timeout peer)
    served'.1 = served.1 ∧ served'.2.connection.sent = served.2.connection.sent ∧
      served'.2.connection.shutdown = served.2.connection.shutdown := by
  intro served served'
  let channel := Channel.new connection timeout peer
  let channel' := Channel.new { connection with closing } timeout peer
  have hinput : channel.SameInput channel' := ⟨rfl, rfl, rfl, rfl, rfl⟩
  have hreliable' : channel'.connection.Reliable :=
    ⟨hreliable.capacity, hreliable.chunk, hreliable.flushing⟩
  have hdescribes := @describes_serve server channel hreliable
    (Channel.outputOnly_new connection timeout peer)
  have hdescribes' := server.describes_serve hreliable'
    (Channel.outputOnly_new { connection with closing } timeout peer)
  rw [hinput.delivery] at hdescribes'
  refine ⟨hdescribes'.result.trans hdescribes.result.symm, ?_,
    hdescribes'.shutdown.trans hdescribes.shutdown.symm⟩
  rw [← Array.toList_inj]
  exact hdescribes'.sent.trans hdescribes.sent.symm

/-- **How a connection ends.** Serving a connection that takes all that is sent, with no other
applications than the ones at hand, goes through a session at which it ends, in one of four ways.
- It succeeds, and does not shut the stream down, if and only if the stream of the peer is at its
  end.
- It reports a fault if and only if a read meets that fault.
- It reports that time is up if and only if a read brings nothing in time, and the request has
  begun.
- It succeeds and shuts the stream down if and only if a read brings nothing in time and no request
  has begun, or a request ends after which the connection is not kept.

There is no other error, and a read that brings nothing more has nothing more written. The stream is
shut down once at most, and how that goes makes no difference to what is reported or written. -/
theorem serve_ends (hroles : server.roles.BuiltIn) :
    let channel := Channel.new connection timeout peer
    let result := (server.serve channel).1
    let final := (server.serve channel).2
    ((result = .ok () ∧ final.connection.shutdown = false) ↔
      ∃ session, server.Passes channel session ∧ session.channel.EndsIn .endOfStream) ∧
    (∀ reason, result = .error (.io reason) ↔
      ∃ session, server.Passes channel session ∧ session.channel.EndsIn (.fault reason)) ∧
    (∀ limit, result = .error (.timeout limit) ↔
      limit = timeout ∧ ∃ session, server.Passes channel session ∧
        session.channel.EndsIn .timedOut ∧ session.request.replyId.isSome = true) ∧
    ((result = .ok () ∧ final.connection.shutdown = true) ↔
      ∃ session, server.Passes channel session ∧
        ((session.channel.EndsIn .timedOut ∧ session.request.replyId = none) ∨
          ∃ request outcome, session.Finishes request outcome ∧
            keeps request outcome (server.ending? request outcome) = false)) ∧
    (final.connection.shutdown = true → result = .ok ()) ∧
    (∀ e, result = .error e → (∃ reason, e = .io reason) ∨ e = .timeout timeout) ∧
    (∀ session arrival, server.Passes channel session → session.channel.EndsIn arrival →
      final.connection.sent = session.channel.connection.sent) ∧
    (final.connection.shutdowns ≤ 1 ∧
      (final.connection.shutdowns = 1 ↔ final.connection.shutdown = true)) ∧
    ∀ closing,
      let final' := server.serve (.new { connection with closing } timeout peer)
      final'.1 = result ∧ final'.2.connection.sent = final.connection.sent ∧
        final'.2.connection.shutdown = final.connection.shutdown := by
  intro channel result final
  have hiff {result' : Except TransportError Unit} {shutdown : Bool} :
      (result = result' ∧ final.connection.shutdown = shutdown) ↔
        ∃ session, server.Passes channel session ∧ session.Ends server result' shutdown :=
    serve_iff_ends hreliable hsent hshutdown hroles
  have htimeout {session : Session} (hpasses : server.Passes channel session) :
      session.channel.timeout = timeout := (hpasses.underway hreliable hsent hshutdown).2
  have herror (e : TransportError) : result = .error e ↔
      ∃ session, server.Passes channel session ∧ session.Ends server (.error e) false :=
    serve_error_iff hreliable hsent hshutdown hroles
  refine ⟨?_, fun reason => ?_, fun limit => ?_, ?_, fun hclosed => ?_, fun e he => ?_,
    fun session arrival hpasses => sent_serve_of_endsIn hreliable hsent hshutdown hpasses,
    (server.leads_serve channel).shutdowns_le_one hshutdown, serve_closing hreliable⟩
  · rw [hiff]
    simp only [Session.ends_ok_false_iff]
  · rw [herror]
    simp only [Session.ends_error_iff]
    constructor
    · rintro ⟨session, hpasses, -, ⟨_, h, hends⟩ | ⟨h, -⟩⟩
      · cases h
        exact ⟨session, hpasses, hends⟩
      · cases h
    · rintro ⟨session, hpasses, hends⟩
      exact ⟨session, hpasses, trivial, .inl ⟨reason, rfl, hends⟩⟩
  · rw [herror]
    simp only [Session.ends_error_iff]
    constructor
    · rintro ⟨session, hpasses, -, ⟨_, h, -⟩ | ⟨h, hends⟩⟩
      · cases h
      · cases h
        exact ⟨htimeout hpasses, session, hpasses, hends⟩
    · rintro ⟨rfl, session, hpasses, hends⟩
      exact ⟨session, hpasses, trivial, .inr ⟨by rw [htimeout hpasses], hends⟩⟩
  · rw [hiff]
    simp only [Session.ends_ok_true_iff]
  · cases hresult : result with
    | ok => rfl
    | error e =>
      obtain ⟨session, hpasses, h⟩ := (herror e).1 hresult
      cases hclosed.symm.trans (hiff.2 ⟨session, hpasses, h⟩).2
  · obtain ⟨session, hpasses, h⟩ := (herror e).1 he
    obtain ⟨-, ⟨reason, rfl, -⟩ | ⟨rfl, -⟩⟩ := Session.ends_error_iff.1 h
    · exact .inl ⟨reason, rfl⟩
    · exact .inr (by rw [htimeout hpasses])

end

/-- Two connections on which closing takes too long: one falls silent in the middle of a request,
the other before any. -/
theorem serve_ends_silent :
    let script (records : List Record) : List Event := [.data (Record.encodeAll records), .silence]
    let channel (records : List Record) : Channel :=
      .new { Connection.new (script records) with closing := .stalls } ⟨1⟩
    let served (records : List Record) := standardServer.serve (channel records)
    ((served ((echo 1 []).take 1)).1 = .error (.timeout ⟨1⟩) ∧
      ∃ session, standardServer.Passes (channel ((echo 1 []).take 1)) session ∧
        session.channel.EndsIn .timedOut ∧ session.request.replyId.isSome = true) ∧
    ((served []).1 = .ok () ∧ (served []).2.connection.shutdown = true ∧
      (served []).2.connection.shutdowns = 1) := by
  intro script channel served
  have hreliable (records : List Record) : (channel records).connection.Reliable :=
    ⟨rfl, nofun, rfl⟩
  have hends (records : List Record) :=
    @serve_ends standardServer (channel records).connection (hreliable records) rfl rfl ⟨1⟩
      "unknown" RoleTable.builtIn_standard
  refine ⟨?_, ?_⟩
  · obtain ⟨-, -, htimeout, -⟩ := hends ((echo 1 []).take 1)
    have hresult : (served ((echo 1 []).take 1)).1 = .error (.timeout ⟨1⟩) := by decide +kernel
    exact ⟨hresult, ((htimeout ⟨1⟩).1 hresult).2⟩
  · obtain ⟨-, -, -, -, -, -, -, ⟨-, hone⟩, -⟩ := hends []
    have hshutdown : (served []).2.connection.shutdown = true := by decide +kernel
    exact ⟨by decide +kernel, hshutdown, hone.2 hshutdown⟩

end Server

end FastCgi
