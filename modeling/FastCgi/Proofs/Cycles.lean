import FastCgi.Proofs.Answering
import FastCgi.Proofs.Intake

/-!
# What a connection is answered

Serving a connection is a sequence of cycles, each of which runs one request and answers it.
`Cycle.Of` says what one cycle sends: the answers to management records and to other requests that
want to begin, in the order of the records that call for them; the output of the application, if
one was let answer; and at most one record that ends the request. `Server.Chain` says when a cycle is
followed by another one, and `decodeAll_serve` that all a connection is ever sent are the cycles of
such a chain.
-/

namespace FastCgi

/-! ## Cycles -/

/-- What became of one request on a connection. -/
structure Cycle where
  /-- The records that were received for it, others among them. -/
  received : List Record
  /-- What receiving came to. -/
  outcome : Except TransportError RunOutcome
  /-- The request as receiving left it. -/
  request : Request
  /-- How its application ended, if one was let answer. -/
  role : Option Server.RoleOutcome
  /-- What the application sent. -/
  output : List Record

namespace Cycle

/-- The answers to management records and to other requests. -/
def replies (cycle : Cycle) (info : ServerInfo) : List Record :=
  cycle.received.filterMap (Request.reply? info cycle.request.replyId)

/-- The record that ends the request, if there is one. -/
def completion? (cycle : Cycle) : Option Record :=
  match cycle.outcome with
  | .ok outcome => Server.completion? cycle.request outcome cycle.role
  | .error _ => none

/-- Whether the connection is kept after the request. -/
def keeps (cycle : Cycle) : Bool :=
  match cycle.outcome with
  | .ok outcome => Server.keeps cycle.request outcome cycle.role
  | .error _ => false

/-- All that is sent in a cycle. -/
def frames (cycle : Cycle) (info : ServerInfo) : List Record :=
  cycle.replies info ++ cycle.output ++ cycle.completion?.toList

/-- A cycle is what one run on a channel comes to, and what the server makes of that. -/
structure Of (cycle : Cycle) (server : Server) (previousId : Option UInt16) (channel : Channel) :
    Prop where
  received :
    cycle.received = ((server.newRequest previousId).intake channel.delivery.records).taken
  /-- There is an outcome of a role if the request is complete and its role has an application. -/
  run : ∃ channel', (server.newRequest previousId).run channel =
      (cycle.outcome, cycle.request, channel') ∧
    cycle.role = match cycle.outcome with
      | .ok outcome => server.roleOutcome? cycle.request outcome channel'
      | .error _ => none
  own : ∀ r ∈ cycle.output, r.OutputOf cycle.request.context.id
  silent : cycle.role = none → cycle.output = []
  /-- The answer to a complete request goes to its own id. -/
  complete : cycle.outcome = .ok .complete →
    cycle.request.replyId = some cycle.request.context.id

/-- How the record that ends a request is to be understood, and when there is one. -/
structure Ended (cycle : Cycle) : Prop where
  /-- There is one if the request was complete and its application could send, or if the request was
  given up and there is an id to send to. -/
  isSome_iff : cycle.completion?.isSome = true ↔
    (cycle.outcome = .ok .complete ∧ ∀ e, cycle.role ≠ some (.failed (.transport e))) ∨
      ∃ reason, cycle.outcome = .ok (.aborted reason) ∧ cycle.request.replyId.isSome = true
  /-- It says how the request ended, and goes to the id that answers go to. -/
  reads : ∀ record, cycle.completion? = some record →
    ∃ outcome body, cycle.outcome = .ok outcome ∧
      Server.endBody? outcome cycle.role = some body ∧ record.type = .endRequest ∧
      cycle.request.replyId = some record.id ∧ EndBody.ofBytes record.content = .ok body
  /-- No connection is kept without it. -/
  of_keeps : cycle.keeps = true →
    cycle.completion?.isSome = true ∧ cycle.request.context.keep = true

/-- However a cycle comes about, the record that ends its request is to be understood in the same
way. -/
theorem Of.ended {cycle : Cycle} {server : Server} {previousId : Option UInt16} {channel : Channel}
    (h : cycle.Of server previousId channel) : cycle.Ended where
  isSome_iff := by
    unfold completion?
    split
    next outcome houtcome =>
      cases outcome with
      | complete =>
        rw [houtcome, Server.completion?, h.complete houtcome]
        cases cycle.role with
        | none => simp [Server.endBody?]
        | some outcome =>
          cases outcome with
          | finished | crashed => simp [Server.endBody?]
          | failed error => cases error <;> simp [Server.endBody?]
      | aborted reason => simp [houtcome, Server.completion?, Server.endBody?]
    next houtcome => simp [houtcome]
  reads record hrecord := by
    unfold completion? at hrecord
    split at hrecord
    next outcome houtcome =>
      obtain ⟨body, hbody, hrecord⟩ := Option.bind_eq_some_iff.1 hrecord
      obtain ⟨id, hid, rfl⟩ := Option.map_eq_some_iff.1 hrecord
      exact ⟨outcome, body, houtcome, hbody, rfl, hid, EndBody.ofBytes_toBytes body⟩
    next => cases hrecord
  of_keeps hkeeps := by
    unfold keeps at hkeeps
    unfold completion?
    split at hkeeps
    next outcome houtcome =>
      cases outcome with
      | complete =>
        simp only [Server.completion?, h.complete houtcome]
        cases hrole : cycle.role with
        | none =>
          rw [hrole] at hkeeps
          exact ⟨rfl, hkeeps⟩
        | some outcome =>
          rw [hrole] at hkeeps
          cases outcome with
          | finished => exact ⟨rfl, hkeeps⟩
          | failed | crashed => cases hkeeps
      | aborted reason =>
        obtain ⟨hreply, hkeep, -⟩ : _ ∧ _ ∧ _ := by
          simpa only [Server.keeps, Bool.and_eq_true] using hkeeps
        refine ⟨?_, hkeep⟩
        simpa [Server.completion?, Server.endBody?] using hreply
    next => cases hkeeps

end Cycle

/-! ## One turn -/

namespace Server

/-- A turn on a channel to which some records have been sent. -/
structure Turns (server : Server) (previousId : Option UInt16) (channel : Channel)
    (before : List Record) (cycle : Cycle) (after : Turn) (channel' : Channel) : Prop where
  of : cycle.Of server previousId channel
  turn : server.turn (server.newRequest previousId) channel = (after, channel')
  wrote : channel'.Wrote (before ++ cycle.frames server.info)
  next : cycle.keeps = true → after = .next cycle.request.replyId ∧ channel'.Ready ∧
    channel'.OutputOnly ∧ channel.delivery.records = cycle.received ++ channel'.delivery.records
  last : cycle.keeps = false → (∃ result, after = .last result) ∧
    (cycle.completion?.isSome = true → channel'.closed = true)

section

variable {server : Server} {previousId : Option UInt16} {channel between : Channel}
  {before received : List Record} {request : Request} (hwrote : channel.Wrote before)

include hwrote

/-- A turn whose request was not received to its end sends answers only. -/
theorem Turns.of_error {e : TransportError}
    (hruns : (server.newRequest previousId).RunsTo channel received (.error e) request between) :
    server.Turns previousId channel before ⟨received, .error e, request, none, []⟩
      (.last (leave e request between).1) (leave e request between).2 where
  of := ⟨hruns.taken, ⟨between, hruns.run, rfl⟩, nofun, fun _ => rfl, nofun⟩
  turn := by rw [Server.turn, hruns.run]
  wrote := by
    have hbetween := hruns.exchanges.wrote hwrote
    have hframes : Cycle.frames ⟨received, .error e, request, none, []⟩ server.info =
        received.filterMap (Request.reply? server.info request.replyId) := by
      simp [Cycle.frames, Cycle.completion?, Cycle.replies]
    rw [hframes]
    exact ⟨hbetween.wellFormed, by rw [sent_leave]; exact hbetween.sent⟩
  next := nofun
  last _ := ⟨⟨_, rfl⟩, nofun⟩

/-- A turn whose request was received to its end concludes it. -/
theorem exists_turns_of_ok (hreliable : channel.connection.Reliable) (honly : channel.OutputOnly)
    {outcome : RunOutcome}
    (hruns : (server.newRequest previousId).RunsTo channel received (.ok outcome) request between) :
    ∃ cycle after channel', server.Turns previousId channel before cycle after channel' := by
  have hturn : server.turn (server.newRequest previousId) channel =
      server.conclude request outcome between := by
    rw [turn, hruns.run]
  have hready : between.Ready := ⟨hruns.exchanges.reliable hreliable, hruns.opened rfl⟩
  have honly' := honly.of_openStreams hruns.exchanges.openStreams
  obtain ⟨output, channel', hconcludes⟩ := server.concludes hready honly' outcome fun hcomplete =>
    hruns.complete (congrArg Except.ok hcomplete)
  have hsent := (hruns.exchanges.wrote hwrote).sends hconcludes.sends
  let cycle : Cycle :=
    ⟨received, .ok outcome, request, server.roleOutcome? request outcome between, output⟩
  have hof : cycle.Of server previousId channel :=
    ⟨hruns.taken, ⟨between, hruns.run, rfl⟩, hconcludes.own, hconcludes.silent,
      fun hcomplete => hruns.complete hcomplete⟩
  have hframes : before ++ cycle.frames server.info =
      before ++ received.filterMap (Request.reply? server.info request.replyId) ++
        (output ++ cycle.completion?.toList) := by
    simp [cycle, Cycle.frames, Cycle.replies]
  have hnext := hconcludes.conclude
  split at hnext
  next hkeeps =>
    refine ⟨cycle, .next request.replyId, channel', hof, by rw [hturn, hnext], ?_,
      fun _ => ⟨rfl, hconcludes.sends.ready hready, hconcludes.only, ?_⟩, fun hlast => ?_⟩
    · rw [hframes]
      exact hsent
    · have hframing : outcome.preservesFraming = true := (conclude_eq_next hnext).1
      rw [hruns.rest outcome rfl hframing, ← hconcludes.sends.sameInput.delivery]
    · exact absurd (hlast.symm.trans hkeeps) (by decide)
  next hkeeps =>
    obtain ⟨result, final, hlast, hfinal, hclosed⟩ := hnext
    refine ⟨cycle, .last result, final, hof, by rw [hturn, hlast], ?_,
      fun hnext => absurd hnext hkeeps, fun _ => ⟨⟨result, rfl⟩, hclosed⟩⟩
    rw [hframes]
    exact ⟨hsent.wellFormed, by rw [hfinal]; exact hsent.sent⟩

end

/-- Every turn is a cycle. -/
theorem exists_turns (server : Server) (previousId : Option UInt16) {channel : Channel}
    (hreliable : channel.connection.Reliable) (honly : channel.OutputOnly) {before : List Record}
    (hwrote : channel.Wrote before) :
    ∃ cycle after channel', server.Turns previousId channel before cycle after channel' := by
  have hfresh : (server.newRequest previousId).Receiving := .inl (Request.fresh_new ..)
  obtain ⟨received, outcome, request, between, hruns⟩ := Request.exists_runsTo hfresh hreliable
  cases outcome with
  | error e => exact ⟨_, _, _, .of_error hwrote hruns⟩
  | ok outcome => exact exists_turns_of_ok hwrote hreliable honly hruns

/-! ## Chains of cycles -/

/-- The cycles of a connection, from the one after a request of the given id on. A cycle is followed
by another one exactly if the connection is kept after it. -/
inductive Chain (server : Server) : Option UInt16 → Channel → List Cycle → Channel → Prop
  /-- If the last request was ended with a record, that record has closed the connection. -/
  | last {previousId : Option UInt16} {channel channel' : Channel} {cycle : Cycle}
      {result : Except TransportError Unit} : cycle.Of server previousId channel →
    server.turn (server.newRequest previousId) channel = (.last result, channel') →
    cycle.keeps = false → (cycle.completion?.isSome = true → channel'.closed = true) →
      Chain server previousId channel [cycle] channel'
  | next {previousId : Option UInt16} {channel between channel' : Channel} {cycle : Cycle}
      {cycles : List Cycle} : cycle.Of server previousId channel →
    server.turn (server.newRequest previousId) channel = (.next cycle.request.replyId, between) →
    cycle.keeps = true → between.closed = false →
    Chain server cycle.request.replyId between cycles channel' →
      Chain server previousId channel (cycle :: cycles) channel'

/-- Every cycle of a chain is what some run comes to. -/
theorem Chain.of_mem {server : Server} {previousId : Option UInt16} {channel channel' : Channel}
    {cycles : List Cycle} (h : server.Chain previousId channel cycles channel') {cycle : Cycle}
    (hcycle : cycle ∈ cycles) :
    ∃ previousId channel, cycle.Of server previousId channel := by
  induction h with
  | last hof =>
    obtain rfl := List.mem_singleton.1 hcycle
    exact ⟨_, _, hof⟩
  | next hof _ _ _ _ ih =>
    rcases List.mem_cons.1 hcycle with rfl | hcycle
    · exact ⟨_, _, hof⟩
    · exact ih hcycle

/-- Serving goes through a chain of cycles, which take the records that are delivered one after
another, and whose records are all that is sent. -/
theorem exists_chain (server : Server) (previousId : Option UInt16) {channel : Channel}
    (hreliable : channel.connection.Reliable) (honly : channel.OutputOnly) {before : List Record}
    (hwrote : channel.Wrote before) :
    ∃ cycles, server.Chain previousId channel cycles (server.serveAfter previousId channel).2 ∧
      (server.serveAfter previousId channel).2.Wrote
        (before ++ cycles.flatMap (·.frames server.info)) ∧
      cycles.flatMap Cycle.received <+: channel.delivery.records := by
  induction previousId, channel using serveAfter.induct server generalizing before with
  | case1 previousId channel result channel' hturn =>
    obtain ⟨cycle, after, final, h⟩ := server.exists_turns previousId hreliable honly hwrote
    obtain ⟨rfl, rfl⟩ : after = .last result ∧ final = channel' := by
      simpa using h.turn.symm.trans hturn
    have hlast : cycle.keeps = false := by
      refine Bool.eq_false_iff.2 fun hkeeps => ?_
      cases (h.next hkeeps).1
    rw [serveAfter_eq, hturn]
    refine ⟨[cycle], .last h.of h.turn hlast (h.last hlast).2, ?_, ?_⟩
    · simpa using h.wrote
    · rw [List.flatMap_singleton, h.of.received]
      exact ⟨_, Request.taken_append_rest ..⟩
  | case2 previousId channel nextId channel' hturn _ ih =>
    obtain ⟨cycle, after, final, h⟩ := server.exists_turns previousId hreliable honly hwrote
    obtain ⟨rfl, rfl⟩ : after = .next nextId ∧ final = channel' := by
      simpa using h.turn.symm.trans hturn
    have hkeeps : cycle.keeps = true := by
      refine Decidable.byContradiction fun hlast => ?_
      obtain ⟨⟨result, hresult⟩, -⟩ := h.last (Bool.eq_false_iff.2 hlast)
      cases hresult
    obtain ⟨hafter, hready, honly', hrest⟩ := h.next hkeeps
    obtain rfl : nextId = cycle.request.replyId := Turn.next.inj hafter
    obtain ⟨cycles, hchain, hwrote', hreceived⟩ := ih hready.reliable honly' h.wrote
    rw [serveAfter_eq, hturn]
    refine ⟨cycle :: cycles, .next h.of h.turn hkeeps hready.opened hchain, ?_, ?_⟩
    · rwa [List.flatMap_cons, ← List.append_assoc]
    · rw [List.flatMap_cons, hrest]
      exact (List.prefix_append_right_inj _).2 hreceived

/-- **What a connection is answered.** On a fresh connection that takes all that is sent, the bytes
sent are those of whole records, and the records are those of a chain of cycles, one after
another. -/
theorem decodeAll_serve (server : Server) {connection : Connection}
    (hreliable : connection.Reliable) (hsent : connection.sent = #[]) (timeout : Duration)
    (peer : String) :
    ∃ cycles,
      server.Chain none (.new connection timeout peer) cycles
        (server.serve (.new connection timeout peer)).2 ∧
      Record.decodeAll (server.serve (.new connection timeout peer)).2.connection.sent.toList =
        ⟨cycles.flatMap (·.frames server.info), none, []⟩ ∧
      cycles.flatMap Cycle.received <+: (Channel.new connection timeout peer).delivery.records ∧
      ∀ cycle ∈ cycles, cycle.Ended := by
  obtain ⟨cycles, hchain, hwrote, hreceived⟩ := server.exists_chain none hreliable
    (Channel.outputOnly_new connection timeout peer) (Channel.wrote_new hsent timeout peer)
  rw [List.nil_append] at hwrote
  refine ⟨cycles, hchain, hwrote.decodeAll, hreceived, fun cycle hcycle => ?_⟩
  obtain ⟨previousId, channel, hof⟩ := hchain.of_mem hcycle
  exact hof.ended

/-- A server without applications. -/
def bare : Server := ⟨.empty, .empty, .default, ⟨1, 1⟩⟩

/-- A peer that sends one request, for an application that there is not, and then keeps silent. -/
def hesitant : Connection := .new [
  .data (Record.encodeAll [⟨version1, .beginRequest, 7, [0, 1, 1, 0, 0, 0, 0, 0], 0⟩,
    ⟨version1, .params, 7, [], 0⟩, ⟨version1, .stdin, 7, [], 0⟩]), .silence]

/-- The peer is answered in one cycle, with the record that says that its role is not known. -/
theorem decodeAll_serve_hesitant :
    hesitant.Reliable ∧ hesitant.sent = #[] ∧ ∃ cycles,
      bare.Chain none (.new hesitant ⟨1⟩) cycles (bare.serve (.new hesitant ⟨1⟩)).2 ∧
      cycles.flatMap (·.frames ⟨1, 1⟩) = [.endRequest 7 ⟨.unknownRole, 0⟩] ∧
      ∀ cycle ∈ cycles, cycle.Ended := by
  have hreliable : hesitant.Reliable := Connection.reliable_new _
  obtain ⟨cycles, hchain, hframes, -, hended⟩ :=
    decodeAll_serve bare hreliable rfl ⟨1⟩ "unknown"
  have hsent : (Record.decodeAll
      (bare.serve (.new hesitant ⟨1⟩)).2.connection.sent.toList).records =
        [.endRequest 7 ⟨.unknownRole, 0⟩] := by decide +kernel
  rw [hframes] at hsent
  exact ⟨hreliable, rfl, cycles, hchain, hsent, hended⟩

end Server

end FastCgi
