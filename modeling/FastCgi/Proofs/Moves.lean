import FastCgi.Proofs.Delivery
import FastCgi.Server.Session

/-!
# Serving record by record

`Server.move` is what serving does between two receives: it takes what is received next, answers a
record that calls for an answer at once, and if the request has ended concludes it and begins with
the next one. Serving goes from session to session by such moves (`Reaches`) until one of them ends
it (`exists_stop`), so that whatever a move preserves holds at every point of serving.
-/

namespace FastCgi

/-- How a session stands after a move. -/
inductive Move where
  /-- It goes on. -/
  | on (session : Session)
  /-- The connection has been served to its end. -/
  | off (result : Except TransportError Unit) (channel : Channel)

namespace Server

/-- Concludes a request that has ended, and begins with the next one if there is to be one. -/
def settle (server : Server) (request : Request) (outcome : RunOutcome) (channel : Channel) :
    Move :=
  match server.conclude request outcome channel with
  | (.last result, channel) => .off result channel
  | (.next nextId, channel) => .on ⟨server.newRequest nextId, channel⟩

/-- Leaves a connection on which a request could not be received to its end. -/
def abandon (error : TransportError) (request : Request) (channel : Channel) : Move :=
  .off (leave error request channel).1 (leave error request channel).2

/-- Has a request take a record that was received, and does what that calls for. -/
def handle (server : Server) (request : Request) (record : Record) (received : Channel) : Move :=
  let told := request.tellRemark record received
  match request.process record with
  | (.error reason, request) => server.settle request.abort (.aborted reason) told
  | (.ok .complete, request) => server.settle request .complete told
  | (.ok .more, request) => .on ⟨request, told⟩
  | (.ok (.reply reply), request) =>
    match told.sendRecord reply with
    | (.error e, channel) => abandon e request channel
    | (.ok (), channel) => .on ⟨request, channel⟩

/-- One record's worth of serving: the record, if one was received, and how the session stands
then. -/
def move (server : Server) (session : Session) : Option Record × Move :=
  match session.channel.receive with
  | (.error (.protocol e), channel) =>
    (none, server.settle session.request.abort (.aborted (.protocol e)) channel)
  | (.error e, channel) => (none, abandon e session.request channel)
  | (.ok record, channel) => (some record, server.handle session.request record channel)

/-- A session goes on if its request takes the next record and needs more. -/
theorem move_of_more {server : Server} {session : Session} {record : Record} {received : Channel}
    {request : Request} (hreceive : session.channel.receive = (.ok record, received))
    (hprocess : session.request.process record = (.ok .more, request)) :
    server.move session =
      (some record, .on ⟨request, session.request.tellRemark record received⟩) := by
  rw [move, hreceive]
  simp only [handle, hprocess]

/-! ## Moves make up serving -/

/-- What serving comes to from a move on. -/
def finish (server : Server) : Move → Except TransportError Unit × Channel
  | .on session => (server.proceed session.request session.channel).final
  | .off result channel => (result, channel)

/-- To go on from a request that has ended is what serving makes of its conclusion. -/
theorem finish_settle (server : Server) (request : Request) (outcome : RunOutcome)
    (channel : Channel) :
    server.finish (server.settle request outcome channel) =
      match server.conclude request outcome channel with
      | (.last result, channel) => (result, channel)
      | (.next nextId, channel) => server.serveAfter nextId channel := by
  unfold settle
  split
  next => rfl
  next => exact (final_proceed ..).trans (serveAfter_eq ..).symm

/-- To serve from a session on is to make a move, and to go on from there. -/
theorem finish_move (server : Server) (session : Session) :
    server.finish (server.move session).2 = server.finish (.on session) := by
  obtain ⟨request, channel⟩ := session
  have hon : ∀ request channel, server.finish (.on ⟨request, channel⟩) =
      match server.turn request channel with
      | (.last result, channel) => (result, channel)
      | (.next nextId, channel) => server.serveAfter nextId channel :=
    fun request channel => server.final_proceed request channel
  rw [hon, move, turn, Request.run_eq]
  cases hreceive : channel.receive with
  | mk result received =>
    cases result with
    | error e => cases e <;> first | exact finish_settle .. | rfl
    | ok record =>
      simp only [handle]
      cases hprocess : request.process record with
      | mk step request' =>
        rcases step with reason | _ | reply | _
        · exact finish_settle ..
        · exact hon ..
        · simp only
          cases hsend : (request.tellRemark record received).sendRecord reply with
          | mk sent channel' =>
            cases sent with
            | error e => rfl
            | ok => exact hon ..
        · exact finish_settle ..

/-! ## Every move reads something -/

/-- A request that has ended leaves as much to be read, and is gone on from only if records can
still be read. -/
theorem settle_unread_le {server : Server} {request : Request} {outcome : RunOutcome}
    {channel : Channel} {session : Session}
    (h : server.settle request outcome channel = .on session) :
    outcome.preservesFraming = true ∧ session.channel.unread = channel.unread := by
  unfold settle at h
  split at h
  next => cases h
  next hconclude =>
    cases h
    exact conclude_eq_next hconclude

/-- To handle a record reads nothing more. -/
theorem handle_unread_eq {server : Server} {request : Request} {record : Record}
    {received : Channel} {session : Session}
    (h : server.handle request record received = .on session) :
    session.channel.unread = received.unread := by
  have htold := (request.keeps_tellRemark record received).unread
  unfold handle at h
  simp only at h
  split at h
  next => exact (settle_unread_le h).2.trans htold
  next => exact (settle_unread_le h).2.trans htold
  next => cases h; exact htold
  next reply _ _ =>
    have hsent := ((request.tellRemark record received).keeps_sendRecord reply).unread
    split at h
    next => cases h
    next hsend =>
      cases h
      rw [hsend] at hsent
      exact hsent.trans htold

/-- A session that goes on after a move has less to read than before. -/
theorem move_unread_lt {server : Server} {session session' : Session} {record? : Option Record}
    (h : server.move session = (record?, .on session')) :
    session'.channel.unread < session.channel.unread := by
  unfold move at h
  split at h
  next e _ hreceive =>
    obtain ⟨hframing, -⟩ := settle_unread_le (Prod.mk.inj h).2
    rw [RunOutcome.preservesFraming, AbortReason.preservesFraming,
      Channel.preservesFraming_of_receive hreceive] at hframing
    cases hframing
  next => cases (Prod.mk.inj h).2
  next hreceive =>
    rw [handle_unread_eq (Prod.mk.inj h).2]
    exact Channel.receive_unread_lt hreceive

/-- The record of a move is the next one that the channel delivers. -/
theorem prefix_of_move {server : Server} {session : Session} {record? : Option Record}
    {after : Move} (h : server.move session = (record?, after)) :
    record?.toList <+: session.channel.delivery.records := by
  unfold move at h
  split at h
  next => cases h; exact List.nil_prefix
  next => cases h; exact List.nil_prefix
  next hreceive =>
    cases h
    rw [Channel.delivery_eq_of_ok hreceive]
    exact ⟨_, rfl⟩

/-! ## The points of serving -/

/-- The sessions that serving goes through from a first one on, each with the records that have been
received on the way to it. -/
inductive Reaches (server : Server) (start : Session) : List Record → Session → Prop
  | start : Reaches server start [] start
  | move {received : List Record} {session session' : Session} {record? : Option Record} :
    Reaches server start received session → server.move session = (record?, .on session') →
      Reaches server start (received ++ record?.toList) session'

/-- Wherever serving has come to, it comes to the same in the end. -/
theorem finish_of_reaches {server : Server} {start session : Session} {received : List Record}
    (h : server.Reaches start received session) :
    server.finish (.on session) = server.finish (.on start) := by
  induction h with
  | start => rfl
  | @move _ session session' _ _ hmove ih =>
    have hfinish := server.finish_move session
    rw [hmove] at hfinish
    exact hfinish.trans ih

/-- The move that ends serving. -/
structure Stops (server : Server) (start : Session) (received : List Record) (session : Session)
    (record? : Option Record) (result : Except TransportError Unit) (channel : Channel) :
    Prop where
  reaches : server.Reaches start received session
  move : server.move session = (record?, .off result channel)

/-- Serving makes its moves until one of them ends it, and comes to what that one does. -/
theorem exists_stop {server : Server} {start session : Session} {received : List Record}
    (h : server.Reaches start received session) :
    ∃ received' session' record?, server.Stops start received' session' record?
      (server.finish (.on session)).1 (server.finish (.on session)).2 := by
  induction hunread : session.channel.unread using Nat.strongRecOn
    generalizing received session with
  | ind unread ih =>
    have hfinish := server.finish_move session
    cases hmove : server.move session with
    | mk record? after =>
      rw [hmove] at hfinish
      rw [← hfinish]
      cases after with
      | off result channel => exact ⟨received, session, record?, h, hmove⟩
      | on session' =>
        have hlt := hunread ▸ move_unread_lt hmove
        exact ih _ hlt (h.move hmove) rfl

/-- The session with which a connection begins to be served. -/
def firstSession (server : Server) (channel : Channel) : Session :=
  ⟨server.newRequest none, channel⟩

/-- A connection is served by the moves from its first session on. -/
theorem exists_stop_serve (server : Server) (channel : Channel) :
    ∃ received session record?, server.Stops (server.firstSession channel) received session record?
      (server.serve channel).1 (server.serve channel).2 := by
  rw [serve_eq_proceed]
  exact exists_stop .start

/-- Serving comes to what it comes to from any of its sessions on. -/
theorem serve_eq_of_reaches {server : Server} {channel : Channel} {session : Session}
    {received : List Record} (h : server.Reaches (server.firstSession channel) received session) :
    server.serve channel = server.finish (server.move session).2 :=
  (server.serve_eq_proceed channel).trans
    ((finish_of_reaches h).symm.trans (server.finish_move session).symm)

end Server

end FastCgi
