import FastCgi.Request.Run
import FastCgi.RoleTable

/-!
# Serving a connection

A server answers the requests of a connection one after another, until the connection ends or a
request does not ask to keep it. Each turn receives one request, lets the application of its role
answer it or refuses it, and ends it with an END_REQUEST record.

A turn after which there is another one has read something (`turn_unread_lt`), so that serving comes
to an end whatever the peer does.
-/

namespace FastCgi

/-- A server: its applications, what they can use, and the bounds it keeps. -/
structure Server where
  roles : RoleTable
  services : Services
  limits : Limits
  info : ServerInfo

namespace Server

/-- The log entry about a server that has been set up. -/
def readyEntry (roles : RoleTable) (services : Services) : Entry :=
  let kinds := bracketed (roles.supported.map RoleKind.name)
  ⟨.info, .dispatch,
    s!"FastCGI server ready (roles: {kinds}, services: {services.nameList})"⟩

/-- The log entries about setting up a server with some changes to its table of roles. -/
def setupEntries (changes : List RoleTable.Change) (services : Services) : List Entry :=
  changes.filterMap RoleTable.Change.entry? ++ [readyEntry (.ofChanges changes) services]

/-! ## Letting an application answer -/

/-- How an application ended. -/
inductive RoleOutcome where
  | finished (exitCode : Int32)
  | failed (error : RoleError)
  | crashed (reason : String)

/-- What is said of a crash, with or without a reason. -/
def crashReason (reason : Option String) : String := reason.getD "unknown panic payload"

/-- Lets an application answer, and has it flush its output for the last time, even if it failed.
That the last flush of an application that failed fails as well is only worth a log entry. -/
def invoke (role : Role) (id : UInt16) (channel : Channel) : RoleOutcome × Channel :=
  match role.run.exec (.new id) channel with
  | (.crashed reason, _, channel) => (.crashed (crashReason reason), channel)
  | (.done exitCode, output, channel) =>
    match (role.flush true).exec output channel with
    | (.done (), _, channel) => (.finished exitCode, channel)
    | (.failed error, _, channel) => (.failed error, channel)
    | (.crashed reason, _, channel) => (.crashed (crashReason reason), channel)
  | (.failed error, output, channel) =>
    match (role.flush true).exec output channel with
    | (.done (), _, channel) => (.failed error, channel)
    | (.failed flushError, _, channel) =>
      (.failed error, channel.tell .debug .dispatch
        s!"Final flush after role failure also failed: {flushError.message}")
    | (.crashed reason, _, channel) => (.crashed (crashReason reason), channel)

/-- Ends a request that failed, and the connection with it. -/
def endFailed (id : UInt16) (channel : Channel) : Channel.Outcome Bool :=
  (channel.sendEnd id .requestComplete failureExitCode false).andThen fun _ channel =>
    (.ok false, channel)

/-- Has a complete request answered, and ends it. The result says whether the connection is kept. -/
def dispatch (server : Server) (context : Context) (channel : Channel) : Channel.Outcome Bool :=
  let id := context.id
  let keep := context.keep
  match server.roles.resolve? context.role with
  | none =>
    ((channel.tell .warn .dispatch
      s!"{channel.peer} requested unsupported role {context.role}").sendEnd id .unknownRole 0
      keep).andThen fun _ channel => (.ok keep, channel)
  | some factory =>
    match invoke (factory context server.services) id channel with
    | (.finished exitCode, channel) =>
      ((channel.tell .debug .dispatch
        s!"{channel.peer} request {id} finished with exit code {exitCode}").sendEnd id
        .requestComplete exitCode keep).andThen fun _ channel => (.ok keep, channel)
    | (.failed (.transport e), channel) => (.error e, channel)
    | (.failed error, channel) =>
      endFailed id (channel.tell .error .dispatch
        s!"{channel.peer} role failed on request {id}: {error.message}")
    | (.crashed reason, channel) =>
      ((channel.tell .error .dispatch
        s!"{channel.peer} role panicked on request {id}: {reason}").endOpenStreams id).andThen
        fun _ channel => endFailed id channel

/-! ## Refusing -/

/-- Ends a request that was given up. The result says whether the connection is kept: it is if the
request asked for that and records can still be read. -/
def refuse (request : Request) (reason : AbortReason) (channel : Channel) :
    Channel.Outcome Bool :=
  let channel := channel.tell .warn .dispatch
    s!"{channel.peer} aborted request: {reason.message}"
  let keep := request.context.keep && reason.preservesFraming
  match request.replyId with
  | none => (.ok false, channel)
  | some id =>
    (channel.sendEnd id .requestComplete failureExitCode keep).andThen fun _ channel =>
      (.ok keep, channel)

/-- Answers a request that has ended in one way or the other. -/
def answer (server : Server) (request : Request) (outcome : RunOutcome) (channel : Channel) :
    Channel.Outcome Bool :=
  match outcome with
  | .complete => server.dispatch request.context channel
  | .aborted reason => refuse request reason channel

/-! ## Turns -/

/-- What comes after a turn. -/
inductive Turn where
  /-- Nothing: this is the result of serving the connection. -/
  | last (result : Except TransportError Unit)
  /-- Another request, after one of the given id. -/
  | next (previousId : Option UInt16)

/-- What comes of serving a connection on which a request could not be received to its end. The peer
may close the connection at any time, and a peer that is silent between two requests is not waited
for. -/
def leave (error : TransportError) (request : Request) (channel : Channel) :
    Except TransportError Unit × Channel :=
  match error with
  | .closed midFrame =>
    let message :=
      if midFrame || request.replyId.isSome then
        s!"{channel.peer} closed mid-request ({request.stage.name})"
      else s!"{channel.peer} closed"
    (.ok (), channel.tell .debug .dispatch message)
  | .timeout limit =>
    if request.replyId.isSome then (.error (.timeout limit), channel)
    else (.ok (), (channel.tell .debug .dispatch
      s!"{channel.peer} idle for {limit.text}, closing").close)
  | .io reason => (.error (.io reason), channel)
  | .protocol e => (.error (.protocol e), channel)

/-- Answers a request, and goes on to the next one if the connection is kept. -/
def conclude (server : Server) (request : Request) (outcome : RunOutcome) (channel : Channel) :
    Turn × Channel :=
  match server.answer request outcome channel with
  | (.error e, channel) => (.last (.error e), channel)
  | (.ok true, channel) => (.next request.replyId, channel)
  | (.ok false, channel) => (.last (.ok ()), channel.close)

/-- A request of which nothing has arrived, after one of the given id. -/
def newRequest (server : Server) (previousId : Option UInt16) : Request :=
  .new server.limits server.info previousId

/-- Receives what is left of a request, and answers it. -/
def turn (server : Server) (request : Request) (channel : Channel) : Turn × Channel :=
  match request.run channel with
  | (.error e, request, channel) =>
    match leave e request channel with
    | (result, channel) => (.last result, channel)
  | (.ok outcome, request, channel) => server.conclude request outcome channel

/-! ## Serving comes to an end -/

/-- An application reads nothing, however it ends. -/
theorem keeps_invoke (role : Role) (id : UInt16) (channel : Channel) :
    channel.Keeps (invoke role id channel).2 := by
  have hrun := role.run.keeps_exec (.new id) channel
  unfold invoke
  split
  next h => rw [h] at hrun; exact hrun
  next exitCode output channel h =>
    rw [h] at hrun
    have hflush := (role.flush true).keeps_exec output channel
    split <;> next h => rw [h] at hflush; exact hrun.trans hflush
  next error output channel h =>
    rw [h] at hrun
    have hflush := (role.flush true).keeps_exec output channel
    split
    next h => rw [h] at hflush; exact hrun.trans hflush
    next h =>
      rw [h] at hflush
      exact (hrun.trans hflush).trans (Channel.keeps_tell ..)
    next h => rw [h] at hflush; exact hrun.trans hflush

/-- Ending a request that failed reads nothing. -/
theorem keeps_endFailed (id : UInt16) (channel : Channel) :
    channel.Keeps (endFailed id channel).2 :=
  (Channel.keeps_sendEnd ..).andThen fun _ _ => .refl _

/-- Dispatching a request reads nothing, whether or not its role has an application. -/
theorem keeps_dispatch (server : Server) (context : Context) (channel : Channel) :
    channel.Keeps (server.dispatch context channel).2 := by
  unfold dispatch
  dsimp only
  split
  · exact (channel.keeps_tell ..).trans ((Channel.keeps_sendEnd ..).andThen fun _ _ => .refl _)
  next factory _ =>
    have hinvoke := keeps_invoke (factory context server.services) context.id channel
    split
    next h =>
      rw [h] at hinvoke
      exact (hinvoke.trans (Channel.keeps_tell ..)).trans
        ((Channel.keeps_sendEnd ..).andThen fun _ _ => .refl _)
    next h => rw [h] at hinvoke; exact hinvoke
    next h =>
      rw [h] at hinvoke
      exact (hinvoke.trans (Channel.keeps_tell ..)).trans (keeps_endFailed ..)
    next h =>
      rw [h] at hinvoke
      exact (hinvoke.trans (Channel.keeps_tell ..)).trans
        ((Channel.keeps_endOpenStreams ..).andThen fun _ _ => keeps_endFailed ..)

/-- Refusing a request reads nothing. -/
theorem keeps_refuse (request : Request) (reason : AbortReason) (channel : Channel) :
    channel.Keeps (refuse request reason channel).2 := by
  unfold refuse
  dsimp only
  split
  · exact channel.keeps_tell ..
  · exact (channel.keeps_tell ..).trans ((Channel.keeps_sendEnd ..).andThen fun _ _ => .refl _)

/-- Answering a request reads nothing. -/
theorem keeps_answer (server : Server) (request : Request) (outcome : RunOutcome)
    (channel : Channel) : channel.Keeps (server.answer request outcome channel).2 := by
  cases outcome
  · exact keeps_dispatch ..
  · exact keeps_refuse ..

/-- A connection is kept only if records can still be read from it. -/
theorem preservesFraming_of_answer {server : Server} {request : Request} {outcome : RunOutcome}
    {channel channel' : Channel}
    (h : server.answer request outcome channel = (.ok true, channel')) :
    outcome.preservesFraming = true := by
  cases outcome with
  | complete => rfl
  | aborted reason =>
    simp only [answer, refuse] at h
    split at h
    · cases h
    · unfold Channel.Outcome.andThen at h
      split at h
      · cases h
      · simp only [Prod.mk.injEq, Except.ok.injEq, Bool.and_eq_true] at h
        exact h.1.2

/-- A request after which there is another one leaves a channel as it was to be read, from which
records can still be read. -/
theorem conclude_eq_next {server : Server} {request : Request} {outcome : RunOutcome}
    {nextId : Option UInt16} {channel channel' : Channel}
    (h : server.conclude request outcome channel = (.next nextId, channel')) :
    outcome.preservesFraming = true ∧ channel'.unread = channel.unread := by
  have hkeeps := (server.keeps_answer request outcome channel).unread
  unfold conclude at h
  split at h
  · cases h
  next hanswer =>
    cases h
    rw [hanswer] at hkeeps
    exact ⟨preservesFraming_of_answer hanswer, hkeeps⟩
  · cases h

/-- A turn after which there is another one has read something. -/
theorem turn_unread_lt {server : Server} {request : Request} {nextId : Option UInt16}
    {channel channel' : Channel} (h : server.turn request channel = (.next nextId, channel')) :
    channel'.unread < channel.unread := by
  unfold turn at h
  split at h
  · cases h
  next hrun =>
    obtain ⟨hframing, hunread⟩ := conclude_eq_next h
    exact hunread ▸ Request.run_unread_lt hrun hframing

/-- Serves a connection turn by turn, after a request of the given id. -/
def serveAfter (server : Server) (previousId : Option UInt16) (channel : Channel) :
    Except TransportError Unit × Channel :=
  match h : server.turn (server.newRequest previousId) channel with
  | (.last result, channel) => (result, channel)
  | (.next nextId, channel) =>
    have := turn_unread_lt h
    server.serveAfter nextId channel
termination_by channel.unread

/-- Serves a connection from its first request on. -/
def serve (server : Server) (channel : Channel) : Except TransportError Unit × Channel :=
  server.serveAfter none channel

/-- One turn's worth of serving. -/
theorem serveAfter_eq (server : Server) (previousId : Option UInt16) (channel : Channel) :
    server.serveAfter previousId channel =
      match server.turn (server.newRequest previousId) channel with
      | (.last result, channel) => (result, channel)
      | (.next nextId, channel) => server.serveAfter nextId channel := by
  rw [serveAfter]
  split
  next h => simp only [h]
  next h => simp only [h]

end Server

end FastCgi
