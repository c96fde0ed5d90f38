import FastCgi.Server

/-!
# Serving a peer while it speaks

`Server.serve` is given all that a peer will ever do. A session serves a peer of whom only the past
is known: it takes in what arrives, gets as far as that lets it, and waits for more. Both come to
the same (`serve_eq_proceed`): to serve a connection is to proceed with a request on it, and to
leave once nothing more arrives.
-/

namespace FastCgi

/-- A connection that is being served. -/
structure Session where
  /-- The request that is being received. -/
  request : Request
  channel : Channel

/-- How far a session has come. -/
inductive Progress where
  /-- More has to arrive within a limit. -/
  | waiting (limit : Duration) (session : Session)
  /-- The connection has been served to its end. -/
  | ended (result : Except TransportError Unit) (channel : Channel)

namespace Progress

/-- The channel of a session. -/
def channel : Progress → Channel
  | .waiting _ session => session.channel
  | .ended _ channel => channel

/-- How a session ends if nothing more arrives. -/
def final : Progress → Except TransportError Unit × Channel
  | .waiting limit ⟨request, channel⟩ => Server.leave (.timeout limit) request channel
  | .ended result channel => (result, channel)

end Progress

/-- A channel with a script for its peer. -/
def Channel.withScript (channel : Channel) (script : List Event) : Channel :=
  { channel with connection := { channel.connection with script } }

/-- A channel that has forgotten what was written to it and told of it. -/
def Channel.forget (channel : Channel) : Channel :=
  { channel with connection := { channel.connection with sent := #[] }, journal := .empty }

namespace Server

/-- The session with a peer that has not said anything. -/
def newSession (server : Server) (timeout : Duration) (peer : String) : Session :=
  ⟨server.newRequest none, .new (.new []) timeout peer⟩

/-- Receives what is left of a request, answers it, and goes on with the next one, until nothing
more arrives. -/
def proceed (server : Server) (request : Request) (channel : Channel) : Progress :=
  match hrun : request.run channel with
  | (.error (.timeout limit), request, channel) => .waiting limit ⟨request, channel⟩
  | (.error e, request, channel) =>
    match leave e request channel with
    | (result, channel) => .ended result channel
  | (.ok outcome, request, received) =>
    match hnext : server.conclude request outcome received with
    | (.last result, channel) => .ended result channel
    | (.next nextId, answered) =>
      have hlt : answered.unread < channel.unread := by
        obtain ⟨hframing, hunread⟩ := conclude_eq_next hnext
        exact hunread ▸ Request.run_unread_lt hrun hframing
      server.proceed (server.newRequest nextId) answered
termination_by channel.unread

/-- Goes on with a session once a read has come to something that waited no longer than a limit. -/
def resume (server : Server) (session : Session) (limit : Duration)
    (arrival : Connection.Arrival) : Progress :=
  match session, arrival with
  | ⟨request, channel⟩, .data bytes =>
    server.proceed request (channel.withScript [.data bytes, .silence])
  | ⟨request, channel⟩, .fault reason =>
    server.proceed request (channel.withScript [.fault reason, .silence])
  | ⟨request, channel⟩, .endOfStream => server.proceed request (channel.withScript [])
  | ⟨request, channel⟩, .timedOut =>
    match leave (.timeout limit) request channel with
    | (result, channel) => .ended result channel

/-- One request's worth of proceeding. -/
theorem proceed_eq (server : Server) (request : Request) (channel : Channel) :
    server.proceed request channel =
      match request.run channel with
      | (.error (.timeout limit), request, channel) => .waiting limit ⟨request, channel⟩
      | (.error e, request, channel) =>
        match leave e request channel with
        | (result, channel) => .ended result channel
      | (.ok outcome, request, channel) =>
        match server.conclude request outcome channel with
        | (.last result, channel) => .ended result channel
        | (.next nextId, channel) => server.proceed (server.newRequest nextId) channel := by
  rw [proceed]
  split
  next h => simp only [h]
  next h => simp only [h]
  next h =>
    simp only [h]
    split <;> next h => simp only [h]

/-- Proceeding with a request ends as a turn for it does, and the turns after it. -/
theorem final_proceed (server : Server) (request : Request) (channel : Channel) :
    (server.proceed request channel).final =
      match server.turn request channel with
      | (.last result, channel) => (result, channel)
      | (.next nextId, channel) => server.serveAfter nextId channel := by
  induction request, channel using proceed.induct server with
  | case1 request channel limit request' channel' hrun =>
    simp only [proceed_eq, hrun, turn, Progress.final]
  | case2 request channel e request' channel' hnot hrun =>
    cases e with
    | timeout limit => exact absurd rfl (hnot limit)
    | _ => simp only [proceed_eq, hrun, turn, Progress.final]
  | case3 request channel outcome request' received hrun result channel' hnext =>
    simp only [proceed_eq, hrun, hnext, turn, Progress.final]
  | case4 request channel outcome request' received hrun nextId answered hnext hlt ih =>
    have hturn : server.turn request channel = (.next nextId, answered) := by
      simp only [turn, hrun, hnext]
    rw [proceed_eq]
    simp only [hrun, hnext, hturn]
    exact ih.trans (serveAfter_eq ..).symm

/-- To serve a connection is to proceed with it, and to leave once nothing more arrives. -/
theorem serve_eq_proceed (server : Server) (channel : Channel) :
    server.serve channel = (server.proceed (server.newRequest none) channel).final := by
  exact (serveAfter_eq ..).trans (final_proceed ..).symm

end Server

end FastCgi
