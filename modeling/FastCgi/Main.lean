import FastCgi.Engine
import FastCgi.Server.Session
import Std.Async.Signal
import Std.Async.TCP
import Std.Async.Timer
import Std.Sync.Channel

/-!
# The program itself

The outermost layer: it opens the log and the socket, hands on what arrives, and sends what is
answered. What is answered is for a `Session` to say, and when a client is accepted for a `Pool`.
Every connection has a thread of its own; the main thread is the accept loop.
-/

namespace FastCgi.Engine

open Std.Async

/-! ## The log -/

/-- Where log entries go. -/
structure Log where
  stream : IO.FS.Stream
  least : Level

/-- Writes those entries that matter. -/
def Log.write (log : Log) (entries : List Entry) : IO Unit := do
  for entry in entries do
    if entry.matters log.least then log.stream.putStr (entry.line ++ "\n")
  log.stream.flush

/-- Opens the log that the options name, or else the standard output. -/
def openLog (options : Options) : IO (Option Log) := do
  match options.logFile with
  | none => return some ⟨← IO.getStdout, leastLevel options⟩
  | some path =>
    let directory := "/".intercalate (path.splitOn "/").dropLast
    try
      unless directory.isEmpty do IO.FS.createDirAll directory
    catch _ => pure ()
    try
      let handle ← IO.FS.Handle.mk path .append
      IO.eprintln s!"Logging to {path}"
      return some ⟨.ofHandle handle, leastLevel options⟩
    catch e =>
      IO.eprintln s!"Failed to open log file {path}: {e}"
      return none

/-! ## Sockets -/

/-- An address as the sockets take it. -/
def toNet (address : SocketAddress) : Std.Net.SocketAddress :=
  match address.ip with
  | .v4 a b c d => .v4 ⟨.ofParts a.toUInt8 b.toUInt8 c.toUInt8 d.toUInt8, address.port.toUInt16⟩
  | .v6 groups _ => .v6 ⟨⟨.ofFn fun i => (groups.getD i 0).toUInt16⟩, address.port.toUInt16⟩

/-- An address as the sockets give it. -/
def ofNet : Std.Net.SocketAddress → SocketAddress
  | .v4 ⟨⟨octets⟩, port⟩ =>
    ⟨.v4 octets[0].toNat octets[1].toNat octets[2].toNat octets[3].toNat, port.toNat⟩
  | .v6 ⟨⟨segments⟩, port⟩ => ⟨.v6 (segments.toList.map UInt16.toNat) 0, port.toNat⟩

/-- Listens at an address, or says why that cannot be done. -/
def listen (address : SocketAddress) (backlog : Nat) :
    IO (Except String (TCP.Socket.Server × SocketAddress)) := do
  try
    let socket ← TCP.Socket.Server.mk
    socket.bind (toNet address)
    socket.listen backlog.toUInt32
    return .ok (socket, ofNet (← socket.getSockName))
  catch e => return .error (toString e)

/-- The host, as an attempt to listen shows it. -/
def hostAfter (attempt : Except String (TCP.Socket.Server × SocketAddress)) : Host :=
  match attempt with
  | .ok (_, address) => ⟨fun _ => none, address.port, true⟩
  | .error reason => ⟨fun _ => some reason, 0, true⟩

/-- A length of time as the timers take it. -/
def milliseconds (duration : Duration) : Std.Time.Millisecond.Offset :=
  .ofNat (min (duration.nanoseconds / 1000000) 9007199254740992)

/-- Reads what a peer sends next, waiting no longer than a limit. -/
def read (socket : TCP.Socket.Client) (limit : Duration) : IO Connection.Arrival := do
  try
    let event : Async Connection.Arrival := do
      Selectable.one #[
        .case (socket.recvSelector 65536) fun
          | some bytes => return .data bytes.data.toList
          | none => return .endOfStream,
        .case (← Selector.sleep (milliseconds limit)) fun () => return .timedOut]
    event.block
  catch e => return .fault (toString e)

/-- Runs an operation on a socket, and gives it up after a limit. -/
def within (limit : Duration) (operation : Async Unit) : IO (Except TransportError Unit) := do
  try
    let attempt : Async Bool := do
      let timer ← Sleep.mk (milliseconds limit)
      let done ← Async.race (do operation; return true) (do timer.wait; return false)
      timer.stop
      return done
    if ← attempt.block then return .ok () else return .error (.timeout limit)
  catch e => return .error (.io (toString e))

/-! ## Connections -/

/-- Serves a peer to the end. -/
partial def converse (server : Server) (log : Log) (socket : TCP.Socket.Client) (limit : Duration)
    (session : Session) : IO (Except TransportError Unit) := do
  let progress := server.resume session limit (← read socket limit)
  let channel := progress.channel
  log.write channel.journal.entries
  let bytes := channel.connection.sent
  let sent ← if bytes.isEmpty then pure (.ok ())
    else within channel.timeout (socket.send ⟨bytes⟩)
  match sent, progress with
  | .error e, _ => return .error e
  | .ok (), .waiting limit ⟨request, channel⟩ =>
    converse server log socket limit ⟨request, channel.forget⟩
  | .ok (), .ended result channel =>
    if channel.connection.shutdown then discard (within channel.timeout socket.shutdown)
    return result

/-- What the accept loop learns of. -/
inductive Notice where
  /-- A client has connected. -/
  | accepted (socket : TCP.Socket.Client)
  /-- No client could be accepted. -/
  | acceptFailed (reason : String)
  /-- The connection of a number has been served. -/
  | served (number : Nat) (peer : String) (since : Nat)
  /-- The program was interrupted. -/
  | interrupted

instance : Inhabited Notice := ⟨.interrupted⟩

/-- What the accept loop works with. -/
structure Desk where
  options : Options
  log : Log
  notices : Std.Channel Notice

/-- Serves the connection of a number on a thread of its own. -/
def Desk.serve (desk : Desk) (number : Nat) (socket : TCP.Socket.Client) : IO Unit := do
  let peer := (ofNet (← socket.getPeerName)).text
  let since ← IO.monoNanosNow
  desk.log.write [.opened number peer]
  let limit := (listenConfig desk.options).ioTimeout
  let server := server desk.options
  let session := server.newSession limit (connectionLabel number peer)
  let work : IO Unit := do
    if let .error e ← converse server desk.log socket limit session then
      desk.log.write [.failed number peer e]
  discard <| IO.asTask (do
    try work finally discard (desk.notices.send (.served number peer since))) .dedicated

/-! ## The accept loop -/

/-- Notes that a connection has been served. -/
def Desk.release (desk : Desk) (pool : Pool) (number : Nat) (peer : String) (since : Nat) :
    IO Pool := do
  let pool := pool.play [.release number]
  desk.log.write [.ended number peer ⟨(← IO.monoNanosNow) - since⟩ pool.active]
  return pool.play [.finish number]

/-- Accepts clients until the program is interrupted. -/
partial def Desk.accept (desk : Desk) (socket : TCP.Socket.Server) (pool : Pool) (next : Nat)
    (asked : Bool) : IO Pool := do
  let pool := pool.settle
  let asks := !asked && pool.phase == .seekingClient true
  if asks then
    let answer : Async Unit := do
      try
        let client ← socket.accept
        discard <| desk.notices.send (.accepted client)
      catch e => discard <| desk.notices.send (.acceptFailed (toString e))
    discard answer.asTask
  let asked := asked || asks
  match ← IO.wait (← desk.notices.recv) with
  | .accepted client =>
    try client.noDelay catch _ => pure ()
    let pool := (pool.play [.connect next]).settle
    desk.serve next client
    desk.accept socket { pool.play [.hand next] with accepted := [], handed := [] } (next + 1) false
  | .acceptFailed reason =>
    desk.log.write [.acceptFailed reason]
    IO.sleep 100
    desk.accept socket (pool.play [.acceptFails]) next false
  | .served number peer since =>
    desk.accept socket (← desk.release pool number peer since) next asked
  | .interrupted =>
    if asked then socket.acceptSelector.unregisterFn.block
    return pool

/-- Waits until all connections have been served. -/
partial def Desk.drain (desk : Desk) (pool : Pool) : IO Unit := do
  let pool := pool.settle
  if pool.phase == .ended then return
  match ← IO.wait (← desk.notices.recv) with
  | .served number peer since => desk.drain (← desk.release pool number peer since)
  | .accepted _ | .acceptFailed _ | .interrupted => desk.drain pool

/-- Writes lines to the standard output. -/
def say (lines : List String) : IO Unit := do
  lines.forM IO.println
  (← IO.getStdout).flush

/-- Runs a program that listens. -/
def Desk.run (desk : Desk) (socket : TCP.Socket.Server) (address : SocketAddress) : IO Unit := do
  let config := listenConfig desk.options
  let interrupt ← Signal.Waiter.mk .sigint false
  discard <| IO.mapTask (fun _ => discard (desk.notices.send .interrupted)) (← interrupt.wait)
  say (announcement address config)
  let pool ← desk.accept socket (.new config.workers) 1 false
  say goodbye
  desk.log.write [interruptedEntry pool.active, .stopping address]
  let pool := (pool.play [.stop]).settle
  unless pool.tasks.isEmpty do desk.log.write [.draining pool.tasks.length]
  desk.drain pool
  desk.log.write [.stopped]
  say farewell

end FastCgi.Engine

open FastCgi.Engine

/-- Runs the program with the options that its arguments spell. -/
def main (arguments : List String) : IO UInt32 := do
  match Options.parse arguments with
  | .error stop =>
    (match stop with
      | .help => IO.println Options.usage
      | .misuse => IO.eprintln Options.usage)
    return stop.exitCode.toUInt32
  | .ok options =>
    let some log ← openLog options | return 1
    let attempt ← match FastCgi.SocketAddress.ofString? options.listen with
      | some address => listen address options.backlog
      | none => pure (.error "")
    match launch (hostAfter attempt) (fun _ => true) options, attempt with
    | .ok launched, .ok (socket, _) =>
      log.write launched.entries
      Desk.run ⟨options, log, ← Std.Channel.new⟩ socket launched.address
      return 0
    | .ok _, .error _ => return 1
    | .error report, _ =>
      log.write report.entries
      return report.exitCode.toUInt32
