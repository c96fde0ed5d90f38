import FastCgi.Engine.Options
import FastCgi.Listener.Lifecycle
import FastCgi.Listener.Log
import FastCgi.Server

/-!
# The server as a program

The program reads its options, opens its log, sets up a server and a listener for it, says where it
listens, and runs until it is interrupted. `Engine.launch` is the way up to there. `Engine.run` is
what can be told from outside of a run in which no client connects: the exit code, the lines on the
standard output and the log.
-/

namespace FastCgi.Engine

/-! ## What the options ask for -/

/-- The changes to the table of roles that the options ask for. -/
def roleChanges (options : Options) : List RoleTable.Change :=
  RoleTable.standard ++ if options.noAuthorizer then [.unregister .authorizer] else []

/-- The services that the options ask for. -/
def services (options : Options) : Services :=
  let greeting := options.greeting.map fun text => (Services.greetingName, Service.greeting text)
  let users := if options.noAuthorizer then none else
    some (Services.allowListName, Service.allowList ⟨options.authorizedUsers, options.authParam⟩)
  .ofList (greeting.toList ++ users.toList)

/-- What the options tell the listener. There is at least one worker, and at least one second for
any read or write. -/
def listenConfig (options : Options) : ListenConfig :=
  ⟨options.listen, max options.workers 1, options.backlog, .ofSeconds (max options.ioTimeout 1)⟩

/-- The server that the options ask for. -/
def server (options : Options) : Server :=
  ⟨.ofChanges (roleChanges options), services options,
    ⟨options.maxParamsBytes, options.maxBodyBytes⟩,
    .ofWorkers (listenConfig options).workers⟩

/-- The least level that is logged. -/
def leastLevel (options : Options) : Level := if options.verbose then .debug else .info

/-! ## What the program says -/

/-- The line above and below the announcement. -/
def rule : String := String.ofList (List.replicate 64 '─')

/-- What the program says once it listens. -/
def announcement (address : SocketAddress) (config : ListenConfig) : List String :=
  [rule, "", "  FastCGI server running!", "", "  Listening on:", s!"    {address.text}", "",
    s!"  Workers: {config.workers}   Backlog: {config.backlog}", "", rule, "",
    "  Press Ctrl+C to stop.", ""]

/-- What the program says when it is interrupted. -/
def goodbye : List String := ["", "  Shutting down..."]

/-- What the program says when all connections have ended. -/
def farewell : List String := ["  Server stopped."]

/-- The log entry about a listener that was not opened. -/
def failedEntry (error : ListenError) : Entry :=
  ⟨.error, .engine, s!"Failed to start service: {error.message}"⟩

/-- The log entry about an interruption while so many connections are being served. -/
def interruptedEntry (active : Nat) : Entry :=
  ⟨.info, .engine, s!"Shutdown requested with {active} active connections"⟩

/-! ## Running -/

/-- What can be told of a run from outside. -/
structure Report where
  exitCode : Nat
  /-- Where the program listened, if it did. -/
  address? : Option SocketAddress
  /-- The lines on the standard output. -/
  output : List String
  /-- The log. -/
  entries : List Entry
  /-- Where the log was written to, if not to the standard output. -/
  logFile? : Option String

/-- A program that listens. -/
structure Launched where
  /-- Where it listens. -/
  address : SocketAddress
  /-- What its log holds so far. -/
  entries : List Entry

/-- The way up of a program with some options on a host, or the run that ends there. Whether a log
can be opened at a path is for the host to say. -/
def launch (host : Host) (opens : String → Bool) (options : Options) :
    Except Report Launched :=
  let config := listenConfig options
  let log := fun entries => entries.filter fun (entry : Entry) => entry.matters (leastLevel options)
  let setup := Server.setupEntries (roleChanges options) (services options)
  if options.logFile.any fun path => !opens path then .error ⟨1, none, [], [], none⟩
  else match config.opening host with
    | .error e => .error ⟨1, none, [], log (setup ++ [failedEntry e]), options.logFile⟩
    | .ok opening =>
      let entries := log (setup ++ [.listening config opening.address])
      if Pool.maxWorkers < opening.workers then .error ⟨101, none, [], entries, options.logFile⟩
      else .ok ⟨opening.address, entries⟩

/-- A run of the program on a host, until it is interrupted. -/
def run (host : Host) (opens : String → Bool) (arguments : List String) : Report :=
  match Options.parse arguments with
  | .error stop => ⟨stop.exitCode, none, [], [], none⟩
  | .ok options =>
    match launch host opens options with
    | .error report => report
    | .ok ⟨address, entries⟩ =>
      ⟨0, some address, announcement address (listenConfig options) ++ goodbye ++ farewell,
        entries ++ [interruptedEntry 0, .stopping address, .stopped], options.logFile⟩

end FastCgi.Engine
