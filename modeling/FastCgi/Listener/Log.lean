import FastCgi.Journal
import FastCgi.Listener.Config
import FastCgi.TransportError

/-!
# What a listener tells of itself

The log entries about a listener and its connections. A connection is told by its number and the
address of its peer.
-/

namespace FastCgi

/-- The name of the connection of a number. -/
def connectionName (number : Nat) : String := s!"conn-{number}"

/-- What a connection is called in log entries, by its number and its peer. -/
def connectionLabel (number : Nat) (peer : String) : String := s!"{connectionName number} ({peer})"

namespace Entry

/-- A listener was opened. -/
def listening (config : ListenConfig) (address : SocketAddress) : Entry :=
  ⟨.info, .listener, s!"FastCGI service listening on {address.text} " ++
    s!"({max config.workers 1} workers, backlog {config.backlog})"⟩

/-- A listener was told to stop. -/
def stopping (address : SocketAddress) : Entry :=
  ⟨.info, .listener, s!"Shutting down FastCGI service on {address.text}"⟩

/-- A listener has closed its socket while so many connections are being served. -/
def draining (connections : Nat) : Entry :=
  ⟨.info, .listener, s!"Listener closed; waiting for {connections} connection(s) to finish"⟩

/-- A listener has stopped. -/
def stopped : Entry := ⟨.info, .listener, "FastCGI service stopped"⟩

/-- A client could not be accepted. -/
def acceptFailed (reason : String) : Entry :=
  ⟨.warn, .listener, s!"Failed to accept connection: {reason}"⟩

/-- A connection has begun. -/
def opened (number : Nat) (peer : String) : Entry :=
  ⟨.debug, .connections, s!"Connection opened: {connectionName number} from {peer}"⟩

/-- A connection has ended after a while, and so many others have not. -/
def ended (number : Nat) (peer : String) (lasted : Duration) (others : Nat) : Entry :=
  ⟨.debug, .connections, s!"Connection closed: {connectionName number} from {peer} " ++
    s!"after {lasted.text} (active: {others})"⟩

/-- Serving a connection has failed. -/
def failed (number : Nat) (peer : String) (error : TransportError) : Entry :=
  ⟨.warn, .listener,
    s!"Connection {connectionLabel number peer} ended with error: {error.message}"⟩

end Entry

end FastCgi
