import FastCgi.Duration
import FastCgi.ProtocolError
import FastCgi.Text.Quoted

/-!
# What can go wrong on a connection

The ways in which moving records over a connection fails, and their messages. An error of the
protocol keeps its own message.
-/

namespace FastCgi

/-- A failure of a connection. -/
inductive TransportError where
  /-- The peer has closed the connection, perhaps in the middle of a record. -/
  | closed (midFrame : Bool)
  /-- Reading or writing failed, for the reason given. -/
  | io (reason : String)
  /-- Nothing could be read or written for as long as the limit. -/
  | timeout (limit : Duration)
  /-- What was read, or was to be written, is no record. -/
  | protocol (error : ProtocolError)
deriving DecidableEq, Repr, Inhabited

namespace TransportError

/-- The message of an error. -/
def message : TransportError → String
  | closed midFrame => s!"connection closed by peer (mid-frame: {truth midFrame})"
  | io reason => s!"connection I/O failed: {reason}"
  | timeout limit => s!"connection idle for longer than {limit.text}"
  | protocol error => error.message

/-- Whether an error says that the connection is closed. -/
def isClosed : TransportError → Bool
  | closed _ => true
  | io _ | timeout _ | protocol _ => false

end TransportError

end FastCgi
