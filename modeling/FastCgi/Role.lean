import FastCgi.Context
import FastCgi.Output
import FastCgi.Services

/-!
# Roles

A role is the application that answers a request. It is given the request and the services of the
server, and all it can do is write to its output, flush it and make log entries, before it comes
back with a result, fails, or breaks down. `Program` is that way of acting as a type, and
`Program.exec` lets a program act on an output and its channel.
-/

namespace FastCgi

/-- A failure of a role. -/
inductive RoleError where
  /-- The application itself failed. -/
  | application (reason : String)
  /-- A service that the role cannot do without is missing. -/
  | missingService (name : String)
  /-- The output could not be sent. -/
  | transport (error : TransportError)
deriving DecidableEq, Repr, Inhabited

/-- The message of a failure. -/
def RoleError.message : RoleError → String
  | application reason => s!"application error: {reason}"
  | missingService name => s!"required service {quoted name} is not registered"
  | transport error => error.message

/-- What an application does before it comes to a result of type `α`. -/
inductive Program (α : Type) where
  /-- Comes back with a result. -/
  | done (result : α)
  /-- Fails. -/
  | fail (error : RoleError)
  /-- Breaks down, perhaps with a word on why. -/
  | crash (reason : Option String)
  /-- Writes to STDOUT and goes on. -/
  | stdout (data : Bytes) (next : Program α)
  /-- Writes to STDERR and goes on. -/
  | stderr (data : Bytes) (next : Program α)
  /-- Makes a log entry and goes on. -/
  | tell (level : Level) (topic : Topic) (message : String) (next : Program α)
  /-- Flushes the output, and goes on as that turns out. -/
  | flush (final : Bool) (next : Except TransportError Unit → Program α)

/-- How a program ended. -/
inductive Ending (α : Type) where
  | done (result : α)
  | failed (error : RoleError)
  | crashed (reason : Option String)

namespace Program

variable {α : Type}

/-- Writes a text to STDOUT and goes on. -/
def print (text : String) (next : Program α) : Program α := .stdout (Bytes.ofString text) next

/-- Lets a program act on an output and its channel. -/
def exec : Program α → Output → Channel → Ending α × Output × Channel
  | .done result, output, channel => (.done result, output, channel)
  | .fail error, output, channel => (.failed error, output, channel)
  | .crash reason, output, channel => (.crashed reason, output, channel)
  | .stdout data next, output, channel => next.exec (output.writeStdout data) channel
  | .stderr data next, output, channel => next.exec (output.writeStderr data) channel
  | .tell level topic message next, output, channel =>
    next.exec output (channel.tell level topic message)
  | .flush final next, output, channel =>
    match output.flush channel final with
    | (result, output, channel) => (next result).exec output channel

/-- Flushes the output, and fails if that does. -/
def flushOutput (final : Bool) : Program Unit :=
  .flush final fun
    | .ok () => .done ()
    | .error e => .fail (.transport e)

/-- No program reads from its channel. -/
theorem keeps_exec (program : Program α) (output : Output) (channel : Channel) :
    channel.Keeps (program.exec output channel).2.2 := by
  induction program generalizing output channel with
  | done | fail | crash => exact .refl _
  | stdout _ _ ih | stderr _ _ ih => exact ih _ _
  | tell level topic message _ ih =>
    exact (Channel.keeps_tell channel level topic message).trans (ih _ _)
  | flush final next ih => exact (output.keeps_flush channel final).trans (ih _ _ _)

end Program

/-- An application at work on one request: what it does, and how it flushes its output when it is
told to. -/
structure Role where
  run : Program Int32
  flush : Bool → Program Unit

/-- Sets an application to work on a request, with the services of the server at hand. -/
abbrev RoleFactory := Context → Services → Role

end FastCgi
