import FastCgi.Body
import FastCgi.Dictionary
import FastCgi.Stage

/-!
# What is known of a request

A context is what the records of one request have said so far: its id, the role it asks for, its
parameters and its body, together with the stage it has reached. Its stage changes through
`Context.advance` alone, which refuses any step that is not on the way.
-/

namespace FastCgi

/-- What is known of a request. -/
structure Context where
  /-- The id from the BEGIN record, or zero before it. -/
  id : UInt16
  /-- The role that is asked for, which need not exist. -/
  role : UInt16
  /-- Whether the connection is to be kept after the request. -/
  keep : Bool
  params : Dictionary String
  /-- The body as far as it has arrived, which grows at its end. -/
  stdin : Array UInt8
  stage : Stage

namespace Context

/-- What is known before the first record. -/
def new : Context := ⟨0, 0, false, .empty, #[], .awaitingBegin⟩

/-- Moves to another stage, if it may follow the present one. -/
def advance (context : Context) (stage : Stage) : Except ProtocolError Context :=
  if context.stage.canAdvanceTo stage then .ok { context with stage }
  else .error (.invalidTransition context.stage stage)

/-- Notes what a BEGIN record says, and goes on to the parameters. -/
def start (context : Context) (id : UInt16) (body : BeginBody) : Except ProtocolError Context :=
  (context.advance .streamingParams).map fun context =>
    { context with id, role := body.role, keep := body.keep }

/-- The role that is asked for, if it is one with a name. -/
def roleKind? (context : Context) : Option RoleKind := RoleKind.ofId? context.role

/-- The value of a parameter. -/
def param? (context : Context) (name : String) : Option String := context.params.get? name

/-- The body as far as it has arrived. -/
def body (context : Context) : Bytes := context.stdin.toList

/-- A context with more of the body. -/
def addBody (context : Context) (piece : Bytes) : Context :=
  { context with stdin := context.stdin ++ piece }

/-- A piece of the body goes behind what has arrived of it. -/
@[simp]
theorem body_addBody (context : Context) (piece : Bytes) :
    (context.addBody piece).body = context.body ++ piece := by
  simp [body, addBody]

/-- The body has as many bytes as the buffer that it is gathered in. -/
theorem length_body (context : Context) : context.body.length = context.stdin.size := by
  simp [body]

/-- Whether the request has arrived in full. -/
def isComplete (context : Context) : Bool := context.stage == .complete

end Context

end FastCgi
