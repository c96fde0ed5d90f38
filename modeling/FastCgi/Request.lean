import FastCgi.Context
import FastCgi.Journal
import FastCgi.NameValue
import FastCgi.Record

/-!
# Requests

A request is put together from the records of one connection, one record at a time:

    awaitingBegin --BEGIN--> streamingParams --empty PARAMS--> streamingBody --empty STDIN--> complete

From any stage before the last it may be aborted instead. `Request.process` says what one record
does to a request.

* A management record, with id zero, is answered in any stage and changes nothing.
* Before the BEGIN record, what is left of the request before this one is passed over.
* After it, records of other ids do not concern the request: a BEGIN is answered with a refusal, and
  the rest is passed over.
* The records of the request itself have to come in the order above, within the limits.
-/

namespace FastCgi

/-! ## Limits and advertised values -/

/-- How much one request may send. -/
structure Limits where
  /-- The most bytes of parameters. -/
  params : Nat
  /-- The most bytes of body. -/
  body : Nat
deriving DecidableEq, Repr

/-- One mebibyte of parameters, and a body of 64. -/
def Limits.default : Limits := ⟨1048576, 67108864⟩

instance : Inhabited Limits := ⟨.default⟩

/-- What a server says of itself to a peer that asks. -/
structure ServerInfo where
  maxConnections : Nat
  maxRequests : Nat
deriving DecidableEq, Repr, Inhabited

namespace ServerInfo

/-- A server with so many workers takes one connection per worker and one request per
connection. -/
def ofWorkers (workers : Nat) : ServerInfo := ⟨workers, workers⟩

/-- The value of a variable, if it is one that is known. No server takes several requests on one
connection at a time. -/
def lookup? (info : ServerInfo) (name : String) : Option String :=
  if name = "FCGI_MAX_CONNS" then some (Nat.repr info.maxConnections)
  else if name = "FCGI_MAX_REQS" then some (Nat.repr info.maxRequests)
  else if name = "FCGI_MPXS_CONNS" then some "0"
  else none

end ServerInfo

/-! ## Reasons to abort -/

/-- Why a request is given up. -/
inductive AbortReason where
  /-- A record violates the protocol. -/
  | protocol (error : ProtocolError)
  /-- The peer asked for it. -/
  | abortRequested
  /-- A stream holds more bytes than its limit. -/
  | limitExceeded (stream : RecordType) (limit : Nat)
deriving DecidableEq, Repr, Inhabited

namespace AbortReason

/-- The message of a reason. -/
def message : AbortReason → String
  | protocol error => error.message
  | abortRequested => "peer sent ABORT_REQUEST"
  | limitExceeded stream limit => s!"{stream.name} stream exceeds {limit} bytes"

/-- Whether records can still be read from the connection. -/
def preservesFraming : AbortReason → Bool
  | protocol error => error.preservesFraming
  | abortRequested | limitExceeded .. => true

end AbortReason

/-! ## Requests -/

/-- A request that is being received. -/
structure Request where
  context : Context
  limits : Limits
  info : ServerInfo
  /-- Reads the parameters. -/
  decoder : NameValue.Decoder
  /-- The number of bytes of parameters so far. -/
  paramsBytes : Nat
  /-- The id that an answer goes to: that of the request, or of the record that was there instead of
  its beginning. There is none before the first record that concerns the request. -/
  replyId : Option UInt16
  /-- The id of the request before this one on the same connection. -/
  previousId : Option UInt16

/-- What a record that is in order leads to. -/
inductive Step where
  /-- More records are needed. -/
  | more
  /-- A record is to be sent, and more records are needed. -/
  | reply (record : Record)
  /-- The request has arrived in full. -/
  | complete
deriving DecidableEq, Repr

namespace Request

/-- A request of which nothing has arrived, after a request of the given id. -/
def new (limits : Limits) (info : ServerInfo) (previousId : Option UInt16 := none) : Request :=
  ⟨.new, limits, info, .new, 0, none, previousId⟩

/-- The stage that a request has reached. -/
def stage (request : Request) : Stage := request.context.stage

/-- Gives a request up, unless it has ended. -/
def abort (request : Request) : Request :=
  match request.context.advance .aborted with
  | .ok context => { request with context }
  | .error _ => request

/-- What a record comes to, and the request after it. -/
abbrev Outcome := Except AbortReason Step × Request

/-! ## Management records -/

/-- The values of those names in a query that are known, in the order of the query. A query that
cannot be read asks for nothing. -/
def knownValues (info : ServerInfo) (query : Bytes) : List (String × String) :=
  match NameValue.decode query with
  | .error _ => []
  | .ok pairs => pairs.filterMap fun (name, _) => (info.lookup? name).map (name, ·)

/-- The answer to a management record. A record other than a query is not understood. -/
def managementReply (info : ServerInfo) (record : Record) : Except ProtocolError Record :=
  if record.type = .getValues then
    Record.new .getValuesResult record.id (NameValue.encode (knownValues info record.content))
  else Record.new .unknownType record.id (unknownTypeBody record.type.code)

/-! ## One record -/

/-- Whether a record is left over from the request before this one. -/
def isTrailing (request : Request) (record : Record) : Bool :=
  record.type ≠ .beginRequest && request.previousId == some record.id

/-- What a record comes to that has no place in the present stage. -/
def unexpected (request : Request) (record : Record) : Outcome :=
  (.error (.protocol (.unexpectedRecord record.type request.stage)), request)

/-- A record before the beginning of the request. -/
def processFirst (request : Request) (record : Record) : Outcome :=
  if request.isTrailing record then (.ok .more, request)
  else
    let request := { request with replyId := some record.id }
    if record.type ≠ .beginRequest then request.unexpected record
    else match BeginBody.ofBytes record.content with
      | .error e => (.error (.protocol e), request)
      | .ok body => match request.context.start record.id body with
        | .error e => (.error (.protocol e), request)
        | .ok context => (.ok .more, { request with context })

/-- A record of another request. -/
def processForeign (request : Request) (record : Record) : Outcome :=
  if record.type = .beginRequest then
    match Record.new .endRequest record.id (EndBody.toBytes ⟨.cantMultiplex, 0⟩) with
    | .error e => (.error (.protocol e), request)
    | .ok reply => (.ok (.reply reply), request)
  else (.ok .more, request)

/-- The end of the parameters. -/
def endParams (request : Request) : Outcome :=
  let finished := { request with decoder := .new }
  match request.decoder.finish with
  | .error e => (.error (.protocol e), finished)
  | .ok () => match request.context.advance .streamingBody with
    | .error e => (.error (.protocol e), finished)
    | .ok context => (.ok .more, { finished with context })

/-- A piece of the parameters. -/
def addParams (request : Request) (piece : Bytes) : Outcome :=
  let paramsBytes := request.paramsBytes + piece.length
  let request := { request with paramsBytes }
  if request.limits.params < paramsBytes then
    (.error (.limitExceeded .params request.limits.params), request)
  else
    let (pairs, decoder) := request.decoder.feed piece
    let context := { request.context with params := request.context.params.extend pairs }
    (.ok .more, { request with context, decoder })

/-- The end of the body. -/
def endBody (request : Request) : Outcome :=
  match request.context.advance .complete with
  | .error e => (.error (.protocol e), request)
  | .ok context => (.ok .complete, { request with context })

/-- A piece of the body. -/
def addBody (request : Request) (piece : Bytes) : Outcome :=
  if request.limits.body < request.context.stdin.size + piece.length then
    (.error (.limitExceeded .stdin request.limits.body), request)
  else (.ok .more, { request with context := request.context.addBody piece })

/-- A record of the request itself. -/
def processOwn (request : Request) (record : Record) : Outcome :=
  match request.stage, record.type with
  | _, .abortRequest => (.error .abortRequested, request)
  | .streamingParams, .params =>
    if record.isEmpty then request.endParams else request.addParams record.content
  | .streamingBody, .stdin =>
    if record.isEmpty then request.endBody else request.addBody record.content
  | _, _ => request.unexpected record

/-- What one record does to a request. -/
def process (request : Request) (record : Record) : Outcome :=
  if record.isManagement then
    match managementReply request.info record with
    | .error e => (.error (.protocol e), request)
    | .ok reply => (.ok (.reply reply), request)
  else if request.stage = .awaitingBegin then request.processFirst record
  else if record.id ≠ request.context.id then request.processForeign record
  else request.processOwn record

/-- What there is to tell about one record, beside what it does. -/
def remark? (request : Request) (record : Record) : Option String :=
  if record.isManagement then
    if record.type = .getValues then none
    else some s!"Unknown management record {record.type.name}"
  else if request.stage = .awaitingBegin then
    if request.isTrailing record then
      some s!"Ignoring trailing {record.type.name} for ended request {record.id}"
    else if record.type ≠ .beginRequest then none
    else match BeginBody.ofBytes record.content with
      | .error _ => none
      | .ok body => some s!"BEGIN id={record.id} role={body.role}"
  else if record.id ≠ request.context.id then
    if record.type = .beginRequest then
      some s!"Refusing BEGIN id={record.id} while id={request.context.id} is open"
    else some s!"Ignoring {record.type.name} for inactive request {record.id}"
  else none

end Request

end FastCgi
