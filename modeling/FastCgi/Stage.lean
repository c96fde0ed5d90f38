/-!
# The stages of a request

A request waits for its BEGIN record, then takes in its parameters, then its body, and is complete;
from any stage before that it may be aborted instead. The stages only move forward.
-/

namespace FastCgi

/-- How far a request has come. -/
inductive Stage where
  | awaitingBegin
  | streamingParams
  | streamingBody
  | complete
  | aborted
deriving DecidableEq, Repr, Inhabited

namespace Stage

/-- Whether a stage is the last one of a request. -/
def isTerminal : Stage → Bool
  | complete | aborted => true
  | awaitingBegin | streamingParams | streamingBody => false

/-- Whether one stage may follow another: the next one along the way, or `aborted` unless the
request has already ended. -/
def canAdvanceTo : Stage → Stage → Bool
  | awaitingBegin, streamingParams => true
  | streamingParams, streamingBody => true
  | streamingBody, complete => true
  | stage, aborted => !stage.isTerminal
  | _, _ => false

/-- The name of a stage in messages. -/
def name : Stage → String
  | awaitingBegin => "AwaitingBegin"
  | streamingParams => "StreamingParams"
  | streamingBody => "StreamingBody"
  | complete => "Complete"
  | aborted => "Aborted"

end Stage

end FastCgi
