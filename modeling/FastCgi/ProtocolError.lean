import FastCgi.RecordType
import FastCgi.Stage

/-!
# What can be wrong with what a peer sends

The causes for which a record, a body or a stream is refused, their messages, and whether the byte
stream can still be read after them.
-/

namespace FastCgi

/-- A violation of the protocol. -/
inductive ProtocolError where
  /-- A header that does not begin with version 1. -/
  | unsupportedVersion (version : UInt8)
  /-- A content that no record can hold. -/
  | contentTooLong (length : Nat)
  /-- A body of fixed size that has another one. -/
  | invalidBodyLength (type : RecordType) (expected actual : Nat)
  /-- A completion status without a meaning. -/
  | unknownStatus (code : UInt8)
  /-- A name/value stream that ends inside a pair, with this many bytes left over. -/
  | truncatedNameValue (left : Nat)
  /-- A record that has no place in the stage of its request. -/
  | unexpectedRecord (type : RecordType) (stage : Stage)
  /-- A step from one stage to another that is not on the way. -/
  | invalidTransition (source target : Stage)
deriving DecidableEq, Repr, Inhabited

namespace ProtocolError

/-- The message of an error. -/
def message : ProtocolError → String
  | unsupportedVersion version => s!"unsupported protocol version {version}"
  | contentTooLong length => s!"content length {length} exceeds the record limit"
  | invalidBodyLength type expected actual =>
    s!"{type.name} body must be {expected} bytes, got {actual}"
  | unknownStatus code => s!"unknown protocol status {code}"
  | truncatedNameValue left =>
    s!"name/value stream ended inside a pair ({left} bytes left over)"
  | unexpectedRecord type stage => s!"unexpected {type.name} record while {stage.name}"
  | invalidTransition source target =>
    s!"invalid request state transition {source.name} -> {target.name}"

/-- Whether the byte stream is still cut into records correctly after an error. A header that
cannot be read, or a content too long for any record, leaves the reader nowhere to go on. -/
def preservesFraming : ProtocolError → Bool
  | unsupportedVersion _ | contentTooLong _ => false
  | _ => true

end ProtocolError

end FastCgi
