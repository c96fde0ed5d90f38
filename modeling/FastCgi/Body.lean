import FastCgi.Bytes
import FastCgi.ProtocolError

/-!
# Bodies of fixed size

Three records carry a body of eight bytes whose fields have fixed places: BEGIN_REQUEST names the
role and says whether the connection is to be kept, END_REQUEST gives the application's and the
protocol's status, and UNKNOWN_TYPE repeats a type that was not understood. Each body is read back
as it was written (`ofBytes_toBytes`), and a body of any other size is refused.
-/

namespace FastCgi

/-- The size of a body with fixed fields. -/
def bodyLength : Nat := 8

/-! ## Roles -/

/-- The roles that the protocol names. -/
inductive RoleKind where
  | responder
  | authorizer
  | filter
deriving DecidableEq, Repr, Inhabited

namespace RoleKind

/-- The roles in the order of their numbers. -/
def all : List RoleKind := [responder, authorizer, filter]

/-- The number of a role on the wire. -/
def id : RoleKind → UInt16
  | responder => 1
  | authorizer => 2
  | filter => 3

/-- The role of a number, if it has one. -/
def ofId? (id : UInt16) : Option RoleKind :=
  if id = 1 then some responder
  else if id = 2 then some authorizer
  else if id = 3 then some filter
  else none

/-- The roles with a name have the numbers 1 to 3, and no two of them the same. -/
theorem ofId?_eq_some_iff {id : UInt16} {kind : RoleKind} :
    ofId? id = some kind ↔ id = kind.id := by
  unfold ofId?
  constructor
  · repeat' split
    all_goals intro h; cases h
    all_goals assumption
  · rintro rfl
    cases kind <;> rfl

/-- The name of a role in messages. -/
def name : RoleKind → String
  | responder => "Responder"
  | authorizer => "Authorizer"
  | filter => "Filter"

end RoleKind

/-! ## BEGIN_REQUEST -/

/-- The body of a BEGIN_REQUEST record. The role need not be one of those with a name. -/
structure BeginBody where
  role : UInt16
  flags : UInt8
deriving DecidableEq, Repr, Inhabited

namespace BeginBody

/-- The body that asks for a role, with only the flag that says whether to keep the connection. -/
def new (role : UInt16) (keep : Bool) : BeginBody := ⟨role, if keep then 1 else 0⟩

/-- Whether the connection is to stay open after the request: the lowest flag. -/
def keep (body : BeginBody) : Bool := body.flags &&& 1 != 0

/-- The eight bytes of a body. -/
def toBytes (body : BeginBody) : Bytes :=
  BigEndian16.toBytes body.role ++ [body.flags, 0, 0, 0, 0, 0]

/-- Reads a body. The reserved bytes are not looked at. -/
def ofBytes : Bytes → Except ProtocolError BeginBody
  | [r₀, r₁, flags, _, _, _, _, _] => .ok ⟨BigEndian16.ofBytes r₀ r₁, flags⟩
  | content => .error (.invalidBodyLength .beginRequest bodyLength content.length)

/-- The body of a BEGIN record is read back as it was written, with all of its flags. -/
theorem ofBytes_toBytes (body : BeginBody) : ofBytes body.toBytes = .ok body := by
  simp [toBytes, ofBytes, BigEndian16.toBytes, BigEndian16.ofBytes_toBytes]

end BeginBody

/-! ## END_REQUEST -/

/-- How the protocol side of a request ended. -/
inductive ProtocolStatus where
  | requestComplete
  | cantMultiplex
  | overloaded
  | unknownRole
deriving DecidableEq, Repr, Inhabited

namespace ProtocolStatus

/-- The byte that stands for a status. -/
def code : ProtocolStatus → UInt8
  | requestComplete => 0
  | cantMultiplex => 1
  | overloaded => 2
  | unknownRole => 3

/-- The status that a byte stands for. -/
def ofCode (code : UInt8) : Except ProtocolError ProtocolStatus :=
  if code = 0 then .ok requestComplete
  else if code = 1 then .ok cantMultiplex
  else if code = 2 then .ok overloaded
  else if code = 3 then .ok unknownRole
  else .error (.unknownStatus code)

@[simp]
theorem ofCode_code (status : ProtocolStatus) : ofCode status.code = .ok status := by
  cases status <;> rfl

/-- The name of a status in messages. -/
def name : ProtocolStatus → String
  | requestComplete => "RequestComplete"
  | cantMultiplex => "CantMpxConn"
  | overloaded => "Overloaded"
  | unknownRole => "UnknownRole"

end ProtocolStatus

/-- The body of an END_REQUEST record. -/
structure EndBody where
  status : ProtocolStatus
  /-- The exit code of the application. -/
  exitCode : Int32
deriving DecidableEq, Repr, Inhabited

namespace EndBody

/-- The eight bytes of a body. -/
def toBytes (body : EndBody) : Bytes :=
  BigEndian32.toBytes body.exitCode.toUInt32 ++ [body.status.code, 0, 0, 0]

/-- Reads a body. The reserved bytes are not looked at. -/
def ofBytes : Bytes → Except ProtocolError EndBody
  | [b₀, b₁, b₂, b₃, code, _, _, _] =>
    (ProtocolStatus.ofCode code).map fun status =>
      ⟨status, (BigEndian32.ofBytes b₀ b₁ b₂ b₃).toInt32⟩
  | content => .error (.invalidBodyLength .endRequest bodyLength content.length)

/-- The body of an END record is read back as it was written, and so is a negative exit code. -/
theorem ofBytes_toBytes (body : EndBody) : ofBytes body.toBytes = .ok body := by
  simp [toBytes, ofBytes, BigEndian32.toBytes, BigEndian32.ofBytes_toBytes, Except.map]

end EndBody

/-- The exit code that stands for a request that failed before or inside its role. -/
def failureExitCode : Int32 := 1

/-! ## UNKNOWN_TYPE -/

/-- The body of an UNKNOWN_TYPE record, which repeats the code of the type. -/
def unknownTypeBody (code : UInt8) : Bytes := [code, 0, 0, 0, 0, 0, 0, 0]

end FastCgi
