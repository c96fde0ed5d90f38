import FastCgi.Duration
import FastCgi.Listener.Address
import FastCgi.Text.Quoted

/-!
# What a listener is told, and what can be wrong with it

A listener is told where to listen, how many connections to serve at a time, how many more the host
may keep waiting, and how long any read or write may take. Whether it can be opened is up to the
host: its addresses, and what it says of those it does not let a listener have.
-/

namespace FastCgi

/-- What a listener is told. -/
structure ListenConfig where
  address : String
  /-- The number of connections served at a time. -/
  workers : Nat
  /-- The number of connections that may wait. -/
  backlog : Nat
  /-- How long any read or write may take. -/
  ioTimeout : Duration
deriving DecidableEq, Repr

/-- Port 9000 of this machine, eight workers, 128 waiting, and half a minute. -/
def ListenConfig.default : ListenConfig := ⟨"127.0.0.1:9000", 8, 128, .ofSeconds 30⟩

instance : Inhabited ListenConfig := ⟨.default⟩

/-- Why a listener does not run. -/
inductive ListenError where
  | alreadyRunning
  /-- The address is none. -/
  | invalidAddress (text : String)
  /-- The host does not let a listener have the address, for the reason given. -/
  | bind (address : SocketAddress) (reason : String)
deriving DecidableEq, Repr, Inhabited

/-- The message of an error. -/
def ListenError.message : ListenError → String
  | alreadyRunning => "service is already running"
  | invalidAddress text =>
    s!"invalid listen address {quoted text}: invalid socket address syntax"
  | bind address reason => s!"failed to bind {address.text}: {reason}"

/-- The machine on which a listener is opened. -/
structure Host where
  /-- Why a listener cannot have an address, if it cannot. -/
  refusal? : SocketAddress → Option String
  /-- The port for a listener that leaves the choice to the host. -/
  freePort : Nat
  /-- Whether clients on the machine can reach a listener. -/
  reachable : Bool

namespace Host

/-- The first port that needs no privilege. -/
def firstOpenPort : Nat := 1024

/-- Why a program without privileges does not get a port, if it does not. -/
def portRefusal? (port : Nat) : Option String :=
  if 0 < port ∧ port < firstOpenPort then some "Permission denied (os error 13)" else none

/-- Why a machine without addresses does not let a listener have one of version 6, if it does not.
The machine still has one link, the first, on which nothing is sent. -/
def linkRefusal? : IpAddress → Option String
  | .v4 .. => none
  | ip@(.v6 _ scope) =>
    if ip.isUnspecified || ip.isMapped then none
    else if ip.isLinkLocal && scope = 0 then some "Invalid argument (os error 22)"
    else if ip.isLinkLocal && scope ≠ 1 then some "No such device (os error 19)"
    else some "Cannot assign requested address (os error 99)"

/-- A machine none of whose network interfaces is up, as a program without privileges finds it. A
listener can have any address of version 4, since nothing is known of any, and of version 6 those
that are not tied to an interface, but no client reaches it. -/
def isolated : Host where
  refusal? address :=
    if address.ip.isMulticast then some "Invalid argument (os error 22)"
    else portRefusal? address.port <|> linkRefusal? address.ip
  freePort := 32768
  reachable := false

/-- A machine on which another listener has an address. -/
def occupied (host : Host) (taken : SocketAddress) : Host :=
  { host with refusal? := fun address =>
      if address = taken then some "Address already in use (os error 98)"
      else host.refusal? address }

end Host

/-- A listener that can be opened: the address that it gets, and the number of its workers. -/
structure Opening where
  address : SocketAddress
  workers : Nat
deriving DecidableEq, Repr, Inhabited

namespace ListenConfig

/-- What comes of opening a listener on a host. -/
def opening (config : ListenConfig) (host : Host) : Except ListenError Opening :=
  match SocketAddress.ofString? config.address with
  | none => .error (.invalidAddress config.address)
  | some address =>
    match host.refusal? address with
    | some reason => .error (.bind address reason)
    | none =>
      let port := if address.port = 0 then host.freePort else address.port
      .ok ⟨⟨address.ip.withoutIdleScope, port⟩, config.workers⟩

end ListenConfig

end FastCgi
