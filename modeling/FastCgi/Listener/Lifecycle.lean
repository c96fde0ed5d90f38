import FastCgi.Listener.Config
import FastCgi.Listener.Pool

/-!
# Starting and stopping a listener

A listener can be told to run and to shut down by any number of callers, whose calls take several
steps that may interleave. Running claims a flag, starts an accept loop, and then stores it, or
gives the flag back if there was nothing to start. Shutting down takes the stored loop and tells it
to stop, waits until it has ended, and then gives back the flag. A caller that waits for a shutdown
may give up waiting.

`Lifecycle.step?` is one step of any of them, or of an accept loop.
-/

namespace FastCgi

/-- An accept loop of a listener. -/
structure AcceptLoop where
  /-- Where it listens. -/
  address : SocketAddress
  pool : Pool
deriving Inhabited

/-- Whether an accept loop has not ended. -/
def AcceptLoop.isAlive (loop : AcceptLoop) : Bool := loop.pool.phase ≠ .ended

/-- What a call comes to. -/
inductive Reply where
  /-- The listener runs, with the loop of the given place. -/
  | started (loop : Nat)
  /-- The listener was running already. -/
  | alreadyRunning
  /-- There was nothing to start. -/
  | failed (error : ListenError)
  /-- The listener is shut down, as far as this call can tell. -/
  | stopped
deriving DecidableEq, Repr

/-- How far a caller has come. -/
inductive Caller where
  /-- It has the flag, and is about to start a loop, or to fail. -/
  | starting (attempt : Except ListenError Opening)
  /-- It has started a loop, and is about to store it. -/
  | storing (loop : Nat)
  /-- It has started nothing, and is about to give back the flag. -/
  | yielding (error : ListenError)
  /-- It has told a loop to stop, and waits for it to end. -/
  | awaiting (loop : Nat)
  /-- The loop has ended, and it is about to give back the flag. -/
  | clearing (loop : Nat)
  /-- The call has come back. -/
  | returned (reply : Reply)
  /-- The call was given up while it waited for a loop to end. -/
  | abandoned (loop : Nat)

/-- A listener with its loops and all callers so far. -/
structure Lifecycle where
  /-- Whether the listener counts as running. -/
  running : Bool
  /-- The loop that a shutdown would stop. -/
  stored : Option Nat
  /-- All loops ever started, the oldest first. A loop is known by its place. -/
  loops : List AcceptLoop
  /-- All callers, the first one first. -/
  callers : List Caller

namespace Lifecycle

/-- A listener that was never run. -/
def new : Lifecycle := ⟨false, none, [], []⟩

/-- What happens to a listener. -/
inductive Move where
  /-- A caller calls to run, and a start would come to this. -/
  | run (attempt : Except ListenError Opening)
  /-- A caller calls to shut down. -/
  | shutdown
  /-- A caller takes its next step. -/
  | proceed (caller : Nat)
  /-- A caller that waits gives up. -/
  | abandon (caller : Nat)
  /-- Something happens to the pool of a loop. -/
  | pool (loop : Nat) (move : Pool.Move)

/-- A listener with one more caller. -/
def enter (lifecycle : Lifecycle) (caller : Caller) : Lifecycle :=
  { lifecycle with callers := lifecycle.callers ++ [caller] }

/-- A listener with one of its callers gone on. -/
def goOn (lifecycle : Lifecycle) (caller : Nat) (state : Caller) : Lifecycle :=
  { lifecycle with callers := lifecycle.callers.set caller state }

/-- The pool of a loop. -/
def pool? (lifecycle : Lifecycle) (loop : Nat) : Option Pool :=
  lifecycle.loops[loop]?.map AcceptLoop.pool

/-- A listener with something done to the pool of a loop. -/
def withPool (lifecycle : Lifecycle) (loop : Nat) (pool : Pool) : Lifecycle :=
  { lifecycle with loops := lifecycle.loops.modify loop fun l => { l with pool } }

/-- The first step of a call to run: it claims the flag, unless somebody has it. -/
def claim (lifecycle : Lifecycle) (attempt : Except ListenError Opening) : Lifecycle :=
  if lifecycle.running then lifecycle.enter (.returned .alreadyRunning)
  else { lifecycle with running := true }.enter (.starting attempt)

/-- The first step of a call to shut down: it takes the stored loop and tells it to stop. Without a
stored loop there is nothing to wait for. -/
def take (lifecycle : Lifecycle) : Lifecycle :=
  match lifecycle.stored with
  | none => lifecycle.enter (.returned .stopped)
  | some loop =>
    { lifecycle with
      stored := none
      loops := lifecycle.loops.modify loop fun l =>
        { l with pool := { l.pool with stopping := true } } }.enter (.awaiting loop)

/-- The next step of a caller, if it has one and need not wait. -/
def proceed? (lifecycle : Lifecycle) (caller : Nat) : Option Lifecycle := do
  match ← lifecycle.callers[caller]? with
  | .starting (.error error) => some (lifecycle.goOn caller (.yielding error))
  | .starting (.ok opening) =>
    let loop := ⟨opening.address, .new opening.workers⟩
    some ({ lifecycle with loops := lifecycle.loops ++ [loop] }.goOn caller
      (.storing lifecycle.loops.length))
  | .storing loop =>
    some ({ lifecycle with stored := some loop }.goOn caller (.returned (.started loop)))
  | .yielding error =>
    some ({ lifecycle with running := false }.goOn caller (.returned (.failed error)))
  | .awaiting loop =>
    if (lifecycle.pool? loop).any (·.phase = .ended) then
      some (lifecycle.goOn caller (.clearing loop))
    else none
  | .clearing _ => some ({ lifecycle with running := false }.goOn caller (.returned .stopped))
  | .returned _ | .abandoned _ => none

/-- What follows a move, if it can be made. -/
def step? (lifecycle : Lifecycle) : Move → Option Lifecycle
  | .run attempt => some (lifecycle.claim attempt)
  | .shutdown => some lifecycle.take
  | .proceed caller => lifecycle.proceed? caller
  | .abandon caller =>
    match lifecycle.callers[caller]? with
    | some (.awaiting loop) => some (lifecycle.goOn caller (.abandoned loop))
    | _ => none
  | .pool loop move => do
    let pool ← (← lifecycle.pool? loop).step? move
    some (lifecycle.withPool loop pool)

/-- What follows several moves, of which those that cannot be made are passed over. -/
def play (lifecycle : Lifecycle) (moves : List Move) : Lifecycle :=
  moves.foldl (fun lifecycle move => (lifecycle.step? move).getD lifecycle) lifecycle

/-- Where the listener can be reached, if it can. -/
def address? (lifecycle : Lifecycle) : Option SocketAddress := do
  let loop ← lifecycle.loops[← lifecycle.stored]?
  some loop.address

/-- Whether a client on the host gets through to the listener. -/
def admits (lifecycle : Lifecycle) (host : Host) : Bool :=
  host.reachable && lifecycle.loops.any fun loop => loop.pool.listening

/-- The number of connections that are being served. -/
def active (lifecycle : Lifecycle) : Nat :=
  lifecycle.loops.foldl (fun active loop => active + loop.pool.active) 0

/-! ## Calls that nothing interrupts -/

/-- A call to run from its beginning to its end. -/
def runThrough (lifecycle : Lifecycle) (attempt : Except ListenError Opening) : Lifecycle :=
  let caller := lifecycle.callers.length
  lifecycle.play [.run attempt, .proceed caller, .proceed caller]

/-- A call to shut down from its beginning as far as it gets while no connection ends. -/
def shutdownThrough (lifecycle : Lifecycle) : Lifecycle :=
  let caller := lifecycle.callers.length
  let waits := match lifecycle.stored with
    | some loop => [.pool loop .advance, .pool loop .advance]
    | none => []
  lifecycle.play ([.shutdown] ++ waits ++ [.proceed caller, .proceed caller])

/-- The reply to the latest call, if it has come back. -/
def latestReply? (lifecycle : Lifecycle) : Option Reply :=
  match lifecycle.callers.getLast? with
  | some (.returned reply) => some reply
  | _ => none

end Lifecycle

end FastCgi
