/-!
# The accept loop and its workers

A listener serves a bounded number of connections at a time. Its accept loop takes a worker before
it accepts a client, so that clients beyond the workers wait in the queue of the listening socket
and not in the server. The worker goes over to the connection of the client, which is handed to the
server once. A connection that ends gives up its place in the count of connections first and its
worker then. Once the loop sees that it is to stop, it accepts no further client, closes the socket,
and ends when the last connection has.
-/

namespace FastCgi

/-- How far the connection of a client has come. -/
inductive TaskStage where
  /-- It has not been handed to the server yet. -/
  | waiting
  /-- It is being served. -/
  | served
  /-- It has ended and counts no longer, but still has its worker. -/
  | released
deriving DecidableEq, Repr, Inhabited

/-- A connection that holds a worker. -/
structure PoolTask where
  client : Nat
  stage : TaskStage
deriving DecidableEq, Repr, Inhabited

/-- Where the accept loop stands. Before it waits for something it looks whether it is to stop. If
it is told so right after it has looked, it still takes what it waits for if that is there. -/
inductive PoolPhase where
  /-- It waits for a worker to be free. -/
  | seekingWorker (looked : Bool)
  /-- It holds a worker and waits for a client. -/
  | seekingClient (looked : Bool)
  /-- It holds a worker, but no client could be accepted, and it lets some time pass. -/
  | backingOff
  /-- It has closed the socket and waits for the connections to end. -/
  | draining
  /-- It has ended. -/
  | ended
deriving DecidableEq, Repr, Inhabited

/-- An accept loop with its workers. -/
structure Pool where
  /-- The number of workers. -/
  workers : Nat
  /-- The number of workers that nobody holds. -/
  free : Nat
  phase : PoolPhase
  /-- Whether the loop has been told to stop. -/
  stopping : Bool
  /-- The clients that wait to be accepted, the first one first. -/
  queue : List Nat
  /-- The connections that hold a worker. -/
  tasks : List PoolTask
  /-- The number of connections that count as active. -/
  active : Nat
  /-- The clients that were accepted. -/
  accepted : List Nat
  /-- The clients whose connections were handed to the server. -/
  handed : List Nat
deriving Inhabited

namespace Pool

/-- The most workers that a pool can have. -/
def maxWorkers : Nat := 2305843009213693951

/-- A pool with so many workers, but at least one. -/
def new (workers : Nat) : Pool :=
  ⟨max workers 1, max workers 1, .seekingWorker false, false, [], [], 0, [], []⟩

/-- Whether clients can still join the queue. -/
def listening (pool : Pool) : Bool :=
  match pool.phase with
  | .seekingWorker _ | .seekingClient _ | .backingOff => true
  | .draining | .ended => false

/-- What happens to a pool. -/
inductive Move where
  /-- A client joins the queue. -/
  | connect (client : Nat)
  /-- The loop is told to stop. -/
  | stop
  /-- The loop does what it can. -/
  | advance
  /-- The loop, which has been waiting, looks again whether it is to stop. -/
  | look
  /-- The loop is told that no client can be accepted. -/
  | acceptFails
  /-- The connection of a client is handed to the server. -/
  | hand (client : Nat)
  /-- The connection of a client ends, be it that serving it broke down, and counts no longer. -/
  | release (client : Nat)
  /-- A connection that has ended gives back its worker. -/
  | finish (client : Nat)
deriving DecidableEq, Repr

/-- The loop closes the socket. -/
def drain (pool : Pool) : Pool := { pool with phase := .draining }

/-- The loop gives back the worker that it holds. -/
def giveBack (pool : Pool) : Pool := { pool with free := pool.free + 1 }

/-- The next thing that the accept loop does, unless it has to wait. -/
def advance? (pool : Pool) : Option Pool :=
  match pool.phase with
  | .seekingWorker false =>
    if pool.stopping then some pool.drain else some { pool with phase := .seekingWorker true }
  | .seekingWorker true =>
    if 0 < pool.free then some { pool with phase := .seekingClient false, free := pool.free - 1 }
    else if pool.stopping then some pool.drain
    else none
  | .seekingClient false =>
    if pool.stopping then some pool.drain.giveBack
    else some { pool with phase := .seekingClient true }
  | .seekingClient true =>
    match pool.queue with
    | client :: queue => some { pool with
        phase := .seekingWorker false, queue, tasks := pool.tasks ++ [⟨client, .waiting⟩],
        active := pool.active + 1, accepted := pool.accepted ++ [client] }
    | [] => if pool.stopping then some pool.drain.giveBack else none
  | .backingOff => some { pool with phase := .seekingWorker false }.giveBack
  | .draining => if pool.tasks.isEmpty then some { pool with phase := .ended } else none
  | .ended => none

/-- What follows a move, if it can be made. -/
def step? (pool : Pool) : Move → Option Pool
  | .connect client =>
    if pool.listening then some { pool with queue := pool.queue ++ [client] } else none
  | .stop => some { pool with stopping := true }
  | .advance => pool.advance?
  | .look =>
    match pool.phase with
    | .seekingWorker true => some { pool with phase := .seekingWorker false }
    | .seekingClient true => some { pool with phase := .seekingClient false }
    | _ => none
  | .acceptFails =>
    if pool.phase = .seekingClient true then some { pool with phase := .backingOff } else none
  | .hand client =>
    if ⟨client, .waiting⟩ ∈ pool.tasks then
      some { pool with
        tasks := pool.tasks.replace ⟨client, .waiting⟩ ⟨client, .served⟩
        handed := pool.handed ++ [client] }
    else none
  | .release client =>
    if ⟨client, .served⟩ ∈ pool.tasks then
      some { pool with
        tasks := pool.tasks.replace ⟨client, .served⟩ ⟨client, .released⟩
        active := pool.active - 1 }
    else none
  | .finish client =>
    if ⟨client, .released⟩ ∈ pool.tasks then
      some { pool with tasks := pool.tasks.erase ⟨client, .released⟩ }.giveBack
    else none

/-- What follows several moves, of which those that cannot be made are passed over. -/
def play (pool : Pool) (moves : List Move) : Pool :=
  moves.foldl (fun pool move => (pool.step? move).getD pool) pool

/-! ## Letting the loop run -/

/-- A bound on what the loop can do by itself: each client that waits takes it four steps, and there
are a few more to its end. -/
def remaining (pool : Pool) : Nat :=
  4 * pool.queue.length + match pool.phase with
    | .backingOff => 6
    | .seekingWorker false => 5
    | .seekingWorker true => 4
    | .seekingClient false => 3
    | .seekingClient true => 2
    | .draining => 1
    | .ended => 0

/-- Whatever the loop does by itself brings it closer to a place where it waits. It is why `settle`
ends. -/
theorem remaining_lt {pool pool' : Pool} (h : pool.advance? = some pool') :
    pool'.remaining < pool.remaining := by
  unfold advance? at h
  split at h
  next hphase =>
    split at h <;> cases h <;> simp [remaining, drain, hphase]
  next hphase =>
    split at h
    · cases h
      simp [remaining, hphase]
    · split at h <;> cases h
      simp [remaining, drain, hphase]
  next hphase =>
    split at h <;> cases h <;> simp [remaining, drain, giveBack, hphase]
  next hphase =>
    split at h
    next hqueue =>
      cases h
      simp only [remaining, hphase, hqueue, List.length_cons]
      omega
    next =>
      split at h <;> cases h
      simp [remaining, drain, giveBack, hphase]
  next hphase =>
    cases h
    simp [remaining, giveBack, hphase]
  next hphase =>
    split at h <;> cases h
    simp [remaining, hphase]
  · cases h

/-- Lets the loop do what it can until it has to wait. -/
def settle (pool : Pool) : Pool :=
  match h : pool.advance? with
  | some next =>
    have := remaining_lt h
    next.settle
  | none => pool
termination_by pool.remaining

end Pool

end FastCgi
