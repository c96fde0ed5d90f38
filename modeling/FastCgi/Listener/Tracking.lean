/-!
# Counting connections

Every connection of a process gets a number of its own, and every tracker counts the connections
that were registered with it and have not ended. A tracker may have several handles; they share its
count. Numbers are drawn from one source whatever the tracker, and can also be drawn without
registering anything.
-/

namespace FastCgi

/-- A connection that is registered with a tracker. -/
structure Guard where
  /-- The number of the connection. -/
  id : UInt64
  /-- The tracker that counts it. -/
  tracker : Nat
deriving DecidableEq, Repr, Inhabited

/-- The trackers of a process and what they count. -/
structure Tracking where
  /-- The number for the next connection. -/
  nextId : UInt64
  /-- The count of each tracker, by its place. -/
  counts : List UInt64
  /-- The tracker of each handle, by its place. -/
  handles : List Nat
  /-- The connections that have not ended, the oldest first. -/
  guards : List Guard
deriving Inhabited

namespace Tracking

/-- A process without trackers. -/
def new : Tracking := ⟨1, [], [], []⟩

/-- What happens to trackers and connections. -/
inductive Move where
  /-- A tracker is made, with a first handle. -/
  | make
  /-- Another handle of the same tracker is made. -/
  | share (handle : Nat)
  /-- A connection is registered. -/
  | track (handle : Nat)
  /-- The connection of a number ends. -/
  | drop (id : UInt64)
  /-- A number is drawn. -/
  | draw
deriving DecidableEq, Repr

/-- The number of connections that a handle's tracker counts. -/
def active (tracking : Tracking) (handle : Nat) : UInt64 :=
  match tracking.handles[handle]? with
  | some tracker => tracking.counts[tracker]?.getD 0
  | none => 0

/-- What follows a move. A handle that does not exist cannot be used, and a connection that is not
registered cannot end. -/
def step? (tracking : Tracking) : Move → Option Tracking
  | .make => some { tracking with
      counts := tracking.counts ++ [0], handles := tracking.handles ++ [tracking.counts.length] }
  | .share handle => do
    let tracker ← tracking.handles[handle]?
    some { tracking with handles := tracking.handles ++ [tracker] }
  | .track handle => do
    let tracker ← tracking.handles[handle]?
    some { tracking with
      nextId := tracking.nextId + 1
      counts := tracking.counts.modify tracker (· + 1)
      guards := tracking.guards ++ [⟨tracking.nextId, tracker⟩] }
  | .drop id => do
    let guard ← tracking.guards.find? (·.id = id)
    some { tracking with
      counts := tracking.counts.modify guard.tracker (· - 1)
      guards := tracking.guards.erase guard }
  | .draw => some { tracking with nextId := tracking.nextId + 1 }

/-- What follows several moves, of which those that cannot be made are passed over. -/
def play (tracking : Tracking) (moves : List Move) : Tracking :=
  moves.foldl (fun tracking move => (tracking.step? move).getD tracking) tracking

end Tracking

end FastCgi
