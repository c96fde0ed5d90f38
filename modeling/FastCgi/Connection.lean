import FastCgi.Bytes
import FastCgi.Duration

/-!
# Connections

A connection is seen from the server's side: what its peer will do, and what has been written to
it. The peer's side is a script of events, which reads consume in order: bytes that arrive, faults,
pauses, and silence for ever; behind the script is the end of the stream. The way a connection takes
what is written to it is part of the value as well: how much it accepts at a time and in all, and
what happens to a flush or to the closing of the stream.

Time is not a clock but what is left of the pause that is going on. A pause begins when a read
reaches it, and goes on while the server waits for anything else.

`Connection.read_unread_le` says that a read never leaves more bytes unread than there were, and
`read_script_lt` that one which brings bytes shortens the script.
-/

namespace FastCgi

/-- What a peer does next. -/
inductive Event where
  /-- Bytes arrive. No bytes at all are no event. -/
  | data (bytes : Bytes)
  /-- Reading fails once, for the reason given. -/
  | fault (reason : String)
  /-- Nothing arrives for a while. -/
  | pause (duration : Duration)
  /-- Nothing arrives ever again. -/
  | silence
deriving DecidableEq, Repr, Inhabited

/-- The number of bytes that an event brings. -/
def Event.size : Event → Nat
  | data bytes => bytes.length
  | fault _ | pause _ | silence => 0

/-- The number of bytes that a script brings. -/
@[simp]
def Event.total : List Event → Nat
  | [] => 0
  | event :: rest => event.size + total rest

/-- How an operation on the stream goes. -/
inductive Behaviour where
  | succeeds
  | fails (reason : String)
  | stalls
deriving DecidableEq, Repr, Inhabited

/-- The fault of a stream that accepts no byte of what is written to it. -/
def Behaviour.acceptsNothing : Behaviour := .fails "write zero"

/-- A connection as the server sees it. -/
structure Connection where
  /-- What the peer is still going to do. -/
  script : List Event
  /-- The time in nanoseconds until the first event of the script is reached. -/
  pause : Nat
  /-- What has been written so far. -/
  sent : Array UInt8
  /-- The most bytes accepted at a time. -/
  chunk : Option Nat
  /-- The most bytes accepted in all. -/
  capacity : Option Nat
  /-- What writing comes to when that many bytes have been accepted. -/
  whenFull : Behaviour
  /-- What comes of a flush. -/
  flushing : Behaviour
  /-- What comes of closing the stream. -/
  closing : Behaviour
  /-- How often closing the stream was asked for. -/
  shutdowns : Nat
deriving Inhabited

namespace Connection

/-- A connection on which a script is still to be played, and which takes all that is written. -/
def new (script : List Event) : Connection :=
  ⟨script, 0, #[], none, none, .acceptsNothing, .succeeds, .succeeds, 0⟩

/-- Whether closing the stream was ever asked for. -/
def shutdown (connection : Connection) : Bool := connection.shutdowns != 0

/-- Closing was never asked for if it was asked for zero times. -/
theorem shutdowns_eq_zero_iff {connection : Connection} :
    connection.shutdowns = 0 ↔ connection.shutdown = false := by
  rw [shutdown, bne_eq_false_iff_eq]

/-- The number of bytes still to be read. -/
def unread (connection : Connection) : Nat := Event.total connection.script

/-- Lets time pass. -/
def elapse (connection : Connection) (duration : Duration) : Connection :=
  { connection with pause := connection.pause - duration.nanoseconds }

/-! ## Reading -/

/-- What a read comes to. -/
inductive Arrival where
  | data (bytes : Bytes)
  | endOfStream
  | fault (reason : String)
  | timedOut
deriving DecidableEq, Repr, Inhabited

/-- The number of bytes that a read brings. -/
def Arrival.size : Arrival → Nat
  | data bytes => bytes.length
  | endOfStream | fault _ | timedOut => 0

/-- Waits at most `patience` nanoseconds for the next event that brings something. Besides what
arrives, it gives the time left of the pause in which it was given up, and the rest of the
script. -/
def await (patience : Nat) : List Event → Arrival × Nat × List Event
  | [] => (.endOfStream, 0, [])
  | .data [] :: rest => await patience rest
  | .data (b :: bytes) :: rest => (.data (b :: bytes), 0, rest)
  | .fault reason :: rest => (.fault reason, 0, rest)
  | .pause duration :: rest =>
    if duration.nanoseconds ≤ patience then await (patience - duration.nanoseconds) rest
    else (.timedOut, duration.nanoseconds - patience, rest)
  | .silence :: rest => (.timedOut, 0, .silence :: rest)

/-- Reads what arrives next, waiting no longer than a limit. A pause that lasts as long as the limit
is waited out. -/
def read (connection : Connection) (limit : Duration) : Arrival × Connection :=
  if connection.pause ≤ limit.nanoseconds then
    match await (limit.nanoseconds - connection.pause) connection.script with
    | (arrival, pause, script) => (arrival, { connection with pause, script })
  else (.timedOut, connection.elapse limit)

/-- Waiting drops nothing but empty events, faults and pauses: what arrives and what is left make up
no more than there was. -/
theorem await_unread {patience pause : Nat} {script script' : List Event} {arrival : Arrival}
    (h : await patience script = (arrival, pause, script')) :
    arrival.size + Event.total script' ≤ Event.total script := by
  induction script generalizing patience with
  | nil => cases h; simp [Arrival.size]
  | cons event rest ih =>
    cases event with
    | data bytes =>
      cases bytes with
      | nil => simpa [Event.size] using ih h
      | cons b bytes => cases h; simp [Event.size, Arrival.size]
    | fault reason => cases h; simp [Event.size, Arrival.size]
    | silence => cases h; simp [Event.size, Arrival.size]
    | pause duration =>
      simp only [await] at h
      split at h
      · simpa [Event.size] using ih h
      · cases h; simp [Event.size, Arrival.size]

/-- Waiting that brings bytes uses up the event that brings them. -/
theorem await_data_lt {patience pause : Nat} {script script' : List Event} {bytes : Bytes}
    (h : await patience script = (.data bytes, pause, script')) :
    script'.length < script.length := by
  induction script generalizing patience with
  | nil => cases h
  | cons event rest ih =>
    cases event with
    | data bytes =>
      cases bytes with
      | nil => exact Nat.lt_succ_of_lt (ih h)
      | cons b bytes => cases h; simp
    | fault reason => cases h
    | silence => cases h
    | pause duration =>
      simp only [await] at h
      split at h
      · exact Nat.lt_succ_of_lt (ih h)
      · cases h

/-- A read leaves no more unread than there was, and what it brings counts. -/
theorem read_unread_le {connection connection' : Connection} {limit : Duration}
    {arrival : Arrival} (h : connection.read limit = (arrival, connection')) :
    arrival.size + connection'.unread ≤ connection.unread := by
  unfold read at h
  split at h
  · cases h
    exact await_unread rfl
  · cases h
    simp [elapse, unread, Arrival.size]

/-- A read that brings bytes shortens the script. -/
theorem read_script_lt {connection connection' : Connection} {limit : Duration} {bytes : Bytes}
    (h : connection.read limit = (.data bytes, connection')) :
    connection'.script.length < connection.script.length := by
  unfold read at h
  split at h
  · have harrival := congrArg Prod.fst h
    have hscript := congrArg (fun r => r.2.script) h
    simp only at harrival hscript
    rw [← hscript]
    exact await_data_lt (Prod.ext harrival rfl)
  · cases h

/-! ## Writing -/

/-- What comes of writing, flushing or closing. -/
inductive Completion where
  | done
  | fault (reason : String)
  | timedOut
deriving DecidableEq, Repr, Inhabited

/-- What an operation comes to when it is given up after a limit, and the connection after it. -/
def perform (connection : Connection) (limit : Duration) : Behaviour → Completion × Connection
  | .succeeds => (.done, connection)
  | .fails reason => (.fault reason, connection)
  | .stalls => (.timedOut, connection.elapse limit)

/-- The most bytes that the next call of a write accepts, if there is a bound. -/
def allowance (connection : Connection) : Option Nat :=
  match connection.chunk, connection.capacity with
  | none, none => none
  | some chunk, none => some chunk
  | none, some capacity => some (capacity - connection.sent.size)
  | some chunk, some capacity => some (min chunk (capacity - connection.sent.size))

/-- What a write comes to when no byte of it is accepted. A connection that still has room and takes
nothing all the same is at fault. -/
def refusal (connection : Connection) : Behaviour :=
  if connection.capacity.any (· ≤ connection.sent.size) then connection.whenFull
  else .acceptsNothing

/-- Writes all of a byte string, as much at a time as is accepted, and then flushes. Both are given
up together after a limit; what was accepted before that stays written. -/
def write (connection : Connection) (limit : Duration) (bytes : Bytes) :
    Completion × Connection :=
  if hbytes : bytes = [] then connection.perform limit connection.flushing
  else match connection.allowance with
    | none => { connection with sent := connection.sent ++ bytes }.perform limit connection.flushing
    | some 0 => connection.perform limit connection.refusal
    | some (n + 1) =>
      have : (bytes.drop (n + 1)).length < bytes.length := by
        have := List.length_pos_iff.2 hbytes
        simp only [List.length_drop]
        omega
      { connection with sent := connection.sent ++ bytes.take (n + 1) }.write limit
        (bytes.drop (n + 1))
termination_by bytes.length

/-- Closes the stream in the direction of the peer. -/
def close (connection : Connection) (limit : Duration) : Completion × Connection :=
  { connection with shutdowns := connection.shutdowns + 1 }.perform limit connection.closing

/-- How an operation goes, and how long it takes, makes no difference to what is to be read. -/
@[simp]
theorem perform_script (connection : Connection) (limit : Duration) (behaviour : Behaviour) :
    (connection.perform limit behaviour).2.script = connection.script := by
  cases behaviour <;> rfl

/-- Writing reads nothing. -/
@[simp]
theorem write_script (connection : Connection) (limit : Duration) (bytes : Bytes) :
    (connection.write limit bytes).2.script = connection.script := by
  induction connection, bytes using write.induct with
  | case1 connection => rw [write]; simp
  | case2 connection bytes hbytes h => rw [write]; simp [hbytes, h]
  | case3 connection bytes hbytes h => rw [write]; simp [hbytes, h]
  | case4 connection bytes hbytes n h _ ih => rw [write]; simpa [hbytes, h] using ih

/-- Writing leaves as many bytes to be read. -/
@[simp]
theorem write_unread (connection : Connection) (limit : Duration) (bytes : Bytes) :
    (connection.write limit bytes).2.unread = connection.unread := by
  simp [unread]

/-- Closing reads nothing. -/
@[simp]
theorem close_script (connection : Connection) (limit : Duration) :
    (connection.close limit).2.script = connection.script := by
  simp [close]

end Connection

end FastCgi
