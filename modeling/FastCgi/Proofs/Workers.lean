import FastCgi.Listener.Pool

/-!
# A worker for each connection

What a pool can do is said once, by `Pool.Changes`, with what has to hold for it. A worker is free,
or the accept loop holds it, or a connection does: none is lost and none is made, however the
clients, the loop and the connections take turns (`Pool.Changes.permits`). The count of active
connections keeps step with the connections that have not ended, as a connection leaves the count
before it gives back its worker. A client that was accepted has a connection that waits to be
handed to the server, until it is. A loop that was told to stop looks before it waits for a client
again, so it may accept the client that it was waiting for, and no other one.
-/

namespace FastCgi

/-- The number of workers that the accept loop holds itself. -/
def PoolPhase.held : PoolPhase → Nat
  | .seekingClient _ | .backingOff => 1
  | .seekingWorker _ | .draining | .ended => 0

/-- Whether a connection counts as active. -/
def PoolTask.isLive (task : PoolTask) : Bool := task.stage != .released

namespace Pool

variable {workers : Nat} {pool pool' : Pool} {move : Move} {moves : List Move} {client : Nat}

/-! ## What a pool can do -/

/-- What can become of a pool in one step. -/
inductive Changes (pool : Pool) : Pool → Prop where
  /-- A client joins the queue, while there is a socket that it can come to. -/
  | joins {client : Nat} (hlistening : pool.listening = true) :
    Changes pool { pool with queue := pool.queue ++ [client] }
  /-- The loop is told to stop. -/
  | told : Changes pool { pool with stopping := true }
  /-- The loop is not to stop, and waits for a worker. -/
  | seeksWorker (hphase : pool.phase = .seekingWorker false) (hstopping : pool.stopping = false) :
    Changes pool { pool with phase := .seekingWorker true }
  /-- The loop takes a free worker. -/
  | takes (hphase : pool.phase = .seekingWorker true) (hfree : 0 < pool.free) :
    Changes pool { pool with phase := .seekingClient false, free := pool.free - 1 }
  /-- The loop is not to stop, and waits for a client. -/
  | seeksClient (hphase : pool.phase = .seekingClient false) (hstopping : pool.stopping = false) :
    Changes pool { pool with phase := .seekingClient true }
  /-- The loop accepts the first client, whose connection gets the worker. -/
  | accepts {client : Nat} {queue : List Nat} (hphase : pool.phase = .seekingClient true)
      (hqueue : pool.queue = client :: queue) :
    Changes pool { pool with
      phase := .seekingWorker false, queue, tasks := pool.tasks ++ [⟨client, .waiting⟩],
      active := pool.active + 1, accepted := pool.accepted ++ [client] }
  /-- The loop looks again whether it is to stop, while it waits for a worker. -/
  | seeksWorkerAnew (hphase : pool.phase = .seekingWorker true) :
    Changes pool { pool with phase := .seekingWorker false }
  /-- The loop looks again whether it is to stop, while it waits for a client. -/
  | seeksClientAnew (hphase : pool.phase = .seekingClient true) :
    Changes pool { pool with phase := .seekingClient false }
  /-- No client can be accepted, and the loop keeps its worker for some time. -/
  | backsOff (hphase : pool.phase = .seekingClient true) :
    Changes pool { pool with phase := .backingOff }
  /-- The loop gives back its worker, to start over. -/
  | startsOver (hphase : pool.phase = .backingOff) :
    Changes pool { pool with phase := .seekingWorker false, free := pool.free + 1 }
  /-- The loop is to stop, and has no worker. -/
  | stops {looked : Bool} (hphase : pool.phase = .seekingWorker looked)
      (hstopping : pool.stopping = true) :
    Changes pool { pool with phase := .draining }
  /-- The loop is to stop, and gives back its worker. -/
  | givesUp {looked : Bool} (hphase : pool.phase = .seekingClient looked)
      (hstopping : pool.stopping = true) :
    Changes pool { pool with phase := .draining, free := pool.free + 1 }
  /-- No connection is left, and the loop ends. -/
  | ends (hphase : pool.phase = .draining) (htasks : pool.tasks = []) :
    Changes pool { pool with phase := .ended }
  /-- A connection is handed to the server. -/
  | hands {client : Nat} (hmem : ⟨client, .waiting⟩ ∈ pool.tasks) :
    Changes pool { pool with
      tasks := pool.tasks.replace ⟨client, .waiting⟩ ⟨client, .served⟩
      handed := pool.handed ++ [client] }
  /-- A connection ends, and counts no longer. -/
  | releases {client : Nat} (hmem : ⟨client, .served⟩ ∈ pool.tasks) :
    Changes pool { pool with
      tasks := pool.tasks.replace ⟨client, .served⟩ ⟨client, .released⟩
      active := pool.active - 1 }
  /-- A connection that has ended gives back its worker. -/
  | finishes {client : Nat} (hmem : ⟨client, .released⟩ ∈ pool.tasks) :
    Changes pool { pool with
      tasks := pool.tasks.erase ⟨client, .released⟩, free := pool.free + 1 }

/-- What the loop does by itself. -/
theorem changes_of_advance? (h : pool.advance? = some pool') : pool.Changes pool' := by
  unfold advance? at h
  split at h
  next hphase =>
    split at h <;> cases h
    next hstopping => exact .stops hphase hstopping
    next hstopping => exact .seeksWorker hphase (eq_false_of_ne_true hstopping)
  next hphase =>
    split at h
    next hfree =>
      cases h
      exact .takes hphase hfree
    next =>
      split at h <;> cases h
      next hstopping => exact .stops hphase hstopping
  next hphase =>
    split at h <;> cases h
    next hstopping => exact .givesUp hphase hstopping
    next hstopping => exact .seeksClient hphase (eq_false_of_ne_true hstopping)
  next hphase =>
    split at h
    next hqueue =>
      cases h
      exact .accepts hphase hqueue
    next =>
      split at h <;> cases h
      next hstopping => exact .givesUp hphase hstopping
  next hphase =>
    cases h
    exact .startsOver hphase
  next hphase =>
    split at h <;> cases h
    next htasks => exact .ends hphase (List.isEmpty_iff.1 htasks)
  next => cases h

/-- A move that can be made does one of these. -/
theorem changes_of_step? (h : pool.step? move = some pool') : pool.Changes pool' := by
  cases move with
  | connect client =>
    obtain ⟨hlistening, h⟩ := Option.ite_none_right_eq_some.1 h
    cases h
    exact .joins hlistening
  | stop =>
    cases h
    exact .told
  | advance => exact changes_of_advance? h
  | look =>
    simp only [step?] at h
    split at h <;> cases h
    next hphase => exact .seeksWorkerAnew hphase
    next hphase => exact .seeksClientAnew hphase
  | acceptFails =>
    obtain ⟨hphase, h⟩ := Option.ite_none_right_eq_some.1 h
    cases h
    exact .backsOff hphase
  | hand client =>
    obtain ⟨hmem, h⟩ := Option.ite_none_right_eq_some.1 h
    cases h
    exact .hands hmem
  | release client =>
    obtain ⟨hmem, h⟩ := Option.ite_none_right_eq_some.1 h
    cases h
    exact .releases hmem
  | finish client =>
    obtain ⟨hmem, h⟩ := Option.ite_none_right_eq_some.1 h
    cases h
    exact .finishes hmem

/-- A move that cannot be made is passed over. -/
theorem play_cons (pool : Pool) (move : Move) (moves : List Move) :
    pool.play (move :: moves) = ((pool.step? move).getD pool).play moves := rfl

/-- What each step keeps holds after any moves. -/
theorem play_induction {motive : Pool → Prop} (hpool : motive pool)
    (hstep : ∀ {pool pool'}, pool.Changes pool' → motive pool → motive pool') (moves : List Move) :
    motive (pool.play moves) := by
  induction moves generalizing pool with
  | nil => exact hpool
  | cons move moves ih =>
    rw [play_cons]
    cases h : pool.step? move with
    | none => exact ih hpool
    | some pool' => exact ih (hstep (changes_of_step? h) hpool)

/-! ## The workers -/

/-- No worker is lost, and none is made. -/
theorem Changes.permits (h : pool.Changes pool') :
    pool'.free + pool'.phase.held + pool'.tasks.length =
      pool.free + pool.phase.held + pool.tasks.length := by
  cases h with
  | joins | told => rfl
  | seeksWorker hphase | seeksClient hphase | seeksWorkerAnew hphase | seeksClientAnew hphase
  | backsOff hphase | stops hphase | ends hphase => rw [hphase]; rfl
  | takes hphase hfree =>
    simp only [hphase, PoolPhase.held]
    omega
  | accepts hphase =>
    simp only [hphase, PoolPhase.held, List.length_append, List.length_singleton]
    omega
  | startsOver hphase | givesUp hphase => simp only [hphase, PoolPhase.held]
  | hands | releases => simp only [List.length_replace]
  | finishes hmem =>
    have := List.length_pos_of_mem hmem
    simp only [List.length_erase_of_mem hmem]
    omega

/-! ## The connections -/

/-- A count of connections, when one of them comes a step further. -/
theorem countP_replace_of_mem {p : PoolTask → Bool} {task : PoolTask} {tasks : List PoolTask}
    (hmem : task ∈ tasks) (task' : PoolTask) :
    (tasks.replace task task').countP p + (if p task then 1 else 0) =
      tasks.countP p + if p task' then 1 else 0 := by
  have hpos : p task → 0 < tasks.countP p := fun hp => List.countP_pos_iff.2 ⟨task, hmem, hp⟩
  rw [List.countP_replace, if_pos (List.contains_iff_mem.2 hmem)]
  cases hp : p task with
  | false => simp
  | true =>
    have := hpos hp
    simp only [reduceIte]
    omega

/-- A connection leaves the count when it ends, and gives back its worker after that. -/
theorem Changes.active (h : pool.Changes pool')
    (hactive : pool.active = pool.tasks.countP PoolTask.isLive) :
    pool'.active = pool'.tasks.countP PoolTask.isLive := by
  cases h with
  | joins | told | seeksWorker | takes | seeksClient | seeksWorkerAnew | seeksClientAnew | backsOff
  | startsOver | stops | givesUp | ends => exact hactive
  | accepts =>
    rw [List.countP_append]
    exact congrArg (· + 1) hactive
  | @hands client hmem =>
    have := countP_replace_of_mem (p := PoolTask.isLive) hmem ⟨client, .served⟩
    exact hactive.trans (Nat.add_right_cancel this).symm
  | @releases client hmem =>
    have hless : (pool.tasks.replace ⟨client, .served⟩ ⟨client, .released⟩).countP PoolTask.isLive
        + 1 = pool.tasks.countP PoolTask.isLive := countP_replace_of_mem hmem ⟨client, .released⟩
    dsimp only
    omega
  | finishes hmem =>
    rw [hactive, (List.perm_cons_erase hmem).countP_eq]
    rfl

/-- A client that was accepted waits to be handed to the server until it is. -/
theorem Changes.handed (h : pool.Changes pool') (client : Nat)
    (hhanded : pool.accepted.count client =
      pool.handed.count client + pool.tasks.count ⟨client, .waiting⟩) :
    pool'.accepted.count client =
      pool'.handed.count client + pool'.tasks.count ⟨client, .waiting⟩ := by
  cases h with
  | joins | told | seeksWorker | takes | seeksClient | seeksWorkerAnew | seeksClientAnew | backsOff
  | startsOver | stops | givesUp | ends => exact hhanded
  | @accepts client' =>
    simp only [List.count_append, hhanded, Nat.add_assoc]
    simp [List.count_singleton]
  | @hands client' hmem =>
    have hfewer : (pool.tasks.replace ⟨client', .waiting⟩ ⟨client', .served⟩).count
        ⟨client, .waiting⟩ + (if client' = client then 1 else 0) =
          pool.tasks.count ⟨client, .waiting⟩ := by
      simpa [List.count] using
        countP_replace_of_mem (p := (· == ⟨client, .waiting⟩)) hmem ⟨client', .served⟩
    simp only [List.count_append, List.count_singleton, beq_iff_eq]
    omega
  | @releases client' hmem =>
    have hsame : (pool.tasks.replace ⟨client', .served⟩ ⟨client', .released⟩).count
        ⟨client, .waiting⟩ = pool.tasks.count ⟨client, .waiting⟩ := by
      simpa [List.count] using
        countP_replace_of_mem (p := (· == ⟨client, .waiting⟩)) hmem ⟨client', .released⟩
    exact hhanded.trans (congrArg (pool.handed.count client + ·) hsame.symm)
  | finishes hmem =>
    rw [hhanded, (List.perm_cons_erase hmem).count_eq]
    simp

/-- Only a loop that has a worker accepts a client, and the connection gets that worker. -/
theorem Changes.accepted (h : pool.Changes pool') :
    pool'.accepted = pool.accepted ∨ pool.phase = .seekingClient true ∧
      ∃ client, pool'.accepted = pool.accepted ++ [client] ∧
        pool'.tasks = pool.tasks ++ [⟨client, .waiting⟩] ∧ pool'.phase = .seekingWorker false := by
  cases h with
  | accepts hphase => exact .inr ⟨hphase, _, rfl, rfl, rfl⟩
  | _ => exact .inl rfl

/-! ## The end -/

/-- A loop that was told to stop is never told otherwise. -/
theorem Changes.stopping (h : pool.Changes pool') (hstopping : pool.stopping = true) :
    pool'.stopping = true := by
  cases h with
  | told => rfl
  | _ => exact hstopping

/-- The loop does not close the socket before it is told to stop. -/
theorem Changes.told_of_closed (h : pool.Changes pool')
    (htold : pool.listening = false → pool.stopping = true) :
    pool'.listening = false → pool'.stopping = true := by
  cases h with
  | joins | finishes | hands | releases => exact htold
  | told => exact fun _ => rfl
  | stops _ hstopping | givesUp _ hstopping => exact fun _ => hstopping
  | ends hphase => exact fun _ => htold (by simp [listening, hphase])
  | _ =>
    intro hclosed
    cases hclosed

/-- The loop ends when no connection is left, and no connection comes after that. -/
theorem Changes.ended (h : pool.Changes pool') (hended : pool.phase = .ended → pool.tasks = []) :
    pool'.phase = .ended → pool'.tasks = [] := by
  intro hphase'
  cases h with
  | joins | told => exact hended hphase'
  | ends _ htasks => exact htasks
  | hands hmem | releases hmem | finishes hmem =>
    rw [hended hphase'] at hmem
    cases hmem
  | _ => cases hphase'

/-- A loop that was told to stop looks before it waits for a client. -/
theorem Changes.phase_ne (h : pool.Changes pool') (hstopping : pool.stopping = true)
    (hphase : pool.phase ≠ .seekingClient true) : pool'.phase ≠ .seekingClient true := by
  cases h with
  | joins | told | hands | releases | finishes => exact hphase
  | seeksClient _ hgoesOn => simp [hgoesOn] at hstopping
  | _ =>
    intro hseeking
    cases hseeking

/-- A loop that was told to stop, and was not waiting for a client, accepts none any more. -/
theorem accepted_play_of_stopping (hstopping : pool.stopping = true)
    (hphase : pool.phase ≠ .seekingClient true) (moves : List Move) :
    (pool.play moves).accepted = pool.accepted := by
  refine (play_induction (motive := fun pool' => pool'.accepted = pool.accepted ∧
    pool'.stopping = true ∧ pool'.phase ≠ .seekingClient true) ⟨rfl, hstopping, hphase⟩ ?_ moves).1
  rintro pool₁ pool₂ hchanges ⟨haccepted, hstopping, hphase⟩
  refine ⟨?_, hchanges.stopping hstopping, hchanges.phase_ne hstopping hphase⟩
  obtain hsame | ⟨hseeking, -⟩ := hchanges.accepted
  · exact hsame.trans haccepted
  · exact absurd hseeking hphase

/-- A loop that was told to stop may still accept the client that it is waiting for, but no other
one. -/
theorem accepted_play_of_told (hstopping : pool.stopping = true) (moves : List Move) :
    (pool.play moves).accepted = pool.accepted ∨ pool.phase = .seekingClient true ∧
      ∃ client, (pool.play moves).accepted = pool.accepted ++ [client] := by
  induction moves generalizing pool with
  | nil => exact .inl rfl
  | cons move moves ih =>
    rw [play_cons]
    cases hstep : pool.step? move with
    | none => exact ih hstopping
    | some pool' =>
      have hchanges := changes_of_step? hstep
      rw [Option.getD_some]
      obtain hsame | ⟨hphase, client, haccepted, -, hphase'⟩ := hchanges.accepted
      · rw [← hsame]
        obtain hnone | ⟨hphase', hone⟩ := ih (hchanges.stopping hstopping)
        · exact .inl hnone
        · refine .inr ⟨?_, hone⟩
          exact Decidable.byContradiction fun hphase =>
            hchanges.phase_ne hstopping hphase hphase'
      · refine .inr ⟨hphase, client, ?_⟩
        rw [← haccepted]
        exact accepted_play_of_stopping (hchanges.stopping hstopping) (by simp [hphase']) moves

/-! ## The accounts of a pool -/

/-- What holds of a pool with so many workers at any time. -/
structure Accounted (workers : Nat) (pool : Pool) : Prop where
  permits : pool.free + pool.phase.held + pool.tasks.length = max workers 1
  active : pool.active = pool.tasks.countP PoolTask.isLive
  handed : ∀ client, pool.accepted.count client =
    pool.handed.count client + pool.tasks.count ⟨client, .waiting⟩
  told : pool.listening = false → pool.stopping = true
  ended : pool.phase = .ended → pool.tasks = []

/-- At first all workers are free, and no client has been accepted. -/
theorem accounted_new (workers : Nat) : (new workers).Accounted workers where
  permits := rfl
  active := rfl
  handed := fun _ => rfl
  told := nofun
  ended := nofun

/-- One step: whatever happens, the pool stays accounted for. -/
theorem Changes.accounted (h : pool.Changes pool') (hpool : pool.Accounted workers) :
    pool'.Accounted workers where
  permits := h.permits.trans hpool.permits
  active := h.active hpool.active
  handed := fun client => h.handed client (hpool.handed client)
  told := h.told_of_closed hpool.told
  ended := h.ended hpool.ended

/-- Many steps. -/
theorem accounted_play (workers : Nat) (moves : List Move) :
    ((new workers).play moves).Accounted workers :=
  play_induction (accounted_new workers) Changes.accounted moves

/-- There are never more active connections than workers. -/
theorem Accounted.active_le (h : pool.Accounted workers) : pool.active ≤ max workers 1 := by
  have hlive : pool.active ≤ pool.tasks.length := h.active ▸ List.countP_le_length
  have := h.permits
  omega

/-- A loop that has ended has handed each client that it accepted to the server, and all workers are
free again. -/
theorem Accounted.of_ended (h : pool.Accounted workers) (hphase : pool.phase = .ended) :
    pool.tasks = [] ∧ pool.active = 0 ∧ pool.free = max workers 1 ∧
      pool.handed.Perm pool.accepted := by
  have htasks := h.ended hphase
  refine ⟨htasks, ?_, ?_, ?_⟩
  · simp [h.active, htasks]
  · simpa [hphase, htasks, PoolPhase.held] using h.permits
  · refine List.perm_iff_count.2 fun client => ?_
    simpa [htasks] using (h.handed client).symm

/-- Whatever the moves, the workers that are free, that the loop holds and that connections hold are
as many as there were at first. As many connections are active as have not ended, and never more
than there are workers. A client is handed to the server as often as it was accepted, less the
connections that still wait for that. Only a loop that holds a worker accepts a client, and the
connection then holds that worker in its stead. A loop that is told to stop accepts at most the
client that it is just waiting for, and once it has seen that it is to stop it accepts none. When it
has ended, no connection is left. -/
theorem play_accounting (workers : Nat) (moves : List Move) :
    let pool := (new workers).play moves
    pool.free + pool.phase.held + pool.tasks.length = max workers 1 ∧
    pool.active = pool.tasks.countP PoolTask.isLive ∧ pool.active ≤ max workers 1 ∧
    (∀ client, pool.accepted.count client =
      pool.handed.count client + pool.tasks.count ⟨client, .waiting⟩) ∧
    (∀ move pool', pool.step? move = some pool' → pool'.accepted ≠ pool.accepted →
      pool.phase.held = 1 ∧ pool'.phase.held = 0 ∧ ∃ client,
        pool'.accepted = pool.accepted ++ [client] ∧
        pool'.tasks = pool.tasks ++ [⟨client, .waiting⟩]) ∧
    (pool.stopping = true → ∀ later, (pool.play later).accepted = pool.accepted ∨
      pool.phase = .seekingClient true ∧
        ∃ client, (pool.play later).accepted = pool.accepted ++ [client]) ∧
    (pool.listening = false → ∀ later, (pool.play later).accepted = pool.accepted) ∧
    (pool.phase = .ended → pool.tasks = [] ∧ pool.active = 0 ∧ pool.free = max workers 1 ∧
      pool.handed.Perm pool.accepted) := by
  intro pool
  have hpool : pool.Accounted workers := accounted_play workers moves
  refine ⟨hpool.permits, hpool.active, hpool.active_le, hpool.handed, ?_, ?_, ?_, hpool.of_ended⟩
  · intro move pool' hstep haccepted
    obtain hsame | ⟨hphase, client, hone, htasks, hphase'⟩ := (changes_of_step? hstep).accepted
    · exact absurd hsame haccepted
    · rw [hphase, hphase']
      exact ⟨rfl, rfl, client, hone, htasks⟩
  · exact accepted_play_of_told
  · intro hclosed
    refine accepted_play_of_stopping (hpool.told hclosed) fun hphase => ?_
    simp [listening, hphase] at hclosed

/-- Two clients come to one worker. The second one is accepted when the connection of the first one
has given back the worker, and the loop ends with the connection of the second one. -/
example :
    let first := (new 1).play [.connect 7, .connect 8, .advance, .advance, .advance, .advance,
      .hand 7, .advance, .advance]
    let second := first.play [.release 7, .finish 7, .advance, .advance, .advance, .stop, .hand 8,
      .advance, .release 8, .finish 8, .advance]
    first.accepted = [7] ∧ first.active = 1 ∧ second.accepted = [7, 8] ∧ second.phase = .ended := by
  decide

end Pool

end FastCgi
