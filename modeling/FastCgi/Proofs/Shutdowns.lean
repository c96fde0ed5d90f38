import FastCgi.Proofs.Custody

/-!
# What a shutdown has done when it comes back

A call to shut down that takes a loop comes back when that loop has ended, and has laid down the
flag then (`Changes.not_heldFor_of_stopped`). One that finds nothing stored comes back at once, and
cannot know whether that is because there is nothing to stop or because another call has taken the
loop and still waits for it, or was given up while it waited. So a call settles a loop that was
started before, if and only if no call has taken that loop before and not come back
(`shutdown_settles_iff`).
-/

namespace FastCgi

namespace Lifecycle

variable {lifecycle lifecycle' : Lifecycle} {caller loop : Nat} {state : Caller}

/-- What a call to shut down is to have done for a loop when it comes back. -/
structure Settled (lifecycle : Lifecycle) (loop : Nat) : Prop where
  /-- The loop has ended, and none of its connections is left. -/
  ended : ∃ pool, lifecycle.pool? loop = some pool ∧ pool.phase = .ended ∧ pool.tasks = []
  /-- If the flag is set, it is not because of the loop: another loop is stored, or somebody has the
  flag for something else. -/
  free : lifecycle.running = true →
    (∃ other, lifecycle.stored = some other ∧ other ≠ loop) ∨
      ∃ state ∈ lifecycle.callers, state.holds = true ∧ state.loop? ≠ some loop

/-! ## A loop that nobody has the flag for -/

/-- A loop that was started is settled exactly if the flag is not set for it: as long as it has not
ended, the flag is. -/
theorem Sound.settled_iff (h : lifecycle.Sound) (hlt : loop < lifecycle.loops.length) :
    lifecycle.Settled loop ↔ ¬ lifecycle.HeldFor loop := by
  constructor
  · intro hsettled hheld
    have hrunning : lifecycle.running = true :=
      Decidable.byContradiction fun hrunning =>
        h.flagged.not_heldFor (eq_false_of_ne_true hrunning) hheld
    obtain ⟨other, hstored, hne⟩ | ⟨state, hmem, hholds, hne⟩ := hsettled.free hrunning
    · exact hne ((h.flagged.heldFor_iff_of_stored hstored).1 hheld).symm
    · exact hne ((h.flagged.heldFor_iff hmem hholds).1 hheld)
  · intro hfree
    obtain ⟨pool, hpool⟩ := exists_pool hlt
    have hended : pool.phase = .ended :=
      Decidable.byContradiction fun halive => hfree (h.alive loop pool hpool halive)
    refine ⟨⟨pool, hpool, hended, h.tasks loop pool hpool hended⟩, fun hrunning => ?_⟩
    obtain ⟨other, hstored⟩ | ⟨state, hmem, hholds⟩ := h.flagged.exists_of_running hrunning
    · exact .inl ⟨other, hstored, fun heq => hfree (.inl (heq ▸ hstored))⟩
    · exact .inr ⟨state, hmem, hholds, fun hloop => hfree (.inr ⟨state, hmem, hloop⟩)⟩

/-- A loop gets the flag only when it is started. -/
theorem Changes.not_heldFor (h : lifecycle.Changes lifecycle') (hflag : lifecycle.Flagged)
    (hlt : loop < lifecycle.loops.length) (hfree : ¬ lifecycle.HeldFor loop) :
    ¬ lifecycle'.HeldFor loop := by
  obtain ⟨-, hsame⟩ | ⟨-, -, hnew⟩ | ⟨-, _, -, -, hnone⟩ := h.heldFor hflag
  · rwa [hsame]
  · rw [hnew]
    omega
  · exact hnone loop

/-- A call to shut down that has taken a loop keeps it, until it comes back with the flag laid
down. -/
theorem Changes.taken (h : lifecycle.Changes lifecycle') (hflag : lifecycle.Flagged)
    (hcaller : lifecycle.callers[caller]? = some state) (htaken : state.taken? = some loop) :
    ∃ state', lifecycle'.callers[caller]? = some state' ∧
      (state'.taken? = some loop ∨ state' = .returned .stopped ∧ ¬ lifecycle'.HeldFor loop) := by
  obtain ⟨state', hcaller', rfl | hgoes⟩ := h.goes hcaller
  · exact ⟨state', hcaller', .inl htaken⟩
  · refine ⟨state', hcaller', ?_⟩
    cases hgoes with
    | fails | starts | stores | yields => cases htaken
    | sees | abandons => exact .inl htaken
    | clears hrunning => exact .inr ⟨rfl, (h.flagged hflag).not_heldFor hrunning⟩

/-- A call that has come back, or was given up, does nothing any more. -/
theorem Changes.stays (h : lifecycle.Changes lifecycle')
    (hcaller : lifecycle.callers[caller]? = some state)
    (hstate : ∀ running state', ¬ state.Goes running state') :
    lifecycle'.callers[caller]? = some state := by
  obtain ⟨state', hcaller', rfl | hgoes⟩ := h.goes hcaller
  · exact hcaller'
  · exact absurd hgoes (hstate _ _)

/-! ## Whole runs -/

/-- Many steps: nobody gets the flag for a loop that was started before, once nobody has it. -/
theorem not_heldFor_play (h : lifecycle.Sound) (hlt : loop < lifecycle.loops.length)
    (hfree : ¬ lifecycle.HeldFor loop) (moves : List Move) :
    ¬ (lifecycle.play moves).HeldFor loop := by
  refine (h.play_induction (motive := fun lifecycle =>
    loop < lifecycle.loops.length ∧ ¬ lifecycle.HeldFor loop) ⟨hlt, hfree⟩ ?_ moves).2
  intro before after hsound hchanges ⟨hlt, hfree⟩
  exact ⟨Nat.lt_of_lt_of_le hlt (hchanges.length_le hsound.flagged),
    hchanges.not_heldFor hsound.flagged hlt hfree⟩

/-- A call to shut down that has taken a loop comes back only when the flag is set for that loop no
longer. -/
theorem taken_play (h : lifecycle.Sound) (hlt : loop < lifecycle.loops.length)
    (hcaller : lifecycle.callers[caller]? = some state) (htaken : state.taken? = some loop)
    (moves : List Move) :
    ∃ state', (lifecycle.play moves).callers[caller]? = some state' ∧
      (state'.taken? = some loop ∨
        state' = .returned .stopped ∧ ¬ (lifecycle.play moves).HeldFor loop) := by
  refine (h.play_induction (motive := fun lifecycle =>
    loop < lifecycle.loops.length ∧ ∃ state', lifecycle.callers[caller]? = some state' ∧
      (state'.taken? = some loop ∨ state' = .returned .stopped ∧ ¬ lifecycle.HeldFor loop))
    ⟨hlt, state, hcaller, .inl htaken⟩ ?_ moves).2
  intro before after hsound hchanges ⟨hlt, state, hcaller, hstate⟩
  refine ⟨Nat.lt_of_lt_of_le hlt (hchanges.length_le hsound.flagged), ?_⟩
  obtain htaken | ⟨rfl, hfree⟩ := hstate
  · exact hchanges.taken hsound.flagged hcaller htaken
  · exact ⟨.returned .stopped, hchanges.stays hcaller nofun,
      .inr ⟨rfl, hchanges.not_heldFor hsound.flagged hlt hfree⟩⟩

/-- A call that was given up keeps the flag for ever. -/
theorem running_play_of_abandoned (h : lifecycle.Sound)
    (hcaller : lifecycle.callers[caller]? = some (.abandoned loop)) (moves : List Move) :
    (lifecycle.play moves).running = true := by
  have hcaller' : (lifecycle.play moves).callers[caller]? = some (.abandoned loop) :=
    h.play_induction (motive := fun lifecycle =>
      lifecycle.callers[caller]? = some (.abandoned loop)) hcaller
      (fun _ hchanges hcaller => hchanges.stays hcaller nofun) moves
  exact ((sound_play h moves).flagged.of_holds (List.mem_of_getElem? hcaller') rfl).1

/-- The call to shut down that is made next has something to wait for if the loop is stored, and
comes back at once if another call has taken it. -/
theorem callers_take (lifecycle : Lifecycle) :
    lifecycle.take.callers[lifecycle.callers.length]? =
      some (lifecycle.stored.elim (.returned .stopped) .awaiting) := by
  unfold take
  split
  next hstored => simp [enter, hstored]
  next hstored => simp [enter, hstored]

/-- Whatever has happened before, say that a call to run has come back with a loop. A call to shut
down that is made now has settled that loop whenever it comes back, if and only if no other call to
shut down has the loop in hand by now: one that waits for it, is about to lay down the flag, or was
given up while it waited. If one was given up, the flag stays set for ever. -/
theorem shutdown_settles_iff (moves : List Move) (loop : Nat)
    (hstarted : .returned (.started loop) ∈ (new.play moves).callers) :
    let lifecycle := new.play moves
    ((∀ later, (lifecycle.play (.shutdown :: later)).callers[lifecycle.callers.length]? =
          some (.returned .stopped) →
        (lifecycle.play (.shutdown :: later)).Settled loop) ↔
      ∀ state ∈ lifecycle.callers, state.taken? ≠ some loop) ∧
    (.abandoned loop ∈ lifecycle.callers →
      ∀ later, (lifecycle.play later).running = true) := by
  intro lifecycle
  have hsound : lifecycle.Sound := sound_play sound_new moves
  obtain ⟨hlt, hstoring⟩ := hsound.started loop hstarted
  have htake : lifecycle.take.Sound := lifecycle.changes_take.sound hsound
  have hlt' : loop < lifecycle.take.loops.length :=
    Nat.lt_of_lt_of_le hlt (lifecycle.changes_take.length_le hsound.flagged)
  refine ⟨⟨fun hsettles state hmem htaken => ?_, fun hnone later hstopped => ?_⟩, fun hmem => ?_⟩
  · -- The new call finds nothing stored, as the flag is with the other one.
    have hheld : lifecycle.HeldFor loop := .inr ⟨state, hmem, Caller.loop?_of_taken? htaken⟩
    have hstored := (hsound.flagged.of_holds hmem
      (Caller.holds_of_loop? (Caller.loop?_of_taken? htaken))).2.1
    have hstopped := lifecycle.callers_take
    rw [hstored] at hstopped
    refine (htake.settled_iff hlt').1 (hsettles [] hstopped) ?_
    have heq : lifecycle.take = lifecycle.enter (.returned .stopped) := by simp [take, hstored]
    show lifecycle.take.HeldFor loop
    rw [heq]
    exact heldFor_enter.2 (.inl hheld)
  · refine ((sound_play htake later).settled_iff
      (Nat.lt_of_lt_of_le hlt' (htake.length_le_play later))).2 ?_
    by_cases hstored : lifecycle.stored = some loop
    · -- The new call takes the loop, and waits for it.
      have hcaller := lifecycle.callers_take
      rw [hstored] at hcaller
      obtain ⟨state', hcaller', htaken | ⟨-, hfree⟩⟩ := taken_play htake hlt' hcaller rfl later
      · cases hcaller'.symm.trans hstopped
        cases htaken
      · exact hfree
    · -- The loop was shut down before.
      refine not_heldFor_play hsound hlt ?_ (.shutdown :: later)
      rintro (hstored' | ⟨state, hmem, hloop⟩)
      · exact hstored hstored'
      · cases state with
        | storing => exact hstoring (Option.some.inj hloop ▸ hmem)
        | _ => exact hnone _ hmem hloop
  · obtain ⟨caller, hcaller⟩ := List.mem_iff_getElem?.1 hmem
    exact running_play_of_abandoned hsound hcaller

/-- A call to run has come back, and nobody has called to shut down yet. -/
theorem shutdown_settles_iff_started :
    let moves : List Move := [.run (.ok ⟨⟨.v4 127 0 0 1, 9000⟩, 1⟩), .proceed 0, .proceed 0]
    .returned (.started 0) ∈ (new.play moves).callers ∧
      ∀ later, (new.play (moves ++ .shutdown :: later)).callers[1]? = some (.returned .stopped) →
        (new.play (moves ++ .shutdown :: later)).Settled 0 := by
  intro moves
  have hstarted : .returned (.started 0) ∈ (new.play moves).callers := List.mem_singleton_self _
  refine ⟨hstarted, fun later hstopped => ?_⟩
  rw [play_append] at hstopped ⊢
  refine (shutdown_settles_iff moves 0 hstarted).1.2 ?_ later hstopped
  intro state hmem htaken
  cases List.mem_singleton.1 hmem
  cases htaken

/-- Two calls to shut down while a client is being served: the second one comes back at once,
although the client is still being served, and nobody can run the listener again. If the first one
is given up, the flag stays set when the loop has ended, and yet a call to shut down comes back. -/
theorem shutdown_unsettled :
    let opening : Opening := ⟨⟨.v4 127 0 0 1, 9000⟩, 1⟩
    let first := new.play [.run (.ok opening), .proceed 0, .proceed 0, .pool 0 (.connect 7),
      .pool 0 .advance, .pool 0 .advance, .pool 0 .advance, .pool 0 .advance, .pool 0 (.hand 7),
      .shutdown]
    let second := first.play [.shutdown]
    let given := first.play [.abandon 1, .pool 0 (.release 7), .pool 0 (.finish 7),
      .pool 0 .advance, .pool 0 .advance, .shutdown]
    first.callers[0]? = some (.returned (.started 0)) ∧
    second.callers[2]? = some (.returned .stopped) ∧
    (second.pool? 0).map Pool.tasks = some [⟨7, .served⟩] ∧ second.active = 1 ∧
    (second.runThrough (.ok opening)).latestReply? = some .alreadyRunning ∧ ¬ second.Settled 0 ∧
    given.callers[2]? = some (.returned .stopped) ∧
    (given.pool? 0).map Pool.phase = some .ended ∧
    (given.runThrough (.ok opening)).latestReply? = some .alreadyRunning ∧ ¬ given.Settled 0 := by
  refine ⟨rfl, rfl, rfl, rfl, rfl, ?_, rfl, rfl, rfl, ?_⟩
  · rintro ⟨⟨pool, hpool, -, htasks⟩, -⟩
    cases hpool
    cases htasks
  · rintro ⟨-, hfree⟩
    obtain ⟨other, hstored, -⟩ | ⟨state, hmem, hholds, hne⟩ := hfree rfl
    · cases hstored
    · have hmem : state ∈ [.returned (.started 0), .abandoned 0, .returned .stopped] := hmem
      obtain rfl | rfl | rfl : state = .returned (.started 0) ∨ state = .abandoned 0 ∨
        state = .returned .stopped := by simpa using hmem
      · cases hholds
      · exact hne rfl
      · cases hholds

end Lifecycle

end FastCgi
