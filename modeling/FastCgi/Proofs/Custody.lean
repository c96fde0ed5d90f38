import FastCgi.Listener.Lifecycle
import FastCgi.Proofs.Workers

/-!
# Who has the flag of a listener

The flag of a listener passes from hand to hand. A call to run takes it up, and lays it down again
if there is nothing to start; otherwise it goes over to the loop that is stored, from there to the
call that shuts that loop down, and is laid down once the loop has ended. A call that is given up
keeps it for ever. `Lifecycle.Changes` says once what a listener can do in a step, and `Sound` that
the flag is set exactly if somebody has it, that nobody has it beside, and that a loop which has not
ended has it. Every step keeps this, so callers may take turns in any way
(`play_at_most_one_loop`).
-/

namespace FastCgi

namespace Pool

/-- A loop that has ended does nothing any more. -/
theorem Changes.phase_of_ended {pool pool' : Pool} (h : pool.Changes pool')
    (hended : pool.phase = .ended) : pool'.phase = .ended := by
  cases h with
  | joins | told | hands | releases | finishes => exact hended
  | seeksWorker hphase | takes hphase | seeksClient hphase | accepts hphase | seeksWorkerAnew hphase
  | seeksClientAnew hphase | backsOff hphase | startsOver hphase | stops hphase | givesUp hphase
  | ends hphase => cases hphase.symm.trans hended

end Pool

namespace Caller

/-- Whether a caller has the flag, or has gone away with it. -/
def holds : Caller → Bool
  | starting _ | storing _ | yielding _ | awaiting _ | clearing _ | abandoned _ => true
  | returned _ => false

/-- The loop that a call to shut down has taken, if it is one that has taken a loop. -/
def taken? : Caller → Option Nat
  | awaiting loop | clearing loop | abandoned loop => some loop
  | starting _ | storing _ | yielding _ | returned _ => none

/-- The loop for which a caller has the flag, if it has it for one. -/
def loop? : Caller → Option Nat
  | storing loop => some loop
  | caller => caller.taken?

variable {caller : Caller} {loop : Nat}

/-- A caller that has the flag for a loop has the flag. -/
theorem holds_of_loop? (h : caller.loop? = some loop) : caller.holds = true := by
  cases caller with
  | returned => cases h
  | _ => rfl

/-- A call that has taken a loop has the flag for that loop. -/
theorem loop?_of_taken? (h : caller.taken? = some loop) : caller.loop? = some loop := by
  cases caller with
  | storing => cases h
  | _ => exact h

/-- How a call goes on. If it comes back without having passed on the flag, the flag is not set. -/
inductive Goes (running : Bool) : Caller → Caller → Prop where
  | fails {error : ListenError} : Goes running (starting (.error error)) (yielding error)
  | starts {opening : Opening} {loop : Nat} : Goes running (starting (.ok opening)) (storing loop)
  | stores {loop : Nat} : Goes running (storing loop) (returned (.started loop))
  | yields {error : ListenError} (hrunning : running = false) :
    Goes running (yielding error) (returned (.failed error))
  | sees {loop : Nat} : Goes running (awaiting loop) (clearing loop)
  | clears {loop : Nat} (hrunning : running = false) :
    Goes running (clearing loop) (returned .stopped)
  | abandons {loop : Nat} : Goes running (awaiting loop) (abandoned loop)

end Caller

namespace Lifecycle

variable {lifecycle lifecycle' : Lifecycle} {move : Move} {caller loop : Nat} {pool : Pool}
  {state state' : Caller}

/-- Whether the flag is set for a loop: it is the one that is stored, or one that a caller has in
hand. -/
def HeldFor (lifecycle : Lifecycle) (loop : Nat) : Prop :=
  lifecycle.stored = some loop ∨ ∃ state ∈ lifecycle.callers, state.loop? = some loop

/-! ## What a listener can do -/

/-- What can become of a listener in one step. -/
inductive Changes (lifecycle : Lifecycle) : Lifecycle → Prop where
  /-- A call to run finds the flag set. -/
  | refuses (hrunning : lifecycle.running = true) :
    Changes lifecycle (lifecycle.enter (.returned .alreadyRunning))
  /-- A call to run takes up the flag. -/
  | claims {attempt : Except ListenError Opening} (hrunning : lifecycle.running = false) :
    Changes lifecycle ({ lifecycle with running := true }.enter (.starting attempt))
  /-- A call to shut down finds no loop. -/
  | findsNone (hstored : lifecycle.stored = none) :
    Changes lifecycle (lifecycle.enter (.returned .stopped))
  /-- A call to shut down takes the loop, and the flag with it, and tells the loop to stop. -/
  | takes {loop : Nat} (hstored : lifecycle.stored = some loop) :
    Changes lifecycle ({ lifecycle with
      stored := none
      loops := lifecycle.loops.modify loop fun l =>
        { l with pool := { l.pool with stopping := true } } }.enter (.awaiting loop))
  /-- There is nothing to start. -/
  | fails {caller : Nat} {error : ListenError}
      (hcaller : lifecycle.callers[caller]? = some (.starting (.error error))) :
    Changes lifecycle (lifecycle.goOn caller (.yielding error))
  /-- A loop is started, the latest one from now on. -/
  | starts {caller : Nat} {opening : Opening}
      (hcaller : lifecycle.callers[caller]? = some (.starting (.ok opening))) :
    Changes lifecycle ({ lifecycle with
      loops := lifecycle.loops ++ [(⟨opening.address, .new opening.workers⟩ : AcceptLoop)] }.goOn
        caller (.storing lifecycle.loops.length))
  /-- The loop is stored, and has the flag. -/
  | stores {caller loop : Nat} (hcaller : lifecycle.callers[caller]? = some (.storing loop)) :
    Changes lifecycle
      ({ lifecycle with stored := some loop }.goOn caller (.returned (.started loop)))
  /-- A call to run that has started nothing lays down the flag. -/
  | yields {caller : Nat} {error : ListenError}
      (hcaller : lifecycle.callers[caller]? = some (.yielding error)) :
    Changes lifecycle ({ lifecycle with running := false }.goOn caller (.returned (.failed error)))
  /-- A call to shut down finds that its loop has ended. -/
  | sees {caller loop : Nat} {pool : Pool}
      (hcaller : lifecycle.callers[caller]? = some (.awaiting loop))
      (hpool : lifecycle.pool? loop = some pool) (hended : pool.phase = .ended) :
    Changes lifecycle (lifecycle.goOn caller (.clearing loop))
  /-- A call to shut down whose loop has ended lays down the flag. -/
  | clears {caller loop : Nat} (hcaller : lifecycle.callers[caller]? = some (.clearing loop)) :
    Changes lifecycle ({ lifecycle with running := false }.goOn caller (.returned .stopped))
  /-- A call to shut down is given up. -/
  | abandons {caller loop : Nat} (hcaller : lifecycle.callers[caller]? = some (.awaiting loop)) :
    Changes lifecycle (lifecycle.goOn caller (.abandoned loop))
  /-- Something happens to a loop. -/
  | works {loop : Nat} {pool pool' : Pool} (hpool : lifecycle.pool? loop = some pool)
      (hchanges : pool.Changes pool') : Changes lifecycle (lifecycle.withPool loop pool')

/-- A call to run enters a caller that has claimed the flag, or one that is refused. -/
theorem changes_claim (lifecycle : Lifecycle) (attempt : Except ListenError Opening) :
    lifecycle.Changes (lifecycle.claim attempt) := by
  unfold claim
  split
  next hrunning => exact .refuses hrunning
  next hrunning => exact .claims (Bool.eq_false_iff.2 hrunning)

/-- A call to shut down enters a caller that has taken the stored loop, or one that has nothing to
do. -/
theorem changes_take (lifecycle : Lifecycle) : lifecycle.Changes lifecycle.take := by
  unfold take
  split
  next hstored => exact .findsNone hstored
  next hstored => exact .takes hstored

/-- A caller that goes on does what its own state lets it do, and nothing else. -/
theorem changes_of_proceed? (h : lifecycle.proceed? caller = some lifecycle') :
    lifecycle.Changes lifecycle' := by
  obtain ⟨state, hcaller, h⟩ := Option.bind_eq_some_iff.1 h
  cases state with
  | starting attempt =>
    cases attempt with
    | error error =>
      cases h
      exact .fails hcaller
    | ok opening =>
      cases h
      exact .starts hcaller
  | storing loop =>
    cases h
    exact .stores hcaller
  | yielding error =>
    cases h
    exact .yields hcaller
  | awaiting loop =>
    obtain ⟨hany, h⟩ := Option.ite_none_right_eq_some.1 h
    obtain ⟨pool, hpool, hended⟩ := (Option.any_eq_true _ _).1 hany
    cases h
    exact .sees hcaller hpool (of_decide_eq_true hended)
  | clearing loop =>
    cases h
    exact .clears hcaller
  | returned reply => cases h
  | abandoned loop => cases h

/-- A move that can be made does one of these. -/
theorem changes_of_step? (h : lifecycle.step? move = some lifecycle') :
    lifecycle.Changes lifecycle' := by
  cases move with
  | run attempt =>
    cases h
    exact lifecycle.changes_claim attempt
  | shutdown =>
    cases h
    exact lifecycle.changes_take
  | proceed caller => exact changes_of_proceed? h
  | abandon caller =>
    simp only [step?] at h
    split at h
    next hcaller =>
      cases h
      exact .abandons hcaller
    next => cases h
  | pool loop move =>
    obtain ⟨pool, hpool, h⟩ := Option.bind_eq_some_iff.1 h
    obtain ⟨pool', hstep, h⟩ := Option.bind_eq_some_iff.1 h
    cases h
    exact .works hpool (Pool.changes_of_step? hstep)

/-- Moves may be made in two goes. -/
theorem play_append (lifecycle : Lifecycle) (moves later : List Move) :
    lifecycle.play (moves ++ later) = (lifecycle.play moves).play later :=
  List.foldl_append

/-- What each step keeps holds after any moves. -/
theorem play_induction {motive : Lifecycle → Prop} (hstart : motive lifecycle)
    (hstep : ∀ {lifecycle lifecycle'}, lifecycle.Changes lifecycle' → motive lifecycle →
      motive lifecycle') (moves : List Move) : motive (lifecycle.play moves) := by
  induction moves generalizing lifecycle with
  | nil => exact hstart
  | cons move moves ih =>
    show motive (((lifecycle.step? move).getD lifecycle).play moves)
    cases h : lifecycle.step? move with
    | none => exact ih hstart
    | some lifecycle' => exact ih (hstep (changes_of_step? h) hstart)

/-! ## The flag -/

/-- The flag is set exactly if somebody has it, and nobody has it beside. -/
def Flagged (lifecycle : Lifecycle) : Prop :=
  lifecycle.callers.countP Caller.holds + lifecycle.stored.toList.length = lifecycle.running.toNat

/-- A caller that goes on is in its new state. -/
theorem getElem?_goOn (hcaller : lifecycle.callers[caller]? = some state) :
    (lifecycle.goOn caller state').callers[caller]? = some state' :=
  List.getElem?_set_self (List.getElem?_eq_some_iff.1 hcaller).1

/-- A new caller leaves the others where they are. -/
theorem getElem?_enter (hcaller : lifecycle.callers[caller]? = some state) :
    (lifecycle.enter state').callers[caller]? = some state :=
  (List.getElem?_append_left (List.getElem?_eq_some_iff.1 hcaller).1).trans hcaller

/-- The count of those that have the flag, when one caller goes on. -/
theorem countP_goOn (hcaller : lifecycle.callers[caller]? = some state) :
    (lifecycle.goOn caller state').callers.countP Caller.holds + state.holds.toNat =
      lifecycle.callers.countP Caller.holds + state'.holds.toNat := by
  obtain ⟨hlt, hstate⟩ := List.getElem?_eq_some_iff.1 hcaller
  have hpos : state.holds = true → 0 < lifecycle.callers.countP Caller.holds := fun hholds =>
    List.countP_pos_iff.2 ⟨state, List.mem_of_getElem? hcaller, hholds⟩
  simp only [goOn, List.countP_set hlt, hstate]
  cases hholds : state.holds with
  | false => cases state'.holds <;> simp
  | true =>
    have := hpos hholds
    cases state'.holds <;> simp <;> omega

/-- A new caller counts if it has the flag. -/
theorem countP_enter (lifecycle : Lifecycle) (state : Caller) :
    (lifecycle.enter state).callers.countP Caller.holds =
      lifecycle.callers.countP Caller.holds + state.holds.toNat := by
  simp only [enter, List.countP_append, List.countP_singleton]
  cases state.holds <;> rfl

/-- As long as a caller has the flag, it is set, no loop is stored, and no other caller has it. -/
theorem Flagged.of_holds (h : lifecycle.Flagged) (hmem : state ∈ lifecycle.callers)
    (hholds : state.holds = true) : lifecycle.running = true ∧ lifecycle.stored = none ∧
      lifecycle.callers.countP Caller.holds = 1 := by
  have hpos := List.countP_pos_iff.2 ⟨state, hmem, hholds⟩
  have hle := Bool.toNat_le lifecycle.running
  unfold Flagged at h
  have hstored : lifecycle.stored.toList = [] := List.length_eq_zero_iff.1 (by omega)
  exact ⟨Bool.toNat_eq_one.1 (by omega), Option.toList_eq_nil_iff.1 hstored, by omega⟩

/-- As long as a loop is stored, the flag is set, and no caller has it. -/
theorem Flagged.of_stored (h : lifecycle.Flagged) (hstored : lifecycle.stored = some loop) :
    lifecycle.running = true ∧ lifecycle.callers.countP Caller.holds = 0 := by
  have hle := Bool.toNat_le lifecycle.running
  simp only [Flagged, hstored, Option.toList_some, List.length_singleton] at h
  exact ⟨Bool.toNat_eq_one.1 (by omega), by omega⟩

/-- As long as the flag is not set, no loop is stored, and no caller has it. -/
theorem Flagged.of_not_running (h : lifecycle.Flagged) (hrunning : lifecycle.running = false) :
    lifecycle.stored = none ∧ lifecycle.callers.countP Caller.holds = 0 := by
  cases hstored : lifecycle.stored with
  | none => simpa [Flagged, hrunning, hstored] using h
  | some loop => cases hrunning.symm.trans (h.of_stored hstored).1

/-- If the flag is set, a loop is stored or a caller has it. -/
theorem Flagged.exists_of_running (h : lifecycle.Flagged) (hrunning : lifecycle.running = true) :
    (∃ loop, lifecycle.stored = some loop) ∨
      ∃ state ∈ lifecycle.callers, state.holds = true := by
  cases hstored : lifecycle.stored with
  | some loop => exact .inl ⟨loop, rfl⟩
  | none =>
    have hcount : lifecycle.callers.countP Caller.holds = 1 := by
      simpa [Flagged, hrunning, hstored] using h
    exact .inr (List.countP_pos_iff.1 (Nat.lt_of_lt_of_eq Nat.zero_lt_one hcount.symm))

/-- The flag is accounted for when the caller that has it goes on, and either keeps it or passes it
on. -/
theorem Flagged.goOn (h : lifecycle.Flagged) (hcaller : lifecycle.callers[caller]? = some state)
    (hholds : state.holds = true) (hcallers : lifecycle'.callers = lifecycle.callers)
    (hflag : state'.holds.toNat + lifecycle'.stored.toList.length = lifecycle'.running.toNat) :
    (lifecycle'.goOn caller state').Flagged := by
  have hsole := (h.of_holds (List.mem_of_getElem? hcaller) hholds).2.2
  rw [← hcallers] at hcaller hsole
  have hcount : (lifecycle'.goOn caller state').callers.countP Caller.holds + _ = _ + _ :=
    countP_goOn hcaller
  rw [hsole, hholds, Bool.toNat_true] at hcount
  show _ + lifecycle'.stored.toList.length = lifecycle'.running.toNat
  omega

/-- Whatever happens in a step, somebody has the flag exactly as long as it is set. -/
theorem Changes.flagged (h : lifecycle.Changes lifecycle') (hflag : lifecycle.Flagged) :
    lifecycle'.Flagged := by
  cases h with
  | refuses | findsNone =>
    unfold Flagged
    rw [countP_enter]
    exact hflag
  | claims hrunning =>
    obtain ⟨hstored, hcount⟩ := hflag.of_not_running hrunning
    unfold Flagged
    rw [countP_enter]
    simp [enter, hstored, hcount, Caller.holds]
  | takes hstored =>
    obtain ⟨hrunning, hcount⟩ := hflag.of_stored hstored
    unfold Flagged
    rw [countP_enter]
    simp [enter, hrunning, hcount, Caller.holds]
  | fails hcaller | starts hcaller | stores hcaller | yields hcaller | sees hcaller
  | clears hcaller | abandons hcaller =>
    obtain ⟨hrunning, hstored, -⟩ := hflag.of_holds (List.mem_of_getElem? hcaller) rfl
    exact hflag.goOn hcaller rfl rfl (by simp [hrunning, hstored, Caller.holds])
  | works => exact hflag

/-- If the flag is not set, it is set for no loop. -/
theorem Flagged.not_heldFor (h : lifecycle.Flagged) (hrunning : lifecycle.running = false) :
    ¬ lifecycle.HeldFor loop := by
  obtain ⟨hstored, hcount⟩ := h.of_not_running hrunning
  rintro (hloop | ⟨state, hmem, hloop⟩)
  · cases hstored.symm.trans hloop
  · exact List.countP_eq_zero.1 hcount state hmem (Caller.holds_of_loop? hloop)

/-- If a caller has the flag, it is set for what that caller has it for. -/
theorem Flagged.heldFor_iff (h : lifecycle.Flagged) (hmem : state ∈ lifecycle.callers)
    (hholds : state.holds = true) : lifecycle.HeldFor loop ↔ state.loop? = some loop := by
  obtain ⟨-, hstored, hcount⟩ := h.of_holds hmem hholds
  refine ⟨?_, fun hloop => .inr ⟨state, hmem, hloop⟩⟩
  rintro (hloop | ⟨other, hother, hloop⟩)
  · cases hstored.symm.trans hloop
  · rw [List.countP_eq_length_filter] at hcount
    obtain ⟨sole, hsole⟩ := List.length_eq_one_iff.1 hcount
    have heq : ∀ state ∈ lifecycle.callers, state.holds = true → state = sole := fun state hmem h =>
      List.mem_singleton.1 (hsole ▸ List.mem_filter.2 ⟨hmem, h⟩)
    rw [heq state hmem hholds, ← heq other hother (Caller.holds_of_loop? hloop)]
    exact hloop

/-- If a loop is stored, the flag is set for that loop. -/
theorem Flagged.heldFor_iff_of_stored {loop' : Nat} (h : lifecycle.Flagged)
    (hstored : lifecycle.stored = some loop') : lifecycle.HeldFor loop ↔ loop = loop' := by
  refine ⟨?_, fun heq => .inl (heq ▸ hstored)⟩
  rintro (hloop | ⟨state, hmem, hloop⟩)
  · exact Option.some.inj (hloop.symm.trans hstored)
  · exact absurd (Caller.holds_of_loop? hloop)
      (List.countP_eq_zero.1 (h.of_stored hstored).2 state hmem)

/-- A new caller may be one that has the flag for a loop. -/
theorem heldFor_enter :
    (lifecycle.enter state).HeldFor loop ↔ lifecycle.HeldFor loop ∨ state.loop? = some loop := by
  simp [HeldFor, enter, or_and_right, exists_or, or_assoc]

/-- What the flag is set for after a step. It stays what it was, unless a loop is started or a
shutdown comes to its end. -/
theorem Changes.heldFor (h : lifecycle.Changes lifecycle') (hflag : lifecycle.Flagged) :
    lifecycle'.loops.length = lifecycle.loops.length ∧
      (∀ loop, lifecycle'.HeldFor loop ↔ lifecycle.HeldFor loop) ∨
    lifecycle'.loops.length = lifecycle.loops.length + 1 ∧
      (∀ loop, ¬ lifecycle.HeldFor loop) ∧
      (∀ loop, lifecycle'.HeldFor loop ↔ loop = lifecycle.loops.length) ∨
    lifecycle'.loops.length = lifecycle.loops.length ∧
      ∃ ended, .clearing ended ∈ lifecycle.callers ∧
        (∀ loop, lifecycle.HeldFor loop ↔ loop = ended) ∧ ∀ loop, ¬ lifecycle'.HeldFor loop := by
  have hflag' := h.flagged hflag
  -- The flag is set for the loop of its one holder, so each case tells who that is on both sides.
  cases h with
  | refuses | claims | findsNone =>
    exact .inl ⟨rfl, fun loop => heldFor_enter.trans (or_iff_left nofun)⟩
  | takes hstored =>
    refine .inl ⟨List.length_modify .., fun loop => ?_⟩
    rw [hflag.heldFor_iff_of_stored hstored,
      hflag'.heldFor_iff (List.mem_append_right _ (List.mem_singleton_self _)) rfl]
    exact Option.some_inj.trans eq_comm
  | fails hcaller | sees hcaller | abandons hcaller =>
    refine .inl ⟨rfl, fun loop => ?_⟩
    rw [hflag.heldFor_iff (List.mem_of_getElem? hcaller) rfl,
      hflag'.heldFor_iff (List.mem_of_getElem? (getElem?_goOn hcaller)) rfl]
    rfl
  | starts hcaller =>
    refine .inr (.inl ⟨List.length_append, fun loop => ?_, fun loop => ?_⟩)
    · rw [hflag.heldFor_iff (List.mem_of_getElem? hcaller) rfl]
      nofun
    · rw [hflag'.heldFor_iff (List.mem_of_getElem? (getElem?_goOn hcaller)) rfl]
      exact Option.some_inj.trans eq_comm
  | stores hcaller =>
    refine .inl ⟨rfl, fun loop => ?_⟩
    rw [hflag.heldFor_iff (List.mem_of_getElem? hcaller) rfl, hflag'.heldFor_iff_of_stored rfl]
    exact eq_comm.trans Option.some_inj.symm
  | yields hcaller =>
    refine .inl ⟨rfl, fun loop => ?_⟩
    rw [hflag.heldFor_iff (List.mem_of_getElem? hcaller) rfl]
    exact iff_of_false (hflag'.not_heldFor rfl) nofun
  | clears hcaller =>
    refine .inr (.inr ⟨rfl, _, List.mem_of_getElem? hcaller, fun loop => ?_, fun loop => ?_⟩)
    · rw [hflag.heldFor_iff (List.mem_of_getElem? hcaller) rfl]
      exact Option.some_inj.trans eq_comm
    · exact hflag'.not_heldFor rfl
  | works => exact .inl ⟨List.length_modify .., fun _ => .rfl⟩

/-- The pools of the loops, when something is done to one of them. -/
theorem pool?_modify (f : Pool → Pool) (changed : Nat)
    (h : lifecycle'.loops = lifecycle.loops.modify changed fun l => { l with pool := f l.pool }) :
    lifecycle'.pool? loop = (lifecycle.pool? loop).map fun pool =>
      if changed = loop then f pool else pool := by
  unfold Lifecycle.pool?
  rw [h, List.getElem?_modify, Option.map_eq_map, Option.map_map, Option.map_map]
  congr 1
  funext l
  show (if changed = loop then _ else l).pool = if changed = loop then f l.pool else l.pool
  split <;> rfl

/-- A pool of a loop is what it was, with something done to it, or is one that is started. -/
theorem Changes.pool? {pool' : Pool} (h : lifecycle.Changes lifecycle')
    (hpool' : lifecycle'.pool? loop = some pool') :
    (∃ pool, lifecycle.pool? loop = some pool ∧ (pool' = pool ∨ pool.Changes pool')) ∨
      loop = lifecycle.loops.length ∧ ∃ workers, pool' = .new workers := by
  cases h with
  | refuses | claims | findsNone | fails | stores | yields | sees | clears | abandons =>
    exact .inl ⟨pool', hpool', .inl rfl⟩
  | @takes taken =>
    rw [pool?_modify (fun pool => { pool with stopping := true }) taken rfl] at hpool'
    obtain ⟨pool, hpool, rfl⟩ := Option.map_eq_some_iff.1 hpool'
    refine .inl ⟨pool, hpool, ?_⟩
    split
    · exact .inr .told
    · exact .inl rfl
  | @starts _ opening =>
    change (lifecycle.loops ++ [_])[loop]?.map AcceptLoop.pool = some pool' at hpool'
    rcases Nat.lt_trichotomy loop lifecycle.loops.length with hlt | rfl | hgt
    · rw [List.getElem?_append_left hlt] at hpool'
      exact .inl ⟨pool', hpool', .inl rfl⟩
    · rw [List.getElem?_concat_length] at hpool'
      exact .inr ⟨rfl, opening.workers, (Option.some.inj hpool').symm⟩
    · rw [List.getElem?_eq_none (by simpa using Nat.succ_le_of_lt hgt)] at hpool'
      cases hpool'
  | @works changed before after hbefore hchanges =>
    rw [pool?_modify (fun _ => after) changed rfl] at hpool'
    obtain ⟨pool, hpool, rfl⟩ := Option.map_eq_some_iff.1 hpool'
    refine .inl ⟨pool, hpool, ?_⟩
    split
    next heq =>
      subst heq
      cases hpool.symm.trans hbefore
      exact .inr hchanges
    next => exact .inl rfl

/-! ## The callers -/

/-- What has to be so for a caller to come to a state in a step. -/
def Reason (lifecycle lifecycle' : Lifecycle) : Caller → Prop
  | .storing loop => loop = lifecycle.loops.length
  | .clearing loop => ∃ pool, lifecycle.pool? loop = some pool ∧ pool.phase = .ended
  | .returned (.started loop) => .storing loop ∈ lifecycle.callers ∧ lifecycle'.stored = some loop
  | _ => True

/-- A caller that has come to a state in a step had a reason to. -/
theorem Changes.reason (h : lifecycle.Changes lifecycle') (hmem : state ∈ lifecycle'.callers) :
    state ∈ lifecycle.callers ∨ Reason lifecycle lifecycle' state := by
  cases h with
  | refuses | claims | findsNone | takes =>
    obtain hmem | hmem := List.mem_append.1 hmem
    · exact .inl hmem
    · cases List.mem_singleton.1 hmem
      exact .inr trivial
  | fails | yields | abandons | clears =>
    obtain hmem | rfl := List.mem_or_eq_of_mem_set hmem
    · exact .inl hmem
    · exact .inr trivial
  | starts =>
    obtain hmem | rfl := List.mem_or_eq_of_mem_set hmem
    · exact .inl hmem
    · exact .inr rfl
  | stores hcaller =>
    obtain hmem | rfl := List.mem_or_eq_of_mem_set hmem
    · exact .inl hmem
    · exact .inr ⟨List.mem_of_getElem? hcaller, rfl⟩
  | sees hcaller hpool hended =>
    obtain hmem | rfl := List.mem_or_eq_of_mem_set hmem
    · exact .inl hmem
    · exact .inr ⟨_, hpool, hended⟩
  | works => exact .inl hmem

/-- When some caller goes on, each caller stays where it is, or is the one. -/
theorem goes_goOn {running : Bool} {other : Nat} {before after : Caller}
    (hcaller : lifecycle.callers[caller]? = some before) (hgoes : before.Goes running after)
    (hother : lifecycle.callers[other]? = some state) :
    ∃ state', (lifecycle.goOn caller after).callers[other]? = some state' ∧
      (state' = state ∨ state.Goes running state') := by
  by_cases heq : caller = other
  · subst heq
    cases hcaller.symm.trans hother
    exact ⟨after, getElem?_goOn hcaller, .inr hgoes⟩
  · exact ⟨state, (List.getElem?_set_ne heq).trans hother, .inl rfl⟩

/-- In a step of anybody, a caller stays where it is or goes on. -/
theorem Changes.goes (h : lifecycle.Changes lifecycle')
    (hcaller : lifecycle.callers[caller]? = some state) :
    ∃ state', lifecycle'.callers[caller]? = some state' ∧
      (state' = state ∨ state.Goes lifecycle'.running state') := by
  cases h with
  | refuses | claims | findsNone | takes => exact ⟨state, getElem?_enter hcaller, .inl rfl⟩
  | fails hother => exact goes_goOn hother .fails hcaller
  | starts hother => exact goes_goOn hother .starts hcaller
  | stores hother => exact goes_goOn hother .stores hcaller
  | yields hother => exact goes_goOn hother (.yields rfl) hcaller
  | sees hother => exact goes_goOn hother .sees hcaller
  | clears hother => exact goes_goOn hother (.clears rfl) hcaller
  | abandons hother => exact goes_goOn hother .abandons hcaller
  | works => exact ⟨state, hcaller, .inl rfl⟩

/-- Only a call that comes back lays down the flag, after it failed to start a loop or has seen one
end. -/
theorem Changes.lays (h : lifecycle.Changes lifecycle') (hrunning : lifecycle.running = true)
    (hcleared : lifecycle'.running = false) :
    ∃ caller : Nat, (∃ error, lifecycle.callers[caller]? = some (.yielding error) ∧
        lifecycle'.callers[caller]? = some (.returned (.failed error))) ∨
      ∃ loop, lifecycle.callers[caller]? = some (.clearing loop) ∧
        lifecycle'.callers[caller]? = some (.returned .stopped) := by
  cases h with
  | @yields caller error hcaller =>
    exact ⟨caller, .inl ⟨error, hcaller, getElem?_goOn hcaller⟩⟩
  | @clears caller loop hcaller =>
    exact ⟨caller, .inr ⟨loop, hcaller, getElem?_goOn hcaller⟩⟩
  | claims => cases hcleared
  | _ => cases hrunning.symm.trans hcleared

/-! ## The whole listener -/

/-- What holds of a listener at any time. -/
structure Sound (lifecycle : Lifecycle) : Prop where
  flagged : lifecycle.Flagged
  /-- The flag is set for no loop but the latest. -/
  latest : ∀ loop, lifecycle.HeldFor loop → loop + 1 = lifecycle.loops.length
  /-- The flag is set for a loop that has not ended. -/
  alive : ∀ loop pool, lifecycle.pool? loop = some pool → pool.phase ≠ .ended →
    lifecycle.HeldFor loop
  /-- A shutdown lays down the flag only when its loop has ended. -/
  ended : ∀ loop pool, .clearing loop ∈ lifecycle.callers → lifecycle.pool? loop = some pool →
    pool.phase = .ended
  /-- A loop that has ended has no connection left. -/
  tasks : ∀ loop pool, lifecycle.pool? loop = some pool → pool.phase = .ended → pool.tasks = []
  /-- A loop that a call has come back with was started, and was stored. -/
  started : ∀ loop, .returned (.started loop) ∈ lifecycle.callers →
    loop < lifecycle.loops.length ∧ .storing loop ∉ lifecycle.callers

/-- A listener that was never run is sound, as nobody has done anything to it. -/
theorem sound_new : new.Sound where
  flagged := rfl
  latest := by
    rintro loop (hstored | ⟨state, hmem, -⟩)
    · cases hstored
    · cases hmem
  alive := nofun
  ended := nofun
  tasks := nofun
  started := nofun

/-- A loop that has a pool was started. -/
theorem lt_of_pool? (hpool : lifecycle.pool? loop = some pool) : loop < lifecycle.loops.length := by
  obtain ⟨l, hl, -⟩ := Option.map_eq_some_iff.1 hpool
  exact (List.getElem?_eq_some_iff.1 hl).1

/-- A caller has the flag only for a loop that was started. -/
theorem Sound.lt_of_mem (h : lifecycle.Sound) (hmem : state ∈ lifecycle.callers)
    (hloop : state.loop? = some loop) : loop < lifecycle.loops.length :=
  Nat.lt_of_succ_le (Nat.le_of_eq (h.latest loop (.inr ⟨state, hmem, hloop⟩)))

/-- The flag is set for no loop but the latest: a new loop is started by the caller that has the
flag, so that it is not set for an older one. -/
theorem Changes.latest (h : lifecycle.Changes lifecycle') (hsound : lifecycle.Sound) (loop : Nat)
    (hheld : lifecycle'.HeldFor loop) : loop + 1 = lifecycle'.loops.length := by
  obtain ⟨hlength, hsame⟩ | ⟨hlength, -, hnew⟩ | ⟨-, _, -, -, hnone⟩ := h.heldFor hsound.flagged
  · rw [hlength]
    exact hsound.latest loop ((hsame loop).1 hheld)
  · rw [hlength, (hnew loop).1 hheld]
  · exact absurd hheld (hnone loop)

/-- A loop that has not ended keeps the flag set for itself, since a shutdown lays down the flag
only after it has seen the loop end. -/
theorem Changes.alive (h : lifecycle.Changes lifecycle') (hsound : lifecycle.Sound) (loop : Nat)
    (pool' : Pool) (hpool' : lifecycle'.pool? loop = some pool') (halive : pool'.phase ≠ .ended) :
    lifecycle'.HeldFor loop := by
  have hlt := lt_of_pool? hpool'
  obtain ⟨pool, hpool, hchanges⟩ | ⟨rfl, -⟩ := h.pool? hpool'
  · have halive : pool.phase ≠ .ended := by
      intro hended
      obtain rfl | hchanges := hchanges
      · exact halive hended
      · exact halive (hchanges.phase_of_ended hended)
    have hheld := hsound.alive loop pool hpool halive
    obtain ⟨-, hsame⟩ | ⟨-, hnone, -⟩ | ⟨-, ended, hmem, hended, -⟩ := h.heldFor hsound.flagged
    · exact (hsame loop).2 hheld
    · exact absurd hheld (hnone loop)
    · rw [← (hended loop).1 hheld] at hmem
      exact absurd (hsound.ended loop pool hmem hpool) halive
  · obtain ⟨hlength, -⟩ | ⟨-, -, hnew⟩ | ⟨hlength, -⟩ := h.heldFor hsound.flagged
    · exact absurd hlt (by omega)
    · exact (hnew _).2 rfl
    · exact absurd hlt (by omega)

/-- A shutdown that is about to lay down the flag has a loop that has ended, and a loop that has
ended stays so. -/
theorem Changes.ended (h : lifecycle.Changes lifecycle') (hsound : lifecycle.Sound) (loop : Nat)
    (pool' : Pool) (hmem' : .clearing loop ∈ lifecycle'.callers)
    (hpool' : lifecycle'.pool? loop = some pool') : pool'.phase = .ended := by
  have hreason := h.reason hmem'
  have hlt : loop < lifecycle.loops.length := by
    obtain hmem | ⟨pool, hpool, -⟩ := hreason
    · exact hsound.lt_of_mem hmem rfl
    · exact lt_of_pool? hpool
  obtain ⟨pool, hpool, hchanges⟩ | ⟨rfl, -⟩ := h.pool? hpool'
  · have hended : pool.phase = .ended := by
      obtain hmem | ⟨before, hbefore, hended⟩ := hreason
      · exact hsound.ended loop pool hmem hpool
      · cases hpool.symm.trans hbefore
        exact hended
    obtain rfl | hchanges := hchanges
    · exact hended
    · exact hchanges.phase_of_ended hended
  · exact absurd hlt (Nat.lt_irrefl _)

/-- A loop that has ended serves no connection. -/
theorem Changes.tasks (h : lifecycle.Changes lifecycle') (hsound : lifecycle.Sound) (loop : Nat)
    (pool' : Pool) (hpool' : lifecycle'.pool? loop = some pool') (hended : pool'.phase = .ended) :
    pool'.tasks = [] := by
  obtain ⟨pool, hpool, rfl | hchanges⟩ | ⟨-, workers, rfl⟩ := h.pool? hpool'
  · exact hsound.tasks loop pool' hpool hended
  · exact hchanges.ended (hsound.tasks loop pool hpool) hended
  · rfl

/-- Loops are never forgotten. -/
theorem Changes.length_le (h : lifecycle.Changes lifecycle') (hflag : lifecycle.Flagged) :
    lifecycle.loops.length ≤ lifecycle'.loops.length := by
  obtain ⟨hlength, -⟩ | ⟨hlength, -⟩ | ⟨hlength, -⟩ := h.heldFor hflag <;> omega

/-- A call that has come back with its loop has stored that loop, and nobody else is about to store
it. -/
theorem Changes.started (h : lifecycle.Changes lifecycle') (hsound : lifecycle.Sound) (loop : Nat)
    (hmem' : .returned (.started loop) ∈ lifecycle'.callers) :
    loop < lifecycle'.loops.length ∧ .storing loop ∉ lifecycle'.callers := by
  have hle := h.length_le hsound.flagged
  obtain hmem | ⟨hmem, hstored⟩ := h.reason hmem'
  · obtain ⟨hlt, hstoring⟩ := hsound.started loop hmem
    refine ⟨by omega, fun hstoring' => ?_⟩
    obtain hmem | rfl := h.reason hstoring'
    · exact hstoring hmem
    · exact absurd hlt (Nat.lt_irrefl _)
  · refine ⟨by have := hsound.lt_of_mem hmem rfl; omega, fun hstoring' => ?_⟩
    cases hstored.symm.trans ((h.flagged hsound.flagged).of_holds hstoring' rfl).2.1

/-- Whatever happens in a step, a sound listener stays sound. -/
theorem Changes.sound (h : lifecycle.Changes lifecycle') (hsound : lifecycle.Sound) :
    lifecycle'.Sound where
  flagged := h.flagged hsound.flagged
  latest := h.latest hsound
  alive := h.alive hsound
  ended := h.ended hsound
  tasks := h.tasks hsound
  started := h.started hsound

/-- A sound listener stays sound whatever happens. -/
theorem sound_play (h : lifecycle.Sound) (moves : List Move) : (lifecycle.play moves).Sound :=
  play_induction h Changes.sound moves

/-- What each step of a sound listener keeps holds after any moves. -/
theorem Sound.play_induction {motive : Lifecycle → Prop} (h : lifecycle.Sound)
    (hstart : motive lifecycle) (hstep : ∀ {lifecycle lifecycle'}, lifecycle.Sound →
      lifecycle.Changes lifecycle' → motive lifecycle → motive lifecycle') (moves : List Move) :
    motive (lifecycle.play moves) :=
  (Lifecycle.play_induction (motive := fun lifecycle => lifecycle.Sound ∧ motive lifecycle)
    ⟨h, hstart⟩ (fun hchanges hkept =>
      ⟨hchanges.sound hkept.1, hstep hkept.1 hchanges hkept.2⟩) moves).2

/-- There are never fewer loops than before. -/
theorem Sound.length_le_play (h : lifecycle.Sound) (moves : List Move) :
    lifecycle.loops.length ≤ (lifecycle.play moves).loops.length :=
  h.play_induction (motive := fun after => lifecycle.loops.length ≤ after.loops.length)
    (Nat.le_refl _)
    (fun hsound hchanges hle => Nat.le_trans hle (hchanges.length_le hsound.flagged)) moves

/-- A loop that has not ended is the latest one. -/
theorem Sound.eq_of_alive (h : lifecycle.Sound) (hpool : lifecycle.pool? loop = some pool)
    (halive : pool.phase ≠ .ended) : loop + 1 = lifecycle.loops.length :=
  h.latest loop (h.alive loop pool hpool halive)

/-- No two loops have not ended, as each would be the latest one. -/
theorem Sound.countP_isAlive_le (h : lifecycle.Sound) :
    lifecycle.loops.countP AcceptLoop.isAlive ≤ 1 := by
  obtain hnil | ⟨loops, last, hloops⟩ := List.eq_nil_or_concat lifecycle.loops
  · simp [hnil]
  · have hended : loops.countP AcceptLoop.isAlive = 0 := by
      refine List.countP_eq_zero.2 fun l hl halive => ?_
      obtain ⟨loop, hloop⟩ := List.mem_iff_getElem?.1 hl
      have hlt := (List.getElem?_eq_some_iff.1 hloop).1
      have hpool : lifecycle.pool? loop = some l.pool := by
        simp [pool?, hloops, List.getElem?_append_left hlt, hloop]
      have := h.eq_of_alive hpool (of_decide_eq_true halive)
      rw [hloops, List.concat_eq_append, List.length_append, List.length_singleton] at this
      omega
    rw [hloops, List.concat_eq_append, List.countP_append, hended, List.countP_singleton]
    split <;> omega

/-- If the flag is not set, no loop is alive and nothing is stored. -/
theorem Sound.of_not_running (h : lifecycle.Sound) (hrunning : lifecycle.running = false) :
    (∀ l ∈ lifecycle.loops, l.isAlive = false) ∧ lifecycle.stored = none := by
  refine ⟨fun l hl => ?_, (h.flagged.of_not_running hrunning).1⟩
  obtain ⟨loop, hloop⟩ := List.mem_iff_getElem?.1 hl
  have hpool : lifecycle.pool? loop = some l.pool := congrArg (Option.map AcceptLoop.pool) hloop
  exact decide_eq_false fun halive =>
    h.flagged.not_heldFor hrunning (h.alive loop l.pool hpool halive)

/-- A call to run comes through if the flag is not set. -/
theorem runThrough_of_not_running (hrunning : lifecycle.running = false) (opening : Opening) :
    let after := lifecycle.runThrough (.ok opening)
    after.latestReply? = some (.started lifecycle.loops.length) ∧ after.running = true ∧
      after.address? = some opening.address := by
  simp [runThrough, play, step?, claim, hrunning, proceed?, enter, goOn, latestReply?, address?]

/-- A loop that was started has a pool. -/
theorem exists_pool (hlt : loop < lifecycle.loops.length) :
    ∃ pool, lifecycle.pool? loop = some pool :=
  ⟨_, congrArg (Option.map AcceptLoop.pool) (List.getElem?_eq_getElem hlt)⟩

/-- A shutdown that lays down the flag is the only one to have it, and has it for the latest loop,
which has ended. -/
theorem Sound.of_clearing (h : lifecycle.Sound) (hmem : .clearing loop ∈ lifecycle.callers) :
    lifecycle.stored = none ∧ lifecycle.callers.countP Caller.holds = 1 ∧
      loop + 1 = lifecycle.loops.length ∧
      ∃ pool, lifecycle.pool? loop = some pool ∧ pool.phase = .ended ∧ pool.tasks = [] := by
  obtain ⟨-, hstored, hcount⟩ := h.flagged.of_holds hmem rfl
  obtain ⟨pool, hpool⟩ := exists_pool (h.lt_of_mem hmem rfl)
  have hended := h.ended loop pool hmem hpool
  exact ⟨hstored, hcount, h.latest loop (.inr ⟨_, hmem, rfl⟩), pool, hpool, hended,
    h.tasks loop pool hpool hended⟩

/-- Whatever callers and loops do, and in whatever order, there is at most one loop that has not
ended, and none if the flag is not set, in which case the listener has no address either. A call to
run that finds the flag set does nothing else than to come back. One that fails to start a loop goes
on to lay down the flag, after which nothing is stored and a call to run can come through. Only such
a call lays down the flag, or a call to shut down that has seen its loop end; nobody but that call
has the flag then, and its loop is the latest. -/
theorem play_at_most_one_loop (moves : List Move) :
    let lifecycle := new.play moves
    lifecycle.loops.countP AcceptLoop.isAlive ≤ 1 ∧
    (lifecycle.running = false →
      (∀ loop ∈ lifecycle.loops, loop.isAlive = false) ∧ lifecycle.address? = none) ∧
    (lifecycle.running = true → ∀ attempt, lifecycle.step? (.run attempt) =
      some { lifecycle with callers := lifecycle.callers ++ [.returned .alreadyRunning] }) ∧
    (∀ caller error, lifecycle.callers[caller]? = some (.starting (.error error)) →
      ∃ yielding, lifecycle.step? (.proceed caller) = some yielding ∧
        yielding.callers[caller]? = some (.yielding error)) ∧
    (∀ caller error, lifecycle.callers[caller]? = some (.yielding error) →
      ∃ failed, lifecycle.step? (.proceed caller) = some failed ∧
        failed.callers[caller]? = some (.returned (.failed error)) ∧
        failed.running = false ∧ failed.stored = none ∧
        ∀ opening, (failed.runThrough (.ok opening)).latestReply? =
          some (.started failed.loops.length)) ∧
    (∀ move lifecycle', lifecycle.step? move = some lifecycle' →
      (∀ (caller : Nat) (state : Caller), lifecycle.callers[caller]? = some state →
        ∃ state', lifecycle'.callers[caller]? = some state' ∧
          (state' = state ∨ state.Goes lifecycle'.running state')) ∧
      (lifecycle.running = true → lifecycle'.running = false → ∃ caller : Nat,
        (∃ error, lifecycle.callers[caller]? = some (.yielding error) ∧
          lifecycle'.callers[caller]? = some (.returned (.failed error))) ∨
        ∃ loop, lifecycle.callers[caller]? = some (.clearing loop) ∧
          lifecycle'.callers[caller]? = some (.returned .stopped) ∧
          lifecycle.stored = none ∧ lifecycle.callers.countP Caller.holds = 1 ∧
          loop + 1 = lifecycle.loops.length ∧
          ∃ pool, lifecycle.pool? loop = some pool ∧ pool.phase = .ended ∧ pool.tasks = [])) := by
  intro lifecycle
  have hsound : lifecycle.Sound := sound_play sound_new moves
  refine ⟨hsound.countP_isAlive_le, fun hrunning => ?_, fun hrunning attempt => ?_,
    fun caller error hcaller => ?_, fun caller error hcaller => ?_, fun move lifecycle' hstep => ?_⟩
  · obtain ⟨hended, hstored⟩ := hsound.of_not_running hrunning
    exact ⟨hended, by simp [address?, hstored]⟩
  · show some (lifecycle.claim attempt) = _
    rw [claim, if_pos hrunning]
    rfl
  · refine ⟨lifecycle.goOn caller (.yielding error), ?_, getElem?_goOn hcaller⟩
    simp [step?, proceed?, hcaller]
  · have hstored := (hsound.flagged.of_holds (List.mem_of_getElem? hcaller) rfl).2.1
    refine ⟨{ lifecycle with running := false }.goOn caller (.returned (.failed error)), ?_,
      getElem?_goOn hcaller, rfl, hstored, fun opening => ?_⟩
    · simp [step?, proceed?, hcaller]
    · exact (runThrough_of_not_running rfl opening).1
  · have hchanges := changes_of_step? hstep
    refine ⟨fun caller state => hchanges.goes, fun hrunning hcleared => ?_⟩
    obtain ⟨caller, hfails | ⟨loop, hcaller, hcaller'⟩⟩ := hchanges.lays hrunning hcleared
    · exact ⟨caller, .inl hfails⟩
    · exact ⟨caller, .inr ⟨loop, hcaller, hcaller',
        hsound.of_clearing (List.mem_of_getElem? hcaller)⟩⟩

end Lifecycle

end FastCgi
