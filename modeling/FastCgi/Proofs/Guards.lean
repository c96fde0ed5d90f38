import Mathlib.Data.Set.Card
import Mathlib.Logic.Relation
import FastCgi.Listener.Tracking

/-!
# Connections that are counted

What happens to trackers and connections is written down as a list of events. Two handles belong to
the same tracker if a chain of handles that were made from one another leads from one to the other
(`Akin`), and a connection is live for a handle if it was registered through a handle of the same
tracker and has not ended (`Live`).

What a process can do in a step is said once, by `Changes`. Numbers are drawn in order (`Drawn`),
and handles stay with the trackers that the events say (`Placed`). A count is, up to multiples of
2⁶⁴, the number of connections that are registered with its tracker (`Counted`). A number stands for
one connection as long as no number is drawn twice, and then the connections that are registered are
those that the events say (`Identified`). Every step keeps all of this, so what is read through a
handle is the number of connections that are live for it (`active_eq_ncard_live`). A connection
holds on to its tracker, whether or not a handle of it is used again.
-/

namespace FastCgi.Tracking

/-! ## Events -/

/-- What has happened. -/
inductive Event where
  /-- A tracker was made, with this handle. -/
  | made (handle : Nat)
  /-- The second handle was made, for the tracker of the first one. -/
  | shared (handle other : Nat)
  /-- A connection of this number was registered through this handle. -/
  | tracked (handle : Nat) (id : UInt64)
  /-- The connection of this number ended. -/
  | dropped (id : UInt64)
  /-- This number was drawn for no connection. -/
  | drawn (id : UInt64)
deriving DecidableEq, Repr

/-- The number that was drawn, if one was. -/
def Event.number? : Event → Option UInt64
  | .tracked _ id | .drawn id => some id
  | .made _ | .shared .. | .dropped _ => none

/-- What happens with a move that can be made. -/
def event (tracking : Tracking) : Move → Event
  | .make => .made tracking.handles.length
  | .share handle => .shared handle tracking.handles.length
  | .track handle => .tracked handle tracking.nextId
  | .drop id => .dropped id
  | .draw => .drawn tracking.nextId

/-- What happens with several moves, of which those that cannot be made are passed over. -/
def log (tracking : Tracking) : List Move → List Event
  | [] => []
  | move :: moves =>
    match tracking.step? move with
    | some tracking' => tracking.event move :: tracking'.log moves
    | none => tracking.log moves

/-- The numbers that were drawn, the first one first. -/
def numbers (log : List Event) : List UInt64 := log.filterMap Event.number?

/-- Whether two handles belong to the same tracker: one was made from the other, or both have to do
with others in this way. -/
def Akin (log : List Event) : Nat → Nat → Prop :=
  Relation.EqvGen fun handle other => .shared handle other ∈ log

/-- Whether a connection counts for a handle: it was registered through a handle of the same
tracker, and has not ended. -/
def Live (log : List Event) (handle : Nat) (id : UInt64) : Prop :=
  (∃ other, Akin log handle other ∧ .tracked other id ∈ log) ∧ .dropped id ∉ log

/-- Whether a move is about a connection that counts for a handle. -/
def Concerns (log : List Event) (handle : Nat) : Move → Prop
  | .track through => Akin log handle through
  | .drop id => Live log handle id
  | .make | .share _ | .draw => False

variable {tracking tracking' : Tracking} {event : Event} {log : List Event} {move : Move}
  {handle other tracker : Nat} {id : UInt64}

/-! ## What can happen -/

/-- What can become of trackers and connections in one step. -/
inductive Changes (tracking : Tracking) : Event → Tracking → Prop where
  /-- A tracker is made. -/
  | makes : Changes tracking (.made tracking.handles.length) { tracking with
      counts := tracking.counts ++ [0], handles := tracking.handles ++ [tracking.counts.length] }
  /-- A tracker gets another handle. -/
  | shares {handle tracker : Nat} (hhandle : tracking.handles[handle]? = some tracker) :
    Changes tracking (.shared handle tracking.handles.length)
      { tracking with handles := tracking.handles ++ [tracker] }
  /-- A connection is registered. -/
  | tracks {handle tracker : Nat} (hhandle : tracking.handles[handle]? = some tracker) :
    Changes tracking (.tracked handle tracking.nextId) { tracking with
      nextId := tracking.nextId + 1
      counts := tracking.counts.modify tracker (· + 1)
      guards := tracking.guards ++ [⟨tracking.nextId, tracker⟩] }
  /-- A connection ends. -/
  | drops {guard : Guard} (hguard : guard ∈ tracking.guards) :
    Changes tracking (.dropped guard.id) { tracking with
      counts := tracking.counts.modify guard.tracker (· - 1)
      guards := tracking.guards.erase guard }
  /-- A number is drawn for no connection. -/
  | draws : Changes tracking (.drawn tracking.nextId)
      { tracking with nextId := tracking.nextId + 1 }

/-- A connection that ends is one that is registered. -/
theorem exists_guard_of_step? (h : tracking.step? (.drop id) = some tracking') :
    ∃ guard ∈ tracking.guards, guard.id = id ∧ tracking' = { tracking with
      counts := tracking.counts.modify guard.tracker (· - 1)
      guards := tracking.guards.erase guard } := by
  obtain ⟨guard, hfind, h⟩ := Option.bind_eq_some_iff.1 h
  have hid : guard.id = id := by simpa using List.find?_some hfind
  exact ⟨guard, List.mem_of_find?_eq_some hfind, hid, (Option.some.inj h).symm⟩

/-- A move that can be made does one of these. -/
theorem changes_of_step? (h : tracking.step? move = some tracking') :
    tracking.Changes (tracking.event move) tracking' := by
  cases move with
  | make =>
    cases h
    exact .makes
  | share handle =>
    obtain ⟨tracker, hhandle, h⟩ := Option.bind_eq_some_iff.1 h
    cases h
    exact .shares hhandle
  | track handle =>
    obtain ⟨tracker, hhandle, h⟩ := Option.bind_eq_some_iff.1 h
    cases h
    exact .tracks hhandle
  | drop id =>
    obtain ⟨guard, hguard, rfl, rfl⟩ := exists_guard_of_step? h
    exact .drops hguard
  | draw =>
    cases h
    exact .draws

/-- What each step keeps of the events so far and the state after them holds after any moves. -/
theorem play_induction {motive : List Event → Tracking → Prop} (hstart : motive log tracking)
    (hstep : ∀ {log tracking event tracking'}, tracking.Changes event tracking' →
      motive log tracking → motive (log ++ [event]) tracking') (moves : List Move) :
    motive (log ++ tracking.log moves) (tracking.play moves) := by
  induction moves generalizing log tracking with
  | nil => simpa only [Tracking.log, List.append_nil, play, List.foldl_nil] using hstart
  | cons move moves ih =>
    have hplay : tracking.play (move :: moves) =
        ((tracking.step? move).getD tracking).play moves := rfl
    rw [hplay, Tracking.log]
    cases h : tracking.step? move with
    | none => exact ih hstart
    | some tracking' =>
      have hnext := ih (hstep (changes_of_step? h) hstart)
      rwa [List.append_assoc] at hnext

/-! ## Numbers -/

/-- One more event adds the number that was drawn with it, if one was. -/
theorem numbers_append_singleton (log : List Event) (event : Event) :
    numbers (log ++ [event]) = numbers log ++ event.number?.toList := by
  rw [numbers, List.filterMap_append, numbers]
  cases h : event.number? <;> simp [h]

/-- A step either draws the next number or leaves it. -/
theorem Changes.number? (h : tracking.Changes event tracking') :
    event.number? = none ∧ tracking'.nextId = tracking.nextId ∨
      event.number? = some tracking.nextId ∧ tracking'.nextId = tracking.nextId + 1 := by
  cases h with
  | makes | shares | drops => exact .inl ⟨rfl, rfl⟩
  | tracks | draws => exact .inr ⟨rfl, rfl⟩

/-- The numbers from 1 to the given one. -/
def firstNumbers (count : Nat) : List UInt64 :=
  (List.range count).map fun n => UInt64.ofNat (n + 1)

/-- Numbers are drawn in order, from 1. -/
structure Drawn (log : List Event) (tracking : Tracking) : Prop where
  numbers : numbers log = firstNumbers (numbers log).length
  nextId : tracking.nextId = UInt64.ofNat ((Tracking.numbers log).length + 1)

/-- One step: numbers are drawn in order. -/
theorem Changes.drawn (h : tracking.Changes event tracking') (hdrawn : Drawn log tracking) :
    Drawn (log ++ [event]) tracking' := by
  obtain ⟨hnone, hnext⟩ | ⟨hsome, hnext⟩ := h.number?
  · have hsame : Tracking.numbers (log ++ [event]) = Tracking.numbers log := by
      rw [numbers_append_singleton, hnone, Option.toList_none, List.append_nil]
    exact ⟨by rw [hsame]; exact hdrawn.numbers, by rw [hsame, hnext, hdrawn.nextId]⟩
  · have hmore : Tracking.numbers (log ++ [event]) =
        Tracking.numbers log ++ [tracking.nextId] := by
      rw [numbers_append_singleton, hsome, Option.toList_some]
    refine ⟨?_, ?_⟩
    · rw [hmore, List.length_append, List.length_singleton, firstNumbers, List.range_succ,
        List.map_append, ← firstNumbers, ← hdrawn.numbers, hdrawn.nextId]
      rfl
    · rw [hmore, List.length_append, List.length_singleton, hnext, hdrawn.nextId]
      exact (UInt64.ofNat_add _ 1).symm

/-- As long as they fit into 64 bits, numbers that are drawn in order increase. -/
theorem firstNumbers_increasing {count : Nat} (h : count < 2 ^ 64) :
    (firstNumbers count).Pairwise (· < ·) := by
  rw [firstNumbers, List.pairwise_map]
  refine List.pairwise_lt_range.imp_of_mem fun {m n} hm hn hlt => ?_
  rw [List.mem_range] at hm hn
  rw [UInt64.lt_iff_toNat_lt, UInt64.toNat_ofNat', UInt64.toNat_ofNat']
  omega

/-- The next number is none of those that were drawn. -/
theorem Drawn.nextId_notMem (h : Drawn log tracking)
    (hdraws : (Tracking.numbers log).length < 2 ^ 64) :
    tracking.nextId ∉ Tracking.numbers log := by
  rw [h.nextId, h.numbers, firstNumbers, List.mem_map, List.length_map, List.length_range]
  rintro ⟨n, hn, hsame⟩
  rw [List.mem_range] at hn
  rw [← UInt64.toNat_inj, UInt64.toNat_ofNat', UInt64.toNat_ofNat'] at hsame
  omega

/-! ## Handles -/

/-- What stands in a list with one more entry stood there before, or is that entry. -/
theorem getElem?_append_singleton_eq_some {α : Type} {l : List α} {a b : α} {i : Nat} :
    (l ++ [a])[i]? = some b ↔ l[i]? = some b ∨ i = l.length ∧ a = b := by
  rcases Nat.lt_trichotomy i l.length with hlt | rfl | hgt
  · simp [List.getElem?_append_left hlt, Nat.ne_of_lt hlt]
  · simp
  · have hbehind : l.length + 1 ≤ i := hgt
    simp [List.getElem?_eq_none, hbehind, Nat.ne_of_gt hgt, Nat.le_of_lt hgt]

/-- A handle stays with its tracker. -/
theorem Changes.handles (h : tracking.Changes event tracking')
    (hhandle : tracking.handles[handle]? = some tracker) :
    tracking'.handles[handle]? = some tracker := by
  cases h with
  | makes | shares => exact getElem?_append_singleton_eq_some.2 (.inl hhandle)
  | tracks | drops | draws => exact hhandle

/-- Handles are for the trackers that the events say. -/
structure Placed (log : List Event) (tracking : Tracking) : Prop where
  shared {handle other : Nat} : .shared handle other ∈ log →
    ∃ tracker : Nat, tracking.handles[handle]? = some tracker ∧
      tracking.handles[other]? = some tracker
  tracked {handle : Nat} {id : UInt64} : .tracked handle id ∈ log →
    ∃ tracker : Nat, tracking.handles[handle]? = some tracker
  akin {handle other tracker : Nat} : tracking.handles[handle]? = some tracker →
    tracking.handles[other]? = some tracker → Akin log handle other
  lt_length {handle tracker : Nat} : tracking.handles[handle]? = some tracker →
    tracker < tracking.counts.length

/-- Handles that belong together go on doing so. -/
theorem Akin.append (h : Akin log handle other) (more : List Event) :
    Akin (log ++ more) handle other :=
  Relation.EqvGen.mono (fun _ _ hshared => List.mem_append_left _ hshared) _ _ h

/-- Handles that belong together are for one tracker, by induction on the chain between them. -/
theorem Placed.handles_eq (hplaced : Placed log tracking) (h : Akin log handle other) :
    tracking.handles[handle]? = tracking.handles[other]? := by
  induction h with
  | rel handle other hshared =>
    obtain ⟨tracker, hhandle, hother⟩ := hplaced.shared hshared
    rw [hhandle, hother]
  | refl => rfl
  | symm _ _ _ ih => exact ih.symm
  | trans _ _ _ _ _ ih ih' => exact ih.trans ih'

/-- One step: a handle and the one that was made from it are for the same tracker. -/
theorem Changes.shared (h : tracking.Changes event tracking') (hplaced : Placed log tracking)
    (hshared : .shared handle other ∈ log ++ [event]) :
    ∃ tracker : Nat, tracking'.handles[handle]? = some tracker ∧
      tracking'.handles[other]? = some tracker := by
  rcases List.mem_append.1 hshared with hold | hnew
  · obtain ⟨tracker, hhandle, hother⟩ := hplaced.shared hold
    exact ⟨tracker, h.handles hhandle, h.handles hother⟩
  · cases List.mem_singleton.1 hnew
    cases h with
    | shares hhandle =>
      exact ⟨_, getElem?_append_singleton_eq_some.2 (.inl hhandle),
        getElem?_append_singleton_eq_some.2 (.inr ⟨rfl, rfl⟩)⟩

/-- One step: a connection was registered through a handle that there is. -/
theorem Changes.tracked (h : tracking.Changes event tracking') (hplaced : Placed log tracking)
    (htracked : .tracked handle id ∈ log ++ [event]) :
    ∃ tracker : Nat, tracking'.handles[handle]? = some tracker := by
  rcases List.mem_append.1 htracked with hold | hnew
  · obtain ⟨tracker, hhandle⟩ := hplaced.tracked hold
    exact ⟨tracker, h.handles hhandle⟩
  · cases List.mem_singleton.1 hnew
    cases h with
    | tracks hhandle => exact ⟨_, hhandle⟩

/-- One step: a handle is for a tracker that there is. -/
theorem Changes.lt_length (h : tracking.Changes event tracking') (hplaced : Placed log tracking)
    (hhandle : tracking'.handles[handle]? = some tracker) :
    tracker < tracking'.counts.length := by
  cases h with
  | makes =>
    rw [List.length_append, List.length_singleton]
    rcases getElem?_append_singleton_eq_some.1 hhandle with hold | ⟨-, rfl⟩
    · exact Nat.lt_succ_of_lt (hplaced.lt_length hold)
    · exact Nat.lt_succ_self _
  | shares hsource =>
    rcases getElem?_append_singleton_eq_some.1 hhandle with hold | ⟨-, rfl⟩
    · exact hplaced.lt_length hold
    · exact hplaced.lt_length hsource
  | tracks | drops =>
    rw [List.length_modify]
    exact hplaced.lt_length hhandle
  | draws => exact hplaced.lt_length hhandle

/-- Two handles for the same tracker have been made from one another. -/
theorem Changes.akin (h : tracking.Changes event tracking') (hplaced : Placed log tracking)
    (hhandle : tracking'.handles[handle]? = some tracker)
    (hother : tracking'.handles[other]? = some tracker) : Akin (log ++ [event]) handle other := by
  cases h with
  | makes =>
    rcases getElem?_append_singleton_eq_some.1 hhandle with hold | ⟨rfl, rfl⟩ <;>
      rcases getElem?_append_singleton_eq_some.1 hother with hold' | ⟨rfl, hnew⟩
    · exact (hplaced.akin hold hold').append _
    · exact absurd (hnew ▸ hplaced.lt_length hold) (Nat.lt_irrefl _)
    · exact absurd (hplaced.lt_length hold') (Nat.lt_irrefl _)
    · exact .refl _
  | @shares source _ hsource =>
    have hlink : Akin (log ++ [.shared source tracking.handles.length]) source
        tracking.handles.length := .rel _ _ (List.mem_append_right _ (.head _))
    rcases getElem?_append_singleton_eq_some.1 hhandle with hold | ⟨rfl, rfl⟩ <;>
      rcases getElem?_append_singleton_eq_some.1 hother with hold' | ⟨rfl, hnew⟩
    · exact (hplaced.akin hold hold').append _
    · exact .trans _ _ _ ((hplaced.akin hold (hnew ▸ hsource)).append _) hlink
    · exact .trans _ _ _ (.symm _ _ hlink) ((hplaced.akin hsource hold').append _)
    · exact .refl _
  | tracks | drops | draws => exact (hplaced.akin hhandle hother).append _

/-- Before any event there are no handles. -/
theorem placed_new : Placed [] new where
  shared := nofun
  tracked := nofun
  akin := nofun
  lt_length := nofun

/-- One step: handles stay with the trackers that the events say. -/
theorem Changes.placed (h : tracking.Changes event tracking') (hplaced : Placed log tracking) :
    Placed (log ++ [event]) tracking' where
  shared := h.shared hplaced
  tracked := h.tracked hplaced
  akin := h.akin hplaced
  lt_length := h.lt_length hplaced

/-! ## Counts -/

/-- How many of some connections are registered with a tracker. -/
def registered (guards : List Guard) (tracker : Nat) : Nat := guards.countP (·.tracker = tracker)

/-- A connection that is registered counts for its own tracker. -/
theorem registered_append_singleton (guards : List Guard) (guard : Guard) (tracker : Nat) :
    registered (guards ++ [guard]) tracker =
      registered guards tracker + if guard.tracker = tracker then 1 else 0 := by
  simp [registered, List.countP_append, List.countP_cons]

/-- A connection that is taken from the registered ones counted for its own tracker. -/
theorem registered_erase {guards : List Guard} {guard : Guard} (h : guard ∈ guards)
    (tracker : Nat) : registered guards tracker =
      registered (guards.erase guard) tracker + if guard.tracker = tracker then 1 else 0 := by
  simp [registered, (List.perm_cons_erase h).countP_eq, List.countP_cons]

/-- Each tracker counts the connections that are registered with it. -/
structure Counted (log : List Event) (tracking : Tracking) : Prop where
  guards : ∀ guard ∈ tracking.guards, guard.tracker < tracking.counts.length
  counts {tracker : Nat} {count : UInt64} : tracking.counts[tracker]? = some count →
    count = UInt64.ofNat (registered tracking.guards tracker)
  length_le : tracking.guards.length ≤ (numbers log).length

/-- One step: a connection is registered with a tracker that there is. -/
theorem Changes.guards (h : tracking.Changes event tracking') (hplaced : Placed log tracking)
    (hguards : ∀ guard ∈ tracking.guards, guard.tracker < tracking.counts.length) :
    ∀ guard ∈ tracking'.guards, guard.tracker < tracking'.counts.length := by
  intro guard hguard
  cases h with
  | makes =>
    rw [List.length_append]
    exact Nat.lt_add_right _ (hguards guard hguard)
  | tracks hhandle =>
    rw [List.length_modify]
    rcases List.mem_append.1 hguard with hold | hnew
    · exact hguards guard hold
    · obtain rfl := List.mem_singleton.1 hnew
      exact hplaced.lt_length hhandle
  | drops =>
    rw [List.length_modify]
    exact hguards guard (List.mem_of_mem_erase hguard)
  | shares | draws => exact hguards guard hguard

/-- One step: the count of each tracker goes with the connections registered with it. A number of 64
bits stands for the number of them up to multiples of 2⁶⁴. -/
theorem Changes.counts (h : tracking.Changes event tracking')
    (hguards : ∀ guard ∈ tracking.guards, guard.tracker < tracking.counts.length)
    (hcounts : ∀ {tracker : Nat} {count : UInt64}, tracking.counts[tracker]? = some count →
      count = UInt64.ofNat (registered tracking.guards tracker))
    {count : UInt64} (hcount : tracking'.counts[tracker]? = some count) :
    count = UInt64.ofNat (registered tracking'.guards tracker) := by
  cases h with
  | makes =>
    rcases getElem?_append_singleton_eq_some.1 hcount with hold | ⟨rfl, rfl⟩
    · exact hcounts hold
    · have hnone : registered tracking.guards tracking.counts.length = 0 := by
        refine List.countP_eq_zero.2 fun guard hguard => ?_
        have := Nat.ne_of_lt (hguards guard hguard)
        simpa using this
      exact (congrArg UInt64.ofNat hnone).symm
  | @tracks _ own =>
    rw [List.getElem?_modify, Option.map_eq_map, Option.map_eq_some_iff] at hcount
    obtain ⟨before, hbefore, rfl⟩ := hcount
    rw [registered_append_singleton, hcounts hbefore]
    split
    · exact (UInt64.ofNat_add _ 1).symm
    · rfl
  | @drops guard hguard =>
    rw [List.getElem?_modify, Option.map_eq_map, Option.map_eq_some_iff] at hcount
    obtain ⟨before, hbefore, rfl⟩ := hcount
    rw [hcounts hbefore, registered_erase hguard]
    split
    · rw [UInt64.ofNat_add]
      exact UInt64.add_sub_cancel _ _
    · rfl
  | shares | draws => exact hcounts hcount

/-- One step: no more connections are registered than numbers were drawn. -/
theorem Changes.length_guards_le (h : tracking.Changes event tracking')
    (hle : tracking.guards.length ≤ (numbers log).length) :
    tracking'.guards.length ≤ (numbers (log ++ [event])).length := by
  rw [numbers_append_singleton, List.length_append]
  cases h with
  | tracks =>
    rw [List.length_append]
    exact Nat.add_le_add hle (Nat.le_refl 1)
  | drops =>
    exact Nat.le_trans (List.length_erase_le) (Nat.le_add_right_of_le hle)
  | makes | shares | draws => exact Nat.le_add_right_of_le hle

/-- Before any event there is nothing to count. -/
theorem counted_new : Counted [] new where
  guards := nofun
  counts := nofun
  length_le := Nat.le_refl 0

/-- One step: each tracker counts the connections that are registered with it. -/
theorem Changes.counted (h : tracking.Changes event tracking') (hplaced : Placed log tracking)
    (hcounted : Counted log tracking) : Counted (log ++ [event]) tracking' where
  guards := h.guards hplaced hcounted.guards
  counts := h.counts hcounted.guards hcounted.counts
  length_le := h.length_guards_le hcounted.length_le

/-- What is read through a handle is the number of connections registered with its tracker. -/
theorem Counted.active (hcounted : Counted log tracking) (hplaced : Placed log tracking)
    (hdraws : (numbers log).length < 2 ^ 64) (hhandle : tracking.handles[handle]? = some tracker) :
    (tracking.active handle).toNat = registered tracking.guards tracker := by
  have hlt := hplaced.lt_length hhandle
  have hcount := hcounted.counts (List.getElem?_eq_getElem hlt)
  have hle : registered tracking.guards tracker ≤ tracking.guards.length := List.countP_le_length
  have := hcounted.length_le
  rw [Tracking.active, hhandle]
  dsimp only
  rw [List.getElem?_eq_getElem hlt, Option.getD_some, hcount, UInt64.toNat_ofNat']
  omega

/-! ## Connections -/

/-- The connections that are registered are those that the events say, each with its number. -/
structure Identified (log : List Event) (tracking : Tracking) : Prop where
  nodup : (tracking.guards.map Guard.id).Nodup
  dropped {id : UInt64} : .dropped id ∈ log → id ∈ numbers log
  mem_guards (guard : Guard) : guard ∈ tracking.guards ↔
    (∃ handle, .tracked handle guard.id ∈ log ∧ tracking.handles[handle]? = some guard.tracker) ∧
      .dropped guard.id ∉ log

/-- A connection that was registered has a number that was drawn. -/
theorem mem_numbers_of_tracked (h : .tracked handle id ∈ log) : id ∈ numbers log :=
  List.mem_filterMap.2 ⟨_, h, rfl⟩

/-- Before any event no connection has a number. -/
theorem identified_new : Identified [] new where
  nodup := .nil
  dropped := nofun
  mem_guards := by simp [new]

/-- No step moves an earlier registration to another tracker. -/
theorem Changes.exists_tracked_iff (h : tracking.Changes event tracking')
    (hplaced : Placed log tracking) :
    (∃ handle, .tracked handle id ∈ log ∧ tracking'.handles[handle]? = some tracker) ↔
      ∃ handle, .tracked handle id ∈ log ∧ tracking.handles[handle]? = some tracker := by
  refine exists_congr fun handle => and_congr_right fun htracked => ⟨fun hlater => ?_, h.handles⟩
  obtain ⟨owner, hhandle⟩ := hplaced.tracked htracked
  rw [h.handles hhandle] at hlater
  rw [hhandle, hlater]

section

variable (h : tracking.Changes event tracking') (hidentified : Identified log tracking)

include hidentified

/-- A connection that is registered has a number that was drawn. -/
theorem Identified.mem_numbers {guard : Guard} (hguard : guard ∈ tracking.guards) :
    guard.id ∈ numbers log := by
  obtain ⟨⟨_, htracked, -⟩, -⟩ := (hidentified.mem_guards guard).1 hguard
  exact mem_numbers_of_tracked htracked

include h

/-- One step: a connection that has ended had a number that was drawn. -/
theorem Changes.dropped (hdropped : .dropped id ∈ log ++ [event]) :
    id ∈ numbers (log ++ [event]) := by
  rw [numbers_append_singleton]
  refine List.mem_append_left _ ?_
  rcases List.mem_append.1 hdropped with hold | hnew
  · exact hidentified.dropped hold
  · cases List.mem_singleton.1 hnew
    cases h with
    | drops hguard => exact hidentified.mem_numbers hguard

/-- One step: no two connections have the same number, as a new one has a new number. -/
theorem Changes.nodup (hfresh : tracking.nextId ∉ numbers log) :
    (tracking'.guards.map Guard.id).Nodup := by
  cases h with
  | tracks =>
    rw [List.map_append, List.map_singleton, List.nodup_append]
    refine ⟨hidentified.nodup, List.nodup_singleton _, ?_⟩
    rintro id hid _ hnew rfl
    obtain ⟨guard, hguard, rfl⟩ := List.mem_map.1 hid
    have hsame : guard.id = tracking.nextId := List.mem_singleton.1 hnew
    exact hfresh (hsame ▸ hidentified.mem_numbers hguard)
  | drops => exact hidentified.nodup.sublist (List.erase_sublist.map _)
  | makes | shares | draws => exact hidentified.nodup

/-- One step: the connections that are registered are those that the events say. A number that is
drawn has not ended before, and a number that ends is that of one connection. -/
theorem Changes.mem_guards (hplaced : Placed log tracking)
    (hfresh : tracking.nextId ∉ numbers log) (guard : Guard) :
    guard ∈ tracking'.guards ↔
      (∃ handle, .tracked handle guard.id ∈ log ++ [event] ∧
          tracking'.handles[handle]? = some guard.tracker) ∧
        .dropped guard.id ∉ log ++ [event] := by
  have hbefore := hidentified.mem_guards guard
  rw [← h.exists_tracked_iff hplaced] at hbefore
  cases h with
  | makes | shares | draws => simpa using hbefore
  | @tracks handle own hhandle =>
    simp only [List.mem_append, List.mem_singleton, Event.tracked.injEq, reduceCtorEq, or_false]
    constructor
    · rintro (hold | rfl)
      · obtain ⟨⟨earlier, htracked, hearlier⟩, hopen⟩ := hbefore.1 hold
        exact ⟨⟨earlier, .inl htracked, hearlier⟩, hopen⟩
      · exact ⟨⟨handle, .inr ⟨rfl, rfl⟩, hhandle⟩,
          fun hdropped => hfresh (hidentified.dropped hdropped)⟩
    · rintro ⟨⟨other, htracked | ⟨rfl, hid⟩, hother⟩, hopen⟩
      · exact .inl (hbefore.2 ⟨⟨other, htracked, hother⟩, hopen⟩)
      · refine .inr ?_
        obtain ⟨id, tracker⟩ := guard
        obtain rfl : id = tracking.nextId := hid
        obtain rfl : own = tracker := Option.some.inj (hhandle.symm.trans hother)
        rfl
  | @drops ended hended =>
    have hnodup := hidentified.nodup.of_map
    -- A guard is known by its number.
    have hsame : guard ∈ tracking.guards → (guard = ended ↔ guard.id = ended.id) := fun hguard =>
      ⟨congrArg Guard.id, List.inj_on_of_nodup_map hidentified.nodup hguard hended⟩
    simp only [List.mem_append, List.mem_singleton, Event.dropped.injEq, reduceCtorEq, or_false,
      not_or, ← and_assoc]
    rw [hnodup.mem_erase_iff, ← hbefore, and_comm]
    exact and_congr_right fun hguard => not_congr (hsame hguard)

end

/-- One step: every connection goes by its number, as long as the next number is new. -/
theorem Changes.identified (h : tracking.Changes event tracking') (hplaced : Placed log tracking)
    (hidentified : Identified log tracking) (hfresh : tracking.nextId ∉ numbers log) :
    Identified (log ++ [event]) tracking' where
  nodup := h.nodup hidentified hfresh
  dropped := h.dropped hidentified
  mem_guards := h.mem_guards hidentified hplaced hfresh

/-! ## Runs -/

/-- What the events say of the state, as long as there are numbers left to draw. -/
structure Recorded (log : List Event) (tracking : Tracking) : Prop where
  drawn : Drawn log tracking
  placed : Placed log tracking
  counted : Counted log tracking
  identified : (numbers log).length < 2 ^ 64 → Identified log tracking

/-- Before any event, the events say what is so. -/
theorem recorded_new : Recorded [] new where
  drawn := ⟨rfl, rfl⟩
  placed := placed_new
  counted := counted_new
  identified := fun _ => identified_new

/-- One step: the events go on saying what is so. -/
theorem Changes.recorded (h : tracking.Changes event tracking') (hbefore : Recorded log tracking) :
    Recorded (log ++ [event]) tracking' where
  drawn := h.drawn hbefore.drawn
  placed := h.placed hbefore.placed
  counted := h.counted hbefore.placed hbefore.counted
  identified := fun hdraws => by
    rw [numbers_append_singleton, List.length_append] at hdraws
    have hearlier := Nat.lt_of_le_of_lt (Nat.le_add_right ..) hdraws
    exact h.identified hbefore.placed (hbefore.identified hearlier)
      (hbefore.drawn.nextId_notMem hearlier)

/-- Many steps: after any moves, the events say what is so. -/
theorem recorded_play (moves : List Move) : Recorded (new.log moves) (new.play moves) :=
  play_induction recorded_new Changes.recorded moves

section

variable (h : Recorded log tracking) (hdraws : (numbers log).length < 2 ^ 64)

include h hdraws

/-- The connections that are live for a handle are those that are registered with its tracker. -/
theorem Recorded.live_iff (hhandle : tracking.handles[handle]? = some tracker) :
    Live log handle id ↔ ⟨id, tracker⟩ ∈ tracking.guards := by
  rw [(h.identified hdraws).mem_guards, Live]
  refine and_congr_left fun _ => exists_congr fun other => ?_
  rw [and_comm]
  refine and_congr_right fun _ => ⟨fun hakin => ?_, fun hother => h.placed.akin hhandle hother⟩
  rw [← h.placed.handles_eq hakin, hhandle]

/-- As many connections are live for a handle as are registered with its tracker, since each of them
has a number of its own. -/
theorem Recorded.ncard_live (hhandle : tracking.handles[handle]? = some tracker) :
    {id | Live log handle id}.ncard = registered tracking.guards tracker := by
  have hlive : {id | Live log handle id} =
      (((tracking.guards.filter (·.tracker = tracker)).map Guard.id).toFinset : Set UInt64) := by
    ext id
    rw [Set.mem_ofPred_eq, h.live_iff hdraws hhandle, List.coe_toFinset]
    simp only [Set.mem_ofPred_eq, List.mem_map, List.mem_filter, decide_eq_true_eq]
    constructor
    · exact fun hguard => ⟨⟨id, tracker⟩, ⟨hguard, rfl⟩, rfl⟩
    · rintro ⟨guard, ⟨hguard, rfl⟩, rfl⟩
      exact hguard
  rw [hlive, Set.ncard_coe_finset, List.toFinset_card_of_nodup, List.length_map,
    ← List.countP_eq_length_filter, registered]
  exact (h.identified hdraws).nodup.sublist (List.filter_sublist.map _)

/-- What is read through a handle is the number of connections that are live for it. -/
theorem Recorded.active (hhandle : handle < tracking.handles.length) :
    (tracking.active handle).toNat = {id | Live log handle id}.ncard := by
  have hhandle := List.getElem?_eq_getElem hhandle
  rw [h.counted.active h.placed hdraws hhandle, h.ncard_live hdraws hhandle]

/-- A connection that is registered is live for some handle, the one through which it was
registered. -/
theorem Recorded.exists_live {guard : Guard} (hguard : guard ∈ tracking.guards) :
    ∃ handle, tracking.handles[handle]? = some guard.tracker ∧ Live log handle guard.id := by
  obtain ⟨⟨handle, -, hhandle⟩, -⟩ := ((h.identified hdraws).mem_guards guard).1 hguard
  exact ⟨handle, hhandle, (h.live_iff hdraws hhandle).2 hguard⟩

/-- A connection can end exactly if it is live for some handle. -/
theorem Recorded.exists_step?_drop_iff :
    (∃ tracking', tracking.step? (.drop id) = some tracking') ↔
      ∃ handle < tracking.handles.length, Live log handle id := by
  constructor
  · rintro ⟨tracking', hstep⟩
    obtain ⟨guard, hguard, rfl, -⟩ := exists_guard_of_step? hstep
    obtain ⟨handle, hhandle, hlive⟩ := h.exists_live hdraws hguard
    exact ⟨handle, (List.getElem?_eq_some_iff.1 hhandle).1, hlive⟩
  · rintro ⟨handle, hhandle, hlive⟩
    have hguard := (h.live_iff hdraws (List.getElem?_eq_getElem hhandle)).1 hlive
    obtain ⟨guard, hfind⟩ := Option.isSome_iff_exists.1
      (List.find?_isSome (p := (·.id = id)).2 ⟨_, hguard, decide_eq_true rfl⟩)
    simp [step?, hfind]

/-- The connection that ends is the one of its number. -/
theorem Recorded.guard_eq {guard : Guard} (hguard : guard ∈ tracking.guards)
    (hhandle : tracking.handles[handle]? = some tracker) (hlive : Live log handle guard.id) :
    guard.tracker = tracker := by
  have hregistered := (h.live_iff hdraws hhandle).1 hlive
  have hsame := List.inj_on_of_nodup_map (h.identified hdraws).nodup hguard hregistered rfl
  exact congrArg Guard.tracker hsame

/-- A connection that ends lowers the counts for which it was live by one. They were not zero. -/
theorem Recorded.active_drop (hstep : tracking.step? (.drop id) = some tracking')
    (hhandle : handle < tracking.handles.length) (hlive : Live log handle id) :
    (tracking'.active handle).toNat + 1 = (tracking.active handle).toNat := by
  have hchanges := changes_of_step? hstep
  have hlater := hchanges.recorded h
  have hnumbers : numbers (log ++ [.dropped id]) = numbers log := by
    rw [numbers_append_singleton]
    exact List.append_nil _
  have hdraws' : (numbers (log ++ [.dropped id])).length < 2 ^ 64 := by rwa [hnumbers]
  have hhandle := List.getElem?_eq_getElem hhandle
  rw [h.counted.active h.placed hdraws hhandle,
    hlater.counted.active hlater.placed hdraws' (hchanges.handles hhandle)]
  obtain ⟨guard, hguard, rfl, rfl⟩ := exists_guard_of_step? hstep
  rw [registered_erase hguard, if_pos (h.guard_eq hdraws hguard hhandle hlive)]

/-- A move that is not about the tracker of a handle leaves alone what is read through it. -/
theorem Recorded.active_of_not_concerns (hstep : tracking.step? move = some tracking')
    (hhandle : handle < tracking.handles.length) (hother : ¬Concerns log handle move) :
    tracking'.active handle = tracking.active handle := by
  have hhandle := List.getElem?_eq_getElem hhandle
  have hhandle' := (changes_of_step? hstep).handles hhandle
  rw [Tracking.active, Tracking.active, hhandle, hhandle']
  refine congrArg (Option.getD · 0) ?_
  cases move with
  | make =>
    cases hstep
    exact List.getElem?_append_left (h.placed.lt_length hhandle)
  | share =>
    obtain ⟨_, -, hstep⟩ := Option.bind_eq_some_iff.1 hstep
    cases hstep
    rfl
  | track through =>
    obtain ⟨tracker, hthrough, hstep⟩ := Option.bind_eq_some_iff.1 hstep
    cases hstep
    refine List.getElem?_modify_ne _ _ fun hsame => hother ?_
    exact h.placed.akin hhandle (hsame ▸ hthrough)
  | drop =>
    obtain ⟨guard, hguard, rfl, rfl⟩ := exists_guard_of_step? hstep
    refine List.getElem?_modify_ne _ _ fun hsame => hother ?_
    exact (h.live_iff hdraws hhandle).2 (hsame ▸ hguard)
  | draw =>
    cases hstep
    rfl

end

/-- **Counts are counts of live connections.** Whatever is made, shared, registered, ended and
drawn, and in whatever order, as long as fewer than 2⁶⁴ numbers are drawn:
- Each number is greater than all that were drawn before it, so no two are equal.
- What is read through a handle is the number of connections that were registered through a handle
  of the same tracker and have not ended.
- A connection can end exactly if it is live. When it does, the count of its tracker was not zero,
  and goes down by one.
- Nothing else changes what is read through a handle but what is about a connection of the same
  tracker. -/
theorem active_eq_ncard_live (moves : List Move)
    (hdraws : (numbers (new.log moves)).length < 2 ^ 64) :
    let log := new.log moves
    let tracking := new.play moves
    (numbers log).Pairwise (· < ·) ∧
    (∀ handle < tracking.handles.length,
      (tracking.active handle).toNat = {id | Live log handle id}.ncard) ∧
    (∀ id, (∃ tracking', tracking.step? (.drop id) = some tracking') ↔
      ∃ handle < tracking.handles.length, Live log handle id) ∧
    (∀ id tracking', tracking.step? (.drop id) = some tracking' →
      ∀ handle < tracking.handles.length, Live log handle id →
        (tracking'.active handle).toNat + 1 = (tracking.active handle).toNat) ∧
    (∀ move tracking', tracking.step? move = some tracking' →
      ∀ handle < tracking.handles.length, ¬Concerns log handle move →
        tracking'.active handle = tracking.active handle) := by
  intro log tracking
  have h : Recorded log tracking := recorded_play moves
  refine ⟨?_, fun handle => h.active hdraws, fun id => h.exists_step?_drop_iff hdraws, ?_, ?_⟩
  · rw [h.drawn.numbers]
    exact firstNumbers_increasing hdraws
  · exact fun id tracking' hstep handle => h.active_drop hdraws hstep
  · exact fun move tracking' hstep handle => h.active_of_not_concerns hdraws hstep

/-- Two trackers, one with a second handle. A connection that was registered through the second
handle counts for the first one, until it ends. -/
theorem active_eq_ncard_live_shared :
    let moves : List Move :=
      [.make, .make, .share 0, .track 0, .draw, .track 2, .track 1, .drop 1]
    let log := new.log moves
    let tracking := new.play moves
    (numbers log).length < 2 ^ 64 ∧ numbers log = [1, 2, 3, 4] ∧
      tracking.active 0 = 1 ∧ {id | Live log 0 id}.ncard = 1 ∧ Live log 0 3 ∧
      ∃ tracking', tracking.step? (.drop 3) = some tracking' ∧
        (tracking'.active 0).toNat + 1 = (tracking.active 0).toNat := by
  intro moves log tracking
  have hdraws : (numbers log).length < 2 ^ 64 := by decide
  obtain ⟨-, hcount, -, hdrop, -⟩ := active_eq_ncard_live moves hdraws
  have hlive : Live log 0 3 := ⟨⟨2, .rel _ _ (by decide), by decide⟩, by decide⟩
  refine ⟨hdraws, by decide, by decide, (hcount 0 (by decide)).symm.trans (by decide), hlive,
    _, rfl, hdrop 3 _ rfl 0 (by decide) hlive⟩

end FastCgi.Tracking
