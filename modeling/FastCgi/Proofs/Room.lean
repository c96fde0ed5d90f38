import FastCgi.Proofs.Actions

/-!
# Connections that give out

A connection may take only so many bytes, or none at all, or fail to flush what it has taken.
`Connection.Takes` says of some bytes that none of this shows if they are all that is written. A
write that finds too little room fails and leaves no room behind it (`write_of_short`), so that a
connection that has given out stays as it is, whatever is tried on it later (`Channel.grows`).
-/

namespace FastCgi

namespace Connection

/-! ## Room -/

section

variable {connection : Connection}

/-- Where there is too little room for some bytes, there is too little for more. -/
theorem Short.mono {size size' : Nat} (h : connection.Short size) (hle : size ≤ size') :
    connection.Short size' := by
  rcases h with hchunk | ⟨capacity, hcapacity, hlt⟩
  · exact .inl hchunk
  · exact .inr ⟨capacity, hcapacity, Nat.lt_of_lt_of_le hlt hle⟩

/-- A connection that accepts no byte any more. -/
def Full (connection : Connection) : Prop := connection.Short (connection.sent.size + 1)

/-- If some bytes are all that is written to a connection, then no write fails, and no flush. -/
def Takes (connection : Connection) (bytes : Bytes) : Prop :=
  bytes = [] ∨ connection.flushing = .succeeds ∧ ¬connection.Short bytes.length

/-- A connection that takes some bytes takes the first of them. -/
theorem Takes.of_prefix {bytes bytes' : Bytes} (h : connection.Takes bytes')
    (hfront : bytes <+: bytes') : connection.Takes bytes := by
  rcases h with rfl | ⟨hflush, hroom⟩
  · exact .inl (List.prefix_nil.1 hfront)
  · exact .inr ⟨hflush, fun hshort => hroom (hshort.mono hfront.length_le)⟩

/-- Where there is no bound on the next call of a write, there is none in all. -/
theorem not_short_of_allowance (h : connection.allowance = none)
    (size : Nat) : ¬connection.Short size := by
  rintro (hchunk | ⟨capacity, hcapacity, -⟩)
  · cases hlimit : connection.capacity <;> simp [allowance, hchunk, hlimit] at h
  · cases hchunk : connection.chunk <;> simp [allowance, hchunk, hcapacity] at h

/-- What the next call of a write accepts fits in. -/
theorem add_allowance_le {n capacity : Nat} (h : connection.allowance = some (n + 1))
    (hcapacity : connection.capacity = some capacity) :
    connection.sent.size + (n + 1) ≤ capacity := by
  unfold allowance at h
  rw [hcapacity] at h
  cases hchunk : connection.chunk <;> simp only [hchunk, Option.some.injEq] at h <;> omega

/-! ## Writes that fail -/

/-- An operation is done only if it succeeds. -/
theorem perform_ne_done {behaviour : Behaviour} (h : behaviour ≠ .succeeds) (limit : Duration) :
    (connection.perform limit behaviour).1 ≠ .done := by
  cases behaviour with
  | succeeds => exact absurd rfl h
  | fails | stalls => exact nofun

/-- A connection that does not say that it has taken what it has not taken is at fault when it is
full. -/
theorem refusal_ne_succeeds (h : connection.whenFull ≠ .succeeds) :
    connection.refusal ≠ .succeeds := by
  unfold refusal
  split
  · exact h
  · exact nofun

/-- If flushing fails, then so does every write. -/
theorem write_of_flushing (hflush : connection.flushing ≠ .succeeds)
    (hfirm : connection.whenFull ≠ .succeeds) (limit : Duration) (bytes : Bytes) :
    (connection.write limit bytes).1 ≠ .done := by
  induction connection, bytes using write.induct with
  | case1 connection =>
    rw [write_nil]
    exact perform_ne_done hflush limit
  | case2 connection bytes hbytes hall =>
    rw [write_of_unbounded _ _ hbytes hall]
    exact perform_ne_done hflush limit
  | case3 connection bytes hbytes hzero =>
    rw [write_of_refused _ _ hbytes hzero]
    exact perform_ne_done (refusal_ne_succeeds hfirm) limit
  | case4 connection bytes hbytes n hsome _ ih =>
    rw [write_of_accepted _ _ hbytes hsome]
    exact ih hflush hfirm

/-- A write that there is too little room for uses up the room that there is. It is done only if the
connection says so when it accepts nothing any more. -/
theorem full_write_of_short (limit : Duration) {bytes : Bytes} (hne : bytes ≠ [])
    (hshort : connection.Short (connection.sent.size + bytes.length)) :
    (connection.write limit bytes).2.Full ∧
      ((connection.write limit bytes).1 = .done → connection.whenFull = .succeeds) := by
  induction connection, bytes using write.induct with
  | case1 connection => exact absurd rfl hne
  | case2 connection bytes hbytes hall => exact absurd hshort (not_short_of_allowance hall _)
  | case3 connection bytes hbytes hzero =>
    obtain ⟨pause, hrefuse⟩ := connection.perform_eq_with limit connection.refusal
    rw [write_of_refused _ _ hbytes hzero]
    refine ⟨?_, fun hdone => Classical.not_not.1 fun hfirm => ?_⟩
    · rw [hrefuse]
      exact allowance_eq_zero_iff.1 hzero
    · exact perform_ne_done (refusal_ne_succeeds hfirm) limit hdone
  | case4 connection bytes hbytes n hsome _ ih =>
    have hsize := connection.size_accept (bytes.take (n + 1))
    rw [List.length_take] at hsize
    have hlength := bytes.length_drop (i := n + 1)
    rw [write_of_accepted _ _ hbytes hsome]
    rcases hshort with hchunk | ⟨capacity, hcapacity, hlt⟩
    · rw [allowance_eq_zero_iff.2 (.inl hchunk)] at hsome
      cases hsome
    -- There is more to write than the next call accepts, or there would have been room for it.
    have hfits := add_allowance_le hsome hcapacity
    refine ih (fun hnil => ?_) (.inr ⟨capacity, hcapacity, ?_⟩)
    · rw [List.drop_eq_nil_iff] at hnil
      omega
    · rw [hlength]
      show capacity < (connection.accept (bytes.take (n + 1))).sent.size + _
      omega

/-- A write that there is too little room for fails, and uses up the room that there is. -/
theorem write_of_short (hfirm : connection.whenFull ≠ .succeeds) (limit : Duration) {bytes : Bytes}
    (hne : bytes ≠ []) (hshort : connection.Short (connection.sent.size + bytes.length)) :
    (connection.write limit bytes).1 ≠ .done ∧ (connection.write limit bytes).2.Full := by
  obtain ⟨hfull, hdone⟩ := full_write_of_short limit hne hshort
  exact ⟨fun h => hfirm (hdone h), hfull⟩

/-- Bytes that are accepted are all new on the wire. -/
theorem length_sent_append (connection : Connection) (bytes : Bytes) :
    (connection.sent.toList ++ bytes).length = connection.sent.size + bytes.length := by
  rw [List.length_append, Array.length_toList]

/-- A connection that takes some bytes behind those that it has taken takes them with a write. -/
theorem write_of_takes (limit : Duration) {bytes : Bytes} (hne : bytes ≠ [])
    (h : connection.Takes (connection.sent.toList ++ bytes)) :
    connection.write limit bytes = (.done, connection.accept bytes) := by
  obtain ⟨hflush, hroom⟩ := h.resolve_left fun hnil => hne (List.append_eq_nil_iff.1 hnil).2
  rw [length_sent_append] at hroom
  exact write_of_room hflush limit hroom

/-- If a connection does not take some bytes, then a write of them fails. Unless it is for want of a
flush, there is no room left. -/
theorem write_of_not_takes (hfirm : connection.whenFull ≠ .succeeds) (limit : Duration)
    {bytes : Bytes} (hne : bytes ≠ [])
    (h : ¬connection.Takes (connection.sent.toList ++ bytes)) :
    (connection.write limit bytes).1 ≠ .done ∧
      (connection.flushing ≠ .succeeds ∨ (connection.write limit bytes).2.Full) := by
  by_cases hflush : connection.flushing = .succeeds
  · have hshort : connection.Short (connection.sent.size + bytes.length) := by
      rw [← length_sent_append]
      exact Classical.not_not.1 fun hroom => h (.inr ⟨hflush, hroom⟩)
    obtain ⟨hfails, hfull⟩ := write_of_short hfirm limit hne hshort
    exact ⟨hfails, .inr hfull⟩
  · exact ⟨write_of_flushing hflush hfirm limit bytes, .inl hflush⟩

end

/-! ## Afterwards -/

/-- The second connection comes from the first by writing some more. One that is full has been left
alone. -/
structure Grows (connection connection' : Connection) : Prop where
  chunk : connection'.chunk = connection.chunk
  capacity : connection'.capacity = connection.capacity
  whenFull : connection'.whenFull = connection.whenFull
  flushing : connection'.flushing = connection.flushing
  sent : connection.sent.toList <+: connection'.sent.toList
  full : connection.Full → connection'.sent = connection.sent
  /-- It has never taken more than there was room for. -/
  room : ∀ capacity, connection.capacity = some capacity → connection.sent.size ≤ capacity →
    connection'.sent.size ≤ capacity

namespace Grows

variable {connection connection' connection'' : Connection}

theorem refl (connection : Connection) : connection.Grows connection :=
  ⟨rfl, rfl, rfl, rfl, List.prefix_rfl, fun _ => rfl, fun _ _ hle => hle⟩

/-- To take some more bytes does not change how much room there is in all. -/
theorem short (h : connection.Grows connection') {size : Nat} :
    connection'.Short size ↔ connection.Short size := by
  rw [Short, Short, h.chunk, h.capacity]

/-- To take some more bytes does not change which bytes a connection takes. -/
theorem takes (h : connection.Grows connection') {bytes : Bytes} :
    connection'.Takes bytes ↔ connection.Takes bytes := by
  rw [Takes, Takes, h.flushing, h.short]

/-- What is full stays full. -/
theorem of_full (h : connection.Grows connection') (hfull : connection.Full) :
    connection'.Full := by
  rw [Full, h.full hfull, h.short]
  exact hfull

/-- What was taken in two goes was taken. -/
theorem trans (h : connection.Grows connection') (h' : connection'.Grows connection'') :
    connection.Grows connection'' where
  chunk := h'.chunk.trans h.chunk
  capacity := h'.capacity.trans h.capacity
  whenFull := h'.whenFull.trans h.whenFull
  flushing := h'.flushing.trans h.flushing
  sent := h.sent.trans h'.sent
  full hfull := (h'.full (h.of_full hfull)).trans (h.full hfull)
  room capacity hcapacity hle :=
    h'.room capacity (h.capacity.trans hcapacity) (h.room capacity hcapacity hle)

/-- Bytes that there is room for can be accepted. -/
theorem accept {bytes : Bytes} (hroom : ¬connection.Full)
    (hfits : ∀ capacity, connection.capacity = some capacity →
      connection.sent.size + bytes.length ≤ capacity) :
    connection.Grows (connection.accept bytes) where
  chunk := rfl
  capacity := rfl
  whenFull := rfl
  flushing := rfl
  sent := by rw [sent_accept]; exact List.prefix_append ..
  full hfull := absurd hfull hroom
  room capacity hcapacity _ := by
    rw [size_accept]
    exact hfits capacity hcapacity

end Grows

/-- How an operation goes takes no bytes. -/
theorem grows_perform (connection : Connection) (limit : Duration) (behaviour : Behaviour) :
    connection.Grows (connection.perform limit behaviour).2 := by
  obtain ⟨pause, hperform⟩ := connection.perform_eq_with limit behaviour
  rw [hperform]
  exact ⟨rfl, rfl, rfl, rfl, List.prefix_rfl, fun _ => rfl, fun _ _ hle => hle⟩

/-- A write takes some of its bytes at most, however it ends. -/
theorem grows_write (connection : Connection) (limit : Duration) (bytes : Bytes) :
    connection.Grows (connection.write limit bytes).2 := by
  induction connection, bytes using write.induct with
  | case1 connection =>
    rw [write_nil]
    exact connection.grows_perform ..
  | case2 connection bytes hbytes hall =>
    rw [write_of_unbounded _ _ hbytes hall]
    have haccept : connection.Grows (connection.accept bytes) := by
      refine .accept (not_short_of_allowance hall _) fun capacity hcapacity => ?_
      exact Nat.le_of_not_lt fun hlt =>
        not_short_of_allowance hall _ (.inr ⟨capacity, hcapacity, hlt⟩)
    exact haccept.trans (grows_perform ..)
  | case3 connection bytes hbytes hzero =>
    rw [write_of_refused _ _ hbytes hzero]
    exact connection.grows_perform ..
  | case4 connection bytes hbytes n hsome _ ih =>
    rw [write_of_accepted _ _ hbytes hsome]
    have haccept : connection.Grows (connection.accept (bytes.take (n + 1))) := by
      refine .accept (fun hfull => ?_) fun capacity hcapacity => ?_
      · rw [allowance_eq_zero_iff.2 hfull] at hsome
        cases hsome
      · have hfits := add_allowance_le hsome hcapacity
        have htake := bytes.length_take_le (n + 1)
        omega
    exact haccept.trans ih

end Connection

namespace Channel

/-- Whatever is done to a channel, its connection has taken some more bytes at most. -/
theorem Leads.grows {channel channel' : Channel} (h : channel.Leads channel') :
    channel.connection.Grows channel'.connection := by
  induction h with
  | refl => exact .refl _
  | @tail between after _ haction ih =>
    refine ih.trans ?_
    cases haction with
    | receive =>
      obtain ⟨pause, script, hconnection⟩ := between.exchanges_receive.connection
      rw [hconnection, Record.encodeAll_nil, Connection.accept_nil]
      exact ⟨rfl, rfl, rfl, rfl, List.prefix_rfl, fun _ => rfl, fun _ _ hle => hle⟩
    | write bytes =>
      cases hopened : between.closed with
      | true =>
        rw [write, if_pos hopened]
        exact .refl _
      | false =>
        rw [connection_write hopened]
        exact between.connection.grows_write ..
    | close =>
      cases hopened : between.closed with
      | true =>
        rw [close, if_pos hopened]
        exact .refl _
      | false =>
        obtain ⟨journal, hclose⟩ := close_eq_with hopened
        rw [hclose, Connection.close_eq]
        exact ⟨rfl, rfl, rfl, rfl, List.prefix_rfl, fun _ => rfl, fun _ _ hle => hle⟩
    | tell | track => exact .refl _

end Channel

end FastCgi
