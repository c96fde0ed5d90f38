import FastCgi.Proofs.Reassembly
import FastCgi.Proofs.Room

/-!
# What was tried to be sent

On a connection that may give out, or fail to flush what it has taken, it is not the records that
were sent which can be told from what was done, but those that were tried. `Channel.Tried` says how
the wire looks then: all of their bytes are on it, or the first of them are and the channel is
spent. Read back, the front of some records is the first of them
(`Record.exists_decodeAll_of_prefix`), so what a peer can make of the wire are records that were
tried (`Channel.Tried.framesSince`).

A flush of an output tries to send what it is to send (`Output.attempts_flush`). If every flush of
the connection succeeds, then it fails only on a channel that is spent by it.
-/

namespace FastCgi

/-! ## Records at the front of a byte string -/

namespace Record

/-- Bytes that are cut off inside a record do not make one. -/
theorem decode_of_lt {record : Record} (h : record.WellFormed) {front : Bytes}
    (hfront : front <+: record.encode) (hlt : front.length < record.encode.length) :
    decode front = .ok none := by
  obtain ⟨frame, hframe, -⟩ := h.exists_frame
  refine decode_of_cut ⟨frame, hframe ▸ hfront, fun heq => ?_⟩
  rw [heq, hframe] at hlt
  exact Nat.lt_irrefl _ hlt

/-- The front of some records is read as the first of them. -/
theorem exists_decodeAll_of_prefix {records : List Record} (h : ∀ r ∈ records, r.WellFormed)
    {front : Bytes} (hfront : front <+: encodeAll records) :
    ∃ rest, front = encodeAll (decodeAll front).records ++ rest ∧
      (decodeAll front).records <+: records := by
  induction records generalizing front with
  | nil =>
    obtain rfl := List.prefix_nil.1 hfront
    exact ⟨[], by rw [decodeAll_eq]; rfl, by rw [decodeAll_eq]; exact List.prefix_rfl⟩
  | cons record records ih =>
    have hrecord := h record (.head _)
    rw [encodeAll_cons] at hfront
    rcases Nat.lt_or_ge front.length record.encode.length with hlt | hge
    · have hcut := List.prefix_of_prefix_length_le hfront (List.prefix_append ..) (Nat.le_of_lt hlt)
      rw [decodeAll_eq, decode_of_lt hrecord hcut hlt]
      exact ⟨front, rfl, List.nil_prefix⟩
    · obtain ⟨tail, rfl⟩ := List.prefix_of_prefix_length_le (List.prefix_append ..) hfront hge
      obtain ⟨rest, htail, hrecords⟩ :=
        ih (fun r hr => h r (.tail _ hr)) ((List.prefix_append_right_inj _).1 hfront)
      rw [decodeAll_eq, hrecord.decode]
      refine ⟨rest, ?_, List.cons_prefix_cons.2 ⟨rfl, hrecords⟩⟩
      rw [encodeAll_cons, List.append_assoc, ← htail]

end Record

/-! ## Trying to send -/

namespace Channel

/-- A channel on which nothing is written any more: it is closed, or its connection is full. -/
def Spent (channel : Channel) : Prop := channel.closed = true ∨ channel.connection.Full

/-- Nothing that is done to a spent channel makes it write again. -/
theorem Spent.leads {channel channel' : Channel} (h : channel.Spent)
    (hled : channel.Leads channel') :
    channel'.Spent ∧ channel'.connection.sent = channel.connection.sent := by
  rcases h with hclosed | hfull
  · suffices hstays : channel'.closed = true ∧
        channel'.connection.sent = channel.connection.sent from ⟨.inl hstays.1, hstays.2⟩
    induction hled with
    | refl => exact ⟨hclosed, rfl⟩
    | @tail between _ _ haction ih =>
      obtain ⟨hbetween, hsent⟩ := ih
      cases haction with
      | receive =>
        rw [receive, if_pos hbetween]
        exact ⟨hbetween, hsent⟩
      | write bytes =>
        rw [write, if_pos hbetween]
        exact ⟨hbetween, hsent⟩
      | close =>
        rw [close, if_pos hbetween]
        exact ⟨hbetween, hsent⟩
      | tell | track => exact ⟨hbetween, hsent⟩
  · exact ⟨.inr (hled.grows.of_full hfull), hled.grows.full hfull⟩

/-- A write puts its bytes behind those written before, or uses up the channel. If flushing
succeeds, then it fails only in the second case. -/
theorem write_cases (channel : Channel) {bytes : Bytes} (hne : bytes ≠ []) :
    ((channel.write bytes).2.Spent ∨
        (channel.write bytes).2.connection.sent.toList =
          channel.connection.sent.toList ++ bytes) ∧
      (channel.connection.flushing = .succeeds →
        (channel.write bytes).2.Spent ∨ (channel.write bytes).1 = .ok ()) := by
  cases hclosed : channel.closed with
  | true =>
    rw [write, if_pos hclosed]
    exact ⟨.inl (.inl hclosed), fun _ => .inl (.inl hclosed)⟩
  | false =>
    by_cases hshort : channel.connection.Short (channel.connection.sent.size + bytes.length)
    · have hfull : (channel.write bytes).2.Spent := by
        refine .inr ?_
        rw [connection_write hclosed]
        exact (Connection.full_write_of_short channel.timeout hne hshort).1
      exact ⟨.inl hfull, fun _ => .inl hfull⟩
    · refine ⟨.inr ?_, fun hflush => .inr ?_⟩
      · rw [connection_write hclosed, Connection.write_eq_perform _ hshort]
        obtain ⟨pause, hperform⟩ := (channel.connection.accept bytes).perform_eq_with
          channel.timeout channel.connection.flushing
        rw [hperform]
        exact Connection.sent_accept ..
      · rw [write, if_neg (by simp [hclosed]), Connection.write_of_room hflush _ hshort]

/-- A record as an output makes it: of one of its streams, and with the least padding. -/
structure Made (record : Record) : Prop where
  type : record.type.IsOutput
  new : Record.new record.type record.id record.content = .ok record

/-- A record that an output makes can be sent. -/
theorem Made.wellFormed {record : Record} (h : Made record) : record.WellFormed :=
  Record.wellFormed_of_new h.type.readable h.new

/-- A record with data takes up more than its header, and at least 16 bytes. -/
theorem Made.length_encode {record : Record} (h : Made record) (hdata : record.content ≠ []) :
    16 ≤ record.encode.length := by
  obtain ⟨k, hk⟩ := Record.eight_dvd_encodedLength h.new
  have hpos := List.length_pos_iff.2 hdata
  have hlength := Record.length_encode h.wellFormed.length
  have hencode := Record.length_encode_eq record
  simp only [headerLength] at hencode
  omega

/-- Data is sent in records that an output makes. -/
theorem made_streamRecords {type : RecordType} (htype : type.IsOutput) {id : UInt16} {data : Bytes}
    {record : Record} (h : record ∈ streamRecords type id data) : Made record := by
  obtain ⟨piece, hpiece, rfl⟩ := List.mem_map.1 h
  exact ⟨htype, Record.new_eq_ok_iff.2 ⟨(length_of_mem_pieces hpiece).2, rfl⟩⟩

/-- The end of a stream is a record that an output makes. -/
theorem made_endOfStream {type : RecordType} (htype : type.IsOutput) (id : UInt16) :
    Made (.endOfStream type id) := ⟨htype, Record.new_nil type id⟩

/-- The first channel has become the second one, and some records are what was tried to be sent
meanwhile: all of their bytes are on the wire, or the first of them are and no more will be. -/
structure Tried (start : Channel) (records : List Record) (channel : Channel) : Prop where
  made : ∀ r ∈ records, Made r
  leads : start.Leads channel
  sent : ∃ front, front <+: Record.encodeAll records ∧
    channel.connection.sent.toList = start.connection.sent.toList ++ front ∧
    (channel.Spent ∨ front = Record.encodeAll records)

namespace Tried

variable {start channel channel' : Channel} {records more : List Record}

/-- At the start nothing has been tried. -/
theorem refl (start : Channel) : start.Tried [] start :=
  ⟨nofun, .refl, [], List.nil_prefix, (List.append_nil _).symm, .inr rfl⟩

/-- Trying to send does not change how flushes go. -/
theorem flushing (h : start.Tried records channel) :
    channel.connection.flushing = start.connection.flushing := h.leads.grows.flushing

/-- What is done without writing does not change what was tried. -/
theorem of_connection (h : start.Tried records channel) (hled : channel.Leads channel')
    (hconnection : channel'.connection = channel.connection)
    (hclosed : channel'.closed = channel.closed) : start.Tried records channel' := by
  obtain ⟨front, hfront, hsent, hstate⟩ := h.sent
  refine ⟨h.made, h.leads.trans hled, front, hfront, by rw [hconnection, hsent], ?_⟩
  rwa [Spent, hconnection, hclosed]

/-- On a spent channel nothing is new. -/
theorem of_spent (h : start.Tried records channel) (hspent : channel.Spent)
    (hled : channel.Leads channel') (hmore : ∀ r ∈ more, Made r) :
    start.Tried (records ++ more) channel' := by
  obtain ⟨hspent', hsame⟩ := hspent.leads hled
  obtain ⟨front, hfront, hsent, -⟩ := h.sent
  refine ⟨fun r hr => (List.mem_append.1 hr).elim (h.made r) (hmore r), h.leads.trans hled,
    front, ?_, by rw [hsame, hsent], .inl hspent'⟩
  rw [Record.encodeAll_append]
  exact hfront.trans (List.prefix_append ..)

end Tried

/-- What comes of trying to send something, when these are all records that were tried since. If
flushing succeeds, then it fails only on a channel that is spent by it. -/
structure Attempts (start : Channel) (records : List Record) (outcome : Outcome Unit) : Prop where
  tried : start.Tried records outcome.2
  done : start.connection.flushing = .succeeds → outcome.2.Spent ∨ outcome.1 = .ok ()

/-- To keep track of the open streams afterwards changes nothing. -/
theorem Attempts.track {start : Channel} {records : List Record} {outcome : Outcome Unit}
    (h : start.Attempts records outcome)
    (streams : List (RecordType × UInt16) → List (RecordType × UInt16)) :
    start.Attempts records (outcome.andThen fun _ channel =>
      (.ok (), { channel with openStreams := streams channel.openStreams })) := by
  obtain ⟨_ | _, channel⟩ := outcome
  · exact h
  · exact ⟨h.tried.of_connection (leads_track ..) rfl rfl, fun _ => .inr rfl⟩

namespace Tried

variable {start channel channel' : Channel} {records more : List Record}

/-- To try to write some more records. -/
theorem write (h : start.Tried records channel) (hmore : ∀ r ∈ more, Made r) (hne : more ≠ []) :
    start.Attempts (records ++ more) (channel.write (Record.encodeAll more)) := by
  obtain ⟨hstate, hdone⟩ := channel.write_cases (Record.encodeAll_ne_nil hne)
  refine ⟨?_, fun hflush => hdone (h.flushing.trans hflush)⟩
  by_cases hspent : channel.Spent
  · exact h.of_spent hspent (channel.leads_write _) hmore
  obtain ⟨front, -, hsent, hfront⟩ := h.sent
  obtain rfl := hfront.resolve_left hspent
  obtain ⟨taken, _, htaken, hwrite⟩ := channel.write_eq_with (Record.encodeAll more)
  have hwritten : (channel.write (Record.encodeAll more)).2.connection.sent.toList =
      start.connection.sent.toList ++ (Record.encodeAll records ++ taken) := by
    rw [hwrite, ← List.append_assoc, ← hsent]
    exact Connection.sent_accept ..
  refine ⟨fun r hr => (List.mem_append.1 hr).elim (h.made r) (hmore r),
    h.leads.trans (channel.leads_write _), _, ?_, hwritten, hstate.imp_right fun hall => ?_⟩
  · rw [Record.encodeAll_append]
    exact (List.prefix_append_right_inj _).2 htaken
  · rw [Record.encodeAll_append, ← List.append_right_inj start.connection.sent.toList, ← hwritten,
      hall, hsent, List.append_assoc]

/-- To make a log entry afterwards changes nothing. -/
theorem tell (h : start.Tried records channel) (level : Level) (topic : Topic) (message : String) :
    start.Tried records (channel.tell level topic message) :=
  h.of_connection (leads_tell ..) rfl rfl

/-- To try to send data on a stream. -/
theorem sendStream (h : start.Tried records channel) {type : RecordType} (htype : type.IsOutput)
    (id : UInt16) (data : Bytes) :
    start.Attempts (records ++ streamRecords type id data) (channel.sendStream type id data) := by
  unfold Channel.sendStream
  split
  next hdata =>
    obtain rfl := List.isEmpty_iff.1 hdata
    rw [streamRecords_nil, List.append_nil]
    exact ⟨h, fun _ => .inr rfl⟩
  next hdata =>
    have hne : streamRecords type id data ≠ [] :=
      streamRecords_ne_nil (fun hnil => hdata (List.isEmpty_iff.2 hnil)) type id
    exact ((h.tell ..).write (fun _ => made_streamRecords htype) hne).track (opened · type id)

/-- To try to end a stream. -/
theorem endStream (h : start.Tried records channel) {type : RecordType} (htype : type.IsOutput)
    (id : UInt16) :
    start.Attempts (records ++ [.endOfStream type id]) (channel.endStream type id) := by
  have hend : ∀ r ∈ [Record.endOfStream type id], Made r := by
    intro r hr
    obtain rfl := List.mem_singleton.1 hr
    exact made_endOfStream htype id
  have hencode : (Record.endOfStream type id).encode = Record.encodeAll [.endOfStream type id] :=
    (List.append_nil _).symm
  unfold Channel.endStream sendRecord
  rw [hencode]
  exact ((h.tell ..).write hend (List.cons_ne_nil _ _)).track (·.filter (· ≠ (type, id)))

end Tried

end Channel

/-! ## What is on the wire -/

/-- The records that are read off what has been written since some time. -/
def Channel.framesSince (start channel : Channel) : List Record :=
  (Record.decodeAll (channel.connection.sent.toList.drop start.connection.sent.size)).records

namespace Channel

variable {start channel : Channel} {records : List Record}

/-- The bytes written since some time are all that is read for what has been written since then. -/
theorem framesSince_eq {front : Bytes}
    (h : channel.connection.sent.toList = start.connection.sent.toList ++ front) :
    start.framesSince channel = (Record.decodeAll front).records := by
  rw [framesSince, h, List.drop_left' Array.length_toList]

/-- Of the records that were tried, the first ones are on the wire. -/
theorem Tried.framesSince (h : start.Tried records channel) :
    start.framesSince channel <+: records ∧
      ∃ rest, channel.connection.sent.toList =
        start.connection.sent.toList ++ (Record.encodeAll (start.framesSince channel) ++ rest) := by
  obtain ⟨front, hfront, hsent, -⟩ := h.sent
  obtain ⟨rest, hrest, hframes⟩ :=
    Record.exists_decodeAll_of_prefix (fun r hr => (h.made r hr).wellFormed) hfront
  rw [framesSince_eq hsent]
  exact ⟨hframes, rest, by rw [← hrest, hsent]⟩

/-- Once a channel is spent, no record is added to its wire. -/
theorem framesSince_of_spent (h : start.Spent) (hled : start.Leads channel) :
    start.framesSince channel = [] := by
  have hsent : channel.connection.sent.toList = start.connection.sent.toList ++ [] := by
    rw [(h.leads hled).2, List.append_nil]
  rw [framesSince_eq hsent, Record.decodeAll_eq]
  rfl

/-- Where there is room for less than two records without data, the wire holds one of them at most,
and nothing else. -/
theorem Tried.framesSince_of_short (h : start.Tried records channel)
    (hshort : start.connection.Short (start.connection.sent.size + 16)) :
    start.framesSince channel = [] ∨
      ∃ record, start.framesSince channel = [record] ∧ record.content = [] := by
  by_cases hspent : start.Spent
  · exact .inl (framesSince_of_spent hspent h.leads)
  obtain ⟨hframes, rest, hsent⟩ := h.framesSince
  have hsize : channel.connection.sent.size < start.connection.sent.size + 16 := by
    have hroom : ¬start.connection.Full := fun hfull => hspent (.inr hfull)
    rcases hshort with hchunk | ⟨capacity, hcapacity, hlt⟩
    · exact absurd (.inl hchunk) hroom
    · have hle : start.connection.sent.size ≤ capacity :=
        Nat.le_of_not_lt fun hlt => hroom (.inr ⟨capacity, hcapacity, by omega⟩)
      have := h.leads.grows.room capacity hcapacity hle
      omega
  have hlength := congrArg List.length hsent
  simp only [List.length_append, Array.length_toList] at hlength
  have hmade : ∀ r ∈ start.framesSince channel, Made r :=
    fun r hr => h.made r (hframes.subset hr)
  have hheader : ∀ r : Record, 8 ≤ r.encode.length := by
    intro r
    rw [Record.encode, List.length_append, Header.length_toBytes]
    exact Nat.le_add_right ..
  -- A record with data takes sixteen bytes or more, and so do two records of any kind.
  generalize start.framesSince channel = frames at hlength hmade
  cases frames with
  | nil => exact .inl rfl
  | cons record frames =>
    rw [Record.encodeAll_cons, List.length_append] at hlength
    cases frames with
    | nil =>
      refine .inr ⟨record, rfl, Classical.not_not.1 fun hdata => ?_⟩
      have := (hmade record (.head _)).length_encode hdata
      omega
    | cons second more =>
      have := hheader record
      have := hheader second
      rw [Record.encodeAll_cons, List.length_append] at hlength
      omega

end Channel

/-! ## Flushing -/

namespace Output

/-- What comes of an operation on an output that is to send some more records and to leave the
output in some state. Either it has tried them all, and the output is in that state; or it has
failed before, and if flushing succeeds, the channel is spent by it. -/
inductive Attempts (start : Channel) (records more : List Record) (after : Output) :
    Output.Outcome → Prop
  | all {channel : Channel} (tried : start.Tried (records ++ more) channel) :
    Attempts start records more after (.ok (), after, channel)
  | failed {e : TransportError} {output : Output} {channel : Channel} {front : List Record}
      (begins : front <+: more) (tried : start.Tried (records ++ front) channel)
      (spent : start.connection.flushing = .succeeds → channel.Spent) :
    Attempts start records more after (.error e, output, channel)

variable {start channel : Channel} {records more more' : List Record} {after after' : Output}

/-- One operation, and then another one. -/
theorem Attempts.andThen {outcome : Output.Outcome} {next : Output → Channel → Output.Outcome}
    (h : Attempts start records more after outcome)
    (hnext : ∀ {channel : Channel}, start.Tried (records ++ more) channel →
      Attempts start (records ++ more) more' after' (next after channel)) :
    Attempts start records (more ++ more') after' (Outcome.andThen outcome next) := by
  cases h with
  | failed front tried spent => exact .failed (front.trans (List.prefix_append ..)) tried spent
  | all tried =>
    have hrest := hnext tried
    rw [Outcome.andThen]
    generalize next after _ = rest at hrest
    cases hrest with
    | all tried =>
      rw [List.append_assoc] at tried
      exact .all tried
    | failed front tried spent =>
      rw [List.append_assoc] at tried
      exact .failed ((List.prefix_append_right_inj more).2 front) tried spent

/-- Something that is sent for an output is tried, and the output is changed only if that
succeeds. -/
theorem attempts_ofSending {outcome : Channel.Outcome Unit}
    (h : start.Attempts (records ++ more) outcome) (output after : Output) :
    Attempts start records more after (ofSending outcome output after) := by
  obtain ⟨_ | _, channel⟩ := outcome
  · exact .failed List.prefix_rfl h.tried fun hflush =>
      (h.done hflush).resolve_right nofun
  · exact .all h.tried

variable (h : start.Tried records channel) (output : Output)

include h

/-- What was written to STDOUT is tried as a stream, and forgotten only if that succeeds. -/
theorem attempts_sendStdout :
    Attempts start records (Channel.streamRecords .stdout output.id output.stdout)
      { output with stdout := [], bytesSent := output.bytesSent + output.stdout.length }
      (output.sendStdout channel) := by
  unfold sendStdout
  split
  next hempty =>
    have hnil : output.stdout = [] := List.isEmpty_iff.1 hempty
    rw [hnil, Channel.streamRecords_nil, List.length_nil, Nat.add_zero, ← hnil]
    exact .all (by rwa [List.append_nil])
  next => exact attempts_ofSending (h.sendStream (.inl rfl) ..) ..

/-- What was written to STDERR is tried as a stream, and forgotten only if that succeeds. -/
theorem attempts_sendStderr :
    Attempts start records (Channel.streamRecords .stderr output.id output.stderr)
      { output with stderr := [], bytesSent := output.bytesSent + output.stderr.length }
      (output.sendStderr channel) := by
  unfold sendStderr
  split
  next hempty =>
    have hnil : output.stderr = [] := List.isEmpty_iff.1 hempty
    rw [hnil, Channel.streamRecords_nil, List.length_nil, Nat.add_zero, ← hnil]
    exact .all (by rwa [List.append_nil])
  next => exact attempts_ofSending (h.sendStream (.inr rfl) ..) ..

/-- The ends of the streams are tried, and noted only if both succeed. -/
theorem attempts_finish :
    Attempts start records output.terminators { output with finished := true }
      (output.finish channel) := by
  have hstdout := h.endStream (.inl rfl) output.id
  unfold finish terminators
  generalize channel.endStream .stdout output.id = outcome at hstdout
  obtain ⟨_ | _, between⟩ := outcome
  · exact .failed (List.prefix_append [_] _) hstdout.tried fun hflush =>
      (hstdout.done hflush).resolve_right nofun
  rw [Channel.Outcome.andThen_ok]
  cases output.stderrUsed with
  | false => exact .all hstdout.tried
  | true =>
    have hstderr := hstdout.tried.endStream (.inr rfl) output.id
    rw [List.append_assoc] at hstderr
    exact attempts_ofSending hstderr output _

/-- The rest of a flush tries the ends of the streams if it is the last one, and nothing
otherwise. -/
theorem attempts_endFlush (final : Bool) :
    Attempts start records (if final then output.terminators else [])
      (if final then { output with finished := true } else output)
      (output.endFlush final channel) := by
  cases final with
  | false => exact .all (by rwa [if_neg Bool.false_ne_true, List.append_nil])
  | true => exact output.attempts_finish h

/-- A flush tries to send what it is to send. -/
theorem attempts_flush (final : Bool) :
    Attempts start records (output.flushed final).1 (output.flushed final).2
      (output.flush channel final) := by
  rw [flush_eq]
  unfold flushed
  split
  next => exact .all (by rwa [List.append_nil])
  have hflush : Attempts start records (output.records ++
        if final then output.drained.terminators else [])
      (if final then { output.drained with finished := true } else output.drained)
      (Outcome.andThen (output.sendStdout channel) fun output channel =>
        Outcome.andThen (output.sendStderr channel) (endFlush final)) := by
    rw [Output.records, List.append_assoc]
    refine (output.attempts_sendStdout h).andThen fun htried => ?_
    refine (attempts_sendStderr htried { output with
      stdout := [], bytesSent := output.bytesSent + output.stdout.length }).andThen fun htried => ?_
    exact attempts_endFlush htried output.drained final
  cases final with
  | false =>
    rw [if_neg Bool.false_ne_true, List.append_nil] at hflush
    exact hflush
  | true => exact hflush

end Output

end FastCgi
